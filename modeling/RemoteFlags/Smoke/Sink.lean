import RemoteFlags.Text.Utf8

/-!
# Sinks

Where a run writes its lines.  A sink takes bytes in their order, until it is full.

## Main definitions

* `Sink`, `Sink.write`: a sink, and writing a text into it.
-/

namespace RemoteFlags

namespace Smoke

/-- A place to write to. -/
structure Sink where
  /-- How many more bytes can be written; no number means any number. -/
  room : Option Nat := none
  /-- The bytes that were written. -/
  written : List UInt8 := []
deriving DecidableEq, Repr

namespace Sink

/-- Writes bytes as far as there is room, and tells whether all were written. -/
def writeBytes (k : Sink) (bs : List UInt8) : Bool × Sink :=
  match k.room with
  | none => (true, { k with written := k.written ++ bs })
  | some room =>
    (decide (bs.length ≤ room), ⟨some (room - bs.length), k.written ++ bs.take room⟩)

/-- Writes a text as far as there is room, and tells whether all of it was written. -/
def write (k : Sink) (s : String) : Bool × Sink := k.writeBytes (Text.utf8 s)

/-- The text that was written. -/
def text (k : Sink) : String := Text.ofUtf8Lossy k.written

end Sink

end Smoke

end RemoteFlags
