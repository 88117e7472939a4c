import RemoteFlags.Json.Outline.Basic
import RemoteFlags.Json.Value

/-!
# Reading texts, maps and records from outlines

A record is an object with known members, or an array of its fields in their order.  Members with
other names are skipped; a field that occurs twice and a needed field that is missing are errors,
told when the second occurrence or the end of the object is met.

## Main definitions

* `Outline.toText`, `Outline.toMap`, `Outline.optional`: a string, an object as a map, a value or
  `null`.
* `Outline.members?`: the members of a record, taken in one after the other.
* `Outline.nextItem`, `Outline.lastItem`: the items of a record written as an array.
-/

namespace RemoteFlags.Json

namespace Outline

/-- What a reader that asked for something else tells about a value. -/
def mismatch (expected : String) : Outline → Error
  | .null => .wrongKind .null expected
  | .bool b => .wrongKind (.bool b) expected
  | .number (.int n _) => .wrongKind (.int n) expected
  | .number (.float x) => .wrongKind (.float x) expected
  | .string s => .wrongKind (.string s) expected
  | .unreadable f => .fault f
  | .broken f _ => .fault f
  | .array _ _ => .wrongKind .sequence expected
  | .object _ _ => .wrongKind .map expected

/-- Reads a string. -/
def toText : Outline → Except Error String
  | .string s => .ok s
  | o => .error (o.mismatch "a string")

/-- Reads any value. -/
def toValue (room : Nat) (o : Outline) : Except Error Value :=
  (o.toTree room).map Value.ofTree

/-- Reads `null` as nothing and everything else with `f`. -/
def optional {α : Type} (f : Outline → Except Error α) : Outline → Except Error (Option α)
  | .null => .ok none
  | o => (f o).map some

/-- Reads an object as a map; the last member of a name counts. -/
def toMap (room : Nat) : Outline → Except Error (SortedMap Value)
  | .object ms ending => do
    let room ← enter room
    let ms ← toMembers room ms ending
    return SortedMap.ofList (ms.map fun m => (m.1, Value.ofTree m.2))
  | o => .error (o.mismatch "a map")

/-- Takes in the members of an object one after the other. -/
def takeMembers {σ : Type} (step : σ → String → Outline → Except Error σ) (s : σ) :
    List (Except Fault String × Outline) → Ending → Except Error σ
  | [], .closed => .ok s
  | [], .cut f _ _ => .error (.fault f)
  | (.error f, _) :: _, _ => .error (.fault f)
  | (.ok name, o) :: ms, ending => do
    let s ← step s name o
    takeMembers step s ms ending

/-- Sets a field of a record that is read, which must not be set yet. -/
def setField {α : Type} (name : String) (old : Option α) (read : Except Error α) :
    Except Error (Option α) :=
  match old with
  | some _ => .error (.duplicateField name)
  | none => read.map some

/-- The next item of a record written as an array, if there is one, and the items after it. -/
def nextItem : List Outline → Ending → Except Error (Option Outline × List Outline)
  | o :: os, _ => .ok (some o, os)
  | [], .closed => .ok (none, [])
  | [], .cut f _ _ => .error (.fault f)

/-- Checks that a record written as an array ends after its last field. -/
def lastItem : List Outline → Ending → Except Error Unit
  | _ :: _, _ => .error (.fault .trailingCharacters)
  | [], .closed => .ok ()
  | [], .cut _ _ f => .error (.fault f)

/-- A field of a record written as an array that has to be there; `index` is its place and
`expected` the record in words. -/
def needItem {α : Type} (index : Nat) (expected : String) (read : Outline → Except Error α)
    (os : List Outline) (ending : Ending) : Except Error (α × List Outline) := do
  match ← nextItem os ending with
  | (some o, os) => return (← read o, os)
  | (none, _) => .error (.wrongLength index expected)

/-- A field of a record written as an array that may be left out. -/
def mayItem {α : Type} (read : Outline → Except Error α) (os : List Outline) (ending : Ending) :
    Except Error (Option α × List Outline) := do
  match ← nextItem os ending with
  | (some o, os) => return (some (← read o), os)
  | (none, os) => return (none, os)

end Outline

end RemoteFlags.Json
