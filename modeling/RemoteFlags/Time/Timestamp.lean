import RemoteFlags.Time.Instant

/-!
# Timestamps

Instants written as `2999-01-01T00:00:00Z`: date, time of day, an optional fraction of the second,
and the distance from universal time.

## Main definitions

* `Instant.ofTimestamp?`: the instant that a timestamp stands for.
-/

namespace RemoteFlags

namespace Instant

/-- The number that the next `n` characters write in digits, and the characters after them. -/
def fixedNumber? (n : Nat) (cs : List Char) : Option (Nat × List Char) :=
  if (cs.take n).length = n then (Text.natural? (cs.take n)).map fun m => (m, cs.drop n) else none

/-- A sign with hours and minutes after it, as seconds; `colon` says whether a colon is between. -/
def offset? (colon : Bool) (cs : List Char) : Option (Int × List Char) := do
  let (sign, cs) ← match cs with
    | '+' :: cs => some ((1 : Int), cs)
    | '-' :: cs => some ((-1 : Int), cs)
    | _ => none
  let (hours, cs) ← fixedNumber? 2 cs
  let cs ← match colon, cs with
    | true, ':' :: cs => some cs
    | true, _ => none
    | false, cs => some cs
  let (minutes, cs) ← fixedNumber? 2 cs
  if minutes < 60 then return (sign * (3600 * hours + 60 * minutes), cs) else none

/-- The distance from universal time at the end of a timestamp. -/
def zone? (cs : List Char) : Option Int :=
  match cs with
  | ['Z'] => some 0
  | ['z'] => some 0
  | cs =>
    match offset? true cs with
    | some (ahead, []) => some ahead
    | _ => none

/-- A fraction of a second in nanoseconds, if there is one; further digits do not count. -/
def fraction? (cs : List Char) : Option (Nat × List Char) :=
  match cs with
  | '.' :: cs =>
    let digits := cs.takeWhile Text.isDigit
    let shown := (digits ++ List.replicate 9 '0').take 9
    if digits.isEmpty then none
    else (Text.natural? shown).map fun n => (n, cs.dropWhile Text.isDigit)
  | cs => some (0, cs)

/-- The characters after one that `p` accepts. -/
def skipChar? (p : Char → Bool) : List Char → Option (List Char)
  | [] => none
  | c :: cs => if p c then some cs else none

/-- The instant that a timestamp stands for. -/
def ofTimestamp? (s : String) : Option Instant := do
  let (year, cs) ← fixedNumber? 4 s.toList
  let cs ← skipChar? (· == '-') cs
  let (month, cs) ← fixedNumber? 2 cs
  let cs ← skipChar? (· == '-') cs
  let (day, cs) ← fixedNumber? 2 cs
  let cs ← skipChar? (fun c => c == 'T' || c == 't' || c == ' ') cs
  let (hour, cs) ← fixedNumber? 2 cs
  let cs ← skipChar? (· == ':') cs
  let (minute, cs) ← fixedNumber? 2 cs
  let cs ← skipChar? (· == ':') cs
  let (second, cs) ← fixedNumber? 2 cs
  let (nanos, cs) ← fraction? cs
  let ahead ← zone? cs
  ofParts? ⟨year, month, day⟩ { hour, minute, second, nanos, ahead }

end Instant

end RemoteFlags
