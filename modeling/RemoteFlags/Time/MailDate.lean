import RemoteFlags.Text.Blank
import RemoteFlags.Time.Timestamp

/-!
# Dates of mail and HTTP headers

Dates such as `Sun, 06 Nov 1994 08:49:37 GMT`.  The day of the week may be left out but has to be
right, seconds may be left out, years may have two or three digits, and old names of zones are
known. Names may be in any case.  Comments in parentheses may stand at the end.

## Main definitions

* `Instant.ofMailDate?`: the instant that such a date stands for.
-/

namespace RemoteFlags

namespace Instant

/-- Leaves out white space. -/
def skipBlanks (cs : List Char) : List Char := cs.dropWhile Text.isBlank

/-- Leaves out white space, of which there has to be some. -/
def needBlanks? (cs : List Char) : Option (List Char) :=
  match cs with
  | c :: _ => if Text.isBlank c then some (skipBlanks cs) else none
  | [] => none

/-- The short names of the days of the week, from Monday on. -/
def weekdayNames : List String := ["mon", "tue", "wed", "thu", "fri", "sat", "sun"]

/-- The short names of the months. -/
def monthNames : List String :=
  ["jan", "feb", "mar", "apr", "may", "jun", "jul", "aug", "sep", "oct", "nov", "dec"]

/-- The place of the name that the next three letters form, in any case. -/
def name? (names : List String) (cs : List Char) : Option (Nat × List Char) :=
  (names.findIdx? fun n => n.toList == (cs.take 3).map Char.toLower).map fun i => (i, cs.drop 3)

/-- The day of the week in front of the date, if there is one. -/
def leadingWeekday? (cs : List Char) : Option (Option Nat × List Char) :=
  match name? weekdayNames cs with
  | some (day, cs) => (skipChar? (· == ',') cs).map fun cs => (some day, cs)
  | none => some (none, cs)

/-- One or two digits. -/
def dayNumber? (cs : List Char) : Option (Nat × List Char) :=
  let digits := (cs.take 2).takeWhile Text.isDigit
  (Text.natural? digits).map fun n => (n, cs.drop digits.length)

/-- A year of two or more digits.  Two digits mean the years from 1950 to 2049, three digits count
from 1900. -/
def year? (cs : List Char) : Option (Nat × List Char) :=
  let (digits, rest) := cs.span Text.isDigit
  if digits.length < 2 then none
  else
    (Text.natural? digits).map fun n =>
      let year :=
        if digits.length = 2 then (if n < 50 then 2000 + n else 1900 + n)
        else if digits.length = 3 then 1900 + n
        else n
      (year, rest)

/-- The seconds after the minutes, if there is a colon. -/
def seconds? (cs : List Char) : Option (Nat × List Char) :=
  match skipBlanks cs with
  | ':' :: cs => fixedNumber? 2 cs
  | _ => some (0, cs)

/-- How many hours a named zone is ahead of universal time. -/
def namedZone? (name : List Char) : Option Int :=
  let lower := String.ofList (name.map Char.toLower)
  if ["gmt", "ut", "z"].contains lower then some 0
  else if lower = "edt" then some (-4)
  else if lower = "est" ∨ lower = "cdt" then some (-5)
  else if lower = "cst" ∨ lower = "mdt" then some (-6)
  else if lower = "mst" ∨ lower = "pdt" then some (-7)
  else if lower = "pst" then some (-8)
  else if lower.length = 1 ∧ lower ≠ "j" then some 0
  else none

/-- The distance from universal time, by name or in hours and minutes. -/
def mailZone? (cs : List Char) : Option (Int × List Char) :=
  let (name, rest) := cs.span Char.isAlpha
  if name.isEmpty then offset? false cs
  else (namedZone? name).map fun hours => (3600 * hours, rest)

/-- What follows a comment whose opening parentheses are `depth` more than its closing ones; a
backslash takes the meaning from the character after it. -/
def afterComment? : Nat → List Char → Option (List Char)
  | _, [] => none
  | depth, '\\' :: _ :: cs => afterComment? depth cs
  | depth, '(' :: cs => afterComment? (depth + 1) cs
  | depth, ')' :: cs => if depth ≤ 1 then some cs else afterComment? (depth - 1) cs
  | depth, _ :: cs => afterComment? depth cs

/-- Whether nothing but comments is left; `fuel` bounds their number. -/
def onlyComments : Nat → List Char → Bool
  | _, [] => true
  | 0, _ => false
  | fuel + 1, cs =>
    match skipBlanks cs with
    | '(' :: cs => ((afterComment? 1 cs).map (onlyComments fuel)).getD false
    | _ => false

/-- The instant that a date of a mail or HTTP header stands for. -/
def ofMailDate? (s : String) : Option Instant := do
  let (weekday, cs) ← leadingWeekday? (skipBlanks s.toList)
  let (day, cs) ← dayNumber? (skipBlanks cs)
  let cs ← needBlanks? cs
  let (month, cs) ← name? monthNames cs
  let cs ← needBlanks? cs
  let (year, cs) ← year? cs
  let cs ← needBlanks? cs
  let (hour, cs) ← fixedNumber? 2 cs
  let cs ← skipChar? (· == ':') (skipBlanks cs)
  let (minute, cs) ← fixedNumber? 2 (skipBlanks cs)
  let (second, cs) ← seconds? cs
  let cs ← needBlanks? cs
  let (ahead, cs) ← mailZone? cs
  let date : Date := ⟨year, month + 1, day⟩
  if onlyComments cs.length cs ∧ weekday.all (· == Date.weekday date.toDays) then
    ofParts? date { hour, minute, second, ahead }
  else none

end Instant

end RemoteFlags
