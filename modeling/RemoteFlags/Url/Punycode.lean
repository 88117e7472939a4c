/-!
# Punycode

A word is written in ASCII: its own ASCII characters come first, and numbers tell the others.  One
goes through the word once for each code point from 128 on, and stops at the characters that have it;
each number tells how many places are passed by on the way from one stop to the next.

A number is written with its lowest digit first, in a base that depends on the place of the digit
and on how great the numbers before it are.

## Main definitions

* `Punycode.encode`: a word in ASCII.
* `Punycode.decode?`: the word that a text in ASCII tells, if there is one.
-/

namespace RemoteFlags.Punycode

/-! ### Digits -/

/-- The digit for a number below 36. -/
def digitChar (d : Nat) : Char := Char.ofNat (if d < 26 then 0x61 + d else 0x30 + (d - 26))

/-- The value of a digit. -/
def digit? (c : Char) : Option Nat :=
  if 'a' ≤ c ∧ c ≤ 'z' then some (c.toNat - 0x61)
  else if '0' ≤ c ∧ c ≤ '9' then some (c.toNat - 0x30 + 26)
  else none

/-- The least digit at a place that another one follows.  Places are counted in steps of 36. -/
def threshold (bias place : Nat) : Nat := max 1 (min 26 (place - bias))

theorem threshold_pos (bias place : Nat) : 0 < threshold bias place :=
  Nat.le_max_left 1 _

/-- The digits of a number from a place on. -/
def digits (bias place n : Nat) : List Char :=
  let t := threshold bias place
  if n < t then [digitChar n]
  else digitChar (t + (n - t) % (36 - t)) :: digits bias (place + 36) ((n - t) / (36 - t))
termination_by n
decreasing_by
  have ht := threshold_pos bias place
  have hle := Nat.div_le_self (n - threshold bias place) (36 - threshold bias place)
  omega

/-- The bias that suits numbers of some size. -/
def biasFor (n : Nat) : Nat :=
  if 455 < n then 36 + biasFor (n / 35) else 36 * n / (n + 38)

/-- The bias after a number, given how many characters are told with it. -/
def nextBias (isFirst : Bool) (n told : Nat) : Nat :=
  let n := if isFirst then n / 700 else n / 2
  biasFor (n + n / told)

/-- The bias for the first number. -/
def firstBias : Nat := 72

/-- The place of the first digit. -/
def firstPlace : Nat := 36

/-! ### Writing -/

/-- Whether a character is an ASCII character. -/
def isAscii (c : Char) : Bool := c.toNat < 0x80

/-- What is known on the way through a word that is written. -/
structure Encoder where
  /-- The digits so far. -/
  written : List Char := []
  /-- The code point whose turn it is. -/
  code : Nat := 0x80
  /-- How many places were passed by since the last stop. -/
  passed : Nat := 0
  /-- The bias for the next number. -/
  bias : Nat := firstBias
  /-- How many characters are told. -/
  told : Nat

/-- Comes to a character: those with lower code points are told already, and count as places. -/
def Encoder.visit (ascii : Nat) (e : Encoder) (c : Char) : Encoder :=
  if c.toNat < e.code then { e with passed := e.passed + 1 }
  else if c.toNat = e.code then
    { e with
      written := e.written ++ digits e.bias firstPlace e.passed
      passed := 0
      bias := nextBias (e.told = ascii) e.passed (e.told + 1)
      told := e.told + 1 }
  else e

/-- Goes through the word for a code point, after all code points before it that no character has. -/
def Encoder.round (word : List Char) (ascii : Nat) (e : Encoder) (code : Nat) : Encoder :=
  let e := word.foldl (visit ascii)
    { e with code := code, passed := e.passed + (code - e.code) * (e.told + 1) }
  { e with code := code + 1, passed := e.passed + 1 }

/-- A word in ASCII. -/
def encode (word : List Char) : List Char :=
  let ascii := word.filter isAscii
  let codes := ((word.filter fun c => !isAscii c).map Char.toNat).eraseDups.mergeSort
  let e := codes.foldl (Encoder.round word ascii.length) { told := ascii.length }
  (if ascii.isEmpty then [] else ascii ++ ['-']) ++ e.written

/-! ### Reading -/

/-- What is known on the way through digits. -/
structure Decoder where
  /-- The characters so far. -/
  word : List Char
  /-- The code point whose turn it is. -/
  code : Nat := 0x80
  /-- Where the way goes on. -/
  start : Nat := 0
  /-- The bias of the number that is read. -/
  bias : Nat := firstBias
  /-- The number, as far as it is read. -/
  number : Nat := 0
  /-- What the next digit counts. -/
  weight : Nat := 1
  /-- The place of the next digit. -/
  place : Nat := firstPlace

/-- Stops at the place that a number tells, and puts a character there. -/
def Decoder.stop? (d : Decoder) : Option Decoder :=
  let places := d.word.length + 1
  let code := d.code + (d.start + d.number) / places
  let stop := (d.start + d.number) % places
  if code.isValidChar then
    some
      { word := d.word.insertIdx stop (Char.ofNat code)
        code := code
        start := stop + 1
        bias := nextBias (d.start = 0) d.number places }
  else none

/-- Reads a digit, which may be the last one of a number. -/
def Decoder.read? (d : Decoder) (c : Char) : Option Decoder := do
  let digit ← digit? c
  let t := threshold d.bias d.place
  let d := { d with number := d.number + digit * d.weight }
  if digit < t then d.stop?
  else some { d with weight := d.weight * (36 - t), place := d.place + 36 }

/-- The ASCII characters of a word, and the digits that tell the others. -/
def splitDigits (cs : List Char) : List Char × List Char :=
  match cs.reverse.span (· != '-') with
  | (digits, _ :: c :: ascii) => ((c :: ascii).reverse, digits.reverse)
  | _ => ([], cs)

/-- The word that a text tells, if the text is in ASCII and its last number ends. -/
def decode? (cs : List Char) : Option (List Char) := do
  let (ascii, digits) := splitDigits cs
  let d ← digits.foldlM Decoder.read? { word := ascii }
  if ascii.all isAscii && d.place = firstPlace then some d.word else none

end RemoteFlags.Punycode
