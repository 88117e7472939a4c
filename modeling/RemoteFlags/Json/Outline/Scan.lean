import RemoteFlags.Json.Outline.Basic
import RemoteFlags.Text.Utf8

/-!
# From texts to outlines

Scanning a text stops where the text stops being JSON.  Faults that only a reader tells do not stop
it: they are put into the outline and scanning goes on.

## Main definitions

* `Outline.literal`: a string literal.
* `Outline.readNumber`: a number.
* `Outline.value`, `Outline.items`, `Outline.members`: values and their parts.
* `Document.ofText`: the outline of a text, and whether something follows the value.
-/

namespace RemoteFlags.Json

/-- The rest of a text after a value, or `none` when the text stops being JSON before. -/
abbrev Rest := Option (List Char)

namespace Outline

/-! ### Words, numbers and strings -/

/-- The characters that may stand between the parts of a text. -/
def isGap (c : Char) : Bool := c == ' ' || c == '\n' || c == '\t' || c == '\r'

/-- The text from its next part on. -/
def skipGap (cs : List Char) : List Char := cs.dropWhile isGap

/-- Reads the given word. -/
def word (o : Outline) : List Char → List Char → Outline × Rest
  | [], cs => (o, some cs)
  | _ :: _, [] => (.broken .endInValue .endInValue, none)
  | w :: ws, c :: cs =>
    if w = c then word o ws cs else (.broken .expectedWord .expectedWord, none)

/-- The digits at the start of a text, and the rest. -/
def digits : List Char → List Nat × List Char
  | [] => ([], [])
  | c :: cs =>
    match Text.digit? c with
    | some d =>
      let (ds, rest) := digits cs
      (d :: ds, rest)
    | none => ([], c :: cs)

/-- What is wrong with a number that lacks a digit before the given text: a reader tells the end of
the text, a skipper does not. -/
def noDigit : List Char → Outline
  | [] => .broken .endInValue .invalidNumber
  | _ => .broken .invalidNumber .invalidNumber

/-- The outline of a number with the given parts. -/
def ofNumeral (n : Numeral) : Outline :=
  match n.toNumber? with
  | some x => .number x
  | none => .unreadable .numberOutOfRange

/-- The exponent of a number and the rest of the text, or what is wrong with it. -/
def exponent (cs : List Char) : Except Outline (Option Int × List Char) :=
  let signed (sign : Int) (cs : List Char) : Except Outline (Option Int × List Char) :=
    match digits cs with
    | ([], rest) => .error (noDigit rest)
    | (ds, rest) => .ok (some (sign * Text.valueOf 10 ds), rest)
  let afterMark : List Char → Except Outline (Option Int × List Char)
    | '+' :: cs => signed 1 cs
    | '-' :: cs => signed (-1) cs
    | cs => signed 1 cs
  match cs with
  | 'e' :: cs => afterMark cs
  | 'E' :: cs => afterMark cs
  | cs => .ok (none, cs)

/-- The digits after a point and the rest of the text, or what is wrong with them. -/
def fraction (cs : List Char) : Except Outline (Option (List Nat) × List Char) :=
  match cs with
  | '.' :: cs =>
    match digits cs with
    | ([], rest) => .error (noDigit rest)
    | (ds, rest) => .ok (some ds, rest)
  | cs => .ok (none, cs)

/-- Reads a number, from its first digit on.  A leading zero stands alone. -/
def readNumber (negative : Bool) (cs : List Char) : Outline × Rest :=
  match digits cs with
  | ([], rest) => (noDigit rest, none)
  | (0 :: _ :: _, _) => (.broken .invalidNumber .invalidNumber, none)
  | (whole, rest) =>
    match fraction rest with
    | .error o => (o, none)
    | .ok (f, rest) =>
      match exponent rest with
      | .error o => (o, none)
      | .ok (e, rest) => (ofNumeral ⟨negative, whole, f, e⟩, some rest)

/-- A string literal after its opening quote. -/
inductive Literal where
  /-- The literal is closed, with its content unless it cannot be read, and the rest of the text. -/
  | closed (content : Except Fault String) (rest : List Char)
  /-- The text stops being JSON inside the literal. -/
  | cut (read skip : Fault)

/-- The number that four hexadecimal digits write. -/
def hex? (a b c d : Char) : Option Nat := Text.numeral? 16 Text.hexDigit? [a, b, c, d]

/-- The character for the letter after a backslash. -/
def escaped? (c : Char) : Option Char :=
  if c = '"' ∨ c = '\\' ∨ c = '/' then some c
  else if c = 'b' then some '\x08'
  else if c = 'f' then some '\x0c'
  else if c = 'n' then some '\n'
  else if c = 'r' then some '\r'
  else if c = 't' then some '\t'
  else none

/-- What is wrong with an escape that has fewer than four characters after its `u`: fewer than four
bytes are the end of the text. -/
def shortEscape (cs : List Char) : Fault :=
  if (Text.utf8Chars cs).length < 4 then .endInString else .invalidEscape

/-- Whether a 16-bit unit is the first half of a pair. -/
def isLeading (n : Nat) : Bool := 0xD800 ≤ n && n < 0xDC00

/-- Whether a 16-bit unit is the second half of a pair. -/
def isTrailing (n : Nat) : Bool := 0xDC00 ≤ n && n < 0xE000

/-- Reads a string literal after its opening quote.  `soft` is the first fault that only a reader
tells, `acc` the content so far, last character first. -/
def literal (soft : Option Fault) (acc : List Char) : List Char → Literal
  | [] => .cut (soft.getD .endInString) .endInString
  | '"' :: rest =>
    .closed (match soft with
      | some f => .error f
      | none => .ok (String.ofList acc.reverse)) rest
  | '\\' :: 'u' :: a :: b :: c :: d :: rest =>
    match hex? a b c d with
    | none => .cut (soft.getD .invalidEscape) .invalidEscape
    | some n =>
      if isTrailing n then literal (soft <|> some .loneSurrogate) acc rest
      else if isLeading n then
        match rest with
        | [] => .cut (soft.getD .endInString) .endInString
        | ['\\'] => .cut (soft.getD .endInString) .endInString
        | '\\' :: 'u' :: a :: b :: c :: d :: rest =>
          match hex? a b c d with
          | none => .cut (soft.getD .invalidEscape) .invalidEscape
          | some n' =>
            if isTrailing n' then
              literal soft
                (Char.ofNat (0x10000 + (n - 0xD800) * 0x400 + (n' - 0xDC00)) :: acc) rest
            else literal (soft <|> some .loneSurrogate) acc rest
        | '\\' :: 'u' :: short => .cut (soft.getD (shortEscape short)) (shortEscape short)
        | rest => literal (soft <|> some .unfinishedSurrogate) acc rest
      else literal soft (Char.ofNat n :: acc) rest
  | '\\' :: 'u' :: short => .cut (soft.getD (shortEscape short)) (shortEscape short)
  | ['\\'] => .cut (soft.getD .endInString) .endInString
  | '\\' :: c :: rest =>
    match escaped? c with
    | some c => literal soft (c :: acc) rest
    | none => .cut (soft.getD .invalidEscape) .invalidEscape
  | c :: rest =>
    if c.toNat < 0x20 then .cut (soft.getD .controlCharacter) .controlCharacter
    else literal soft (c :: acc) rest

/-- The outline of a string, after its opening quote. -/
def readString (cs : List Char) : Outline × Rest :=
  match literal none [] cs with
  | .closed (.ok s) rest => (.string s, some rest)
  | .closed (.error f) rest => (.unreadable f, some rest)
  | .cut read skip => (.broken read skip, none)

/-! ### Arrays and objects -/

mutual

/-- Reads a value.  The first argument bounds the number of nested steps; twice the length of the
text is enough. -/
def value : Nat → List Char → Outline × Rest
  | 0, _ => (.broken .endInValue .endInValue, none)
  | fuel + 1, cs =>
    match skipGap cs with
    | [] => (.broken .endInValue .endInValue, none)
    | '"' :: cs => readString cs
    | '[' :: cs =>
      match skipGap cs with
      | [] => (.array [] (.cut .endInList .endInList .endInList), none)
      | ']' :: rest => (.array [] .closed, some rest)
      | cs =>
        let (items, ending, rest) := items fuel cs
        (.array items ending, rest)
    | '\x7b' :: cs =>
      match skipGap cs with
      | '\x7d' :: rest => (.object [] .closed, some rest)
      | '"' :: cs =>
        let (members, ending, rest) := members fuel cs
        (.object members ending, rest)
      | [] => (.object [] (.cut .endInObject .endInObject .endInObject), none)
      | _ => (.object [] (.cut .keyNotString .keyNotString .keyNotString), none)
    | 'n' :: cs => word .null ['u', 'l', 'l'] cs
    | 't' :: cs => word (.bool true) ['r', 'u', 'e'] cs
    | 'f' :: cs => word (.bool false) ['a', 'l', 's', 'e'] cs
    | '-' :: cs => readNumber true cs
    | c :: cs =>
      if Text.isDigit c then readNumber false (c :: cs)
      else (.broken .expectedValue .expectedValue, none)

/-- Reads the items of an array, at least one. -/
def items : Nat → List Char → List Outline × Ending × Rest
  | 0, _ => ([], .cut .endInList .endInList .endInList, none)
  | fuel + 1, cs =>
    match value fuel cs with
    | (o, none) => ([o], .closed, none)
    | (o, some rest) =>
      match skipGap rest with
      | [] => ([o], .cut .endInList .endInList .endInList, none)
      | ']' :: rest => ([o], .closed, some rest)
      | ',' :: rest =>
        match skipGap rest with
        | [] => ([o], .cut .endInValue .endInValue .trailingCharacters, none)
        | ']' :: _ => ([o], .cut .trailingComma .expectedValue .trailingComma, none)
        | rest =>
          let (os, ending, rest) := items fuel rest
          (o :: os, ending, rest)
      | _ =>
        ([o], .cut .expectedCommaOrListEnd .expectedCommaOrListEnd .trailingCharacters, none)

/-- Reads the members of an object, at least one, after the opening quote of its name. -/
def members : Nat → List Char → List (Except Fault String × Outline) × Ending × Rest
  | 0, _ => ([], .cut .endInObject .endInObject .endInObject, none)
  | fuel + 1, cs =>
    match literal none [] cs with
    | .cut read skip => ([], .cut read skip read, none)
    | .closed name rest =>
      match skipGap rest with
      | [] => ([(name, .broken .endInObject .endInObject)], .closed, none)
      | ':' :: rest =>
        match value fuel rest with
        | (o, none) => ([(name, o)], .closed, none)
        | (o, some rest) =>
          match skipGap rest with
          | [] => ([(name, o)], .cut .endInObject .endInObject .endInObject, none)
          | '\x7d' :: rest => ([(name, o)], .closed, some rest)
          | ',' :: rest =>
            match skipGap rest with
            | '"' :: rest =>
              let (ms, ending, rest) := members fuel rest
              ((name, o) :: ms, ending, rest)
            | '\x7d' :: _ =>
              ([(name, o)], .cut .trailingComma .keyNotString .trailingComma, none)
            | [] => ([(name, o)], .cut .endInValue .endInObject .endInValue, none)
            | _ => ([(name, o)], .cut .keyNotString .keyNotString .keyNotString, none)
          | _ =>
            ([(name, o)], .cut .expectedCommaOrObjectEnd .expectedCommaOrObjectEnd
              .expectedCommaOrObjectEnd, none)
      | _ => ([(name, .broken .expectedColon .expectedColon)], .closed, none)

end

/-- The outline of the value at the start of a text, and what follows it. -/
def ofChars (cs : List Char) : Outline × Rest := value (2 * cs.length + 2) cs

end Outline

/-- A text that should hold one value. -/
structure Document where
  /-- The outline of the value. -/
  root : Outline
  /-- Whether something other than a gap follows the value. -/
  trailing : Bool

namespace Document

/-- The outline of a text. -/
def ofText (s : String) : Document :=
  let (root, rest) := Outline.ofChars s.toList
  ⟨root, (rest.map fun cs => !(Outline.skipGap cs).isEmpty).getD false⟩

/-- Reads a text with a function on outlines.  What follows the value is looked at last. -/
def read {α : Type} (f : Outline → Except Error α) (s : String) : Except Error α := do
  let d := ofText s
  let a ← f d.root
  if d.trailing then .error (.fault .trailingCharacters) else .ok a

end Document

end RemoteFlags.Json
