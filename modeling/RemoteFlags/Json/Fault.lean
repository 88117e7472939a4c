import RemoteFlags.Binary64.Layout
import RemoteFlags.Text.Quoted

/-!
# What can be wrong with a JSON text

A text may stop being JSON at some point (`Fault`), or be JSON of another shape than the one asked
for (the other constructors of `Error`).

## Main definitions

* `Fault`: where a text stops being JSON, and why.
* `Kind`: what stands in a text instead of what was asked for.
* `Error`: why a text was not read; `Error.category` and `Error.message` describe it.
-/

namespace RemoteFlags.Json

/-- Why a text stops being JSON. -/
inductive Fault where
  /-- The text ends where a value should begin or go on. -/
  | endInValue
  /-- The text ends inside a string. -/
  | endInString
  /-- The text ends inside an array. -/
  | endInList
  /-- The text ends inside an object. -/
  | endInObject
  /-- No value begins with this character. -/
  | expectedValue
  /-- A word other than `null`, `true` and `false`. -/
  | expectedWord
  /-- A member's name without a colon after it. -/
  | expectedColon
  /-- Something else than a comma or the end after an item. -/
  | expectedCommaOrListEnd
  /-- Something else than a comma or the end after a member. -/
  | expectedCommaOrObjectEnd
  /-- A member whose name is no string. -/
  | keyNotString
  /-- A comma before the end of an array or object. -/
  | trailingComma
  /-- Something after the end. -/
  | trailingCharacters
  /-- A number that breaks the rules for numbers. -/
  | invalidNumber
  /-- A number too large for a double. -/
  | numberOutOfRange
  /-- A backslash with an unknown letter, or without four hexadecimal digits after `u`. -/
  | invalidEscape
  /-- A surrogate without its partner. -/
  | loneSurrogate
  /-- A leading surrogate that no escape follows. -/
  | unfinishedSurrogate
  /-- A control character inside a string. -/
  | controlCharacter
  /-- Arrays and objects nested too deeply. -/
  | tooDeep
deriving DecidableEq, Repr

namespace Fault

/-- Whether the fault is that the text ends too early. -/
def isEnd : Fault → Bool
  | .endInValue | .endInString | .endInList | .endInObject => true
  | _ => false

/-- The fault in words. -/
def message : Fault → String
  | .endInValue => "EOF while parsing a value"
  | .endInString => "EOF while parsing a string"
  | .endInList => "EOF while parsing a list"
  | .endInObject => "EOF while parsing an object"
  | .expectedValue => "expected value"
  | .expectedWord => "expected ident"
  | .expectedColon => "expected `:`"
  | .expectedCommaOrListEnd => "expected `,` or `]`"
  | .expectedCommaOrObjectEnd => "expected `,` or `\x7d`"
  | .keyNotString => "key must be a string"
  | .trailingComma => "trailing comma"
  | .trailingCharacters => "trailing characters"
  | .invalidNumber => "invalid number"
  | .numberOutOfRange => "number out of range"
  | .invalidEscape => "invalid escape"
  | .loneSurrogate => "lone leading surrogate in hex escape"
  | .unfinishedSurrogate => "unexpected end of hex escape"
  | .controlCharacter =>
    "control character (\\u0000-\\u001F) found while parsing a string"
  | .tooDeep => "recursion limit exceeded"

end Fault

/-- What stands in a text, as told when something else was asked for. -/
inductive Kind where
  /-- The word `null`. -/
  | null
  /-- A truth value. -/
  | bool (b : Bool)
  /-- An integer. -/
  | int (n : Int)
  /-- A double. -/
  | float (x : FiniteDouble)
  /-- A string. -/
  | string (s : String)
  /-- An array. -/
  | sequence
  /-- An object. -/
  | map
deriving DecidableEq

/-- The kind in words. -/
def Kind.message : Kind → String
  | .null => "null"
  | .bool b => if b then "boolean `true`" else "boolean `false`"
  | .int n => "integer `" ++ toString n ++ "`"
  | .float x => "floating point `" ++ x.jsonText ++ "`"
  | .string s => "string " ++ Text.quoted s
  | .sequence => "sequence"
  | .map => "map"

/-- Why a text was not read. -/
inductive Error where
  /-- The text is no JSON. -/
  | fault (f : Fault)
  /-- A value of another kind than `expected`. -/
  | wrongKind (found : Kind) (expected : String)
  /-- A record without a field that it needs. -/
  | missingField (name : String)
  /-- A record with a field that occurs twice. -/
  | duplicateField (name : String)
  /-- A record written as an array of `length` items, which are too few. -/
  | wrongLength (length : Nat) (expected : String)
  /-- A value that fits none of the alternatives of `name`. -/
  | noAlternative (name : String)
deriving DecidableEq

/-- The three classes of errors. -/
inductive Category where
  /-- The text ends too early. -/
  | early
  /-- The text is no JSON. -/
  | malformed
  /-- The text is JSON of another shape. -/
  | data
deriving DecidableEq, Repr

namespace Error

/-- The class of an error. -/
def category : Error → Category
  | .fault f => if f.isEnd then .early else .malformed
  | _ => .data

/-- The error in words. -/
def message : Error → String
  | .fault f => f.message
  | .wrongKind found expected => "invalid type: " ++ found.message ++ ", expected " ++ expected
  | .missingField name => "missing field `" ++ name ++ "`"
  | .duplicateField name => "duplicate field `" ++ name ++ "`"
  | .wrongLength length expected =>
    "invalid length " ++ toString length ++ ", expected " ++ expected
  | .noAlternative name => "data did not match any variant of untagged enum " ++ name

end Error

end RemoteFlags.Json
