import RemoteFlags.Json.Value

/-!
# Flag values

The value of a flag is a truth value, an integer, a double, a text, or any other JSON.

## Main definitions

* `FlagValue`, `FlagValue.ofJson`: values, and the value that JSON stands for.
* `FlagType`, `FlagType.accepts?`: the types that callers ask for, and the conversion to them.
* `FlagValue.text`, `FlagValue.same`: the value as a text, and equality.
-/

namespace RemoteFlags

/-- The value of a flag. -/
inductive FlagValue where
  /-- A truth value. -/
  | bool (b : Bool)
  /-- An integer of 64 bits. -/
  | int (n : Int)
  /-- A double. -/
  | float (x : Double)
  /-- A text. -/
  | string (s : String)
  /-- Other JSON. -/
  | object (v : Json.Value)

/-- The types of values that callers ask for. -/
inductive FlagType where
  /-- Truth values. -/
  | boolean
  /-- Integers. -/
  | integer
  /-- Doubles. -/
  | float
  /-- Texts. -/
  | string
  /-- Other JSON. -/
  | object
deriving DecidableEq, Repr

/-- The name of a type. -/
def FlagType.name : FlagType → String
  | .boolean => "boolean"
  | .integer => "integer"
  | .float => "float"
  | .string => "string"
  | .object => "object"

namespace FlagValue

/-- The type of a value. -/
def type : FlagValue → FlagType
  | .bool _ => .boolean
  | .int _ => .integer
  | .float _ => .float
  | .string _ => .string
  | .object _ => .object

/-- The value that a JSON number stands for: an integer of 64 bits, or else a double. -/
def ofNumber : Json.Number → FlagValue
  | .int n _ => if n < 2 ^ 63 then .int n else .float (.ofInt n)
  | .float x => .float (.finite x)

/-- The value that JSON stands for. -/
def ofJson (v : Json.Value) : FlagValue :=
  match v.tree with
  | .bool b => .bool b
  | .number n => ofNumber n
  | .string s => .string s
  | _ => .object v

/-- The value as a text. -/
def text : FlagValue → String
  | .bool b => if b then "true" else "false"
  | .int n => toString n
  | .float x => x.plainText
  | .string s => s
  | .object v => v.text

/-- Whether two values are of one type and equal; NaN differs from itself. -/
def same : FlagValue → FlagValue → Bool
  | .bool a, .bool b => a == b
  | .int m, .int n => m == n
  | .float x, .float y => x.same y
  | .string s, .string t => s == t
  | .object v, .object w => v.same w
  | _, _ => false

end FlagValue

/-- The value as one of the given type.  An integer is also a double, and of the values that are no
scalars only arrays and objects count as JSON; all else keeps its type. -/
def FlagType.accepts? : FlagType → FlagValue → Option FlagValue
  | .boolean, .bool b => some (.bool b)
  | .integer, .int n => some (.int n)
  | .float, .float x => some (.float x)
  | .float, .int n => some (.float (.ofInt n))
  | .string, .string s => some (.string s)
  | .object, .object v => if v.isCompound then some (.object v) else none
  | _, _ => none

end RemoteFlags
