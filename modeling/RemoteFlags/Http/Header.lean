import RemoteFlags.Text.Blank

/-!
# Header fields

Names and values of header fields, and what is read from some of them.

## Main definitions

* `fieldName?`, `isFieldValue`: the names and values that can be sent.
* `readable?`: a value as a text, if it is made of visible ASCII characters.
* `addField`: a field put into a list in the order of names.
* `trimField`: a value without blanks at its ends.
-/

namespace RemoteFlags.Http

/-! ### Names and values -/

/-- Whether a character may stand in the name of a field. -/
def isTokenChar (c : Char) : Bool := c.isAlphanum || "!#$%&'*+-.^_`|~".toList.contains c

/-- The longest name of a field. -/
def maxNameLength : Nat := 65535

/-- The name of a field in lower case, if it can be sent. -/
def fieldName? (s : String) : Option String :=
  let cs := s.toList
  if !cs.isEmpty && cs.length ≤ maxNameLength && cs.all isTokenChar then
    some (String.ofList (cs.map Char.toLower))
  else none

/-- Whether a value can be sent: no control characters but tabs. -/
def isFieldValue (s : String) : Bool :=
  s.toList.all fun c => c == '\t' || (0x20 ≤ c.toNat && c.toNat != 0x7F)

/-- Whether a character of a value can be read as text. -/
def isReadable (c : Char) : Bool := c == '\t' || (0x20 ≤ c.toNat && c.toNat < 0x7F)

/-- A value as a text, if all of it can be read. -/
def readable? (s : String) : Option String := if s.toList.all isReadable then some s else none

/-! ### Lists of fields -/

/-- A field put behind all fields whose name is not greater. -/
def addField (name value : String) : List (String × String) → List (String × String)
  | [] => [(name, value)]
  | f :: fs => if name < f.1 then (name, value) :: f :: fs else f :: addField name value fs

/-- The fields without those of some names. -/
def dropFields (names : List String) (fs : List (String × String)) : List (String × String) :=
  fs.filter fun f => !names.contains f.1

/-- The fields with a new one in place of those of the same name. -/
def setField (name value : String) (fs : List (String × String)) : List (String × String) :=
  addField name value (dropFields [name] fs)

/-! ### Blanks -/

/-- Whether a character counts as a blank in a field. -/
def isFieldBlank (c : Char) : Bool := c == ' ' || c == '\t'

/-- A value without blanks at its ends. -/
def trimField (cs : List Char) : List Char := Text.trimBy isFieldBlank cs

end RemoteFlags.Http
