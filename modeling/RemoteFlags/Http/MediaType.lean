import RemoteFlags.Http.Header
import RemoteFlags.Text.Charset

/-!
# Media types

A media type is a type and a subtype with a slash between them, and parameters that are set off by
semicolons.  The value of a parameter is a token or stands between quotes.  What is not of this form
is refused as a whole, so that none of its parameters counts.

## Main definitions

* `MediaType.readName`, `readValue`, `readQuoted`, `readRest`: reading parameters, with one function
  for every place that the reader can stand at.
* `MediaType.parameters?`: the parameters of a media type.
* `charset`: the encoding that a media type names.
-/

namespace RemoteFlags.Http

namespace MediaType

/-- Whether a character may stand between quotes. -/
def isQuotable (c : Char) : Bool := 0x20 ≤ c.toNat && c.toNat != 0x7F

/-- A parameter, with its name in lower case. -/
def parameter (name value : List Char) : String × String :=
  (String.ofList (name.map Char.toLower), String.ofList value)

mutual

/-- Reads on inside a name, or in front of it, where blanks may stand. -/
def readName (name : List Char) : List Char → Option (List (String × String))
  | [] => if name.isEmpty then some [] else none
  | c :: cs =>
    if c = ' ' ∧ name = [] then readName [] cs
    else if isTokenChar c then readName (name ++ [c]) cs
    else if c = '=' ∧ name ≠ [] then readValue name [] cs
    else none

/-- Reads on inside a value without quotes. -/
def readValue (name value : List Char) : List Char → Option (List (String × String))
  | [] => some [parameter name value]
  | c :: cs =>
    if c = '"' ∧ value = [] then readQuoted name [] cs
    else if isTokenChar c then readValue name (value ++ [c]) cs
    else if c = ';' ∧ value ≠ [] then (readName [] cs).map (parameter name value :: ·)
    else none

/-- Reads on between quotes.  A quote right behind the first one belongs to the value. -/
def readQuoted (name value : List Char) : List Char → Option (List (String × String))
  | [] => none
  | c :: cs =>
    if c = '"' ∧ value ≠ [] then (readRest cs).map (parameter name value :: ·)
    else if isQuotable c then readQuoted name (value ++ [c]) cs
    else none

/-- Reads on behind quotes. -/
def readRest : List Char → Option (List (String × String))
  | [] => some []
  | c :: cs =>
    if c = ';' then readName [] cs
    else if c = ' ' then readRest cs
    else none

end

/-- The parameters of a media type. -/
def parameters? (cs : List Char) : Option (List (String × String)) :=
  match cs.span isTokenChar with
  | (_ :: _, '/' :: cs) =>
    match cs.span isTokenChar with
    | (_, []) => some []
    | (_ :: _, ';' :: cs) => readName [] cs
    | _ => none
  | _ => none

end MediaType

/-- The encoding that a media type names, or UTF-8. -/
def charset (mediaType : Option String) : Text.Charset :=
  let named := do
    let value ← mediaType.bind readable?
    let parameters ← MediaType.parameters? value.toList
    let label ← parameters.lookup "charset"
    Text.Charset.ofLabel? label
  named.getD .utf8

end RemoteFlags.Http
