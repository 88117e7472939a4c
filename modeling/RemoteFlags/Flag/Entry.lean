import RemoteFlags.Flag.Reason
import RemoteFlags.Json.Outline.Record

/-!
# What a server says about a flag

A server answers with the value of a flag (`Success`) or with the reason why it has none
(`Failure`). The answer to a bulk request is a list of entries, each of which is one or the other.

## Main definitions

* `Success`, `Success.ofOutline`: a value, as the whole answer to a request for one flag.
* `Failure`, `Failure.ofOutline`: a failure, as the whole answer.
* `Entry`, `Entry.ofTree?`: an element of a bulk answer.  It is read completely before it is
  understood, first as a failure and then as a success.
* `bulkOfOutline`: a bulk answer.
-/

namespace RemoteFlags

open Json

/-- The value of a flag, as a server sends it. -/
structure Success where
  /-- The key of the flag. -/
  key : String
  /-- Why it has this value. -/
  reason : Option Reason
  /-- The name of the value. -/
  variant : Option String
  /-- The value. -/
  value : Json.Value
  /-- What else is known about the flag. -/
  metadata : Option (SortedMap Json.Value)

/-- A failure to evaluate a flag, as a server sends it. -/
structure Failure where
  /-- The key of the flag, if the server names it. -/
  key : Option String
  /-- What went wrong. -/
  code : ErrorCode
  /-- What went wrong, in words. -/
  details : Option String
deriving DecidableEq, Repr

/-- An element of a bulk answer. -/
inductive Entry where
  /-- A flag that could not be evaluated. -/
  | failure (f : Failure)
  /-- A flag with its value. -/
  | success (s : Success)

/-- The key that an entry names.  Only failures may lack one. -/
def Entry.key? : Entry → Option String
  | .failure f => f.key
  | .success s => some s.key

/-! ### Whole answers -/

/-- Reads a reason. -/
def Reason.ofOutline (o : Outline) : Except Error Reason := o.toText.map Reason.ofText

/-- Reads an error code. -/
def ErrorCode.ofOutline (o : Outline) : Except Error ErrorCode := o.toText.map ErrorCode.ofText

namespace Success

/-- The fields of a success as far as they are read. -/
structure Draft where
  /-- The key. -/
  key : Option String := none
  /-- The reason. -/
  reason : Option (Option Reason) := none
  /-- The variant. -/
  variant : Option (Option String) := none
  /-- The value. -/
  value : Option Json.Value := none
  /-- The metadata. -/
  metadata : Option (Option (SortedMap Json.Value)) := none

/-- Takes in one member. -/
def Draft.take (room : Nat) (d : Draft) (name : String) (o : Outline) : Except Error Draft :=
  if name = "key" then do
    return { d with key := ← Outline.setField name d.key o.toText }
  else if name = "reason" then do
    return { d with reason := ← Outline.setField name d.reason (o.optional Reason.ofOutline) }
  else if name = "variant" then do
    return { d with variant := ← Outline.setField name d.variant (o.optional Outline.toText) }
  else if name = "value" then do
    return { d with value := ← Outline.setField name d.value (o.toValue room) }
  else if name = "metadata" then do
    return { d with
      metadata := ← Outline.setField name d.metadata (o.optional (Outline.toMap room)) }
  else do
    o.skip
    return d

/-- The success with the fields that were read. -/
def Draft.finish (d : Draft) : Except Error Success :=
  match d.key, d.value with
  | none, _ => .error (.missingField "key")
  | _, none => .error (.missingField "value")
  | some key, some value =>
    .ok ⟨key, d.reason.join, d.variant.join, value, d.metadata.join⟩

/-- Reads a success, with `room` levels of nesting left. -/
def ofOutline (room : Nat) : Outline → Except Error Success
  | .object ms ending => do
    let room ← Outline.enter room
    let d ← Outline.takeMembers (Draft.take room) {} ms ending
    d.finish
  | .array os ending => do
    let room ← Outline.enter room
    let record := "struct EvaluationSuccess with 5 elements"
    let (key, os) ← Outline.needItem 0 record Outline.toText os ending
    let (reason, os) ← Outline.mayItem (Outline.optional Reason.ofOutline) os ending
    let (variant, os) ← Outline.mayItem (Outline.optional Outline.toText) os ending
    let (value, os) ← Outline.needItem 3 record (Outline.toValue room) os ending
    let (metadata, os) ← Outline.mayItem (Outline.optional (Outline.toMap room)) os ending
    Outline.lastItem os ending
    return ⟨key, reason.join, variant.join, value, metadata.join⟩
  | o => .error (o.mismatch "struct EvaluationSuccess")

end Success

namespace Failure

/-- The fields of a failure as far as they are read. -/
structure Draft where
  /-- The key. -/
  key : Option (Option String) := none
  /-- The code. -/
  code : Option ErrorCode := none
  /-- The details. -/
  details : Option (Option String) := none

/-- Takes in one member. -/
def Draft.take (d : Draft) (name : String) (o : Outline) : Except Error Draft :=
  if name = "key" then do
    return { d with key := ← Outline.setField name d.key (o.optional Outline.toText) }
  else if name = "errorCode" then do
    return { d with code := ← Outline.setField name d.code (ErrorCode.ofOutline o) }
  else if name = "errorDetails" then do
    return { d with details := ← Outline.setField name d.details (o.optional Outline.toText) }
  else do
    o.skip
    return d

/-- The failure with the fields that were read. -/
def Draft.finish (d : Draft) : Except Error Failure :=
  match d.code with
  | none => .error (.missingField "errorCode")
  | some code => .ok ⟨d.key.join, code, d.details.join⟩

/-- Reads a failure, with `room` levels of nesting left. -/
def ofOutline (room : Nat) : Outline → Except Error Failure
  | .object ms ending => do
    let _ ← Outline.enter room
    let d ← Outline.takeMembers Draft.take {} ms ending
    d.finish
  | .array os ending => do
    let _ ← Outline.enter room
    let record := "struct EvaluationFailure with 3 elements"
    let (key, os) ← Outline.mayItem (Outline.optional Outline.toText) os ending
    let (code, os) ← Outline.needItem 1 record ErrorCode.ofOutline os ending
    let (details, os) ← Outline.mayItem (Outline.optional Outline.toText) os ending
    Outline.lastItem os ending
    return ⟨key.join, code, details.join⟩
  | o => .error (o.mismatch "struct EvaluationFailure")

end Failure

/-! ### Elements of bulk answers -/

/-- The values of the members with a name. -/
def membersNamed (name : String) (ms : List (String × Tree)) : List Tree :=
  (ms.filter fun m => m.1 = name).map (·.2)

/-- A tree that is a string. -/
def textOfTree? : Tree → Option String
  | .string s => some s
  | _ => none

/-- A tree that is `null`, or something that `f` understands. -/
def nullOr? {α : Type} (f : Tree → Option α) : Tree → Option (Option α)
  | .null => some none
  | t => (f t).map some

/-- A tree that is an object, as a map; the last member of a name counts. -/
def mapOfTree? : Tree → Option (SortedMap Json.Value)
  | .object ms => some (SortedMap.ofList (ms.map fun m => (m.1, Value.ofTree m.2)))
  | _ => none

/-- A member that has to occur exactly once. -/
def needMember? {α : Type} (f : Tree → Option α) (name : String) (ms : List (String × Tree)) :
    Option α :=
  match membersNamed name ms with
  | [t] => f t
  | _ => none

/-- A member that may occur once, and may be `null`. -/
def mayMember? {α : Type} (f : Tree → Option α) (name : String) (ms : List (String × Tree)) :
    Option (Option α) :=
  match membersNamed name ms with
  | [] => some none
  | [t] => nullOr? f t
  | _ => none

/-- The failure that a tree stands for: an object with an error code, or an array of two or three
items. -/
def Failure.ofTree? : Tree → Option Failure
  | .object ms => do
    let key ← mayMember? textOfTree? "key" ms
    let code ← needMember? textOfTree? "errorCode" ms
    let details ← mayMember? textOfTree? "errorDetails" ms
    return ⟨key, .ofText code, details⟩
  | .array (key :: code :: rest) => do
    let key ← nullOr? textOfTree? key
    let code ← textOfTree? code
    let details ← match rest with
      | [] => some none
      | [t] => nullOr? textOfTree? t
      | _ => none
    return ⟨key, .ofText code, details⟩
  | _ => none

/-- The success that a tree stands for: an object with a key and a value, or an array of four or
five items. -/
def Success.ofTree? : Tree → Option Success
  | .object ms => do
    let key ← needMember? textOfTree? "key" ms
    let reason ← mayMember? textOfTree? "reason" ms
    let variant ← mayMember? textOfTree? "variant" ms
    let value ← needMember? some "value" ms
    let metadata ← mayMember? mapOfTree? "metadata" ms
    return ⟨key, reason.map .ofText, variant, .ofTree value, metadata⟩
  | .array (key :: reason :: variant :: value :: rest) => do
    let key ← textOfTree? key
    let reason ← nullOr? textOfTree? reason
    let variant ← nullOr? textOfTree? variant
    let metadata ← match rest with
      | [] => some none
      | [t] => nullOr? mapOfTree? t
      | _ => none
    return ⟨key, reason.map .ofText, variant, .ofTree value, metadata⟩
  | _ => none

namespace Entry

/-- The entry that a tree stands for: a failure if it can be understood as one, else a success. -/
def ofTree? (t : Tree) : Option Entry :=
  (Failure.ofTree? t).map .failure <|> (Success.ofTree? t).map .success

/-- Reads an entry, with `room` levels of nesting left. -/
def ofOutline (room : Nat) (o : Outline) : Except Error Entry := do
  let t ← o.toTree room
  match ofTree? t with
  | some e => return e
  | none => .error (.noAlternative "BulkEntry")

/-- Reads the entries of a bulk answer. -/
def listOfItems (room : Nat) : List Outline → Ending → Except Error (List Entry)
  | [], .closed => .ok []
  | [], .cut f _ _ => .error (.fault f)
  | o :: os, ending => do
    let e ← ofOutline room o
    let es ← listOfItems room os ending
    return e :: es

/-- Reads an array of entries. -/
def listOfOutline (room : Nat) : Outline → Except Error (List Entry)
  | .array os ending => do
    let room ← Outline.enter room
    listOfItems room os ending
  | o => .error (o.mismatch "a sequence")

/-- Takes in one member of a bulk answer. -/
def takeBulk (room : Nat) (flags : Option (List Entry)) (name : String) (o : Outline) :
    Except Error (Option (List Entry)) :=
  if name = "flags" then Outline.setField name flags (listOfOutline room o)
  else do
    o.skip
    return flags

/-- Reads a bulk answer: a record whose only field is the list of flags, which may be missing. -/
def bulkOfOutline (room : Nat) : Outline → Except Error (List Entry)
  | .object ms ending => do
    let room ← Outline.enter room
    let flags ← Outline.takeMembers (takeBulk room) none ms ending
    return flags.getD []
  | .array os ending => do
    let room ← Outline.enter room
    let (flags, os) ← Outline.mayItem (listOfOutline room) os ending
    Outline.lastItem os ending
    return flags.getD []
  | o => .error (o.mismatch "struct BulkEvaluationResponse")

end Entry

end RemoteFlags
