import RemoteFlags.Json.Fault
import RemoteFlags.Json.Tree

/-!
# Outlines: JSON texts with their faults in place

A text is read in two ways.  Most of it is *read*, so that its values can be used; the value of a
member that nobody asks for is only *skipped*, and skipping is more lenient: it accepts numbers out
of range, unpaired surrogates and any depth of nesting, and it words some faults differently.  Which
parts are skipped depends on what is asked for, and faults are told in the order in which they are
met.

So a text is first turned into an `Outline` (`RemoteFlags.Json.Outline.Scan`): a tree up to the
point where the text stops being JSON, with the faults at the places where a reader or a skipper
meets them. What a text means is then a function of its outline.

## Main definitions

* `Outline`: JSON with faults in place; `Ending`: how an array or object ends.
* `Outline.toTree`: reading; `Outline.skip`: skipping.
* `Outline.ofTree`: the outline of a tree, without faults.
-/

namespace RemoteFlags.Json

/-- How the items of an array or the members of an object end.  The ending that stands after a
broken item is never met. -/
inductive Ending where
  /-- With the closing bracket. -/
  | closed
  /-- With a fault: as a reader tells it, as a skipper tells it, and as it is told where no further
  item is expected. -/
  | cut (read skip close : Fault)
deriving DecidableEq, Repr

/-- JSON up to its first fault. -/
inductive Outline where
  /-- The word `null`. -/
  | null
  /-- One of the words `true` and `false`. -/
  | bool (b : Bool)
  /-- A number. -/
  | number (n : Number)
  /-- A string. -/
  | string (s : String)
  /-- A number or string that can be skipped and not read. -/
  | unreadable (f : Fault)
  /-- The text stops being JSON inside this value. -/
  | broken (read skip : Fault)
  /-- An array. -/
  | array (items : List Outline) (ending : Ending)
  /-- An object; a name may be such that it can only be skipped. -/
  | object (members : List (Except Fault String × Outline)) (ending : Ending)

instance : Inhabited Outline := ⟨.null⟩

namespace Outline

/-! ### Reading and skipping -/

/-- The nesting that a text may have: 127 levels. -/
def nestingLimit : Nat := 128

/-- Goes one level down, with `room` levels left. -/
def enter (room : Nat) : Except Error Nat :=
  if room ≤ 1 then .error (.fault .tooDeep) else .ok (room - 1)

mutual

/-- Reads a whole value, with `room` levels left. -/
def toTree (room : Nat) : Outline → Except Error Tree
  | .null => .ok .null
  | .bool b => .ok (.bool b)
  | .number n => .ok (.number n)
  | .string s => .ok (.string s)
  | .unreadable f => .error (.fault f)
  | .broken f _ => .error (.fault f)
  | .array os ending => do
    let room ← enter room
    let ts ← toTrees room os ending
    return .array ts
  | .object ms ending => do
    let room ← enter room
    let ms ← toMembers room ms ending
    return .object ms

/-- Reads the items of an array. -/
def toTrees (room : Nat) : List Outline → Ending → Except Error (List Tree)
  | [], .closed => .ok []
  | [], .cut f _ _ => .error (.fault f)
  | o :: os, ending => do
    let t ← toTree room o
    let ts ← toTrees room os ending
    return t :: ts

/-- Reads the members of an object. -/
def toMembers (room : Nat) :
    List (Except Fault String × Outline) → Ending → Except Error (List (String × Tree))
  | [], .closed => .ok []
  | [], .cut f _ _ => .error (.fault f)
  | (.error f, _) :: _, _ => .error (.fault f)
  | (.ok k, o) :: ms, ending => do
    let t ← toTree room o
    let ms ← toMembers room ms ending
    return (k, t) :: ms

end

mutual

/-- Skips a whole value. -/
def skip : Outline → Except Error Unit
  | .broken _ f => .error (.fault f)
  | .array os ending => skipItems os ending
  | .object ms ending => skipMembers ms ending
  | _ => .ok ()

/-- Skips the items of an array. -/
def skipItems : List Outline → Ending → Except Error Unit
  | [], .closed => .ok ()
  | [], .cut _ f _ => .error (.fault f)
  | o :: os, ending => do
    skip o
    skipItems os ending

/-- Skips the members of an object. -/
def skipMembers : List (Except Fault String × Outline) → Ending → Except Error Unit
  | [], .closed => .ok ()
  | [], .cut _ f _ => .error (.fault f)
  | (_, o) :: ms, ending => do
    skip o
    skipMembers ms ending

end

mutual

/-- The outline of a tree: the text of a tree has no faults. -/
def ofTree : Tree → Outline
  | .null => .null
  | .bool b => .bool b
  | .number n => .number n
  | .string s => .string s
  | .array ts => .array (ofTrees ts) .closed
  | .object ms => .object (ofMembers ms) .closed

/-- The outlines of the items of an array. -/
def ofTrees : List Tree → List Outline
  | [] => []
  | t :: ts => ofTree t :: ofTrees ts

/-- The outlines of the members of an object. -/
def ofMembers : List (String × Tree) → List (Except Fault String × Outline)
  | [] => []
  | (k, t) :: ms => (.ok k, ofTree t) :: ofMembers ms

end

end Outline

end RemoteFlags.Json
