import RemoteFlags.Json.Tree

/-!
# JSON values

A `Value` is a tree whose objects list their members by strictly increasing name.  This is what is
left of a text once it is read: the last of several members with one name counts, and their order
does not.

## Main definitions

* `Value`: a sorted tree.
* `Value.ofTree`: the value that a tree stands for.
* `Value.text`: its text, `Value.same`: equality.

## Main statements

* `Value.ofTree_tree`: the tree of a value stands for it.
-/

namespace RemoteFlags.Json

/-- A JSON value. -/
structure Value where
  /-- The value as a tree. -/
  tree : Tree
  /-- Objects list their members by strictly increasing name. -/
  sorted : tree.Sorted

namespace Value

/-- The value that a tree stands for: of several members with one name the last one counts. -/
def ofTree (t : Tree) : Value := ⟨t.normal, t.sorted_normal⟩

/-- The tree of a value stands for it. -/
@[simp] theorem ofTree_tree (v : Value) : ofTree v.tree = v := by
  obtain ⟨t, ht⟩ := v
  simp only [ofTree, t.normal_of_sorted ht]

/-- The word `null` as a value. -/
def null : Value := ⟨.null, trivial⟩

instance : Inhabited Value := ⟨null⟩

/-- A text as a value. -/
def string (s : String) : Value := ⟨.string s, trivial⟩

@[simp] theorem string_inj {s s' : String} : string s = string s' ↔ s = s' :=
  ⟨fun h => Tree.string.inj (congrArg tree h), congrArg string⟩

/-- The text of a value, without white space. -/
def text (v : Value) : String := v.tree.text

/-- Whether two values are equal, with numbers compared as numbers. -/
def same (v w : Value) : Bool := v.tree.same w.tree

/-- The object whose members are the entries of a map, as a text. -/
def mapText (m : SortedMap Value) : String :=
  (Tree.object (m.entries.map fun e => (e.1, e.2.tree))).text

/-- Whether the value is an array or an object. -/
def isCompound (v : Value) : Bool :=
  match v.tree with
  | .array _ => true
  | .object _ => true
  | _ => false

end Value

end RemoteFlags.Json
