import RemoteFlags.Json.Number
import RemoteFlags.SortedMap

/-!
# JSON as written

A `Tree` is a JSON value as it stands in a text: the members of an object are in their order, and a
name may occur more than once.  `Tree.chars` writes it without white space.

## Main definitions

* `Tree`: JSON as written.
* `Tree.text`: the text of a tree.
* `Tree.same`: equality of trees, with numbers compared as numbers.
* `Tree.Sorted`: every object lists its members by strictly increasing name.
* `Tree.normal`: the sorted tree in which the last member of a name is kept.

## Main statements

* `Tree.sorted_normal`: `Tree.normal` gives sorted trees.
* `Tree.normal_of_sorted`: sorted trees are left as they are.
-/

namespace RemoteFlags.Json

/-- JSON as written. -/
inductive Tree where
  /-- The word `null`. -/
  | null
  /-- One of the words `true` and `false`. -/
  | bool (b : Bool)
  /-- A number. -/
  | number (n : Number)
  /-- A string. -/
  | string (s : String)
  /-- An array. -/
  | array (items : List Tree)
  /-- An object. -/
  | object (members : List (String × Tree))

instance : Inhabited Tree := ⟨.null⟩

/-- A character inside a string.  Quotes, backslashes and control characters are escaped, the common
ones by a letter and the others by four hexadecimal digits. -/
def escapedChar (c : Char) : List Char :=
  if c = '"' then ['\\', '"']
  else if c = '\\' then ['\\', '\\']
  else if c = '\x08' then ['\\', 'b']
  else if c = '\t' then ['\\', 't']
  else if c = '\n' then ['\\', 'n']
  else if c = '\x0c' then ['\\', 'f']
  else if c = '\r' then ['\\', 'r']
  else if c.toNat < 0x20 then
    ['\\', 'u', '0', '0', Text.hexChar (c.toNat / 16), Text.hexChar (c.toNat % 16)]
  else [c]

/-- A string with its quotes. -/
def stringChars (s : String) : List Char := '"' :: s.toList.flatMap escapedChar ++ ['"']

namespace Tree

mutual

/-- The tree as characters, without white space. -/
def chars : Tree → List Char
  | .null => ['n', 'u', 'l', 'l']
  | .bool b => if b then ['t', 'r', 'u', 'e'] else ['f', 'a', 'l', 's', 'e']
  | .number n => n.chars
  | .string s => stringChars s
  | .array items => '[' :: itemsChars items ++ [']']
  | .object members => '\x7b' :: membersChars members ++ ['\x7d']

/-- The items of an array, with commas between them. -/
def itemsChars : List Tree → List Char
  | [] => []
  | [t] => t.chars
  | t :: ts => t.chars ++ ',' :: itemsChars ts

/-- The members of an object, with commas between them. -/
def membersChars : List (String × Tree) → List Char
  | [] => []
  | [(k, t)] => stringChars k ++ ':' :: t.chars
  | (k, t) :: ms => stringChars k ++ ':' :: (t.chars ++ ',' :: membersChars ms)

end

/-- The text of a tree, without white space. -/
def text (t : Tree) : String := String.ofList t.chars

mutual

/-- Whether two trees are equal, with numbers compared as numbers and members one by one. -/
def same : Tree → Tree → Bool
  | .null, .null => true
  | .bool a, .bool b => a == b
  | .number m, .number n => m.same n
  | .string s, .string t => s == t
  | .array l, .array l' => sameItems l l'
  | .object l, .object l' => sameMembers l l'
  | _, _ => false

/-- Whether two arrays have equal items. -/
def sameItems : List Tree → List Tree → Bool
  | [], [] => true
  | a :: l, b :: l' => a.same b && sameItems l l'
  | _, _ => false

/-- Whether two objects have equal members in the same order. -/
def sameMembers : List (String × Tree) → List (String × Tree) → Bool
  | [], [] => true
  | (k, a) :: l, (k', b) :: l' => k == k' && a.same b && sameMembers l l'
  | _, _ => false

end

mutual

/-- Every object in the tree lists its members by strictly increasing name. -/
def Sorted : Tree → Prop
  | .array items => SortedItems items
  | .object members => KeysIncreasing members ∧ SortedMembers members
  | _ => True

/-- Every item is sorted. -/
def SortedItems : List Tree → Prop
  | [] => True
  | t :: ts => t.Sorted ∧ SortedItems ts

/-- Every member is sorted. -/
def SortedMembers : List (String × Tree) → Prop
  | [] => True
  | (_, t) :: ms => t.Sorted ∧ SortedMembers ms

end

mutual

/-- The sorted tree of the same meaning: of the members with one name the last one is kept. -/
def normal : Tree → Tree
  | .array items => .array (normalItems items)
  | .object members => .object (normalMembers [] members)
  | t => t

/-- The items, each in its sorted form. -/
def normalItems : List Tree → List Tree
  | [] => []
  | t :: ts => t.normal :: normalItems ts

/-- The sorted members collected so far, with further ones put into their places. -/
def normalMembers (sofar : List (String × Tree)) : List (String × Tree) → List (String × Tree)
  | [] => sofar
  | (k, t) :: ms => normalMembers (insertSorted k t.normal sofar) ms

end

theorem sortedMembers_insertSorted {k : String} {t : Tree} {l : List (String × Tree)}
    (ht : t.Sorted) (hl : SortedMembers l) : SortedMembers (insertSorted k t l) := by
  induction l with
  | nil => exact ⟨ht, trivial⟩
  | cons e l ih =>
    obtain ⟨he, hl⟩ := hl
    unfold insertSorted
    split
    · exact ⟨ht, he, hl⟩
    · split
      · exact ⟨ht, hl⟩
      · exact ⟨he, ih hl⟩

mutual

theorem sorted_normal : ∀ t : Tree, t.normal.Sorted
  | .null => by simp [normal, Sorted]
  | .bool _ => by simp [normal, Sorted]
  | .number _ => by simp [normal, Sorted]
  | .string _ => by simp [normal, Sorted]
  | .array items => by
    simp only [normal, Sorted]
    exact sortedItems_normalItems items
  | .object members => by
    simp only [normal, Sorted]
    exact sorted_normalMembers members [] List.Pairwise.nil trivial

theorem sortedItems_normalItems : ∀ l : List Tree, SortedItems (normalItems l)
  | [] => trivial
  | t :: ts => ⟨sorted_normal t, sortedItems_normalItems ts⟩

theorem sorted_normalMembers : ∀ (l sofar : List (String × Tree)), KeysIncreasing sofar →
    SortedMembers sofar →
    KeysIncreasing (normalMembers sofar l) ∧ SortedMembers (normalMembers sofar l)
  | [], _, h, h' => ⟨h, h'⟩
  | (k, t) :: ms, _, h, h' =>
    sorted_normalMembers ms _ (keysIncreasing_insertSorted k t.normal h)
      (sortedMembers_insertSorted (sorted_normal t) h')

end

/-- A member with a larger name than all before it is put at the end. -/
theorem insertSorted_of_lt {k : String} {t : Tree} {l : List (String × Tree)}
    (h : ∀ e ∈ l, e.1 < k) : insertSorted k t l = l ++ [(k, t)] := by
  induction l with
  | nil => rfl
  | cons e l ih =>
    have he : e.1 < k := h e List.mem_cons_self
    have hne : k ≠ e.1 := fun hk => String.lt_irrefl k (hk ▸ he)
    rw [insertSorted, if_neg (String.lt_asymm he), if_neg hne,
      ih fun e' he' => h e' (List.mem_cons_of_mem e he')]
    rfl

mutual

theorem normal_of_sorted : ∀ t : Tree, t.Sorted → t.normal = t
  | .null, _ => rfl
  | .bool _, _ => rfl
  | .number _, _ => rfl
  | .string _, _ => rfl
  | .array items, h => congrArg Tree.array (normalItems_of_sorted items h)
  | .object members, h => congrArg Tree.object (normalMembers_of_sorted members [] h.1 h.2)

theorem normalItems_of_sorted : ∀ l : List Tree, SortedItems l → normalItems l = l
  | [], _ => rfl
  | t :: ts, h => by
    rw [normalItems, normal_of_sorted t h.1, normalItems_of_sorted ts h.2]

theorem normalMembers_of_sorted : ∀ l sofar : List (String × Tree), KeysIncreasing (sofar ++ l) →
    SortedMembers l → normalMembers sofar l = sofar ++ l
  | [], sofar, _, _ => (List.append_nil sofar).symm
  | (k, t) :: ms, sofar, h, h' => by
    have hlt : ∀ e ∈ sofar, e.1 < k := fun e he =>
      (List.pairwise_append.1 h).2.2 e he (k, t) List.mem_cons_self
    have happend : sofar ++ [(k, t)] ++ ms = sofar ++ (k, t) :: ms := by
      rw [List.append_assoc, List.singleton_append]
    rw [normalMembers, normal_of_sorted t h'.1, insertSorted_of_lt hlt,
      normalMembers_of_sorted ms _ (happend ▸ h) h'.2, happend]

end

end Tree

end RemoteFlags.Json
