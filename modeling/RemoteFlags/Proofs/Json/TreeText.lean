import Mathlib.Tactic.IntervalCases
import RemoteFlags.Proofs.Json.NumberText

/-!
# Trees as they are written

The text of a tree is scanned without a fault, and nothing of it is left over.  Words, strings, arrays
and objects are found as they are in the tree.  A number is found as the numeral that it is written
as: an integer as itself, a double as the number that its shortest digits are read as.

## Main definitions

* `Outline.written t` — the outline of the text of a tree.
* `Tree.FloatFree t` — no number in a tree is a double.

## Main results

* `Outline.literal_of_stringChars` — a string is scanned as it is written.
* `Outline.value_chars` — **a tree is scanned as it is written.**
* `Document.ofText_text` — the text of a tree holds one value, and nothing follows it.
* `Outline.written_eq_ofTree` — without doubles the outline is that of the tree.
-/

namespace RemoteFlags.Json

namespace Outline

/-! ### Strings -/

section

variable {acc rest : List Char}

theorem literal_quote : literal none acc ('"' :: rest) = .closed (.ok (String.ofList acc.reverse)) rest :=
  rfl

/-- A backslash and a letter. -/
theorem literal_escaped {c c' : Char} (h : escaped? c = some c') :
    literal none acc ('\\' :: c :: rest) = literal none (c' :: acc) rest := by
  have hu : c ≠ 'u' := by
    rintro rfl
    exact nomatch h
  rw [literal, h]
  · exact fun _ _ _ _ _ hc => absurd hc hu
  · exact hu

/-- A backslash and four hexadecimal digits. -/
theorem literal_unicode {a b c d : Char} {n : Nat} (h : hex? a b c d = some n)
    (hn : n < 0xD800) :
    literal none acc ('\\' :: 'u' :: a :: b :: c :: d :: rest) =
      literal none (Char.ofNat n :: acc) rest := by
  have htrailing : isTrailing n = false := by simp [isTrailing]; omega
  have hleading : isLeading n = false := by simp [isLeading]; omega
  rw [literal]
  simp [h, htrailing, hleading]

/-- A character that stands for itself. -/
theorem literal_plain {c : Char} (hquote : c ≠ '"') (hslash : c ≠ '\\') (hc : ¬ c.toNat < 0x20) :
    literal none acc (c :: rest) = literal none (c :: acc) rest := by
  rw [literal, if_neg hc]
  · exact hquote
  · exact fun _ _ _ _ _ h => absurd h hslash
  · exact fun _ h => absurd h hslash
  · exact fun h => absurd h hslash
  · exact fun _ _ h => absurd h hslash

/-- A character is scanned as it is written. -/
theorem literal_escapedChar (c : Char) :
    literal none acc (escapedChar c ++ rest) = literal none (c :: acc) rest := by
  have hhex : ∀ n < 0x20, hex? '0' '0' (Text.hexChar (n / 16)) (Text.hexChar (n % 16)) = some n := by
    decide
  unfold escapedChar
  -- Seven characters are escaped by a letter.
  iterate 7
    split
    · next h =>
      subst h
      exact literal_escaped rfl
  split
  · next h =>
    refine (literal_unicode (hhex c.toNat h) (by omega)).trans ?_
    rw [Char.ofNat_toNat]
    rfl
  · next hquote hslash _ _ _ _ _ hc => exact literal_plain hquote hslash hc

theorem literal_flatMap (cs : List Char) :
    literal none acc (cs.flatMap escapedChar ++ '"' :: rest) =
      .closed (.ok (String.ofList (acc.reverse ++ cs))) rest := by
  -- Induction on the characters, for any that have been read before.
  induction cs generalizing acc with
  | nil => rw [List.flatMap_nil, List.nil_append, literal_quote, List.append_nil]
  | cons c cs ih =>
    rw [List.flatMap_cons, List.append_assoc, literal_escapedChar, ih, List.reverse_cons,
      List.append_assoc]
    rfl

/-- A string is scanned as it is written. -/
theorem literal_of_stringChars {s : String} {cs : List Char} (h : stringChars s = '"' :: cs) :
    literal none [] (cs ++ rest) = .closed (.ok s) rest := by
  have hcs : cs = s.toList.flatMap escapedChar ++ ['"'] := (List.cons.inj h).2.symm
  rw [hcs, List.append_assoc, List.singleton_append, literal_flatMap, List.reverse_nil,
    List.nil_append, String.ofList_toList]

theorem exists_stringChars (s : String) : ∃ cs, stringChars s = '"' :: cs := ⟨_, rfl⟩

end

/-! ### Words and numbers -/

variable {fuel : Nat} {rest : List Char}

/-- A value that starts with a character other than a gap. -/
theorem skipGap_cons {c : Char} (h : isGap c = false) (cs : List Char) :
    skipGap (c :: cs) = c :: cs := by
  rw [skipGap, List.dropWhile_cons, h]
  rfl

theorem value_digit {d : Nat} (h : d < 10) (cs : List Char) :
    value (fuel + 1) (Nat.digitChar d :: cs) = readNumber false (Nat.digitChar d :: cs) := by
  interval_cases d <;> rfl

/-- A numeral is scanned as it is written. -/
theorem value_numeral {n : Numeral} (hn : n.Proper) (hends : Ends rest) :
    value (fuel + 1) (n.chars ++ rest) = (ofNumeral n, some rest) := by
  have hread := readNumber_unsigned hn hends
  rw [Numeral.chars]
  cases hneg : n.negative with
  | true =>
    rw [hneg] at hread
    exact hread
  | false =>
    rw [hneg] at hread
    obtain ⟨d, ds, hwhole⟩ := List.exists_cons_of_ne_nil hn.whole_ne_nil
    have hd : d < 10 := hn.whole_lt d (hwhole ▸ List.mem_cons_self)
    rw [Numeral.unsigned, hwhole] at hread ⊢
    exact (value_digit hd _).trans hread

/-! ### Items and members -/

/-- A text starts with a value: with no gap, and with no bracket that closes an array. -/
def Starts (cs : List Char) : Prop := ∃ c cs', cs = c :: cs' ∧ isGap c = false ∧ c ≠ ']'

section

variable {cs rest' : List Char} {o : Outline}

theorem value_array {os : List Outline} {ending : Ending} {r : Rest} (hstarts : Starts cs)
    (hitems : items fuel cs = (os, ending, r)) :
    value (fuel + 1) ('[' :: cs) = (.array os ending, r) := by
  obtain ⟨c, cs', rfl, hgap, hc⟩ := hstarts
  have hopen : skipGap ('[' :: c :: cs') = '[' :: c :: cs' := skipGap_cons rfl _
  rw [value]
  simp only [hopen, skipGap_cons hgap]
  split
  · next heq => exact nomatch heq
  · next heq => exact absurd (List.cons.inj heq).1 hc
  · rw [hitems]

theorem value_object {ms : List (Except Fault String × Outline)} {ending : Ending} {r : Rest}
    (hmembers : members fuel cs = (ms, ending, r)) :
    value (fuel + 1) ('\x7b' :: '"' :: cs) = (.object ms ending, r) := by
  have hopen : skipGap ('\x7b' :: '"' :: cs) = '\x7b' :: '"' :: cs := skipGap_cons rfl _
  have hquote : skipGap ('"' :: cs) = '"' :: cs := skipGap_cons rfl _
  rw [value]
  simp only [hopen, hquote, hmembers]

theorem items_last (h : value fuel cs = (o, some (']' :: rest))) :
    items (fuel + 1) cs = ([o], .closed, some rest) := by
  rw [items, h]
  rfl

theorem items_more {os : List Outline} {ending : Ending} {r : Rest}
    (h : value fuel cs = (o, some (',' :: rest'))) (hstarts : Starts rest')
    (hitems : items fuel rest' = (os, ending, r)) :
    items (fuel + 1) cs = (o :: os, ending, r) := by
  obtain ⟨c, cs', rfl, hgap, hc⟩ := hstarts
  have hcomma : skipGap (',' :: c :: cs') = ',' :: c :: cs' := skipGap_cons rfl _
  rw [items, h]
  simp only [hcomma, skipGap_cons hgap]
  split
  · next heq => exact nomatch heq
  · next heq => exact absurd (List.cons.inj heq).1 hc
  · rw [hitems]

theorem members_last {name : String} (hname : literal none [] cs = .closed (.ok name) (':' :: rest'))
    (h : value fuel rest' = (o, some ('\x7d' :: rest))) :
    members (fuel + 1) cs = ([(.ok name, o)], .closed, some rest) := by
  have hcolon : skipGap (':' :: rest') = ':' :: rest' := skipGap_cons rfl _
  rw [members, hname]
  simp only [hcolon, h]
  rfl

theorem members_more {name : String} {rest'' : List Char}
    {ms : List (Except Fault String × Outline)} {ending : Ending} {r : Rest}
    (hname : literal none [] cs = .closed (.ok name) (':' :: rest'))
    (h : value fuel rest' = (o, some (',' :: '"' :: rest'')))
    (hmembers : members fuel rest'' = (ms, ending, r)) :
    members (fuel + 1) cs = ((.ok name, o) :: ms, ending, r) := by
  have hcolon : skipGap (':' :: rest') = ':' :: rest' := skipGap_cons rfl _
  have hcomma : skipGap (',' :: '"' :: rest'') = ',' :: '"' :: rest'' := skipGap_cons rfl _
  have hquote : skipGap ('"' :: rest'') = '"' :: rest'' := skipGap_cons rfl _
  rw [members, hname]
  simp only [hcolon, h, hcomma, hquote, hmembers]

end

/-! ### Trees -/

mutual

/-- The outline of the text of a tree. -/
def written : Tree → Outline
  | .null => .null
  | .bool b => .bool b
  | .number n => ofNumeral n.numeral
  | .string s => .string s
  | .array ts => .array (writtenItems ts) .closed
  | .object ms => .object (writtenMembers ms) .closed

/-- The outlines of the items of an array. -/
def writtenItems : List Tree → List Outline
  | [] => []
  | t :: ts => written t :: writtenItems ts

/-- The outlines of the members of an object. -/
def writtenMembers : List (String × Tree) → List (Except Fault String × Outline)
  | [] => []
  | (k, t) :: ms => (.ok k, written t) :: writtenMembers ms

end

/-- The text of a tree starts with a value, whatever follows. -/
theorem starts_chars (t : Tree) (rest : List Char) : Starts (t.chars ++ rest) := by
  cases t with
  | number n =>
    rw [Tree.chars, n.chars_eq, Numeral.chars]
    cases n.numeral.negative with
    | true => exact ⟨'-', _, rfl, rfl, by decide⟩
    | false =>
      obtain ⟨d, ds, hwhole⟩ := List.exists_cons_of_ne_nil n.proper_numeral.whole_ne_nil
      have hd : d < 10 := n.proper_numeral.whole_lt d (hwhole ▸ List.mem_cons_self)
      rw [Numeral.unsigned, hwhole]
      refine ⟨Nat.digitChar d, _, rfl, ?_, ?_⟩
      · interval_cases d <;> rfl
      · interval_cases d <;> decide
  | bool b => cases b <;> exact ⟨_, _, rfl, rfl, by decide⟩
  | _ => exact ⟨_, _, rfl, rfl, by decide⟩

theorem itemsChars_cons_cons (t t' : Tree) (ts : List Tree) :
    Tree.itemsChars (t :: t' :: ts) = t.chars ++ ',' :: Tree.itemsChars (t' :: ts) := rfl

theorem membersChars_cons_cons (k : String) (t : Tree) (m : String × Tree)
    (ms : List (String × Tree)) : Tree.membersChars ((k, t) :: m :: ms) =
      stringChars k ++ ':' :: (t.chars ++ ',' :: Tree.membersChars (m :: ms)) := rfl

/-- The items of an array start with a value, whatever follows. -/
theorem starts_itemsChars (t : Tree) (ts : List Tree) (rest : List Char) :
    Starts (Tree.itemsChars (t :: ts) ++ rest) := by
  cases ts with
  | nil => exact starts_chars t rest
  | cons t' ts =>
    rw [itemsChars_cons_cons, List.append_assoc]
    exact starts_chars t _

/-- The members of an object start with a quote. -/
theorem exists_membersChars (m : String × Tree) (ms : List (String × Tree)) :
    ∃ cs, Tree.membersChars (m :: ms) = '"' :: cs := by
  cases ms with
  | nil => exact ⟨_, rfl⟩
  | cons m' ms => exact ⟨_, rfl⟩

theorem length_chars_pos (t : Tree) : 0 < t.chars.length := by
  obtain ⟨c, cs, h, -⟩ := starts_chars t []
  rw [List.append_nil] at h
  rw [h]
  exact Nat.succ_pos _

mutual

/-- **A tree is scanned as it is written.** -/
theorem value_chars : ∀ (t : Tree) {fuel : Nat} {rest : List Char}, 2 * t.chars.length ≤ fuel →
    Ends rest → value fuel (t.chars ++ rest) = (written t, some rest)
  | .null, fuel + 1, _, _, _ => rfl
  | .bool true, fuel + 1, _, _, _ => rfl
  | .bool false, fuel + 1, _, _, _ => rfl
  | .number n, fuel + 1, rest, _, hends => by
    rw [Tree.chars, n.chars_eq]
    exact value_numeral n.proper_numeral hends
  | .string s, fuel + 1, rest, _, _ => by
    obtain ⟨cs, hcs⟩ := exists_stringChars s
    have hread : value (fuel + 1) ('"' :: (cs ++ rest)) = readString (cs ++ rest) := rfl
    rw [Tree.chars, hcs, List.cons_append, hread, readString, literal_of_stringChars hcs]
    rfl
  | .array [], fuel + 1, rest, _, _ => rfl
  | .array (t :: ts), fuel + 1, rest, h, _ => by
    rw [Tree.chars, List.length_append, List.length_cons] at h
    rw [Tree.chars, List.cons_append, List.cons_append, List.append_assoc, List.singleton_append]
    exact value_array (starts_itemsChars t ts _) (items_itemsChars t ts (by omega))
  | .object [], fuel + 1, rest, _, _ => rfl
  | .object ((k, t) :: ms), fuel + 1, rest, h, _ => by
    rw [Tree.chars, List.length_append, List.length_cons] at h
    rw [Tree.chars, List.cons_append, List.cons_append, List.append_assoc, List.singleton_append]
    obtain ⟨cs, hcs⟩ := exists_membersChars (k, t) ms
    rw [hcs, List.cons_append]
    exact value_object (members_membersChars k t ms hcs (by omega))
  | t, 0, _, h, _ => absurd (length_chars_pos t) (by omega)

/-- The items of an array are scanned as they are written. -/
theorem items_itemsChars : ∀ (t : Tree) (ts : List Tree) {fuel : Nat} {rest : List Char},
    2 * (Tree.itemsChars (t :: ts)).length + 1 ≤ fuel →
    items fuel (Tree.itemsChars (t :: ts) ++ ']' :: rest) =
      (writtenItems (t :: ts), .closed, some rest)
  | t, [], fuel + 1, rest, h => by
    rw [Tree.itemsChars] at h
    exact items_last (value_chars t (by omega) (ends_cons (.inr (.inl rfl)) rest))
  | t, t' :: ts, fuel + 1, rest, h => by
    rw [itemsChars_cons_cons, List.length_append, List.length_cons] at h
    rw [itemsChars_cons_cons, List.append_assoc, List.cons_append]
    have hvalue : value fuel (t.chars ++ ',' :: (Tree.itemsChars (t' :: ts) ++ ']' :: rest)) =
        (written t, some (',' :: (Tree.itemsChars (t' :: ts) ++ ']' :: rest))) :=
      value_chars t (by omega) (ends_cons (.inl rfl) _)
    exact items_more hvalue (starts_itemsChars t' ts _) (items_itemsChars t' ts (by omega))

/-- The members of an object are scanned as they are written. -/
theorem members_membersChars : ∀ (k : String) (t : Tree) (ms : List (String × Tree)) {fuel : Nat}
    {cs rest : List Char}, Tree.membersChars ((k, t) :: ms) = '"' :: cs →
    2 * (Tree.membersChars ((k, t) :: ms)).length ≤ fuel →
    members fuel (cs ++ '\x7d' :: rest) = (writtenMembers ((k, t) :: ms), .closed, some rest)
  | k, t, [], fuel + 1, cs, rest, hcs, h => by
    obtain ⟨name, hname⟩ := exists_stringChars k
    rw [Tree.membersChars, hname, List.cons_append] at hcs h
    obtain rfl := (List.cons.inj hcs).2
    rw [List.length_cons, List.length_append, List.length_cons] at h
    rw [List.append_assoc, List.cons_append]
    exact members_last (literal_of_stringChars hname)
      (value_chars t (by omega) (ends_cons (.inr (.inr rfl)) rest))
  | k, t, (k', t') :: ms, fuel + 1, cs, rest, hcs, h => by
    obtain ⟨name, hname⟩ := exists_stringChars k
    obtain ⟨cs', hcs'⟩ := exists_membersChars (k', t') ms
    rw [membersChars_cons_cons, hname, List.cons_append] at hcs h
    obtain rfl := (List.cons.inj hcs).2
    rw [List.length_cons, List.length_append, List.length_cons, List.length_append,
      List.length_cons] at h
    rw [hcs', List.append_assoc, List.cons_append, List.append_assoc, List.cons_append,
      List.cons_append]
    exact members_more (literal_of_stringChars hname)
      (value_chars t (by omega) (ends_cons (.inl rfl) _))
      (members_membersChars k' t' ms hcs' (by omega))
  | k, t, ms, 0, cs, rest, hcs, h => by
    rw [hcs, List.length_cons] at h
    omega

end

end Outline

/-- The text of a tree holds one value, and nothing follows it. -/
theorem Document.ofText_text (t : Tree) : Document.ofText t.text = ⟨Outline.written t, false⟩ := by
  have hvalue : Outline.value (2 * t.chars.length + 2) (t.chars ++ []) =
      (Outline.written t, some []) := Outline.value_chars t (by omega) ends_nil
  rw [List.append_nil] at hvalue
  rw [Document.ofText, Tree.text, String.toList_ofList, Outline.ofChars, hvalue]
  rfl

theorem Document.read_text {α : Type} (f : Outline → Except Error α) (t : Tree) :
    Document.read f t.text = f (Outline.written t) := by
  rw [Document.read, ofText_text]
  cases f (Outline.written t) <;> rfl

/-! ### Trees without doubles -/

namespace Tree

mutual

/-- No number in a tree is a double. -/
def FloatFree : Tree → Prop
  | .number (.float _) => False
  | .array ts => FloatFreeItems ts
  | .object ms => FloatFreeMembers ms
  | _ => True

/-- No number in any of some items is a double. -/
def FloatFreeItems : List Tree → Prop
  | [] => True
  | t :: ts => t.FloatFree ∧ FloatFreeItems ts

/-- No number in the values of some members is a double. -/
def FloatFreeMembers : List (String × Tree) → Prop
  | [] => True
  | (_, t) :: ms => t.FloatFree ∧ FloatFreeMembers ms

end

theorem floatFreeMembers_iff {ms : List (String × Tree)} :
    FloatFreeMembers ms ↔ ∀ m ∈ ms, m.2.FloatFree := by
  induction ms with
  | nil => simp [FloatFreeMembers]
  | cons m ms ih => rw [FloatFreeMembers, ih, List.forall_mem_cons]

end Tree

namespace Outline

mutual

/-- Without doubles a tree is found as it is. -/
theorem written_eq_ofTree : ∀ t : Tree, t.FloatFree → written t = ofTree t
  | .null, _ => rfl
  | .bool _, _ => rfl
  | .number (.int n fits), _ => by
    rw [written, ofNumeral, Number.toNumber?_numeral_int]
    rfl
  | .string _, _ => rfl
  | .array ts, h => by rw [written, ofTree, writtenItems_eq_ofTrees ts h]
  | .object ms, h => by rw [written, ofTree, writtenMembers_eq_ofMembers ms h]

theorem writtenItems_eq_ofTrees : ∀ ts : List Tree, Tree.FloatFreeItems ts →
    writtenItems ts = ofTrees ts
  | [], _ => rfl
  | t :: ts, h => by
    rw [writtenItems, ofTrees, written_eq_ofTree t h.1, writtenItems_eq_ofTrees ts h.2]

theorem writtenMembers_eq_ofMembers : ∀ ms : List (String × Tree), Tree.FloatFreeMembers ms →
    writtenMembers ms = ofMembers ms
  | [], _ => rfl
  | (_, t) :: ms, h => by
    rw [writtenMembers, ofMembers, written_eq_ofTree t h.1, writtenMembers_eq_ofMembers ms h.2]

end

end Outline

end RemoteFlags.Json
