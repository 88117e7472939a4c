import Mathlib.Data.List.Forall2
import RemoteFlags.Proofs.Flag.Record

/-!
# What the elements of a bulk answer may look like

An element of a bulk answer is a failure if it is written as one, and otherwise a success if it is
written as one.  Nothing else about it counts: neither other members, nor the order of the members
with different names.  Only its height is bounded, since it is read completely.

## Main definitions

* `Entry.fieldNames` — the names of the members that count.

## Main results

* `Failure.ofTree?_eq_some_iff`, `Success.ofTree?_eq_some_iff` — a tree is understood iff it is
  written as the grammar says.
* `Entry.ofOutline_eq_ok_iff` — an entry is read iff it is not too high and is understood.
* `Entry.decoding` — **which trees are entries and which are bulk answers.**
-/

namespace RemoteFlags

open Json Outline

/-! ### Trees as records -/

namespace Json.Tree

/-- The occurrences of the field of a record with a place and a name. -/
def field (index : Nat) (name : String) : Tree → List Tree
  | .object ms => membersNamed name ms
  | .array ts => ts[index]?.toList
  | _ => []

/-- Whether a tree is an object, or an array of at most `n` items. -/
def isRecord (n : Nat) : Tree → Bool
  | .object _ => true
  | .array ts => ts.length ≤ n
  | _ => false

end Json.Tree

@[simp] theorem membersNamed_cons_self (name : String) (t : Tree) (ms : List (String × Tree)) :
    membersNamed name ((name, t) :: ms) = t :: membersNamed name ms := by
  simp [membersNamed]

theorem membersNamed_cons_of_ne {name name' : String} (h : name' ≠ name) (t : Tree)
    (ms : List (String × Tree)) : membersNamed name ((name', t) :: ms) = membersNamed name ms := by
  simp [membersNamed, h]

theorem valuesNamed_ofMembers (name : String) (ms : List (String × Tree)) :
    valuesNamed name (ofMembers ms) = (membersNamed name ms).map ofTree := by
  induction ms with
  | nil => rfl
  | cons m ms ih =>
    obtain ⟨name', t⟩ := m
    by_cases hname : name' = name
    · subst hname
      rw [ofMembers, valuesNamed_cons_self, ih, membersNamed_cons_self, List.map_cons]
    · rw [ofMembers, valuesNamed_cons_of_ne hname, ih, membersNamed_cons_of_ne hname]

theorem ofTrees_eq_map (ts : List Tree) : ofTrees ts = ts.map ofTree := by
  induction ts with
  | nil => rfl
  | cons t ts ih => rw [ofTrees, ih, List.map_cons]

theorem field_ofTree (index : Nat) (name : String) (t : Tree) :
    (ofTree t).field index name = (t.field index name).map ofTree := by
  cases t with
  | object ms => exact valuesNamed_ofMembers name ms
  | array ts =>
    rw [ofTree, field, ofTrees_eq_map, List.getElem?_map, Tree.field]
    cases ts[index]? <;> rfl
  | _ => rfl

theorem isRecord_ofTree {n : Nat} {t : Tree} : (ofTree t).IsRecord n ↔ t.isRecord n := by
  cases t with
  | object ms => exact ⟨fun _ => rfl, fun _ => rfl⟩
  | array ts =>
    rw [ofTree, IsRecord, ofTrees_eq_map, List.length_map, Tree.isRecord, decide_eq_true_iff]
    exact and_iff_left rfl
  | _ => exact ⟨nofun, nofun⟩

/-! ### Understanding a field -/

theorem textOfTree?_eq_some_iff {t : Tree} {s : String} :
    textOfTree? t = some s ↔ IsText (ofTree t) s := by
  cases t <;> simp [textOfTree?, IsText, ofTree]

theorem mapOfTree?_eq_some_iff {t : Tree} {m : SortedMap Value} :
    mapOfTree? t = some m ↔ IsMap (ofTree t) m := by
  constructor
  · intro h
    cases t with
    | object ms => exact ⟨ms, rfl, (Option.some.inj h).symm⟩
    | _ => exact nomatch h
  · rintro ⟨ms, ht, rfl⟩
    obtain rfl := ofTree_injective ht
    rfl

/-- What the occurrences of a field that may be left out are understood as. -/
def ofOccurrences? {α : Type} (f : Tree → Option α) : List Tree → Option (Option α)
  | [] => some none
  | [t] => nullOr? f t
  | _ => none

/-- What the only occurrence of a field is understood as. -/
def ofOccurrence? {α : Type} (f : Tree → Option α) : List Tree → Option α
  | [t] => f t
  | _ => none

section

variable {α β : Type} {f : Tree → Option α} {P : Outline → α → Prop}

theorem ofOccurrences?_eq_some_iff (hf : ∀ {t a}, f t = some a ↔ P (ofTree t) a)
    (hnull : f .null = none) {ts : List Tree} {a : Option α} :
    ofOccurrences? f ts = some a ↔ Given P (ts.map ofTree) a := by
  match ts with
  | [] =>
    constructor
    · rintro ⟨⟩
      exact .missing
    · rintro ⟨⟩
      rfl
  | [t] =>
    by_cases ht : t = .null
    · subst ht
      constructor
      · rintro ⟨⟩
        exact .null
      · intro h
        cases h with
        | null => rfl
        | once h => rw [hf.mpr h] at hnull; exact nomatch hnull
    · have hsome : ofOccurrences? f [t] = (f t).map some := by
        cases t with
        | null => exact absurd rfl ht
        | _ => rfl
      rw [hsome, Option.map_eq_some_iff]
      constructor
      · rintro ⟨b, hb, rfl⟩
        exact .once (hf.mp hb)
      · intro h
        generalize ho : [t].map ofTree = os at h
        cases h with
        | missing => exact nomatch ho
        | null =>
          have hnull : ofTree t = ofTree .null := List.singleton_inj.mp ho
          exact absurd (ofTree_injective hnull) ht
        | once h => exact ⟨_, hf.mpr (List.singleton_inj.mp ho ▸ h), rfl⟩
  | t :: t' :: ts =>
    constructor
    · exact nofun
    · intro h
      have hlength := h.length_le
      simp at hlength

theorem ofOccurrence?_eq_some_iff {ts : List Tree} {a : α} :
    ofOccurrence? f ts = some a ↔ ∃ t, ts = [t] ∧ f t = some a := by
  match ts with
  | [] => exact ⟨nofun, nofun⟩
  | [t] => exact ⟨fun h => ⟨t, rfl, h⟩, fun ⟨_, ht, h⟩ => List.singleton_inj.mp ht ▸ h⟩
  | _ :: _ :: _ => exact ⟨nofun, nofun⟩

/-- Saying something else about the values of a field. -/
theorem given_map_iff {Q : Outline → β → Prop} {g : α → β}
    (hQ : ∀ {o b}, Q o b ↔ ∃ a, P o a ∧ b = g a) {os : List Outline} {b : Option β} :
    Given Q os b ↔ ∃ a, Given P os a ∧ b = a.map g := by
  constructor
  · intro h
    cases h with
    | missing => exact ⟨none, .missing, rfl⟩
    | null => exact ⟨none, .null, rfl⟩
    | once h =>
      obtain ⟨a, ha, rfl⟩ := hQ.mp h
      exact ⟨some a, .once ha, rfl⟩
  · rintro ⟨a, h, rfl⟩
    cases h with
    | missing => exact .missing
    | null => exact .null
    | once h => exact .once (hQ.mpr ⟨_, h, rfl⟩)

end

theorem texts?_eq_some_iff {ts : List Tree} {a : Option String} :
    ofOccurrences? textOfTree? ts = some a ↔ Given IsText (ts.map ofTree) a :=
  ofOccurrences?_eq_some_iff textOfTree?_eq_some_iff rfl

theorem maps?_eq_some_iff {ts : List Tree} {a : Option (SortedMap Value)} :
    ofOccurrences? mapOfTree? ts = some a ↔ Given IsMap (ts.map ofTree) a :=
  ofOccurrences?_eq_some_iff mapOfTree?_eq_some_iff rfl

/-! ### Understanding a tree -/

/-- Objects and arrays are understood alike, by the occurrences of their fields. -/
theorem Failure.ofTree?_eq (t : Tree) :
    Failure.ofTree? t = if t.isRecord 3 then do
        let key ← ofOccurrences? textOfTree? (t.field 0 "key")
        let code ← ofOccurrence? textOfTree? (t.field 1 "errorCode")
        let details ← ofOccurrences? textOfTree? (t.field 2 "errorDetails")
        return ⟨key, .ofText code, details⟩
      else none := by
  match t with
  | .object ms => rfl
  | .array [] => rfl
  | .array [_] => simp [Failure.ofTree?, Tree.isRecord, Tree.field, ofOccurrence?]
  | .array [_, _] => rfl
  | .array [_, _, _] => rfl
  | .array (_ :: _ :: _ :: _ :: _) => simp [Failure.ofTree?, Tree.isRecord]
  | .null | .bool _ | .number _ | .string _ => rfl

theorem Failure.ofTree?_eq_some_iff {t : Tree} {f : Failure} :
    Failure.ofTree? t = some f ↔ Failure.Written (ofTree t) f := by
  obtain ⟨key, code, details⟩ := f
  rw [Failure.ofTree?_eq]
  split
  · next hrecord =>
    simp only [Option.bind_eq_bind, Option.bind_eq_some_iff, Option.pure_def, Option.some.injEq,
      Failure.mk.injEq, texts?_eq_some_iff, ofOccurrence?_eq_some_iff, textOfTree?_eq_some_iff,
      ← field_ofTree]
    constructor
    · rintro ⟨key, hkey, text, ⟨c, hc, htext⟩, details, hdetails, rfl, rfl, rfl⟩
      exact {
        record := isRecord_ofTree.mpr hrecord
        key := hkey
        code := ⟨text, by rw [field_ofTree, hc, List.map_singleton, htext], rfl⟩
        details := hdetails }
    · rintro ⟨-, hkey, ⟨text, hcode, rfl⟩, hdetails⟩
      obtain ⟨c, hc, htext⟩ := List.map_eq_singleton_iff.mp (field_ofTree .. ▸ hcode)
      exact ⟨key, hkey, text, ⟨c, hc, htext⟩, details, hdetails, rfl, rfl, rfl⟩
  · next hrecord =>
    exact ⟨nofun, fun h => absurd (isRecord_ofTree.mp h.record) hrecord⟩

/-- Objects and arrays are understood alike, by the occurrences of their fields. -/
theorem Success.ofTree?_eq (t : Tree) :
    Success.ofTree? t = if t.isRecord 5 then do
        let key ← ofOccurrence? textOfTree? (t.field 0 "key")
        let reason ← ofOccurrences? textOfTree? (t.field 1 "reason")
        let variant ← ofOccurrences? textOfTree? (t.field 2 "variant")
        let value ← ofOccurrence? some (t.field 3 "value")
        let metadata ← ofOccurrences? mapOfTree? (t.field 4 "metadata")
        return ⟨key, reason.map .ofText, variant, .ofTree value, metadata⟩
      else none := by
  match t with
  | .object ms => rfl
  | .array [] => rfl
  | .array [_] | .array [_, _] | .array [_, _, _] =>
    simp [Success.ofTree?, Tree.isRecord, Tree.field, ofOccurrence?]
  | .array [_, _, _, _] => rfl
  | .array [_, _, _, _, _] => rfl
  | .array (_ :: _ :: _ :: _ :: _ :: _ :: _) => simp [Success.ofTree?, Tree.isRecord]
  | .null | .bool _ | .number _ | .string _ => rfl

theorem Success.ofTree?_eq_some_iff {t : Tree} {s : Success} :
    Success.ofTree? t = some s ↔ Success.Written (ofTree t) s := by
  obtain ⟨key, reason, variant, value, metadata⟩ := s
  rw [Success.ofTree?_eq]
  split
  · next hrecord =>
    simp only [Option.bind_eq_bind, Option.bind_eq_some_iff, Option.pure_def, Option.some.injEq,
      Success.mk.injEq, texts?_eq_some_iff, maps?_eq_some_iff, ofOccurrence?_eq_some_iff,
      textOfTree?_eq_some_iff, ← field_ofTree]
    constructor
    · rintro ⟨key, ⟨k, hk, hkey⟩, reason, hreason, variant, hvariant, value, ⟨v, hv, rfl⟩,
        metadata, hmetadata, rfl, rfl, rfl, rfl, rfl⟩
      exact {
        record := isRecord_ofTree.mpr hrecord
        key := by rw [field_ofTree, hk, List.map_singleton, hkey]
        reason := (given_map_iff Iff.rfl).mpr ⟨reason, hreason, rfl⟩
        variant := hvariant
        value := ⟨v, by rw [field_ofTree, hv, List.map_singleton], rfl⟩
        metadata := hmetadata }
    · rintro ⟨-, hkey, hreason, hvariant, ⟨v, hv, rfl⟩, hmetadata⟩
      obtain ⟨k, hk, hkey⟩ := List.map_eq_singleton_iff.mp (field_ofTree .. ▸ hkey)
      obtain ⟨v', hv', hvalue⟩ := List.map_eq_singleton_iff.mp (field_ofTree .. ▸ hv)
      obtain rfl := ofTree_injective hvalue
      obtain ⟨text, htext, rfl⟩ := (given_map_iff Iff.rfl).mp hreason
      exact ⟨key, ⟨k, hk, hkey⟩, text, htext, variant, hvariant, v', ⟨v', hv', rfl⟩,
        metadata, hmetadata, rfl, rfl, rfl, rfl, rfl⟩
  · next hrecord =>
    exact ⟨nofun, fun h => absurd (isRecord_ofTree.mp h.record) hrecord⟩

/-! ### Elements of a bulk answer -/

namespace Entry

/-- A tree that is written as a failure is one, whatever else it is written as. -/
theorem ofTree?_eq_failure_iff {t : Tree} {f : Failure} :
    ofTree? t = some (.failure f) ↔ Failure.Written (ofTree t) f := by
  rw [← Failure.ofTree?_eq_some_iff, ofTree?]
  cases hf : Failure.ofTree? t with
  | some f' => simp
  | none =>
    cases hs : Success.ofTree? t <;> simp

theorem ofTree?_eq_success_iff {t : Tree} {s : Success} :
    ofTree? t = some (.success s) ↔
      Success.Written (ofTree t) s ∧ ∀ f, ¬ Failure.Written (ofTree t) f := by
  simp only [← Success.ofTree?_eq_some_iff, ← Failure.ofTree?_eq_some_iff, ofTree?]
  cases hf : Failure.ofTree? t with
  | some f' => simp
  | none =>
    cases hs : Success.ofTree? t <;> simp

/-- An entry is read completely before it is understood, so that it must not be too high. -/
theorem ofOutline_eq_ok_iff {room : Nat} {o : Outline} {e : Entry} :
    ofOutline room o = .ok e ↔
      ∃ t, o = ofTree t ∧ t.height ≤ room - 1 ∧ ofTree? t = some e := by
  rw [ofOutline, bind_eq_ok_iff]
  simp only [toTree_eq_ok_iff, and_assoc]
  refine exists_congr fun t => and_congr_right fun _ => and_congr_right fun _ => ?_
  cases ofTree? t with
  | none =>
    constructor
    · rintro ⟨⟩
    · rintro ⟨⟩
  | some e' =>
    constructor
    · rintro ⟨⟩
      rfl
    · rintro ⟨⟩
      rfl

theorem ofOutline_ofTree {room : Nat} {t : Tree} {e : Entry} :
    ofOutline room (ofTree t) = .ok e ↔ t.height ≤ room - 1 ∧ ofTree? t = some e := by
  rw [ofOutline_eq_ok_iff]
  constructor
  · rintro ⟨t', ht, h⟩
    exact ofTree_injective ht ▸ h
  · exact fun h => ⟨t, rfl, h⟩

/-- The names of the members that count. -/
def fieldNames : List String :=
  ["key", "errorCode", "errorDetails", "reason", "variant", "value", "metadata"]

/-- Neither other members nor the order of members with different names count. -/
theorem ofTree?_congr {ms ms' : List (String × Tree)}
    (h : ∀ name ∈ fieldNames, membersNamed name ms = membersNamed name ms') :
    ofTree? (.object ms) = ofTree? (.object ms') := by
  have hneed : ∀ {α : Type} (f : Tree → Option α), ∀ name ∈ fieldNames,
      needMember? f name ms = needMember? f name ms' := fun f name hname => by
    rw [needMember?, h name hname, needMember?]
  have hmay : ∀ {α : Type} (f : Tree → Option α), ∀ name ∈ fieldNames,
      mayMember? f name ms = mayMember? f name ms' := fun f name hname => by
    rw [mayMember?, h name hname, mayMember?]
  have hfailure : Failure.ofTree? (.object ms) = Failure.ofTree? (.object ms') := by
    simp only [Failure.ofTree?, hmay _ "key" (by decide), hneed _ "errorCode" (by decide),
      hmay _ "errorDetails" (by decide)]
  have hsuccess : Success.ofTree? (.object ms) = Success.ofTree? (.object ms') := by
    simp only [Success.ofTree?, hneed _ "key" (by decide), hmay _ "reason" (by decide),
      hmay _ "variant" (by decide), hneed _ "value" (by decide), hmay _ "metadata" (by decide)]
  rw [ofTree?, hfailure, hsuccess, ofTree?]

/-! ### Bulk answers -/

theorem listOfItems_eq_ok_iff {room : Nat} {ts : List Tree} {es : List Entry} :
    listOfItems room (ofTrees ts) .closed = .ok es ↔
      List.Forall₂ (fun t e => ofOutline room (ofTree t) = .ok e) ts es := by
  induction ts generalizing es with
  | nil =>
    rw [List.forall₂_nil_left_iff]
    exact ⟨fun h => (Except.ok.inj h).symm, fun h => h ▸ rfl⟩
  | cons t ts ih =>
    rw [ofTrees, listOfItems, bind_eq_ok_iff, List.forall₂_cons_left_iff]
    constructor
    · rintro ⟨e, he, h⟩
      obtain ⟨es, hes, ⟨⟩⟩ := bind_eq_ok_iff.mp h
      exact ⟨e, es, he, ih.mp hes, rfl⟩
    · rintro ⟨e, es, he, hes, rfl⟩
      exact ⟨e, he, bind_eq_ok_iff.mpr ⟨es, ih.mpr hes, rfl⟩⟩

theorem listOfOutline_eq_ok_iff {room : Nat} {t : Tree} {es : List Entry} :
    listOfOutline room (ofTree t) = .ok es ↔
      ∃ ts, t = .array ts ∧ 2 ≤ room ∧
        List.Forall₂ (fun t e => ofOutline (room - 1) (ofTree t) = .ok e) ts es := by
  cases t with
  | array ts =>
    rw [ofTree, listOfOutline, bind_eq_ok_iff]
    constructor
    · rintro ⟨room', henter, h⟩
      obtain ⟨hroom, rfl⟩ := enter_eq_ok_iff.mp henter
      exact ⟨ts, rfl, hroom, listOfItems_eq_ok_iff.mp h⟩
    · rintro ⟨_, ⟨⟩, hroom, h⟩
      exact ⟨_, enter_eq_ok_iff.mpr ⟨hroom, rfl⟩, listOfItems_eq_ok_iff.mpr h⟩
  | _ => exact ⟨nofun, nofun⟩

/-- The list of flags is read from the only member with its name; the others are skipped. -/
theorem takeMembers_eq_ok_iff {room : Nat} {ms : List (String × Tree)}
    {flags flags' : Option (List Entry)} :
    takeMembers (takeBulk room) flags (ofMembers ms) .closed = .ok flags' ↔
      (membersNamed "flags" ms = [] ∧ flags' = flags) ∨
        flags = none ∧ ∃ t es, membersNamed "flags" ms = [t] ∧
          listOfOutline room (ofTree t) = .ok es ∧ flags' = some es := by
  -- Induction on the members, for any list that may already be there: a second one is refused.
  induction ms generalizing flags with
  | nil =>
    constructor
    · rintro ⟨⟩
      exact .inl ⟨rfl, rfl⟩
    · rintro (⟨-, rfl⟩ | ⟨-, _, _, ⟨⟩, _⟩)
      rfl
  | cons m ms ih =>
    obtain ⟨name, t⟩ := m
    rw [ofMembers, takeMembers_cons_eq_ok_iff]
    by_cases hname : name = "flags"
    · subst hname
      have htake : takeBulk room flags "flags" (ofTree t) =
          setField "flags" flags (listOfOutline room (ofTree t)) := if_pos rfl
      rw [membersNamed_cons_self, htake]
      constructor
      · rintro ⟨_, hset, hrest⟩
        obtain ⟨hempty, es, hes, rfl⟩ := setField_eq_ok_iff.mp hset
        obtain ⟨hnone, rfl⟩ | ⟨⟨⟩, -⟩ := ih.mp hrest
        exact .inr ⟨hempty, t, es, by rw [hnone], hes, rfl⟩
      · rintro (⟨⟨⟩, -⟩ | ⟨hempty, t', es, hms, hes, rfl⟩)
        obtain ⟨rfl, hnone⟩ := List.cons.inj hms
        exact ⟨some es, setField_eq_ok_iff.mpr ⟨hempty, es, hes, rfl⟩, ih.mpr (.inl ⟨hnone, rfl⟩)⟩
    · have hskip : takeBulk room flags name (ofTree t) = .ok flags := by
        rw [takeBulk, if_neg hname, skip_ofTree]
        rfl
      rw [membersNamed_cons_of_ne hname, ← ih]
      constructor
      · rintro ⟨flags₁, hstep, hrest⟩
        obtain rfl := Except.ok.inj (hskip.symm.trans hstep)
        exact hrest
      · exact fun hrest => ⟨flags, hskip, hrest⟩

/-- A bulk answer is an object whose only member that counts is the list of flags. -/
theorem bulkOfOutline_eq_ok_iff {room : Nat} {ms : List (String × Tree)} {es : List Entry} :
    bulkOfOutline room (ofTree (.object ms)) = .ok es ↔
      2 ≤ room ∧ ((membersNamed "flags" ms = [] ∧ es = []) ∨
        ∃ ts, membersNamed "flags" ms = [.array ts] ∧ 3 ≤ room ∧
          List.Forall₂ (fun t e => ofOutline (room - 2) (ofTree t) = .ok e) ts es) := by
  rw [ofTree, bulkOfOutline, bind_eq_ok_iff]
  constructor
  · rintro ⟨room', henter, h⟩
    obtain ⟨hroom, rfl⟩ := enter_eq_ok_iff.mp henter
    obtain ⟨flags, hflags, ⟨⟩⟩ := bind_eq_ok_iff.mp h
    refine ⟨hroom, ?_⟩
    obtain ⟨hnone, rfl⟩ | ⟨-, t, es, hms, hes, rfl⟩ := takeMembers_eq_ok_iff.mp hflags
    · exact .inl ⟨hnone, rfl⟩
    · obtain ⟨ts, rfl, hroom', hts⟩ := listOfOutline_eq_ok_iff.mp hes
      exact .inr ⟨ts, hms, by omega, hts⟩
  · rintro ⟨hroom, h⟩
    refine ⟨_, enter_eq_ok_iff.mpr ⟨hroom, rfl⟩, bind_eq_ok_iff.mpr ?_⟩
    obtain ⟨hnone, rfl⟩ | ⟨ts, hms, hroom', hts⟩ := h
    · exact ⟨none, takeMembers_eq_ok_iff.mpr (.inl ⟨hnone, rfl⟩), rfl⟩
    · have hes : listOfOutline (room - 1) (ofTree (.array ts)) = .ok es :=
        listOfOutline_eq_ok_iff.mpr ⟨ts, rfl, by omega, hts⟩
      exact ⟨some es, takeMembers_eq_ok_iff.mpr (.inr ⟨rfl, _, es, hms, hes, rfl⟩), rfl⟩

/-- **Which trees are entries, and which are bulk answers.**  A tree is a failure iff it is written as
one, and a success iff it is written as a success and not as a failure; it is read iff it nests at
most 127 levels and is one of the two.  Other members than the known ones do not count.  An object is
a bulk answer iff its list of flags is missing, which means the empty list, or occurs once as an array
of entries, which are kept in their order. -/
theorem decoding (t : Tree) (ms : List (String × Tree)) :
    (∀ f, ofTree? t = some (.failure f) ↔ Failure.Written (ofTree t) f) ∧
    (∀ s, ofTree? t = some (.success s) ↔
      Success.Written (ofTree t) s ∧ ∀ f, ¬ Failure.Written (ofTree t) f) ∧
    (∀ e, ofOutline nestingLimit (ofTree t) = .ok e ↔ t.height ≤ 127 ∧ ofTree? t = some e) ∧
    (∀ ms', (∀ name ∈ fieldNames, membersNamed name ms = membersNamed name ms') →
      ofTree? (.object ms) = ofTree? (.object ms')) ∧
    ∀ es, bulkOfOutline nestingLimit (ofTree (.object ms)) = .ok es ↔
      (membersNamed "flags" ms = [] ∧ es = []) ∨
        ∃ ts, membersNamed "flags" ms = [.array ts] ∧
          List.Forall₂ (fun t e => t.height ≤ 125 ∧ ofTree? t = some e) ts es := by
  refine ⟨fun f => ofTree?_eq_failure_iff, fun s => ofTree?_eq_success_iff,
    fun e => ofOutline_ofTree, fun ms' => ofTree?_congr, fun es => ?_⟩
  rw [bulkOfOutline_eq_ok_iff]
  simp only [ofOutline_ofTree, nestingLimit, Nat.reduceLeDiff, Nat.reduceSub, true_and]

/-- Arrays within arrays. -/
def nested : Nat → Tree
  | 0 => .array []
  | n + 1 => .array [nested n]

/-- An entry whose value is 127 arrays within each other. -/
def tooHigh : Tree := .object [("key", .string "a"), ("value", nested 126)]

/-- An entry that is written as a success and nests too deeply is not read. -/
theorem not_read_tooHigh :
    Success.Written (ofTree tooHigh) ⟨"a", none, none, .ofTree (nested 126), none⟩ ∧
    (∀ f, ¬ Failure.Written (ofTree tooHigh) f) ∧
    ∀ e, ofOutline nestingLimit (ofTree tooHigh) ≠ .ok e := by
  refine ⟨?_, ?_, ?_⟩
  · exact {
      record := rfl
      key := rfl
      reason := .missing
      variant := .missing
      value := ⟨nested 126, rfl, rfl⟩
      metadata := .missing }
  · intro f h
    obtain ⟨text, hcode, -⟩ := h.code
    exact nomatch hcode
  · intro e h
    exact absurd (ofOutline_ofTree.mp h).1 (by decide +kernel)

end Entry

end RemoteFlags
