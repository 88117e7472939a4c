import RemoteFlags.Context
import RemoteFlags.Proofs.Json.Record
import RemoteFlags.Proofs.Json.TreeText

/-!
# Contexts as they are written and read

A context is written as one flat object: the targeting key, if there is one, and the attributes in
their order.  If no attribute has the name of the targeting key, no double occurs and the object does
not nest too deeply, then it is read as the same context.  So the body of a request tells which of
these contexts it is about.

## Main definitions

* `Context.members c` — the members that a context is written with.
* `Context.Exact c` — nothing is lost when the context is written.

## Main results

* `Context.takeMembers_attributes` — members that are not the targeting key are attributes.
* `Context.ofOutline_toTree` — **the outline of a context is read as that context.**
* `Context.exact_requestBody_injective` — exact contexts with one request body are equal.
* `Context.read_text_of_exact` — **writing and reading.**
-/

namespace RemoteFlags

open Json Outline

namespace Context

/-! ### The members of a context -/

/-- The members that a context is written with: the targeting key comes first. -/
def members (c : Context) : List (String × Tree) :=
  (c.targetingKey.map fun k => (targetingKeyName, Tree.string k)).toList ++
    c.attributes.entries.map fun e => (e.1, e.2.tree)

variable {c : Context}

theorem toTree_eq (c : Context) : c.toTree = .object c.members := by
  unfold toTree members
  cases c.targetingKey <;> rfl

theorem map_fst_members (c : Context) :
    c.members.map Prod.fst =
      (c.targetingKey.map fun _ => targetingKeyName).toList ++ c.attributes.keys := by
  unfold members SortedMap.keys
  rw [List.map_append, List.map_map]
  cases c.targetingKey <;> rfl

/-- Unless an attribute has the name of the targeting key, no name occurs twice. -/
theorem nodup_members (h : c.attribute? targetingKeyName = none) :
    (c.members.map Prod.fst).Nodup := by
  rw [map_fst_members]
  cases c.targetingKey with
  | none => exact c.attributes.nodup_keys
  | some k =>
    exact List.nodup_cons.mpr ⟨SortedMap.get?_eq_none_iff.mp h, c.attributes.nodup_keys⟩

/-- What holds of strings and of all attributes holds of all members. -/
theorem forall_mem_members {p : Tree → Prop} (hstring : ∀ s, p (.string s))
    (h : ∀ e ∈ c.attributes.entries, p e.2.tree) : ∀ m ∈ c.members, p m.2 := by
  intro m hm
  rcases List.mem_append.mp hm with hm | hm
  · obtain ⟨k, -, rfl⟩ := Option.map_eq_some_iff.mp (Option.mem_toList.mp hm)
    exact hstring k
  · obtain ⟨e, he, rfl⟩ := List.mem_map.mp hm
    exact h e he

/-! ### Reading the members -/

/-- Members that are not the targeting key are attributes. -/
theorem takeMembers_attributes {room : Nat} {l : List (String × Json.Value)} {d : Draft}
    (hname : ∀ e ∈ l, e.1 ≠ targetingKeyName) (hheight : ∀ e ∈ l, e.2.tree.height ≤ room - 1) :
    takeMembers (Draft.take room) d (ofMembers (l.map fun e => (e.1, e.2.tree))) .closed =
      .ok { d with attributes := l.foldl (fun m e => m.insert e.1 e.2) d.attributes } := by
  -- Induction on the members, for any that have been taken in before.
  induction l generalizing d with
  | nil => rfl
  | cons e l ih =>
    obtain ⟨hname, hnames⟩ := List.forall_mem_cons.mp hname
    obtain ⟨hheight, hheights⟩ := List.forall_mem_cons.mp hheight
    have hvalue : toValue room (ofTree e.2.tree) = .ok e.2 :=
      toValue_eq_ok_iff.mpr ⟨_, rfl, hheight, Value.ofTree_tree e.2⟩
    have htake : Draft.take room d e.1 (ofTree e.2.tree) =
        .ok { d with attributes := d.attributes.insert e.1 e.2 } := by
      rw [Draft.take, if_neg hname, hvalue]
      rfl
    exact takeMembers_cons_eq_ok_iff.mpr ⟨_, htake, ih hnames hheights⟩

/-- **The outline of a context is read as that context**, unless an attribute has the name of the
targeting key. -/
theorem ofOutline_toTree {room : Nat} (h : c.attribute? targetingKeyName = none)
    (hheight : c.toTree.height ≤ room - 1) : ofOutline room (ofTree c.toTree) = .ok c := by
  rw [toTree_eq, Json.Tree.height] at hheight
  have hmembers := Tree.membersHeight_le_iff.mp (Nat.le_sub_one_of_lt hheight)
  have hattributes : ∀ e ∈ c.attributes.entries, e.2.tree.height ≤ room - 1 - 1 := fun e he =>
    hmembers (e.1, e.2.tree) (List.mem_append_right _ (List.mem_map_of_mem he))
  have hnames : ∀ e ∈ c.attributes.entries, e.1 ≠ targetingKeyName := lookupEntry_eq_none_iff.mp h
  have henter : enter room = .ok (room - 1) := enter_eq_ok_iff.mpr ⟨by omega, rfl⟩
  have htake : takeMembers (Draft.take (room - 1)) {} (ofMembers c.members) .closed =
      .ok ⟨c.targetingKey.map some, c.attributes⟩ := by
    have hrest (key : Option (Option String)) :
        takeMembers (Draft.take (room - 1)) ⟨key, ∅⟩
          (ofMembers (c.attributes.entries.map fun e => (e.1, e.2.tree))) .closed =
            .ok ⟨key, c.attributes⟩ :=
      (takeMembers_attributes hnames hattributes).trans
        (congrArg (fun m => Except.ok (Draft.mk key m)) (SortedMap.ofList_entries c.attributes))
    unfold members
    cases c.targetingKey with
    | none => exact hrest none
    | some k => exact takeMembers_cons_eq_ok_iff.mpr ⟨⟨some (some k), ∅⟩, rfl, hrest _⟩
  have hkey : (c.targetingKey.map some).join = c.targetingKey := by cases c.targetingKey <;> rfl
  rw [toTree_eq]
  exact bind_eq_ok_iff.mpr ⟨_, henter, bind_eq_ok_iff.mpr
    ⟨_, htake, congrArg (fun key => Except.ok (Context.mk key c.attributes)) hkey⟩⟩

/-! ### Contexts that lose nothing -/

/-- A context that loses nothing when it is written. -/
structure Exact (c : Context) : Prop where
  /-- No attribute has the name of the targeting key. -/
  no_clash : c.attribute? targetingKeyName = none
  /-- No attribute holds a double. -/
  float_free : ∀ e ∈ c.attributes.entries, e.2.tree.FloatFree
  /-- The object nests at most 127 levels. -/
  height_le : c.toTree.height ≤ 127

theorem Exact.floatFree_toTree (h : c.Exact) : c.toTree.FloatFree := by
  rw [toTree_eq]
  exact Tree.floatFreeMembers_iff.mpr (forall_mem_members (fun _ => trivial) h.float_free)

/-- The text of an exact context has the outline of its members. -/
theorem Exact.ofText_text (h : c.Exact) :
    Document.ofText c.text = ⟨ofTree (.object c.members), false⟩ := by
  rw [text, Document.ofText_text, written_eq_ofTree _ h.floatFree_toTree, toTree_eq]

theorem Exact.read_text (h : c.Exact) : Document.read (ofOutline nestingLimit) c.text = .ok c := by
  rw [text, Document.read_text, written_eq_ofTree _ h.floatFree_toTree]
  exact ofOutline_toTree h.no_clash h.height_le

/-- Exact contexts with one request body are equal. -/
theorem exact_requestBody_injective {d : Context} (hc : c.Exact) (hd : d.Exact)
    (h : c.requestBody = d.requestBody) : c = d := by
  -- The bodies may be one level too deep to be read, but they have one outline.
  have hbody (e : Context) (he : e.Exact) :
      Document.ofText e.requestBody = ⟨ofTree (.object [("context", e.toTree)]), false⟩ := by
    rw [requestBody, Document.ofText_text, written_eq_ofTree]
    exact Tree.floatFreeMembers_iff.mpr (List.forall_mem_singleton.mpr he.floatFree_toTree)
  have houtline := congrArg Document.root (congrArg Document.ofText h)
  rw [hbody c hc, hbody d hd] at houtline
  have htree : c.toTree = d.toTree := by
    have hmembers := Tree.object.inj (ofTree_injective houtline)
    exact congrArg Prod.snd (List.singleton_inj.mp hmembers)
  have hread := hc.read_text
  rw [text, htree] at hread
  exact Except.ok.inj (hread.symm.trans hd.read_text)

/-- **Writing and reading.**  A context in which no double and no attribute with the name of the
targeting key occurs, and that nests at most 127 levels, is written as one flat object.  Its members
are the targeting key, if there is one, and after it the attributes; no name occurs twice.  The text
is read as the same context, and so the body of a request determines the context. -/
theorem read_text_of_exact (h : c.Exact) :
    (Document.ofText c.text = ⟨.object (ofMembers c.members) .closed, false⟩ ∧
      c.members.map Prod.fst =
        (c.targetingKey.map fun _ => targetingKeyName).toList ++ c.attributes.keys ∧
      (c.members.map Prod.fst).Nodup ∧
      (targetingKeyName ∈ c.members.map Prod.fst ↔ c.targetingKey.isSome)) ∧
    Document.read (ofOutline nestingLimit) c.text = .ok c ∧
    ∀ d : Context, d.Exact → d.requestBody = c.requestBody → d = c := by
  refine ⟨⟨h.ofText_text, map_fst_members c, nodup_members h.no_clash, ?_⟩, h.read_text,
    fun d hd hbody => exact_requestBody_injective hd h hbody⟩
  have habsent := SortedMap.get?_eq_none_iff.mp h.no_clash
  rw [map_fst_members]
  cases c.targetingKey with
  | none => exact ⟨fun hm => absurd hm habsent, nofun⟩
  | some k => exact ⟨fun _ => rfl, fun _ => List.mem_cons_self⟩

/-- A context with a quote and a line break in its key, and with attributes of all kinds. -/
def quoted : Context where
  targetingKey := some "a\"\n"
  attributes :=
    { entries :=
        [("list", ⟨.array [.number (.int (2 ^ 64 - 1) (by decide)), .object [("", .bool false)]],
          ⟨trivial, ⟨List.pairwise_singleton _ _, trivial, trivial⟩, trivial⟩⟩), ("none", .null)]
      increasing := by decide }

/-- That context is read as it was, and it differs from the same one without its key. -/
theorem read_text_quoted :
    quoted.Exact ∧ Document.read (ofOutline nestingLimit) quoted.text = .ok quoted ∧
      requestBody ⟨none, quoted.attributes⟩ ≠ quoted.requestBody := by
  have hfree : ∀ e ∈ quoted.attributes.entries, e.2.tree.FloatFree := by
    simp [quoted, Tree.FloatFree, Tree.FloatFreeItems, Tree.FloatFreeMembers, Json.Value.null]
  have hexact : quoted.Exact := ⟨rfl, hfree, by decide⟩
  have hkeyless : Exact ⟨none, quoted.attributes⟩ := ⟨rfl, hfree, by decide⟩
  obtain ⟨-, hread, hbody⟩ := read_text_of_exact hexact
  exact ⟨hexact, hread, fun h =>
    Option.some_ne_none _ (congrArg targetingKey (hbody _ hkeyless h)).symm⟩

end Context

end RemoteFlags
