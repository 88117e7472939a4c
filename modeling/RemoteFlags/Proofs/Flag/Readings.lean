import RemoteFlags.Proofs.Flag.Grammar

/-!
# One value in two kinds of answers

What a server says about a flag is read as a whole answer, or as an element of a bulk answer.  A whole
answer to a successful request is read as a success, whatever other members it has.  An element is
read completely, and it is a failure as soon as it can be understood as one.  So the two readings
agree on all successes but those that report an error besides, and those that cannot be read
completely.

## Main definitions

* `ReportsError o code details` — an object tells an error, whatever else it tells.

## Main results

* `Success.Written.failure_iff` — when a success is written as a failure too.
* `Entry.ofOutline_of_success` — **what a success is as an element of a bulk answer.**
* `Entry.not_success_of_success` — successes that are no successes there.
-/

namespace RemoteFlags

open Json Outline

/-- An object tells an error code, once and as a string, and at most one description of the error. -/
def ReportsError (o : Outline) (code : String) (details : Option String) : Prop :=
  ∃ ms ending, o = .object ms ending ∧ valuesNamed "errorCode" ms = [.string code] ∧
    Given IsText (valuesNamed "errorDetails" ms) details

theorem Json.Outline.Given.eq_of_isText {text : String} {a : Option String}
    (h : Given IsText [.string text] a) : a = some text := by
  cases h with
  | once h => exact congrArg some (Outline.string.inj h).symm

/-- A success that is written as a failure too is an object that reports an error: an array of four or
five items is too long for a failure. -/
theorem Success.Written.failure_iff {o : Outline} {s : Success} (h : Success.Written o s)
    {f : Failure} :
    Failure.Written o f ↔
      ∃ code details, ReportsError o code details ∧ f = ⟨some s.key, .ofText code, details⟩ := by
  constructor
  · rintro ⟨hrecord, hkey, ⟨code, hcode, hf⟩, hdetails⟩
    cases o with
    | object ms ending =>
      have hkeys : valuesNamed "key" ms = [.string s.key] := h.key
      have hname : f.key = some s.key := Given.eq_of_isText (hkeys ▸ hkey)
      refine ⟨code, f.details, ⟨ms, ending, rfl, hcode, hdetails⟩, ?_⟩
      rw [← hname, ← hf]
    | array os ending =>
      obtain ⟨t, hvalue, -⟩ := h.value
      have hlong : 3 < os.length := by
        by_contra hshort
        have hnone : os[3]? = none := List.getElem?_eq_none (Nat.not_lt.mp hshort)
        rw [field, hnone] at hvalue
        cases hvalue
      exact absurd hrecord.1 (Nat.not_le.mpr hlong)
    | _ => exact hrecord.elim
  · rintro ⟨code, details, ⟨ms, ending, rfl, hcode, hdetails⟩, rfl⟩
    have hkeys : valuesNamed "key" ms = [.string s.key] := h.key
    have hkey : Given IsText (valuesNamed "key" ms) (some s.key) := hkeys ▸ .once rfl
    exact { record := h.record, key := hkey, code := ⟨code, hcode, rfl⟩, details := hdetails }

namespace Entry

/-- What is written as a success is, in a bulk answer, the failure that it reports, or else that
success. -/
theorem ofTree?_of_written {t : Tree} {s : Success} (h : Success.Written (ofTree t) s) {e : Entry} :
    ofTree? t = some e ↔
      (∃ code details, ReportsError (ofTree t) code details ∧
        e = .failure ⟨some s.key, .ofText code, details⟩) ∨
      (∀ code details, ¬ ReportsError (ofTree t) code details) ∧ e = .success s := by
  cases e with
  | failure f =>
    rw [ofTree?_eq_failure_iff, h.failure_iff]
    simp
  | success s' =>
    have hnone : (∀ f, ¬ Failure.Written (ofTree t) f) ↔
        ∀ code details, ¬ ReportsError (ofTree t) code details := by
      simp only [h.failure_iff, not_exists, not_and]
      exact ⟨fun hf code details hr => hf _ code details hr rfl,
        fun hr _ code details h _ => hr code details h⟩
    rw [ofTree?_eq_success_iff, hnone]
    constructor
    · rintro ⟨hs', hr⟩
      have hsame : some s' = some s := by
        rw [← Success.ofTree?_eq_some_iff.mpr hs', ← Success.ofTree?_eq_some_iff.mpr h]
      exact .inr ⟨hr, congrArg success (Option.some.inj hsame)⟩
    · rintro (⟨_, _, _, ⟨⟩⟩ | ⟨hr, ⟨⟩⟩)
      exact ⟨h, hr⟩

/-- The entries of a list are those of its items. -/
theorem getElem?_of_listOfItems {room : Nat} {os : List Outline} {ending : Ending} {es : List Entry}
    (h : listOfItems room os ending = .ok es) {i : Nat} {o : Outline} (ho : os[i]? = some o) :
    ∃ e, es[i]? = some e ∧ ofOutline room o = .ok e := by
  induction os generalizing es i with
  | nil => exact nomatch ho
  | cons o' os ih =>
    obtain ⟨e, he, h⟩ := bind_eq_ok_iff.mp h
    obtain ⟨es', hes, ⟨⟩⟩ := bind_eq_ok_iff.mp h
    cases i with
    | zero =>
      obtain rfl := Option.some.inj ho
      exact ⟨e, rfl, he⟩
    | succ i => exact ih hes ho

/-! ### Successes with one more member -/

/-- The success of a flag that is on. -/
def flagOn : Success := ⟨"a", none, none, ⟨.bool true, trivial⟩, none⟩

/-- The same as it is written, with one more member. -/
def flagOnWith (name : String) (t : Tree) : Tree :=
  .object [("key", .string "a"), ("value", .bool true), (name, t)]

/-- One more member makes no difference to a whole answer. -/
theorem ofOutline_flagOnWith {name : String}
    (hname : name ∉ ["key", "reason", "variant", "value", "metadata"]) (t : Tree) :
    Success.ofOutline nestingLimit (ofTree (flagOnWith name t)) = .ok flagOn := by
  have htake : ∀ room (d : Success.Draft), Success.Draft.take room d name (ofTree t) = .ok d := by
    intro room d
    simp only [List.mem_cons, List.not_mem_nil, or_false, not_or] at hname
    obtain ⟨hkey, hreason, hvariant, hvalue, hmetadata⟩ := hname
    rw [Success.Draft.take, if_neg hkey, if_neg hreason, if_neg hvariant, if_neg hvalue,
      if_neg hmetadata, skip_ofTree]
    rfl
  have hrest : ∀ room (d : Success.Draft),
      takeMembers (Success.Draft.take room) d (ofMembers [(name, t)]) .closed = .ok d :=
    fun room d => takeMembers_cons_eq_ok_iff.mpr ⟨d, htake room d, rfl⟩
  exact bind_eq_ok_iff.mpr ⟨127, rfl, bind_eq_ok_iff.mpr ⟨_, takeMembers_cons_eq_ok_iff.mpr
    ⟨_, rfl, takeMembers_cons_eq_ok_iff.mpr ⟨_, rfl, hrest 127 _⟩⟩, rfl⟩⟩

/-- The flag that is on, with an error code. -/
def flagOnWithError : Tree := flagOnWith "errorCode" (.string "GENERAL")

/-- The flag that is on, with 127 arrays within each other in a member that does not count. -/
def flagOnWithNesting : Tree := flagOnWith "note" (nested 126)

/-! ### The two readings -/

/-- **What a success is as an element of a bulk answer.**  Whatever is read as a success, when it is
the whole answer, is an entry iff it can be read completely.  It is then the failure that it reports,
with the key of the success, if it reports one, and otherwise the same success.  This goes for a value
on its own and for every item of a list of flags. -/
theorem ofOutline_of_success {o : Outline} {s : Success}
    (h : Success.ofOutline nestingLimit o = .ok s) :
    (∀ room e, ofOutline room o = .ok e ↔ (∃ t, o.toTree room = .ok t) ∧
      ((∃ code details, ReportsError o code details ∧
          e = .failure ⟨some s.key, .ofText code, details⟩) ∨
        (∀ code details, ¬ ReportsError o code details) ∧ e = .success s)) ∧
    ∀ room (os : List Outline) ending (es : List Entry) (i : Nat),
      listOfOutline room (.array os ending) = .ok es → os[i]? = some o →
        ∃ e, es[i]? = some e ∧ ofOutline (room - 1) o = .ok e := by
  have hwritten := Success.written_of_ofOutline h
  refine ⟨fun room e => ?_, fun room os ending es i hlist ho => ?_⟩
  · rw [ofOutline_eq_ok_iff]
    constructor
    · rintro ⟨t, rfl, hheight, he⟩
      exact ⟨⟨t, toTree_ofTree hheight⟩, (ofTree?_of_written hwritten).mp he⟩
    · rintro ⟨⟨t, ht⟩, he⟩
      obtain ⟨rfl, hheight⟩ := toTree_eq_ok_iff.mp ht
      exact ⟨t, rfl, hheight, (ofTree?_of_written hwritten).mpr he⟩
  · obtain ⟨room', henter, hitems⟩ := bind_eq_ok_iff.mp hlist
    obtain ⟨-, rfl⟩ := enter_eq_ok_iff.mp henter
    exact getElem?_of_listOfItems hitems ho

/-- The flag that is on is a success in a bulk answer, unless it comes with an error code. -/
theorem readings_of_flagOn :
    (Success.ofOutline nestingLimit (ofTree (flagOnWith "note" .null)) = .ok flagOn ∧
      ofOutline nestingLimit (ofTree (flagOnWith "note" .null)) = .ok (.success flagOn)) ∧
    Success.ofOutline nestingLimit (ofTree flagOnWithError) = .ok flagOn ∧
      listOfOutline 127 (.array [ofTree flagOnWithError] .closed) =
        .ok [.failure ⟨some "a", .general, none⟩] ∧
      ofOutline 126 (ofTree flagOnWithError) = .ok (.failure ⟨some "a", .general, none⟩) := by
  have hnote := ofOutline_flagOnWith (show "note" ∉ _ by decide) .null
  have herror := ofOutline_flagOnWith (show "errorCode" ∉ _ by decide) (.string "GENERAL")
  refine ⟨⟨hnote, ((ofOutline_of_success hnote).1 nestingLimit _).mpr
    ⟨⟨_, rfl⟩, .inr ⟨?_, rfl⟩⟩⟩, herror, rfl, ?_⟩
  · rintro code details ⟨ms, ending, ⟨⟩, hcode, -⟩
    exact nomatch hcode
  · obtain ⟨_, ⟨⟩, hread⟩ :=
      (ofOutline_of_success herror).2 127 [ofTree flagOnWithError] .closed _ 0 rfl rfl
    exact hread

/-- Not every success is one in a bulk answer: with an error code it is a failure, and if it nests too
deeply it is not read at all, even where nobody asks for what nests. -/
theorem not_success_of_success :
    (Success.ofOutline nestingLimit (ofTree flagOnWithError) = .ok flagOn ∧
      ofOutline nestingLimit (ofTree flagOnWithError) =
        .ok (.failure ⟨some "a", .general, none⟩)) ∧
    Success.ofOutline nestingLimit (ofTree flagOnWithNesting) = .ok flagOn ∧
      (∀ code details, ¬ ReportsError (ofTree flagOnWithNesting) code details) ∧
      ∀ e, ofOutline nestingLimit (ofTree flagOnWithNesting) ≠ .ok e := by
  refine ⟨⟨ofOutline_flagOnWith (by decide) _, rfl⟩, ofOutline_flagOnWith (by decide) _, ?_, ?_⟩
  · rintro code details ⟨ms, ending, ⟨⟩, hcode, -⟩
    exact nomatch hcode
  · intro e h
    exact absurd (ofOutline_ofTree.mp h).1 (by decide +kernel)

end Entry

end RemoteFlags
