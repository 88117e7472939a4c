import RemoteFlags.Proofs.Exchange

/-!
# What requests carry

A request is sent once or several times, and redirections make other requests of it.  All of them
carry the mark that the first one carries: no redirection touches the field that holds it.

## Main definitions

* `Http.fieldValues name fs` — the values of the fields with a name.
* `Network.Hears P n n'` — only requests with a property arrived in between.
* `Network.Redirects n n' q q'` — a reply in between makes a request of another one.
* `Remote.Carries r mark q` — a request carries a mark, besides what the provider puts into all of
  its requests.

## Main results

* `Network.hears_send` — what a request and its redirections have in common.
* `Remote.hears_post` — **all requests that arrive carry the mark.**
-/

namespace RemoteFlags

namespace Http

/-! ### Values of fields -/

/-- The values of the fields with a name, in their order. -/
def fieldValues (name : String) : List (String × String) → List String
  | [] => []
  | f :: fs => if f.1 = name then f.2 :: fieldValues name fs else fieldValues name fs

@[simp] theorem fieldValues_nil (name : String) : fieldValues name [] = [] := rfl

theorem fieldValues_eq_nil {name : String} {fs : List (String × String)}
    (h : ∀ f ∈ fs, f.1 ≠ name) : fieldValues name fs = [] := by
  induction fs with
  | nil => rfl
  | cons f fs ih =>
    rw [fieldValues, if_neg (h f List.mem_cons_self)]
    exact ih fun g hg => h g (List.mem_cons_of_mem f hg)

theorem fieldValues_addField_of_ne {name name' : String} (h : name' ≠ name) (v : String)
    (fs : List (String × String)) :
    fieldValues name (addField name' v fs) = fieldValues name fs := by
  induction fs with
  | nil => simp [addField, fieldValues, h]
  | cons f fs ih =>
    rw [addField]
    split
    · rw [fieldValues, if_neg h]
    · rw [fieldValues, fieldValues, ih]

/-- In a list that is sorted, a field that is added comes last among those of its name. -/
theorem fieldValues_addField_self (name v : String) {fs : List (String × String)}
    (h : KeysIncreasing fs) :
    fieldValues name (addField name v fs) = fieldValues name fs ++ [v] := by
  induction fs with
  | nil => simp [addField, fieldValues]
  | cons f fs ih =>
    obtain ⟨hlt, hfs⟩ := List.pairwise_cons.mp h
    rw [addField]
    split
    · next hname =>
      -- All names of the list lie behind the new one.
      have hnone : fieldValues name (f :: fs) = [] := by
        apply fieldValues_eq_nil
        intro g hg heq
        rcases List.mem_cons.mp hg with rfl | hg
        · rw [heq] at hname
          exact String.lt_irrefl name hname
        · have hbehind := String.lt_trans hname (hlt g hg)
          rw [heq] at hbehind
          exact String.lt_irrefl name hbehind
      rw [fieldValues, if_pos rfl, hnone]
      rfl
    · rw [fieldValues, fieldValues, ih hfs]
      split <;> rfl

theorem fieldValues_dropFields {name : String} {names : List String} (h : name ∉ names)
    (fs : List (String × String)) :
    fieldValues name (dropFields names fs) = fieldValues name fs := by
  induction fs with
  | nil => rfl
  | cons f fs ih =>
    have hcons : dropFields names (f :: fs) =
        if f.1 ∈ names then dropFields names fs else f :: dropFields names fs := by
      by_cases hf : f.1 ∈ names <;> simp [dropFields, hf]
    rw [hcons]
    by_cases hf : f.1 ∈ names
    · have hne : f.1 ≠ name := fun heq => h (heq ▸ hf)
      rw [if_pos hf, ih, fieldValues, if_neg hne]
    · rw [if_neg hf, fieldValues, fieldValues, ih]

theorem fieldValues_setField {name name' : String} (h : name' ≠ name) (v : String)
    (fs : List (String × String)) :
    fieldValues name (setField name' v fs) = fieldValues name fs := by
  have hnames : name ∉ [name'] := by simpa using h.symm
  rw [setField, fieldValues_addField_of_ne h, fieldValues_dropFields hnames]

/-- In a map every name has at most one value. -/
theorem fieldValues_entries (name : String) (m : SortedMap String) :
    fieldValues name m.entries = (m.get? name).toList := by
  unfold SortedMap.get?
  have hsorted := m.increasing
  generalize m.entries = fs at hsorted
  induction fs with
  | nil => rfl
  | cons f fs ih =>
    obtain ⟨hlt, hfs⟩ := List.pairwise_cons.mp hsorted
    rw [fieldValues, lookupEntry]
    split
    · next hname =>
      have hnone : fieldValues name fs = [] := by
        apply fieldValues_eq_nil
        intro g hg heq
        have hbehind := hlt g hg
        rw [hname, heq] at hbehind
        exact String.lt_irrefl name hbehind
      rw [hnone]
      rfl
    · exact ih hfs

/-! ### Redirections -/

namespace Network

/-- A field stays through redirections unless it describes the body, is not for other servers, or
names the place that the request comes from. -/
theorem fieldValues_redirected {name : String} (hbody : name ∉ bodyFields)
    (hprivate : name ∉ privateFields) (hreferer : "referer" ≠ name) (q : Request) (status : Nat)
    (place : Url) :
    fieldValues name (redirected q status place).headers = fieldValues name q.headers := by
  unfold redirected
  split <;> dsimp only <;> split <;> split <;>
    simp only [fieldValues_dropFields hbody, fieldValues_dropFields hprivate,
      fieldValues_setField hreferer]

theorem eq_redirected_of_next? {q q' : Request} {res : Response}
    (h : next? q res = some (.ok q')) : ∃ place, q' = redirected q res.status place := by
  unfold next? at h
  split at h
  · split at h
    · split at h
      · exact ⟨_, (Except.ok.inj (Option.some.inj h)).symm⟩
      · simp at h
    · simp at h
    · simp at h
  · simp at h

/-! ### What arrives -/

/-- Only requests with a property arrived between a network and a later one. -/
def Hears (P : Request → Prop) (n n' : Network) : Prop :=
  ∃ qs, n'.arrived = n.arrived ++ qs ∧ ∀ q ∈ qs, P q

variable {P : Request → Prop}

theorem Hears.refl (n : Network) : Hears P n n := ⟨[], by simp, by simp⟩

theorem Hears.trans {n n' n'' : Network} (h : Hears P n n') (h' : Hears P n' n'') :
    Hears P n n'' := by
  obtain ⟨qs, harrived, hqs⟩ := h
  obtain ⟨qs', harrived', hqs'⟩ := h'
  refine ⟨qs ++ qs', by rw [harrived', harrived, List.append_assoc], ?_⟩
  intro q hq
  rcases List.mem_append.mp hq with hq | hq
  · exact hqs q hq
  · exact hqs' q hq

theorem Hears.imp {Q : Request → Prop} {n n' : Network} (h : Hears P n n') (hQ : ∀ q, P q → Q q) :
    Hears Q n n' := by
  obtain ⟨qs, harrived, hqs⟩ := h
  exact ⟨qs, harrived, fun q hq => hQ q (hqs q hq)⟩

theorem hears_exchange (n : Network) {q : Request} (h : P q) : Hears P n (n.exchange q).2 := by
  unfold exchange
  split
  · exact ⟨[], by simp, by simp⟩
  · exact ⟨[q], rfl, by simpa using h⟩

theorem hears_dispatch (n : Network) {q : Request} (h : P q) : Hears P n (n.dispatch q).2 := by
  have hexchange := hears_exchange n h
  unfold dispatch
  split
  · exact Hears.refl n
  split <;> next heq => rw [heq] at hexchange; exact hexchange

/-- A reply that is used up between a network and a later one makes a request of another one. -/
def Redirects (n n' : Network) (q q' : Request) : Prop :=
  ∃ i a, n.count ≤ i ∧ i < n'.count ∧ n.reply i = .answered a ∧ next? q ⟨q.url, a⟩ = some (.ok q')

theorem Redirects.mono {m n n' m' : Network} {q q' : Request} (h : m.Later n) (h' : n'.Later m')
    (hq : n.Redirects n' q q') : m.Redirects m' q q' := by
  obtain ⟨i, a, hle, hlt, hreply, hnext⟩ := hq
  refine ⟨i, a, Nat.le_trans h.count hle, Nat.lt_of_lt_of_le hlt h'.count, ?_, hnext⟩
  rw [← h.reply, hreply]

theorem Redirects.eq_redirected {n n' : Network} {q q' : Request} (h : n.Redirects n' q q') :
    ∃ status place, q' = redirected q status place := by
  obtain ⟨i, a, -, -, -, hnext⟩ := h
  obtain ⟨place, rfl⟩ := eq_redirected_of_next? hnext
  exact ⟨_, place, rfl⟩

/-- A property that the redirections of the network keep holds of all requests that arrive. -/
theorem hears_sendFollowing (left : Nat) (n : Network) {q : Request} (h : P q)
    (hP : ∀ q₁ q₂, P q₁ → n.Redirects (sendFollowing left n q).2 q₁ q₂ → P q₂) :
    Hears P n (sendFollowing left n q).2 := by
  induction left generalizing n q with
  | zero =>
    rcases sendFollowing_cases 0 n q with ⟨result, hs, -⟩ | ⟨left', _, _, hl, -⟩
    · rw [hs]
      exact hears_dispatch n h
    · simp at hl
  | succ left ih =>
    rcases sendFollowing_cases (left + 1) n q with
      ⟨result, hs, -⟩ | ⟨left', res, q', hl, hdispatch, hnext, hs⟩
    · rw [hs]
      exact hears_dispatch n h
    · obtain rfl : left = left' := by omega
      rw [hs] at hP ⊢
      have hlater := later_sendFollowing left (n.dispatch q).2 q'
      have hq' : P q' := by
        obtain ⟨hreply, hcount⟩ := answered_of_dispatch hdispatch
        refine hP q q' h ⟨n.count, res.answer, Nat.le_refl _, ?_, hreply, ?_⟩
        · exact Nat.lt_of_lt_of_le (by rw [hcount]; exact Nat.lt_succ_self _) hlater.count
        · rw [← hnext, ← url_of_dispatch hdispatch]
      refine (hears_dispatch n h).trans (ih _ hq' fun q₁ q₂ h₁ hredirects => ?_)
      exact hP q₁ q₂ h₁ (hredirects.mono (later_dispatch n q) (.refl _))

theorem hears_send (n : Network) {q : Request} (h : P q)
    (hP : ∀ q₁ q₂, P q₁ → n.Redirects (n.send q).2 q₁ q₂ → P q₂) : Hears P n (n.send q).2 :=
  hears_sendFollowing maxRedirects n h hP

end Network

end Http

/-! ### Marks -/

namespace Remote

open Http (fieldValues)
open Http.Network (Hears)

/-- A request carries a mark, or none, after what the provider puts into all of its requests. -/
def Carries (r : Remote) (mark : Option String) (q : Http.Request) : Prop :=
  fieldValues "if-none-match" q.headers = (r.headers.get? "if-none-match").toList ++ mark.toList

theorem Carries.unique {r : Remote} {mark mark' : Option String} {q : Http.Request}
    (h : r.Carries mark q) (h' : r.Carries mark' q) : mark = mark' := by
  have hlists : mark.toList = mark'.toList := List.append_cancel_left (h.symm.trans h')
  cases mark <;> cases mark' <;> simp_all

theorem carries_request (r : Remote) (u : Url) (c : Context) (mark : Option String) :
    r.Carries mark (r.request u c mark) := by
  have hown : ∀ token,
      fieldValues "if-none-match" (r.headers.insert "authorization" token).entries =
      (r.headers.get? "if-none-match").toList := by
    intro token
    rw [Http.fieldValues_entries, SortedMap.get?_insert_of_ne _ (by decide)]
  unfold Carries request requestFields
  cases mark with
  | none =>
    dsimp only
    split
    · rw [hown]
      simp
    · rw [Http.fieldValues_entries]
      simp
  | some mark =>
    dsimp only
    rw [Http.fieldValues_addField_self _ _ (SortedMap.increasing _)]
    split
    · rw [hown]
      rfl
    · rw [Http.fieldValues_entries]
      rfl

theorem Carries.redirected {r : Remote} {mark : Option String} {n n' : Http.Network}
    {q q' : Http.Request} (h : r.Carries mark q) (hq : n.Redirects n' q q') :
    r.Carries mark q' := by
  obtain ⟨status, place, rfl⟩ := hq.eq_redirected
  unfold Carries
  rw [Http.Network.fieldValues_redirected (by decide) (by decide) (by decide)]
  exact h

theorem hears_attempts {P : Http.Request → Prop} (retries : Nat) (w : World) {q : Http.Request}
    (h : P q) (hP : ∀ q₁ q₂, P q₁ →
      w.network.Redirects (attempts retries w q).2.network q₁ q₂ → P q₂) :
    Hears P w.network (attempts retries w q).2.network := by
  induction retries generalizing w with
  | zero => exact Http.Network.hears_send w.network h hP
  | succ retries ih =>
    rw [attempts_succ] at hP ⊢
    cases hs : (w.send q).1 with
    | ok res =>
      rw [hs] at hP
      exact Http.Network.hears_send w.network h hP
    | error f =>
      rw [hs] at hP
      have hsend := w.later_send q
      have hrest := later_attempts retries (w.send q).2 q
      have hfirst : Hears P w.network (w.send q).2.network :=
        Http.Network.hears_send w.network h fun q₁ q₂ h₁ hq =>
          hP q₁ q₂ h₁ (hq.mono (.refl _) hrest.network)
      exact hfirst.trans (ih _ fun q₁ q₂ h₁ hq => hP q₁ q₂ h₁ (hq.mono hsend.network (.refl _)))

/-- **All requests that arrive carry the mark**: the first one, its repetitions, and those that
redirections make of them. -/
theorem hears_post (r : Remote) (pause : Option Instant) (u : Url) (c : Context)
    (mark : Option String) (w : World) :
    Hears (r.Carries mark) w.network (r.post pause u c mark w).2.network := by
  rw [post_eq]
  cases Pause.pausedUntil? pause w.now.1 with
  | some t => exact Hears.refl _
  | none =>
    exact hears_attempts _ _ (carries_request r u c mark) fun _ _ h₁ hq => h₁.redirected hq

end Remote

end RemoteFlags
