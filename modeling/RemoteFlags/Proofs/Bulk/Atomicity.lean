import RemoteFlags.Proofs.Bulk.Contents

/-!
# Operations on the cache that fail

Taking in an answer and keeping the last one for longer can fail.  A deadline that cannot be represented
and a cache with nothing to be kept are noticed before anything is written, and the cache stays as it is.
An entry that names no flag is noticed in the middle: the old entries are gone by then, and those before
it have been put in.

## Main definitions

* `Operation`, `Operation.apply` — an operation, and what it does to a cache.
* `Operation.BreaksOff now op` — at this time the operation stops in the middle.
* `AnswersLike c d` — two caches that answer all questions alike.
* `BoundLike c d` — two caches that differ in their entries only.
* `after c ops`, `succeeded c ops` — the cache after some operations, and those that succeed.

## Main results

* `apply_of_error` — **what a failed operation leaves behind.**
* `not_atomic` — a failed operation that leaves other entries behind.
* `after_succeeded` — **failed operations leave no trace** on what the cache is bound to, nor on its entries
  unless one breaks off.
-/

namespace RemoteFlags
namespace Cache

open Entry (allKeyed keyed lastNamed mapOf)

/-! ### Operations -/

/-- An operation on the cache that can fail. -/
inductive Operation where
  /-- Takes in a bulk answer for a context. -/
  | refresh (context : Context) (entries : List Entry) (etag : Option String) (lifetime : Int)
  /-- Keeps the entries for longer. -/
  | extend (lifetime : Int)

namespace Operation

/-- What an operation answers, and the cache after it. -/
def apply (c : Cache) (now : Instant) : Operation → Except Fault Unit × Cache
  | .refresh context entries etag lifetime => c.refresh context entries etag lifetime now
  | .extend lifetime => c.extend lifetime now

/-- The entries that an operation brings. -/
def entries : Operation → List Entry
  | .refresh _ entries _ _ => entries
  | .extend _ => []

/-- The operation stops in the middle: it has a deadline, but brings an entry that names no flag. -/
def BreaksOff (now : Instant) : Operation → Prop
  | .refresh _ entries _ lifetime => (now.after? lifetime).isSome = true ∧ allKeyed entries = false
  | .extend _ => False

instance (now : Instant) (op : Operation) : Decidable (op.BreaksOff now) :=
  match op with
  | .refresh _ _ _ _ => inferInstanceAs (Decidable (_ ∧ _))
  | .extend _ => inferInstanceAs (Decidable False)

end Operation

variable {c c' : Cache} {op : Operation} {now : Instant} {f : Fault}

/-- An operation that stops in the middle puts the entries before the stop in place of the old ones. -/
theorem apply_of_breaksOff (h : op.BreaksOff now) :
    op.apply c now = (.error .keylessEntry, { c with flags := mapOf op.entries }) := by
  cases op with
  | refresh context entries etag lifetime =>
    obtain ⟨htimely, hkeyed⟩ := h
    have hnot : ¬ allKeyed entries = true := by rw [hkeyed]; exact Bool.false_ne_true
    rw [Operation.apply, refresh_eq, if_pos htimely, if_neg hnot]
    rfl
  | extend lifetime => exact h.elim

/-- Any other operation that fails does so before it writes anything. -/
theorem apply_of_not_breaksOff (h : ¬ op.BreaksOff now) (herror : op.apply c now = (.error f, c')) :
    c' = c ∧ f ≠ .keylessEntry := by
  cases op with
  | refresh context entries etag lifetime =>
    rw [Operation.apply, refresh_eq] at herror
    by_cases htimely : (now.after? lifetime).isSome = true
    · by_cases hkeyed : allKeyed entries = true
      · rw [if_pos htimely, if_pos hkeyed, Prod.mk.injEq] at herror
        exact absurd herror.1 nofun
      · exact absurd ⟨htimely, Bool.not_eq_true _ ▸ hkeyed⟩ h
    · rw [if_neg htimely, Prod.mk.injEq, Except.error.injEq] at herror
      obtain ⟨rfl, rfl⟩ := herror
      exact ⟨rfl, nofun⟩
  | extend lifetime =>
    rw [Operation.apply, extend_eq] at herror
    by_cases hcached : c.context.isNone = true
    · rw [if_pos hcached, Prod.mk.injEq, Except.error.injEq] at herror
      obtain ⟨rfl, rfl⟩ := herror
      exact ⟨rfl, nofun⟩
    by_cases htimely : (now.after? lifetime).isSome = true
    · rw [if_neg hcached, if_pos htimely, Prod.mk.injEq] at herror
      exact absurd herror.1 nofun
    · rw [if_neg hcached, if_neg htimely, Prod.mk.injEq, Except.error.injEq] at herror
      obtain ⟨rfl, rfl⟩ := herror
      exact ⟨rfl, nofun⟩

/-! ### What a cache answers -/

/-- Two caches answer every question alike. -/
structure AnswersLike (c d : Cache) : Prop where
  /-- The entries with a key. -/
  get? : ∀ key, c.get? key = d.get? key
  /-- All entries. -/
  all : c.all = d.all
  /-- Whether the server has to be asked. -/
  needsRefresh : ∀ context now, c.needsRefresh context now = d.needsRefresh context now
  /-- The mark of the entries. -/
  etagFor? : ∀ context, c.etagFor? context = d.etagFor? context

theorem AnswersLike.refl (c : Cache) : AnswersLike c c :=
  ⟨fun _ => rfl, rfl, fun _ _ => rfl, fun _ => rfl⟩

/-- Look-ups determine the entries. -/
theorem withFlags_eq_self_iff {flags : SortedMap Entry} :
    { c with flags := flags } = c ↔ ∀ key, flags.get? key = c.get? key := by
  constructor
  · intro h key
    exact congrArg (fun d : Cache => d.get? key) h
  · intro h
    have hflags : flags = c.flags := SortedMap.ext_get? h
    rw [hflags]

/-- **What a failed operation leaves behind.**  Context, mark and deadline stay, and so do all answers
about them.  The entries stay too, unless an entry that names no flag was met: then those before it have
replaced them, and the cache is as it was only if it held the very same ones. -/
theorem apply_of_error (herror : op.apply c now = (.error f, c')) :
    (c'.context = c.context ∧ c'.etag = c.etag ∧ c'.deadline = c.deadline) ∧
    (∀ context, c'.etagFor? context = c.etagFor? context ∧
      ∀ t, c'.needsRefresh context t = c.needsRefresh context t) ∧
    (f = .keylessEntry ↔ op.BreaksOff now) ∧
    (¬ op.BreaksOff now → c' = c) ∧
    (op.BreaksOff now → ∀ key, c'.get? key = lastNamed key (keyed op.entries)) ∧
    (c' = c ↔ AnswersLike c' c) ∧
    (c' = c ↔ (op.BreaksOff now → ∀ key, lastNamed key (keyed op.entries) = c.get? key)) := by
  by_cases hbreaks : op.BreaksOff now
  · rw [apply_of_breaksOff hbreaks, Prod.mk.injEq, Except.error.injEq] at herror
    obtain ⟨rfl, rfl⟩ := herror
    have hget : ∀ key, (mapOf op.entries).get? key = lastNamed key (keyed op.entries) :=
      Entry.get?_mapOf op.entries
    have hsame : { c with flags := mapOf op.entries } = c ↔
        ∀ key, lastNamed key (keyed op.entries) = c.get? key := by
      rw [withFlags_eq_self_iff]
      exact forall_congr' fun key => by rw [hget key]
    refine ⟨⟨rfl, rfl, rfl⟩, fun _ => ⟨rfl, fun _ => rfl⟩, iff_of_true rfl hbreaks,
      fun h => absurd hbreaks h, fun _ => hget, ⟨fun h => ?_, fun h => ?_⟩, ?_⟩
    · rw [h]
      exact AnswersLike.refl c
    · exact withFlags_eq_self_iff.mpr h.get?
    · rw [hsame]
      exact ⟨fun h _ => h, fun h => h hbreaks⟩
  · obtain ⟨rfl, hf⟩ := apply_of_not_breaksOff hbreaks herror
    exact ⟨⟨rfl, rfl, rfl⟩, fun _ => ⟨rfl, fun _ => rfl⟩, iff_of_false hf hbreaks, fun _ => rfl,
      fun h => absurd h hbreaks, iff_of_true rfl (AnswersLike.refl _),
      iff_of_true rfl fun h => absurd h hbreaks⟩

/-! ### A failure in the middle -/

/-- An entry for a flag that is on. -/
def switchedOn (key : String) : Entry :=
  .success { key := key, reason := none, variant := none, value := .ofTree (.bool true),
             metadata := none }

/-- An entry that names no flag. -/
def nameless : Entry := .failure { key := none, code := .general, details := none }

/-- A cache with a flag `a`. -/
def holdingA : Cache :=
  ((Operation.refresh ∅ [switchedOn "a"] (some "v1") 60).apply (.empty ⟨0, 0⟩) ⟨0, 0⟩).2

/-- An answer with a flag `b` and an entry that names no flag. -/
def halfAnswer : Operation := .refresh ∅ [switchedOn "b", nameless] (some "v2") 60

/-- What that answer leaves behind: the mark of the old entries, and only the new flag. -/
theorem holdingA_after_halfAnswer :
    ∃ d, halfAnswer.apply holdingA ⟨1, 0⟩ = (.error .keylessEntry, d) ∧
      d.etag = some "v1" ∧ d.get? "a" = none ∧ (d.get? "b").isSome = true ∧ d ≠ holdingA := by
  have hbreaks : halfAnswer.BreaksOff ⟨1, 0⟩ := by decide +kernel
  have herror := apply_of_breaksOff (c := holdingA) hbreaks
  obtain ⟨⟨-, hmark, -⟩, -, -, -, hentries, -, hsame⟩ := apply_of_error herror
  have hlost : lastNamed "a" (keyed halfAnswer.entries) = none := by decide +kernel
  refine ⟨_, herror, hmark.trans (by decide +kernel), ?_, ?_, fun h => ?_⟩
  · rw [hentries hbreaks, hlost]
  · rw [hentries hbreaks]
    decide +kernel
  · have hheld : (holdingA.get? "a").isSome = true := by decide +kernel
    rw [← hsame.mp h hbreaks "a", hlost] at hheld
    exact Bool.noConfusion hheld

/-- **A failed operation that leaves other entries behind.** -/
theorem not_atomic :
    ¬ ∀ (c : Cache) (op : Operation) (now : Instant) (f : Fault) (c' : Cache),
      op.apply c now = (.error f, c') → ∀ key, c'.get? key = c.get? key := by
  intro h
  have hbreaks : halfAnswer.BreaksOff ⟨1, 0⟩ := by decide +kernel
  have hkept := h holdingA halfAnswer ⟨1, 0⟩ _ _ (apply_of_breaksOff hbreaks) "a"
  have hlost : ((mapOf halfAnswer.entries).get? "a").isSome = false := by decide +kernel
  have hheld : (holdingA.get? "a").isSome = true := by decide +kernel
  rw [← hkept] at hheld
  exact Bool.noConfusion (hheld.symm.trans hlost)

/-! ### Many operations -/

/-- The cache after some operations, each at its time. -/
def after (c : Cache) : List (Instant × Operation) → Cache
  | [] => c
  | (now, op) :: ops => after (op.apply c now).2 ops

/-- The operations that succeed when all are carried out. -/
def succeeded (c : Cache) : List (Instant × Operation) → List (Instant × Operation)
  | [] => []
  | (now, op) :: ops =>
    if (op.apply c now).1.isOk then (now, op) :: succeeded (op.apply c now).2 ops
    else succeeded (op.apply c now).2 ops

/-- Two caches are bound alike: they may differ in their entries only. -/
structure BoundLike (c d : Cache) : Prop where
  /-- The context. -/
  context : c.context = d.context
  /-- The mark of the entries. -/
  etag : c.etag = d.etag
  /-- The deadline. -/
  deadline : c.deadline = d.deadline

/-- What an operation answers depends on the binding of the cache only. -/
theorem BoundLike.apply {d : Cache} (h : BoundLike c d) (op : Operation) (now : Instant) :
    (op.apply c now).1 = (op.apply d now).1 ∧ BoundLike (op.apply c now).2 (op.apply d now).2 := by
  obtain ⟨hcontext, hetag, hdeadline⟩ := h
  cases op with
  | refresh context entries etag lifetime =>
    simp only [Operation.apply, refresh_eq]
    split
    · split
      · exact ⟨rfl, rfl, rfl, rfl⟩
      · exact ⟨rfl, hcontext, hetag, hdeadline⟩
    · exact ⟨rfl, hcontext, hetag, hdeadline⟩
  | extend lifetime =>
    simp only [Operation.apply, extend_eq, hcontext]
    split
    · exact ⟨rfl, hcontext, hetag, hdeadline⟩
    · split
      · exact ⟨rfl, rfl, hetag, rfl⟩
      · exact ⟨rfl, hcontext, hetag, hdeadline⟩

/-- An operation that fails leaves the binding as it is. -/
theorem boundLike_of_error (herror : op.apply c now = (.error f, c')) : BoundLike c' c := by
  by_cases hbreaks : op.BreaksOff now
  · rw [apply_of_breaksOff hbreaks, Prod.mk.injEq] at herror
    obtain ⟨-, rfl⟩ := herror
    exact ⟨rfl, rfl, rfl⟩
  · obtain ⟨rfl, -⟩ := apply_of_not_breaksOff hbreaks herror
    exact ⟨rfl, rfl, rfl⟩

theorem boundLike_after_succeeded {d : Cache} (h : BoundLike d c) (ops : List (Instant × Operation)) :
    BoundLike (after d (succeeded c ops)) (after c ops) := by
  -- Induction on the operations, over all caches that are bound alike.
  induction ops generalizing c d with
  | nil => exact h
  | cons p ops ih =>
    obtain ⟨now, op⟩ := p
    obtain ⟨hanswer, hnext⟩ := h.apply op now
    cases hop : op.apply c now with
    | mk result c' =>
      rw [hop] at hnext
      rw [succeeded, after, hop]
      cases result with
      | ok u => exact ih hnext
      | error f =>
        have hleft := boundLike_of_error hop
        exact ih ⟨h.context.trans hleft.context.symm, h.etag.trans hleft.etag.symm,
          h.deadline.trans hleft.deadline.symm⟩

theorem after_succeeded_of_unbroken {ops : List (Instant × Operation)}
    (h : ∀ p ∈ ops, ¬ p.2.BreaksOff p.1) : after c (succeeded c ops) = after c ops := by
  induction ops generalizing c with
  | nil => rfl
  | cons p ops ih =>
    obtain ⟨now, op⟩ := p
    obtain ⟨hop, hops⟩ := List.forall_mem_cons.mp h
    rw [succeeded, after]
    cases happly : op.apply c now with
    | mk result c' =>
      cases result with
      | ok u =>
        have hhead : after c ((now, op) :: succeeded c' ops) = after c' (succeeded c' ops) := by
          rw [after, happly]
        exact hhead.trans (ih hops)
      | error f =>
        obtain ⟨rfl, -⟩ := apply_of_not_breaksOff hop happly
        exact ih hops

/-- **Failed operations leave no trace**: with or without them the cache ends up bound to the same
context, with the same mark and deadline, and with the same entries too if none of them breaks off. -/
theorem after_succeeded (c : Cache) (ops : List (Instant × Operation)) :
    BoundLike (after c (succeeded c ops)) (after c ops) ∧
      ((∀ p ∈ ops, ¬ p.2.BreaksOff p.1) → after c (succeeded c ops) = after c ops) :=
  ⟨boundLike_after_succeeded ⟨rfl, rfl, rfl⟩ ops, after_succeeded_of_unbroken⟩

end Cache
end RemoteFlags
