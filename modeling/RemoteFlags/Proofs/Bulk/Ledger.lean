import RemoteFlags.Proofs.Bulk.Contents
import RemoteFlags.Proofs.Equality
import RemoteFlags.Flag.Entry
import RemoteFlags.Http.Message
import RemoteFlags.Json.Outline.Scan

/-!
# The ledger of bulk requests

An *inquiry* is one time that the server was asked for all flags of a context: who asked, with which
mark, what came back, and when.  It holds only what travelled on the wire and the clock, nothing of
the cache.  A log lists the inquiries of a run, the newest one first.

The *ledger* of a log says which of its inquiries count: the last one whose answer was stored, the
last one whose entries were put into the cache, be it only in part, and the last one that confirmed
the entries.  An inquiry without a mark that stores nothing closes the ledger.

## Main definitions

* `Inquiry`, with `Inquiry.stores`, `Inquiry.keeps`, `Inquiry.breaksOff` — what an inquiry does.
* `Ledger`, `ledger lifetime log` — which inquiries of a log count.
* `markFor` — the mark that the ledger lends to an inquiry; `Marked` — logs that carry these marks.

## Main results

* `exists_split_of_ledger` — where the stored inquiry stands in a log, and what came after it.
* `ledger_of_confirms`, `ledger_of_not_confirms` — what the newest inquiry confirms.
-/

namespace RemoteFlags
namespace Bulk

/-! ### Inquiries -/

/-- One time that the server was asked for all flags of a context. -/
structure Inquiry where
  /-- The context of the call that asked. -/
  context : Context
  /-- The mark that the request carried. -/
  mark : Option String
  /-- The response, if one came. -/
  response : Option Http.Response
  /-- The reading of the clock once the server was asked. -/
  time : Instant

namespace Inquiry

/-- The entries that a response with success lists, if its body can be read. -/
def entries? (i : Inquiry) : Option (List Entry) :=
  i.response.bind fun res =>
    if Http.isSuccess res.status then
      res.text.toOption.bind fun body =>
        (Json.Document.read (Entry.bulkOfOutline Json.Outline.nestingLimit) body).toOption
    else none

/-- The entries of the response, none if it lists none. -/
def entries (i : Inquiry) : List Entry := i.entries?.getD []

/-- The mark that the response carries. -/
def tag? (i : Inquiry) : Option String := i.response.bind fun res => res.headerText? "etag"

/-- Whether the deadline that the inquiry would set can be represented. -/
def isTimely (lifetime : Int) (i : Inquiry) : Bool := (i.time.after? lifetime).isSome

/-- Whether the response is an answer that is stored: all its entries name a flag. -/
def stores (lifetime : Int) (i : Inquiry) : Bool :=
  i.isTimely lifetime && i.entries?.any Entry.allKeyed

/-- Whether the response is an answer that is put into the cache up to an entry that names no
flag. -/
def breaksOff (lifetime : Int) (i : Inquiry) : Bool :=
  i.isTimely lifetime && i.entries?.any fun es => !Entry.allKeyed es

/-- Whether the response says that the answer whose mark was sent still holds. -/
def keeps (lifetime : Int) (i : Inquiry) : Bool :=
  i.isTimely lifetime && i.mark.isSome && i.response.any fun res => res.status == 304

/-- Whether the inquiry makes the entries of the cache fresh. -/
def confirms (lifetime : Int) (i : Inquiry) : Bool := i.stores lifetime || i.keeps lifetime

/-- The cache that holds the answer to an inquiry and nothing else. -/
def snapshot (lifetime : Int) (i : Inquiry) : Cache :=
  ⟨Entry.mapOf i.entries, some i.context, i.tag?, i.time.plus lifetime⟩

variable {lifetime : Int} {i : Inquiry}

theorem allKeyed_of_stores (h : i.stores lifetime = true) : Entry.allKeyed i.entries = true := by
  simp only [stores, Bool.and_eq_true, Option.any_eq_true] at h
  obtain ⟨-, es, hes, hkeyed⟩ := h
  rw [entries, hes]
  exact hkeyed

theorem entries?_of_mem {e : Entry} (h : e ∈ i.entries) : ∃ es, i.entries? = some es ∧ e ∈ es := by
  unfold entries at h
  cases hes : i.entries? with
  | none => simp [hes] at h
  | some es => exact ⟨es, rfl, by simpa [hes] using h⟩

theorem not_keeps_of_entries? {es : List Entry} (h : i.entries? = some es) :
    i.keeps lifetime = false := by
  unfold entries? at h
  unfold keeps
  cases hres : i.response with
  | none => simp [hres] at h
  | some res =>
    by_cases hstatus : res.status = 304
    · simp [hres, hstatus, Http.isSuccess] at h
    · simp [hstatus]

end Inquiry

/-! ### Ledgers -/

/-- The inquiries that the contents of the cache go back to. -/
structure Ledger where
  /-- The last one whose answer was stored. -/
  stored : Inquiry
  /-- The last one whose entries were put into the cache. -/
  taken : Inquiry
  /-- The last one that confirmed the entries. -/
  confirmed : Inquiry

/-- The ledger after one more inquiry. -/
def record (lifetime : Int) (l : Option Ledger) (i : Inquiry) : Option Ledger :=
  if i.stores lifetime then some ⟨i, i, i⟩
  else if i.mark.isNone then none
  else l.map fun l =>
    if i.keeps lifetime then { l with confirmed := i }
    else if i.breaksOff lifetime then { l with taken := i }
    else l

/-- The ledger of a log, whose newest inquiry comes first. -/
def ledger (lifetime : Int) : List Inquiry → Option Ledger
  | [] => none
  | i :: older => record lifetime (ledger lifetime older) i

/-- The mark that the ledger lends to an inquiry for a context: the one of the stored answer, if that
was given for the same context. -/
def markFor (l : Option Ledger) (c : Context) : Option String :=
  l.bind fun l => if l.stored.context.same c then l.stored.tag? else none

/-- Every inquiry of the log carries the mark that the ledger of the older ones lends it. -/
def Marked (lifetime : Int) : List Inquiry → Prop
  | [] => True
  | i :: older => i.mark = markFor (ledger lifetime older) i.context ∧ Marked lifetime older

variable {lifetime : Int} {log : List Inquiry} {l : Ledger}

theorem record_of_stores {i : Inquiry} (l : Option Ledger) (h : i.stores lifetime = true) :
    record lifetime l i = some ⟨i, i, i⟩ := by
  simp [record, h]

/-- A ledger lends a mark only if there is one, for a context that equals the stored one. -/
theorem markFor_eq_some {l : Option Ledger} {c : Context} {mark : String}
    (h : markFor l c = some mark) :
    ∃ l', l = some l' ∧ l'.stored.context.same c = true ∧ l'.stored.tag? = some mark := by
  cases l with
  | none => simp [markFor] at h
  | some l' =>
    by_cases hsame : l'.stored.context.same c = true
    · exact ⟨l', rfl, hsame, by simpa [markFor, hsame] using h⟩
    · simp [markFor, hsame] at h

/-- An inquiry that stores nothing leaves the stored one in its place, and closes the ledger unless
it carries its mark. -/
theorem record_of_not_stores {i : Inquiry} {older : List Inquiry}
    (hmark : i.mark = markFor (ledger lifetime older) i.context)
    (hstores : i.stores lifetime = false)
    (h : ledger lifetime (i :: older) = some l) :
    ∃ l', ledger lifetime older = some l' ∧ l'.stored.context.same i.context = true ∧
      i.mark.isSome ∧ i.mark = l'.stored.tag? ∧
      l = if i.keeps lifetime then { l' with confirmed := i }
        else if i.breaksOff lifetime then { l' with taken := i }
        else l' := by
  rw [ledger, record, if_neg (by simp [hstores])] at h
  cases hm : i.mark with
  | none => simp [hm] at h
  | some mark =>
    rw [hm] at hmark
    obtain ⟨l', hl, hsame, htag⟩ := markFor_eq_some hmark.symm
    refine ⟨l', hl, hsame, rfl, htag.symm, ?_⟩
    rw [hl] at h
    simpa [hm] using h.symm

/-! ### What a ledger says about its log -/

/-- An inquiry that asks whether the answer to an earlier one still holds, and gets nothing that
could be stored in its place. -/
structure Inquiry.AsksAgain (lifetime : Int) (s i : Inquiry) : Prop where
  /-- It carries the mark of that answer. -/
  mark : i.mark = s.tag?
  /-- That answer has a mark. -/
  marked : i.mark.isSome
  /-- It is for a context that equals the one of that answer. -/
  context : s.context.same i.context = true
  /-- Its own answer is not stored. -/
  stores : i.stores lifetime = false

/-- The newest inquiry of a list that is broken off, or else the given one. -/
def lastTaken (lifetime : Int) (s : Inquiry) (later : List Inquiry) : Inquiry :=
  (later.find? fun i => i.breaksOff lifetime).getD s

/-- **The ledger, read off its log.**  The stored inquiry stands in the log, all later ones ask again
for its answer, and the entries in the cache are those of the newest one that was broken off, if
there is one. -/
theorem exists_split_of_ledger {log : List Inquiry} (hlog : Marked lifetime log)
    (h : ledger lifetime log = some l) :
    ∃ later older, log = later ++ l.stored :: older ∧ l.stored.stores lifetime = true ∧
      (∀ i ∈ later, Inquiry.AsksAgain lifetime l.stored i) ∧
      l.taken = lastTaken lifetime l.stored later := by
  -- Induction on the log.  An inquiry that is stored starts a new split; any other one asks again for
  -- the answer of the split of the older ones.
  induction log generalizing l with
  | nil => simp [ledger] at h
  | cons i older ih =>
    obtain ⟨hmark, holder⟩ := hlog
    cases hstores : i.stores lifetime with
    | true =>
      rw [ledger, record_of_stores _ hstores] at h
      obtain rfl := Option.some.inj h
      exact ⟨[], older, rfl, hstores, by simp, rfl⟩
    | false =>
      obtain ⟨l', hl', hsame, hsome, htag, rfl⟩ := record_of_not_stores hmark hstores h
      obtain ⟨later, older', hsplit, hstored, hlater, htaken⟩ := ih holder hl'
      have hagain : Inquiry.AsksAgain lifetime l'.stored i := ⟨htag, hsome, hsame, hstores⟩
      have hall : ∀ j ∈ i :: later, Inquiry.AsksAgain lifetime l'.stored j := by
        intro j hj
        rcases List.mem_cons.mp hj with rfl | hj
        · exact hagain
        · exact hlater j hj
      -- A response that keeps the entries lists none, so at most one of the two fields changes.
      cases hkeeps : i.keeps lifetime with
      | true =>
        have hbreaks : i.breaksOff lifetime = false := by
          cases hes : i.entries? with
          | none => simp [Inquiry.breaksOff, hes]
          | some es => simp [Inquiry.not_keeps_of_entries? hes] at hkeeps
        refine ⟨i :: later, older', by simp [hsplit], by simpa using hstored, by simpa using hall, ?_⟩
        simpa [lastTaken, hbreaks] using htaken
      | false =>
        cases hbreaks : i.breaksOff lifetime with
        | true =>
          refine ⟨i :: later, older', by simp [hsplit], by simpa using hstored,
            by simpa using hall, ?_⟩
          simp [lastTaken, hbreaks]
        | false =>
          refine ⟨i :: later, older', by simp [hsplit], by simpa using hstored,
            by simpa using hall, ?_⟩
          simpa [lastTaken, hbreaks] using htaken

theorem ledger_of_confirms {i : Inquiry} {older : List Inquiry}
    (hlog : Marked lifetime (i :: older)) (h : i.confirms lifetime = true) :
    ∃ l, ledger lifetime (i :: older) = some l ∧ l.confirmed = i ∧
      l.stored.context.same i.context = true := by
  cases hstores : i.stores lifetime with
  | true => exact ⟨⟨i, i, i⟩, record_of_stores _ hstores, rfl, i.context.same_refl⟩
  | false =>
    -- An answer is kept only on an inquiry with a mark, and the mark was lent for the same context.
    have hkeeps : i.keeps lifetime = true := by simpa [Inquiry.confirms, hstores] using h
    have hsome : i.mark.isSome = true := by
      simp only [Inquiry.keeps, Bool.and_eq_true] at hkeeps
      exact hkeeps.1.2
    obtain ⟨mark, hm⟩ := Option.isSome_iff_exists.mp hsome
    obtain ⟨l', hl', hsame, -⟩ := markFor_eq_some (hlog.1 ▸ hm)
    exact ⟨{ l' with confirmed := i }, by simp [ledger, record, hstores, hm, hl', hkeeps], rfl, hsame⟩

/-- An inquiry that confirms nothing closes the ledger, or leaves its confirming inquiry in place;
then it asked again for a context that equals the stored one. -/
theorem ledger_of_not_confirms {i : Inquiry} {older : List Inquiry}
    (hlog : Marked lifetime (i :: older)) (h : i.confirms lifetime = false)
    (hl : ledger lifetime (i :: older) = some l) :
    ∃ l', ledger lifetime older = some l' ∧ l'.stored.context.same i.context = true ∧
      l'.confirmed = l.confirmed := by
  obtain ⟨hstores, hkeeps⟩ : i.stores lifetime = false ∧ i.keeps lifetime = false := by
    simpa [Inquiry.confirms] using h
  obtain ⟨l', hl', hsame, -, -, rfl⟩ := record_of_not_stores hlog.1 hstores hl
  refine ⟨l', hl', hsame, ?_⟩
  simp only [hkeeps, Bool.false_eq_true, if_false]
  split <;> rfl

end Bulk
end RemoteFlags
