import RemoteFlags.Context
import RemoteFlags.Flag.Entry
import RemoteFlags.Time.Instant

/-!
# The cache of a bulk evaluation

A cache holds the entries of one bulk answer, bound to the context that they were evaluated for.
They are used for that context only, and only up to a deadline; after it the server is asked whether
they have changed.

Every operation that depends on the time takes the reading of the clock.

## Main definitions

* `Cache`, `Cache.empty`: the cache, without entries.
* `Cache.refresh`, `Cache.extend`: taking in a new answer, and keeping the last one for longer.
* `Cache.needsRefresh`, `Cache.etagFor?`, `Cache.get?`, `Cache.all`: what the cache knows.

## Main statements

* `Cache.needsRefresh_eq_false_iff`: when the entries can be used.
-/

namespace RemoteFlags

/-- The entries of one bulk answer. -/
structure Cache where
  /-- The entries by their keys. -/
  flags : SortedMap Entry
  /-- The context that they were evaluated for. -/
  context : Option Context
  /-- The mark by which the server recognises the answer. -/
  etag : Option String
  /-- The last instant at which the entries can be used. -/
  deadline : Instant

namespace Cache

/-- Why an operation on the cache fails. -/
inductive Fault where
  /-- The deadline cannot be represented. -/
  | lifetimeOutOfRange (seconds : Int)
  /-- An entry of the answer names no flag. -/
  | keylessEntry
  /-- There is no answer to be kept for longer. -/
  | nothingCached
deriving DecidableEq, Repr

/-- The fault in words. -/
def Fault.message : Fault → String
  | .lifetimeOutOfRange seconds =>
    "cache TTL of " ++ toString seconds ++ " seconds is out of range"
  | .keylessEntry => "bulk entry without a flag key"
  | .nothingCached => "nothing cached to extend"

/-- How long ago the deadline of an empty cache passed, in seconds. -/
def emptyAge : Int := 90

/-- The cache without entries. -/
def empty (now : Instant) : Cache where
  flags := ∅
  context := none
  etag := none
  deadline := now.plus (-emptyAge)

/-- The deadline of entries that can be used for some seconds from now on. -/
def deadline? (now : Instant) (lifetime : Int) : Except Fault Instant :=
  match now.after? lifetime with
  | some t => .ok t
  | none => .error (.lifetimeOutOfRange lifetime)

/-- Puts entries in by their keys, up to the first one without a key.  A later entry replaces an
earlier one with the same key. -/
def putAll (flags : SortedMap Entry) : List Entry → SortedMap Entry × Option Fault
  | [] => (flags, none)
  | e :: es =>
    match e.key? with
    | some key => putAll (flags.insert key e) es
    | none => (flags, some .keylessEntry)

/-- Takes in a bulk answer for a context.  When an entry has no key, the entries before it replace
the old ones, and context, mark and deadline stay. -/
def refresh (c : Cache) (context : Context) (entries : List Entry) (etag : Option String)
    (lifetime : Int) (now : Instant) : Except Fault Unit × Cache :=
  match deadline? now lifetime with
  | .error f => (.error f, c)
  | .ok deadline =>
    match putAll ∅ entries with
    | (flags, some f) => (.error f, { c with flags := flags })
    | (flags, none) => (.ok (), ⟨flags, some context, etag, deadline⟩)

/-- Keeps the entries for some seconds from now on. -/
def extend (c : Cache) (lifetime : Int) (now : Instant) : Except Fault Unit × Cache :=
  match c.context with
  | none => (.error .nothingCached, c)
  | some _ =>
    match deadline? now lifetime with
    | .error f => (.error f, c)
    | .ok deadline => (.ok (), { c with deadline := deadline })

/-- Whether the entries belong to a context. -/
def isFor (c : Cache) (context : Context) : Bool := c.context.any fun d => d.same context

/-- Whether the server has to be asked before an answer for a context. -/
def needsRefresh (c : Cache) (context : Context) (now : Instant) : Bool :=
  !c.isFor context || decide (c.deadline < now)

/-- The mark of the entries, if they belong to a context. -/
def etagFor? (c : Cache) (context : Context) : Option String :=
  if c.isFor context then c.etag else none

/-- The entry with a key. -/
def get? (c : Cache) (key : String) : Option Entry := c.flags.get? key

/-- All entries, in the order of their keys. -/
def all (c : Cache) : List Entry := c.flags.values

theorem needsRefresh_eq_false_iff {c : Cache} {context : Context} {now : Instant} :
    c.needsRefresh context now = false ↔ c.isFor context = true ∧ now ≤ c.deadline := by
  simp only [needsRefresh, Bool.or_eq_false_iff, Bool.not_eq_false', decide_eq_false_iff_not]
  exact Iff.rfl

end Cache

end RemoteFlags
