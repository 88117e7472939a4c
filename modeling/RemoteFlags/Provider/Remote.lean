import RemoteFlags.Provider.Answer
import RemoteFlags.Provider.Pause
import RemoteFlags.Provider.Request
import RemoteFlags.World

/-!
# Remote providers

A remote provider asks a server for the values of flags, either for one flag at a time or for all
flags of a context at once.  The answer to the latter is cached.

Every operation takes the state of the provider and the world, and gives an `Outcome`.

## Main definitions

* `Remote.State`, `Remote.Outcome`: what changes in a provider, and what comes of an operation.
* `Remote.post`: one request with its repetitions.
* `Remote.resolve`, `Remote.list`: the value of one flag, and of all flags.
-/

namespace RemoteFlags

namespace Remote

/-- What changes in a remote provider. -/
structure State where
  /-- The entries of the last bulk answer. -/
  cache : Cache
  /-- The end of the last pause. -/
  pause : Option Instant := none

/-- The state of a new provider. -/
def State.initial (now : Instant) : State := { cache := Cache.empty now }

/-- What comes of an operation: its result, and the provider and the world after it. -/
structure Outcome (α : Type) where
  /-- The result. -/
  result : Except FlagError α
  /-- The provider afterwards. -/
  state : State
  /-- The world afterwards. -/
  world : World

/-! ### Requests -/

/-- Sends a request, and again up to `retries` times as long as it fails. -/
def attempts : Nat → World → Http.Request → Except Http.Fault Http.Response × World
  | 0, w, q => w.send q
  | retries + 1, w, q =>
    match w.send q with
    | (.ok res, w) => (.ok res, w)
    | (.error _, w) => attempts retries w q

/-- Asks the server, unless a pause is on. -/
def post (r : Remote) (pause : Option Instant) (u : Url) (c : Context) (etag : Option String)
    (w : World) : Except FlagError Http.Response × World :=
  let (now, w) := w.now
  match Pause.pausedUntil? pause now with
  | some t => (.error (.rateLimited t), w)
  | none =>
    match attempts r.maxRetries w (r.request u c etag) with
    | (.ok res, w) => (.ok res, w)
    | (.error f, w) => (.error (.http f), w)

/-- The outcome of an answer without success.  A pause begins when the server asks for one. -/
def refused {α : Type} (st : State) (key : Option String) (res : Http.Response) (w : World) :
    Outcome α :=
  if res.status = 429 then
    let (now, w) := w.now
    let resume := Pause.resumeInstant (res.headerText? "retry-after") now
    ⟨.error (.rateLimited resume), { st with pause := some resume }, w⟩
  else ⟨.error (refusal key res), st, w⟩

/-! ### One flag at a time -/

/-- The value of a flag, by a request of its own. -/
def resolveSingle (r : Remote) (st : State) (key : String) (c : Context) (w : World) :
    Outcome Resolution :=
  match r.post st.pause (r.endpoint (some key)) c none w with
  | (.error e, w) => ⟨.error e, st, w⟩
  | (.ok res, w) =>
    if Http.isSuccess res.status then ⟨toldSuccess key res, st, w⟩
    else refused st (some key) res w

/-! ### All flags at once -/

/-- The state with a cache after an operation on it. -/
def stored (st : State) (w : World) (p : Except Cache.Fault Unit × Cache) : Outcome Unit :=
  ⟨p.1.mapError fun f => .cache f.message, { st with cache := p.2 }, w⟩

/-- Takes in the answer to a bulk request for a context. -/
def takeBulk (r : Remote) (st : State) (c : Context) (res : Http.Response) (w : World) :
    Outcome Unit :=
  if res.status = 304 then
    let (now, w) := w.now
    stored st w (st.cache.extend r.lifetime now)
  else if Http.isSuccess res.status then
    match res.text with
    | .error f => ⟨.error (.http f), st, w⟩
    | .ok body =>
      match Json.Document.read (Entry.bulkOfOutline Json.Outline.nestingLimit) body with
      | .error e => ⟨.error (.parse e.message), st, w⟩
      | .ok entries =>
        let (now, w) := w.now
        stored st w (st.cache.refresh c entries (res.headerText? "etag") r.lifetime now)
  else refused st none res w

/-- The state from which a bulk request for a context starts, with the mark that the request
carries. Without a mark, nothing of the cache is kept. -/
def prepared (st : State) (c : Context) (w : World) : Option String × State × World :=
  match st.cache.etagFor? c with
  | some mark => (some mark, st, w)
  | none =>
    let (now, w) := w.now
    (none, { st with cache := Cache.empty now }, w)

/-- Asks the server for all flags of a context. -/
def refetch (r : Remote) (st : State) (c : Context) (w : World) : Outcome Unit :=
  let (etag, st, w) := prepared st c w
  match r.post st.pause (r.endpoint none) c etag w with
  | (.error e, w) => ⟨.error e, st, w⟩
  | (.ok res, w) => r.takeBulk st c res w

/-- Asks the server if the cache needs it, and then answers from the cache. -/
def fromCache {α : Type} (r : Remote) (st : State) (c : Context) (w : World)
    (answer : Cache → Except FlagError α) : Outcome α :=
  let (now, w) := w.now
  if st.cache.needsRefresh c now then
    match r.refetch st c w with
    | ⟨.error e, st, w⟩ => ⟨.error e, st, w⟩
    | ⟨.ok _, st, w⟩ => ⟨answer st.cache, st, w⟩
  else ⟨answer st.cache, st, w⟩

/-- The value of a flag, from the cache.  The clock is read once more before the server is asked. -/
def resolveBulk (r : Remote) (st : State) (key : String) (c : Context) (w : World) :
    Outcome Resolution :=
  let answer (cache : Cache) : Except FlagError Resolution := entryAnswer key (cache.get? key)
  let (now, w) := w.now
  if st.cache.needsRefresh c now then r.fromCache st c w answer
  else ⟨answer st.cache, st, w⟩

/-! ### Operations of the provider -/

/-- The value of a flag in a context. -/
def resolve (r : Remote) (st : State) (key : String) (c : Context) (w : World) :
    Outcome Resolution :=
  match r.mode with
  | .single => r.resolveSingle st key c w
  | .bulk => r.resolveBulk st key c w

/-- All flags that have a value in a context, in the order of their keys. -/
def list (r : Remote) (st : State) (c : Context) (w : World) :
    Outcome (List (String × Resolution)) :=
  r.fromCache st c w fun cache => .ok (valuesOf cache)

end Remote

end RemoteFlags
