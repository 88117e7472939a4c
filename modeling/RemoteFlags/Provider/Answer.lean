import RemoteFlags.Cache
import RemoteFlags.Flag.Error
import RemoteFlags.Flag.Resolution
import RemoteFlags.Json.Outline.Scan

/-!
# What answers say about flags

An answer of the server, or an entry of the cache, gives a flag a value or tells why it has none.

## Main definitions

* `Remote.refusal`: the failure that an answer without success stands for.
* `Remote.toldSuccess`: the value that an answer with success tells.
* `Remote.entryAnswer`, `Remote.valuesOf`: what the cache tells about one flag and about all flags.
-/

namespace RemoteFlags

namespace Remote

/-! ### Refusals -/

/-- The status of an answer, as failures tell it. -/
def statusMessage (res : Http.Response) : String :=
  "server answered " ++ Http.statusText res.status

/-- The failure that a status outside the expected ones stands for. -/
def unexpected (res : Http.Response) : FlagError :=
  .api ("Unexpected status code: " ++ Http.statusText res.status)

/-- The failure to find a flag. -/
def notFound (key : String) : FlagError :=
  .evaluation .flagNotFound ("Flag '" ++ key ++ "' was not found")

/-- The failure that the body of an answer tells; a body that does not arrive tells none. -/
def toldFailure? (res : Http.Response) : Option Failure :=
  let body := match res.text with
    | .ok body => body
    | .error _ => ""
  (Json.Document.read (Failure.ofOutline Json.Outline.nestingLimit) body).toOption

/-- The failure that an answer without success stands for, apart from pauses. -/
def refusal (key : Option String) (res : Http.Response) : FlagError :=
  if res.status = 401 ∨ res.status = 403 then .authentication (statusMessage res)
  else if res.status = 400 ∨ res.status = 404 then
    match toldFailure? res, key with
    | some f, _ => .evaluation f.code (f.details.getD (statusMessage res))
    | none, some key => if res.status = 404 then notFound key else unexpected res
    | none, none => unexpected res
  else unexpected res

/-! ### Values -/

/-- The value that the body of an answer tells. -/
def toldSuccess (key : String) (res : Http.Response) : Except FlagError Resolution :=
  match res.text with
  | .error f => .error (.http f)
  | .ok body =>
    match Json.Document.read (Success.ofOutline Json.Outline.nestingLimit) body with
    | .ok s => .ok s.resolution
    | .error e => .error (.parse ("flag '" ++ key ++ "': " ++ e.message))

/-! ### Entries of the cache -/

/-- The answer that a cached entry gives. -/
def entryAnswer (key : String) : Option Entry → Except FlagError Resolution
  | some (.success s) => .ok { s.resolution with reason := .cached }
  | some (.failure f) =>
    .error (.evaluation f.code
      (f.details.getD ("Flag '" ++ key ++ "' could not be evaluated")))
  | none => .error (notFound key)

/-- The flags with a value, in the order of their keys. -/
def valuesOf (cache : Cache) : List (String × Resolution) :=
  cache.all.filterMap fun e =>
    match e with
    | .success s => some (s.key, s.resolution)
    | .failure _ => none

end Remote

end RemoteFlags
