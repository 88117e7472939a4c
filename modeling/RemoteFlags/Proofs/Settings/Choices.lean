import RemoteFlags.Provider.Settings

/-!
# Choices

Settings are collected from choices, made one after the other.  A choice replaces the value of one
setting, or adds a header field; it leaves everything else as it is.  So of all choices for a setting
the last one counts, and the header fields are those that were added, in their order.

## Main definitions

* `Settings.Choice`, `Settings.chosen cs` — choices, and the settings that they give.
* `Settings.last? f cs` — the last value that choices give to a setting.
* `Settings.Agree cs cs'` — two lists of choices differ only in choices that do not count, and in
  how choices for different settings follow each other.

## Main results

* `Settings.foldl_apply` — **the run**: a setting has its last value.
* `Settings.chosen_eq` — the settings that choices give.
* `Settings.Agree.chosen_eq` — choices that agree give the same settings.
-/

namespace RemoteFlags

namespace Settings

/-- A choice for the settings of a provider. -/
inductive Choice where
  /-- Where the server is. -/
  | baseUrl (url : String)
  /-- How often a request without answer is repeated. -/
  | maxRetries (n : Nat)
  /-- How long the first repetition waits, in milliseconds. -/
  | retryBackoff (milliseconds : Nat)
  /-- How long an answer is waited for, in milliseconds. -/
  | timeout (milliseconds : Nat)
  /-- What shows the server who is asking. -/
  | token (token : String)
  /-- A header field for every request. -/
  | header (name value : String)
  /-- To ask for all flags of a context at once. -/
  | bulkEvaluation
  /-- How long a bulk answer is used, in seconds. -/
  | lifetime (seconds : Int)
deriving DecidableEq, Repr

/-- The settings after one more choice. -/
def Choice.apply (s : Settings) : Choice → Settings
  | .baseUrl url => s.withBaseUrl url
  | .maxRetries n => s.withMaxRetries n
  | .retryBackoff n => s.withRetryBackoff n
  | .timeout n => s.withTimeout n
  | .token t => s.withToken t
  | .header name value => s.withHeader name value
  | .bulkEvaluation => s.withBulkEvaluation
  | .lifetime n => s.withLifetime n

/-- The settings that choices give, one after the other. -/
def chosen (cs : List Choice) : Settings := cs.foldl Choice.apply {}

/-! ### What a choice is about -/

namespace Choice

/-- The place of the server that is chosen. -/
def baseUrl? : Choice → Option String
  | .baseUrl url => some url
  | _ => none

/-- The number of repetitions that is chosen. -/
def maxRetries? : Choice → Option Nat
  | .maxRetries n => some n
  | _ => none

/-- The first wait that is chosen. -/
def retryBackoff? : Choice → Option Nat
  | .retryBackoff n => some n
  | _ => none

/-- The longest wait for an answer that is chosen. -/
def timeout? : Choice → Option Nat
  | .timeout n => some n
  | _ => none

/-- The token that is chosen. -/
def token? : Choice → Option String
  | .token t => some t
  | _ => none

/-- The header field that is added. -/
def header? : Choice → Option (String × String)
  | .header name value => some (name, value)
  | _ => none

/-- The way to ask that is chosen. -/
def mode? : Choice → Option Mode
  | .bulkEvaluation => some .bulk
  | _ => none

/-- The lifetime of bulk answers that is chosen. -/
def lifetime? : Choice → Option Int
  | .lifetime n => some n
  | _ => none

end Choice

/-! ### Last values -/

section

variable {α : Type}

/-- The last value that choices give to a setting. -/
def last? (f : Choice → Option α) (cs : List Choice) : Option α := (cs.filterMap f).getLast?

theorem last?_cons (f : Choice → Option α) (k : Choice) (cs : List Choice) :
    last? f (k :: cs) = (last? f cs).or (f k) := by
  unfold last?
  rw [List.filterMap_cons]
  cases f k with
  | none => exact Option.or_none.symm
  | some v =>
    rw [List.getLast?_cons]
    cases (cs.filterMap f).getLast? <;> rfl

/-- **The run.**  If every choice gives a setting a new value or leaves it alone, then choices give it
the last one of these values. -/
theorem foldl_apply {setting : Settings → α} {f : Choice → Option α}
    (hstep : ∀ s k, setting (Choice.apply s k) = (f k).getD (setting s)) (s : Settings)
    (cs : List Choice) : setting (cs.foldl Choice.apply s) = (last? f cs).getD (setting s) := by
  -- Induction on the choices, from all settings that are there before them.
  induction cs generalizing s with
  | nil => rfl
  | cons k cs ih =>
    rw [List.foldl_cons, ih, hstep, last?_cons]
    cases last? f cs <;> rfl

theorem last?_map_some (f : Choice → Option α) (cs : List Choice) :
    last? (fun k => (f k).map some) cs = (last? f cs).map some := by
  induction cs with
  | nil => rfl
  | cons k cs ih =>
    rw [last?_cons, last?_cons, ih]
    cases last? f cs <;> rfl

end

/-- Header fields are added behind those that are there. -/
theorem headers_foldl_apply (s : Settings) (cs : List Choice) :
    (cs.foldl Choice.apply s).headers = s.headers ++ cs.filterMap Choice.header? := by
  induction cs generalizing s with
  | nil => exact (List.append_nil _).symm
  | cons k cs ih =>
    rw [List.foldl_cons, ih, List.filterMap_cons]
    cases k with
    | header name value => exact List.append_assoc s.headers [(name, value)] _
    | _ => rfl

theorem token_chosen (cs : List Choice) : (chosen cs).token = last? Choice.token? cs := by
  have hstep : ∀ s k, (Choice.apply s k).token = ((Choice.token? k).map some).getD s.token := by
    intro s k
    cases k <;> rfl
  rw [chosen, foldl_apply hstep, last?_map_some]
  cases last? Choice.token? cs <;> rfl

/-- The settings that choices give. -/
theorem chosen_eq (cs : List Choice) :
    chosen cs =
      { baseUrl := (last? Choice.baseUrl? cs).getD "http://localhost:8080"
        maxRetries := (last? Choice.maxRetries? cs).getD 0
        retryBackoff := (last? Choice.retryBackoff? cs).getD 1000
        timeout := (last? Choice.timeout? cs).getD 10000
        token := last? Choice.token? cs
        headers := cs.filterMap Choice.header?
        mode := (last? Choice.mode? cs).getD .single
        lifetime := (last? Choice.lifetime? cs).getD 60 } := by
  -- Each choice is about one setting, which the cases show for every setting in turn.
  rw [← token_chosen]
  apply Settings.ext
  case baseUrl => exact foldl_apply (fun s k => by cases k <;> rfl) {} cs
  case maxRetries => exact foldl_apply (fun s k => by cases k <;> rfl) {} cs
  case retryBackoff => exact foldl_apply (fun s k => by cases k <;> rfl) {} cs
  case timeout => exact foldl_apply (fun s k => by cases k <;> rfl) {} cs
  case token => rfl
  case headers => exact headers_foldl_apply {} cs
  case mode => exact foldl_apply (fun s k => by cases k <;> rfl) {} cs
  case lifetime => exact foldl_apply (fun s k => by cases k <;> rfl) {} cs

/-! ### Choices that agree -/

/-- Two lists of choices have the same last value for every setting, and add the same header fields in
the same order. -/
structure Agree (cs cs' : List Choice) : Prop where
  /-- The place of the server. -/
  baseUrl : last? Choice.baseUrl? cs = last? Choice.baseUrl? cs'
  /-- The number of repetitions. -/
  maxRetries : last? Choice.maxRetries? cs = last? Choice.maxRetries? cs'
  /-- The first wait. -/
  retryBackoff : last? Choice.retryBackoff? cs = last? Choice.retryBackoff? cs'
  /-- The longest wait for an answer. -/
  timeout : last? Choice.timeout? cs = last? Choice.timeout? cs'
  /-- The token. -/
  token : last? Choice.token? cs = last? Choice.token? cs'
  /-- The header fields. -/
  headers : cs.filterMap Choice.header? = cs'.filterMap Choice.header?
  /-- The way to ask. -/
  mode : last? Choice.mode? cs = last? Choice.mode? cs'
  /-- The lifetime of bulk answers. -/
  lifetime : last? Choice.lifetime? cs = last? Choice.lifetime? cs'

theorem Agree.chosen_eq {cs cs' : List Choice} (h : Agree cs cs') : chosen cs = chosen cs' := by
  rw [Settings.chosen_eq, Settings.chosen_eq, h.baseUrl, h.maxRetries, h.retryBackoff, h.timeout,
    h.token, h.headers, h.mode, h.lifetime]

end Settings

end RemoteFlags
