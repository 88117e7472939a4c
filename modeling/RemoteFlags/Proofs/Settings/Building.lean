import RemoteFlags.Proofs.Attempts
import RemoteFlags.Proofs.Pause.Contact
import RemoteFlags.Proofs.Settings.Choices

/-!
# Building a provider

A provider is built from settings if all of them are acceptable, header fields that others replace
included.  Its requests carry header fields from three sources: those that were added under a name, in
any case, come before the token, and both come before the fields that every request has.  All of this is
said of at most 24576 names, as the HTTP library has room for no more.

## Main definitions

* `Settings.Acceptable cs now` — a provider can be built from choices.
* `Settings.ownField? token name`, `Settings.field? cs name` — the value of a header field, without and
  with those that were added.
* `Settings.Built cs r` — a provider has what was chosen.
* `Bulk.Call.request r st k` — the request that a call makes when it needs the server.

## Main results

* `Settings.get?_of_putToken`, `Settings.putFields_eq_ok_iff` — which value a field has in the end.
* `Remote.fieldValues_request` — what a request carries.
* `Bulk.Call.network_make` — calls send nothing but their request, some times in a row.
* `Settings.build_chosen` — **what is built from choices.**
-/

namespace RemoteFlags

/-! ### Names of header fields -/

namespace Http

theorem toLower_toLower_char (c : Char) : c.toLower.toLower = c.toLower := by
  by_cases h : c.val ≥ 'A'.val ∧ c.val ≤ 'Z'.val
  · have hval : c.toLower.val = c.val + 32 := congrArg Char.val (dif_pos h)
    have hlower : ¬ (c.toLower.val ≥ 'A'.val ∧ c.toLower.val ≤ 'Z'.val) := by
      rw [hval]
      simp only [ge_iff_le, UInt32.le_iff_toNat_le, UInt32.toNat_add, Char.reduceVal,
        UInt32.reduceToNat] at h ⊢
      omega
    exact dif_neg hlower
  · have hsame : c.toLower = c := dif_neg h
    rw [hsame, hsame]

theorem toLower_toLower (s : String) : s.toLower.toLower = s.toLower := by
  have hchars : Char.toLower ∘ Char.toLower = Char.toLower := funext toLower_toLower_char
  show (s.map Char.toLower).map Char.toLower = s.map Char.toLower
  rw [String.map_map, hchars]

theorem eq_toLower_of_fieldName? {s name : String} (h : fieldName? s = some name) :
    name = s.toLower := by
  unfold fieldName? at h
  dsimp only at h
  split at h
  · obtain rfl := Option.some.inj h
    show String.ofList (s.toList.map Char.toLower) = s.map Char.toLower
    rw [← String.toList_map, String.ofList_toList]
  · cases h

/-- A header field that can be sent. -/
def IsSendable (f : String × String) : Prop :=
  (fieldName? f.1).isSome = true ∧ isFieldValue f.2 = true

/-- Header fields under their names in lower case. -/
def lowered (fs : List (String × String)) : List (String × String) :=
  fs.map fun f => (f.1.toLower, f.2)

/-- Only names in lower case are found. -/
theorem toLower_of_lastEntry {name value : String} {fs : List (String × String)}
    (h : lastEntry name (lowered fs) = some value) : name.toLower = name := by
  obtain ⟨f, -, heq⟩ := List.mem_map.mp (mem_of_lastEntry h)
  obtain ⟨rfl, -⟩ := Prod.mk.inj heq
  exact toLower_toLower f.1

end Http

namespace Settings

open Http (IsSendable lowered)

/-! ### The header fields of a provider -/

/-- The value that a field has without those that are added. -/
def ownField? (token : Option String) (name : String) : Option String :=
  if name = "authorization" then token.map ("Bearer " ++ ·)
  else if name = "user-agent" then some "ofrep-smoke/0.1.0"
  else if name = "accept" ∨ name = "content-type" then some "application/json"
  else none

/-- The names of the fields that need not be added. -/
def ownNames : List String := ["authorization", "user-agent", "accept", "content-type"]

theorem toLower_of_mem_ownNames : ∀ name ∈ ownNames, name.toLower = name := by decide +kernel

theorem ownField?_eq_none {name : String} (h : name ∉ ownNames) (token : Option String) :
    ownField? token name = none := by
  simp only [ownNames, List.mem_cons, List.not_mem_nil, or_false, not_or] at h
  simp [ownField?, h]

theorem toLower_of_ownField? {token : Option String} {name value : String}
    (h : ownField? token name = some value) : name.toLower = name := by
  by_cases hname : name ∈ ownNames
  · exact toLower_of_mem_ownNames name hname
  · rw [ownField?_eq_none hname] at h
    cases h

theorem get?_defaultFields (name : String) : defaultFields.get? name = ownField? none name := by
  rw [defaultFields, SortedMap.get?_ofList]
  by_cases hname : name ∈ ownNames
  · revert name
    decide +kernel
  · rw [ownField?_eq_none hname]
    simp only [ownNames, List.mem_cons, List.not_mem_nil, or_false, not_or] at hname
    simp [lastEntry, hname, eq_comm]

theorem putToken_eq_ok_iff {fields m : SortedMap String} {token : Option String} :
    putToken fields token = .ok m ↔
      (∀ t, token = some t → Http.isFieldValue ("Bearer " ++ t) = true) ∧
        m = token.elim fields fun t => fields.insert "authorization" ("Bearer " ++ t) := by
  cases token with
  | none => exact ⟨fun h => ⟨nofun, (Except.ok.inj h).symm⟩, fun ⟨_, h⟩ => h ▸ rfl⟩
  | some t =>
    have hput : putToken fields (some t) =
        if Http.isFieldValue ("Bearer " ++ t) then
          .ok (fields.insert "authorization" ("Bearer " ++ t))
        else .error .invalidToken := rfl
    rw [hput]
    split
    · next ht =>
      constructor
      · intro h
        exact ⟨fun t' ht' => Option.some.inj ht' ▸ ht, (Except.ok.inj h).symm⟩
      · rintro ⟨-, rfl⟩
        rfl
    · next ht => simp [ht]

theorem get?_of_putToken {m : SortedMap String} {token : Option String}
    (h : putToken defaultFields token = .ok m) (name : String) :
    m.get? name = ownField? token name := by
  obtain ⟨-, rfl⟩ := putToken_eq_ok_iff.mp h
  cases token with
  | none => exact get?_defaultFields name
  | some t =>
    by_cases hname : name = "authorization"
    · subst hname
      exact SortedMap.get?_insert_self _ _ _
    · rw [Option.elim_some, SortedMap.get?_insert_of_ne _ (Ne.symm hname), get?_defaultFields]
      simp [ownField?, hname]

/-- Fields are put in their places if all of them can be sent, those that are replaced included. -/
theorem putFields_eq_ok_iff {fields m : SortedMap String} {fs : List (String × String)} :
    putFields fields fs = .ok m ↔
      (∀ f ∈ fs, IsSendable f) ∧ m = (lowered fs).foldl (fun m e => m.insert e.1 e.2) fields := by
  -- Induction on the fields, over all maps that they are put into.
  induction fs generalizing fields with
  | nil => simp [putFields, lowered, eq_comm]
  | cons f fs ih =>
    obtain ⟨name, value⟩ := f
    rw [List.forall_mem_cons, putFields]
    cases hname : Http.fieldName? name with
    | none => simp [IsSendable, hname]
    | some lower =>
      obtain rfl := Http.eq_toLower_of_fieldName? hname
      by_cases hvalue : Http.isFieldValue value = true
      · have hf : IsSendable (name, value) := ⟨by rw [hname]; rfl, hvalue⟩
        simp only [hvalue, if_true, ih, hf, true_and]
        rfl
      · simp [IsSendable, hvalue]

/-! ### Building -/

/-- A provider can be built from choices: the last place is a URL with a path, the last lifetime leads to
an instant, the last token can be sent, and so can every header field, whether it counts or not. -/
structure Acceptable (cs : List Choice) (now : Instant) : Prop where
  /-- The place is a URL, and its path has segments. -/
  base : ∃ u, Url.parse ((last? Choice.baseUrl? cs).getD "http://localhost:8080") = .ok u
  /-- A bulk answer that comes now has a deadline. -/
  lifetime : (now.plus ((last? Choice.lifetime? cs).getD 60)).InRange
  /-- The token can be sent. -/
  token : ∀ t, last? Choice.token? cs = some t → Http.isFieldValue ("Bearer " ++ t) = true
  /-- All header fields can be sent. -/
  headers : ∀ name value, Choice.header name value ∈ cs → IsSendable (name, value)

theorem mem_filterMap_header? {cs : List Choice} {f : String × String} :
    f ∈ cs.filterMap Choice.header? ↔ Choice.header f.1 f.2 ∈ cs := by
  rw [List.mem_filterMap]
  constructor
  · rintro ⟨k, hk, hf⟩
    cases k with
    | header name value =>
      obtain rfl := Option.some.inj hf
      exact hk
    | _ => cases hf
  · exact fun h => ⟨_, h, rfl⟩

theorem exists_build_chosen_iff (cs : List Choice) {now : Instant} (hnow : now.InRange) :
    (∃ r, (chosen cs).build now = .ok r) ↔ Acceptable cs now := by
  have hafter : ∀ n : Int, (now.after? n).isSome = true ↔ (now.plus n).InRange := by
    intro n
    rw [Instant.after?_of_inRange hnow]
    split <;> simp [*]
  simp only [build_eq_ok_iff, hafter, chosen_eq]
  constructor
  · rintro ⟨r, hbase, hlifetime, ⟨fields, htoken, hfields⟩, -⟩
    refine ⟨⟨r.base, hbase⟩, hlifetime, (putToken_eq_ok_iff.mp htoken).1, fun name value hmem => ?_⟩
    exact (putFields_eq_ok_iff.mp hfields).1 _ (mem_filterMap_header?.mpr hmem)
  · rintro ⟨⟨u, hbase⟩, hlifetime, htoken, hheaders⟩
    have hfields : ∀ f ∈ cs.filterMap Choice.header?, IsSendable f := fun f hf =>
      hheaders f.1 f.2 (mem_filterMap_header?.mp hf)
    exact ⟨⟨u, _, _, _, _, _, _⟩, hbase, hlifetime,
      ⟨_, putToken_eq_ok_iff.mpr ⟨htoken, rfl⟩, putFields_eq_ok_iff.mpr ⟨hfields, rfl⟩⟩, rfl, rfl, rfl,
      rfl, rfl⟩

end Settings

/-! ### Requests -/

namespace Remote

/-- A request carries the fields of the provider, and the mark that goes along, if no user is named in
its place. -/
theorem fieldValues_request {u : Url} (huser : basicToken? u = none) (r : Remote) (c : Context)
    (mark : Option String) (name : String) :
    Http.fieldValues name (r.request u c mark).headers =
      Http.fieldValues name r.headers.entries ++
        if name = "if-none-match" then mark.toList else [] := by
  unfold request requestFields
  rw [huser]
  cases mark with
  | none => simp
  | some mark =>
    dsimp only
    split
    · next hname =>
      rw [hname, Http.fieldValues_addField_self _ _ r.headers.increasing]
      rfl
    · next hname =>
      rw [Http.fieldValues_addField_of_ne (Ne.symm hname), List.append_nil]

/-- Asking the server sends one request some times in a row, or not at all. -/
theorem network_post (r : Remote) (pause : Option Instant) (u : Url) (c : Context)
    (mark : Option String) (w : World) :
    ∃ n ≤ r.maxRetries + 1,
      (r.post pause u c mark w).2.network = (w.resent (r.request u c mark) n).network := by
  rw [post_eq]
  cases Pause.pausedUntil? pause w.now.1 with
  | some t => exact ⟨0, Nat.zero_le _, rfl⟩
  | none =>
    obtain ⟨n, hn, hattempts⟩ := exists_attempts r.maxRetries w.now.2 (r.request u c mark)
    refine ⟨n, hn, ?_⟩
    rw [hattempts]
    exact World.network_resent_congr (World.network_now w) n

end Remote

namespace Bulk.Call

open Remote (State)

/-- The flag that a call asks the server for, if it does not ask for all. -/
def subject? (r : Remote) : Call → Option String
  | .resolve key _ => if r.mode = .single then some key else none
  | .list _ => none

/-- The mark that goes along with a call: that of the cached answer for its context, if it is answered
from the cache. -/
def mark? (r : Remote) (st : State) (k : Call) : Option String :=
  if k.isCached r then st.cache.etagFor? k.context else none

/-- The request that a call makes when it needs the server. -/
def request (r : Remote) (st : State) (k : Call) : Http.Request :=
  r.request (r.endpoint (k.subject? r)) k.context (k.mark? r st)

theorem subject?_of_isCached {r : Remote} {k : Call} (h : k.isCached r = true) :
    k.subject? r = none := by
  cases k with
  | resolve key c =>
    have hmode : r.mode = .bulk := by simpa [isCached] using h
    simp [subject?, hmode]
  | list c => rfl

/-- Calls send nothing but their request, some times in a row. -/
theorem network_make (r : Remote) (st : State) (w : World) (k : Call) :
    ∃ n ≤ r.maxRetries + 1,
      (k.make r st w).world.network = (w.resent (k.request r st) n).network := by
  cases hcached : k.isCached r with
  | false =>
    obtain ⟨key, c, rfl, hmake, -⟩ := exists_resolveSingle hcached st w
    have hmode : r.mode = .single := by
      cases hr : r.mode with
      | single => rfl
      | bulk => simp [isCached, hr] at hcached
    have hrequest : (Call.resolve key c).request r st =
        r.request (r.endpoint (some key)) c none := by
      rw [request, subject?, if_pos hmode, mark?, if_neg (by simp [hcached])]
      rfl
    obtain ⟨n, hn, hpost⟩ := Remote.network_post r st.pause (r.endpoint (some key)) c none w
    refine ⟨n, hn, ?_⟩
    rw [hmake, hrequest, ← hpost]
    exact Remote.network_resolveSingle r st key c w
  | true =>
    rw [make_of_isCached hcached]
    cases hasking : k.asking? st w with
    | none =>
      obtain ⟨-, -, -, -, hnetwork⟩ := perform_of_answers r hasking
      exact ⟨0, Nat.zero_le _, hnetwork⟩
    | some w' =>
      have hrequest : k.request r st =
          r.request (r.endpoint none) k.context (st.cache.etagFor? k.context) := by
        rw [request, subject?_of_isCached hcached, mark?, if_pos hcached]
      obtain ⟨n, hn, hpost⟩ := Remote.network_post r st.pause (r.endpoint none) k.context
        (Remote.prepared st k.context w').1 (Remote.prepared st k.context w').2.2
      refine ⟨n, hn, ?_⟩
      rw [world_of_asks r hasking, (Remote.concludes_refetch r st k.context w').network,
        Remote.bulkPost, hpost, Remote.fst_prepared, hrequest]
      refine World.network_resent_congr ?_ n
      rw [Remote.network_prepared, network_of_asking? hasking]

end Bulk.Call

/-! ### What is built from choices -/

namespace Settings

open Http (IsSendable lowered fieldValues)
open Bulk (Call)
open Remote (State)

/-- The value that choices give to a header field: the last one that was added under its name in any
case; for want of one, the token or what every request has. -/
def field? (cs : List Choice) (name : String) : Option String :=
  lastEntry name (lowered (cs.filterMap Choice.header?)) <|>
    ownField? (last? Choice.token? cs) name

/-- A provider has what was chosen last, and its requests carry the header fields. -/
structure Built (cs : List Choice) (r : Remote) : Prop where
  /-- Where the server is. -/
  base : Url.parse ((last? Choice.baseUrl? cs).getD "http://localhost:8080") = .ok r.base
  /-- How the server is asked. -/
  mode : r.mode = (last? Choice.mode? cs).getD .single
  /-- How long a bulk answer is used. -/
  lifetime : r.lifetime = (last? Choice.lifetime? cs).getD 60
  /-- How often a request is repeated. -/
  maxRetries : r.maxRetries = (last? Choice.maxRetries? cs).getD 0
  /-- How long the first repetition waits. -/
  retryBackoff : r.retryBackoff = (last? Choice.retryBackoff? cs).getD 1000
  /-- How long an answer is waited for. -/
  timeout : r.timeout = (last? Choice.timeout? cs).getD 10000
  /-- All names are in lower case. -/
  names : ∀ name ∈ r.headers.keys, name.toLower = name
  /-- Every name has its value, and no other one. -/
  values : ∀ name, fieldValues name r.headers.entries = (field? cs name).toList
  /-- All attempts of a call send its request. -/
  attempts : ∀ (st : State) (w : World) (k : Call), ∃ n ≤ r.maxRetries + 1,
    (k.make r st w).world.network = (w.resent (k.request r st) n).network
  /-- If the place names no user, the request carries the header fields, and nothing else but the mark of
  the cached answer. -/
  requests : r.base.username = "" → r.base.password = "" → ∀ (st : State) (k : Call) (name : String),
    fieldValues name (k.request r st).headers =
      (field? cs name).toList ++ if name = "if-none-match" then (k.mark? r st).toList else []

theorem get?_of_build {cs : List Choice} {now : Instant} {r : Remote}
    (h : (chosen cs).build now = .ok r) (name : String) : r.headers.get? name = field? cs name := by
  rw [build_eq_ok_iff, chosen_eq] at h
  obtain ⟨-, -, ⟨fields, htoken, hfields⟩, -⟩ := h
  rw [(putFields_eq_ok_iff.mp hfields).2, SortedMap.get?_foldl_insert, get?_of_putToken htoken]
  rfl

theorem built_of_build {cs : List Choice} {now : Instant} {r : Remote}
    (h : (chosen cs).build now = .ok r) : Built cs r := by
  have hget := get?_of_build h
  have hvalues : ∀ name, fieldValues name r.headers.entries = (field? cs name).toList :=
    fun name => by rw [Http.fieldValues_entries, hget]
  rw [build_eq_ok_iff, chosen_eq] at h
  obtain ⟨hbase, -, -, hmode, hlifetime, hretries, hbackoff, htimeout⟩ := h
  refine ⟨hbase, hmode, hlifetime, hretries, hbackoff, htimeout, fun name hname => ?_, hvalues,
    Call.network_make r, fun husername hpassword st k name => ?_⟩
  · obtain ⟨value, hvalue⟩ : ∃ value, field? cs name = some value := by
      rw [← hget]
      exact Option.ne_none_iff_exists'.mp fun hnone => SortedMap.get?_eq_none_iff.mp hnone hname
    rw [field?] at hvalue
    cases hadded : lastEntry name (lowered (cs.filterMap Choice.header?)) with
    | some v => exact Http.toLower_of_lastEntry hadded
    | none =>
      rw [hadded] at hvalue
      exact toLower_of_ownField? hvalue
  · -- The place of a request has the user of the base.
    have huser : Remote.basicToken? (r.endpoint (k.subject? r)) = none :=
      Remote.basicToken?_of_no_user husername hpassword
    rw [Call.request, Remote.fieldValues_request huser, hvalues]

/-- **What is built from choices.**  A provider is built exactly if the choices are acceptable.  Only the
last choice for each setting and the header fields in their order have a say in it, whichever choices
they come between.  The provider then has what was chosen: under each name, in lower case, one value,
which is the last one that was added under it, or else that of the token or of every request.  Calls of
a provider send nothing but requests with these fields, and with the mark of the cached answer.  The
HTTP library is assumed to have room for all names, as it does for up to 24576 of them. -/
theorem build_chosen (cs : List Choice) {now : Instant} (hnow : now.InRange) :
    ((∃ r, (chosen cs).build now = .ok r) ↔ Acceptable cs now) ∧
      (∀ cs', Agree cs cs' → (chosen cs).build now = (chosen cs').build now) ∧
      ∀ r, (chosen cs).build now = .ok r → Built cs r := by
  refine ⟨exists_build_chosen_iff cs hnow, fun cs' hagree => ?_, fun r => built_of_build⟩
  rw [hagree.chosen_eq]

/-! ### A tenant with two tokens -/

/-- Choices that replace a token, a header field and a field that every request has. -/
def tenantChoices : List Choice :=
  [.token "old", .header "X-Tenant" "acme", .baseUrl "http://flags.test", .header "x-tenant" "other",
    .token "new", .header "Accept" "text/plain", .maxRetries 2]

/-- The same choices in another order, without the token that does not count. -/
def tidyChoices : List Choice :=
  [.baseUrl "http://flags.test", .token "new", .maxRetries 2, .header "X-Tenant" "acme",
    .header "x-tenant" "other", .header "Accept" "text/plain"]

theorem agree_tidyChoices : Agree tenantChoices tidyChoices :=
  ⟨rfl, rfl, rfl, rfl, rfl, rfl, rfl, rfl⟩

theorem acceptable_tenantChoices : Acceptable tenantChoices ⟨0, 0⟩ where
  base := exists_ok_of_isOk (by decide +kernel)
  lifetime := by decide
  token t ht := by
    obtain rfl := Option.some.inj ht
    decide +kernel
  headers name value hmem := by
    simp only [tenantChoices, List.mem_cons, List.not_mem_nil, or_false, reduceCtorEq, false_or,
      Choice.header.injEq] at hmem
    obtain ⟨rfl, rfl⟩ | ⟨rfl, rfl⟩ | ⟨rfl, rfl⟩ := hmem <;>
      exact ⟨by decide +kernel, by decide +kernel⟩

/-- The provider of the tenant sends what was chosen last, whatever it is asked for. -/
theorem built_of_tenantChoices :
    ∃ r, (chosen tenantChoices).build ⟨0, 0⟩ = .ok r ∧ (chosen tidyChoices).build ⟨0, 0⟩ = .ok r ∧
      r.maxRetries = 2 ∧ ∀ (st : State) (k : Call),
        fieldValues "x-tenant" (k.request r st).headers = ["other"] ∧
        fieldValues "authorization" (k.request r st).headers = ["Bearer new"] ∧
        fieldValues "accept" (k.request r st).headers = ["text/plain"] ∧
        fieldValues "content-type" (k.request r st).headers = ["application/json"] := by
  obtain ⟨hiff, hagree, hbuilt⟩ := build_chosen tenantChoices (by decide : Instant.InRange ⟨0, 0⟩)
  obtain ⟨r, hr⟩ := hiff.mpr acceptable_tenantChoices
  obtain ⟨hbase, -, -, hretries, -, -, -, -, -, hrequests⟩ := hbuilt r hr
  have huser : (Url.parse "http://flags.test").toOption.any
      (fun u => u.username == "" && u.password == "") = true := by decide +kernel
  have hparse : Url.parse "http://flags.test" = .ok r.base := hbase
  rw [hparse, Except.toOption, Option.any_some, Bool.and_eq_true, beq_iff_eq, beq_iff_eq] at huser
  refine ⟨r, hr, by rw [← hagree _ agree_tidyChoices, hr], hretries, fun st k => ?_⟩
  have hvalues : ∀ name, name ≠ "if-none-match" →
      fieldValues name (k.request r st).headers = (field? tenantChoices name).toList := by
    intro name hname
    rw [hrequests huser.1 huser.2, if_neg hname, List.append_nil]
  refine ⟨?_, ?_, ?_, ?_⟩ <;> rw [hvalues _ (by decide)] <;> decide +kernel

end Settings

end RemoteFlags
