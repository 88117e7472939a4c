import RemoteFlags.Proofs.Text.Decimal
import RemoteFlags.Smoke.Config

/-!
# Which variables are accepted

A run is configured by three variables, of which only one can be wrong: the time for an answer has to
be a positive number that fits a word of 64 bits.  White space around that number does not count,
while the other two variables are taken as they stand.  A variable with nothing but white space in it
is no different from one that is absent.

## Main definitions

* `Says lookup name text`, `Silent lookup name` — what a variable says, if it says anything.
* `WritesTime raw n` — the texts of a time.
* `Reads lookup config` — the configuration that variables describe.

## Main results

* `nonBlank_eq_some_iff`, `nonBlank_eq_none_iff` — which variables are taken into account.
* `milliseconds?_eq_some_iff` — **the texts that are read as a time.**
* `fromLookup_grammar` — **what is accepted, and what comes of it.**
-/

namespace RemoteFlags
namespace Smoke.Config

/-! ### Variables -/

/-- A variable holds a text, in which there is something besides white space. -/
def Says (lookup : String → Option String) (name text : String) : Prop :=
  lookup name = some text ∧ ∃ c ∈ text.toList, Text.isBlank c = false

/-- A variable is absent, or holds nothing but white space. -/
def Silent (lookup : String → Option String) (name : String) : Prop :=
  ∀ text, lookup name = some text → ∀ c ∈ text.toList, Text.isBlank c = true

variable {lookup : String → Option String} {name : String}

theorem isBlankText_eq_false_iff {text : String} :
    Text.isBlankText text = false ↔ ∃ c ∈ text.toList, Text.isBlank c = false := by
  rw [Text.isBlankText, List.all_eq_false]
  simp only [Bool.not_eq_true]

theorem nonBlank_eq_some_iff {text : String} :
    nonBlank lookup name = some text ↔ Says lookup name text := by
  rw [nonBlank, Option.filter_eq_some_iff, Says, ← isBlankText_eq_false_iff, Bool.not_eq_true']

theorem nonBlank_eq_none_iff : nonBlank lookup name = none ↔ Silent lookup name := by
  rw [nonBlank, Option.filter_eq_none_iff]
  refine forall₂_congr fun text _ => ?_
  rw [Bool.not_eq_true', Bool.not_eq_false, Text.isBlankText, List.all_eq_true]

/-- A variable says something, or is silent. -/
theorem says_or_silent (lookup : String → Option String) (name : String) :
    (∃ text, Says lookup name text) ∨ Silent lookup name := by
  cases h : nonBlank lookup name with
  | some text => exact .inl ⟨text, nonBlank_eq_some_iff.mp h⟩
  | none => exact .inr (nonBlank_eq_none_iff.mp h)

/-! ### Times -/

/-- A text of a time: perhaps white space, perhaps a plus sign, one or more decimal digits, perhaps
white space.  The digits write a positive number that fits a word of 64 bits, with any number of
zeros in front. -/
structure WritesTime (raw : String) (n : Nat) : Prop where
  /-- The digits stand behind nothing but a sign, between nothing but white space. -/
  text : ∃ before sign digits after, raw.toList = before ++ (sign ++ digits) ++ after ∧
    (∀ c ∈ before ++ after, Text.isBlank c = true) ∧ (sign = [] ∨ sign = ['+']) ∧
    Text.IsNumeral digits n
  /-- The number is positive. -/
  positive : 1 ≤ n
  /-- The number fits a word of 64 bits. -/
  fits : n ≤ 2 ^ 64 - 1

/-- A number with white space around it is read without that. -/
theorem signedNatural?_trim_eq_some_iff {raw : String} {n : Nat} :
    Text.signedNatural? (Text.trim raw) = some n ↔
      ∃ before sign digits after, raw.toList = before ++ (sign ++ digits) ++ after ∧
        (∀ c ∈ before ++ after, Text.isBlank c = true) ∧ (sign = [] ∨ sign = ['+']) ∧
        Text.IsNumeral digits n := by
  rw [Text.signedNatural?_eq_some_iff, Text.trim, String.toList_ofList]
  constructor
  · rintro ⟨sign, digits, htrim, hsign, hdigits⟩
    obtain ⟨before, after, hraw, hbefore, hafter⟩ := Text.exists_trimBy Text.isBlank raw.toList
    rw [htrim] at hraw
    exact ⟨before, sign, digits, after, hraw,
      List.forall_mem_append.mpr ⟨hbefore, hafter⟩, hsign, hdigits⟩
  · rintro ⟨before, sign, digits, after, hraw, hblank, hsign, hdigits⟩
    obtain ⟨hbefore, hafter⟩ := List.forall_mem_append.mp hblank
    -- Neither a sign nor a digit is white space, so exactly the white space around them is removed.
    have hcore : ∀ c ∈ sign ++ digits, Text.isBlank c = false := by
      intro c hc
      rcases List.mem_append.mp hc with hc | hc
      · rcases hsign with rfl | rfl
        · cases hc
        · obtain rfl := List.mem_singleton.mp hc
          decide
      · exact Text.isBlank_of_isDigit (hdigits.isDigit_of_mem hc)
    have hne : sign ++ digits ≠ [] := fun h => hdigits.ne_nil (List.append_eq_nil_iff.mp h).2
    refine ⟨sign, digits, ?_, hsign, hdigits⟩
    rw [hraw]
    exact Text.trimBy_append hbefore hafter hcore hne

/-- **The texts that are read as a time.** -/
theorem milliseconds?_eq_some_iff {raw : String} {n : Nat} :
    milliseconds? raw = some n ↔ WritesTime raw n := by
  rw [milliseconds?, Option.filter_eq_some_iff, signedNatural?_trim_eq_some_iff, Bool.and_eq_true,
    decide_eq_true_eq, decide_eq_true_eq]
  constructor
  · rintro ⟨htext, hpositive, hfits⟩
    exact ⟨htext, hpositive, Nat.le_sub_one_of_lt hfits⟩
  · rintro ⟨htext, hpositive, hfits⟩
    exact ⟨htext, hpositive, Nat.lt_of_le_sub_one (by decide) hfits⟩

example : milliseconds? "\t+0042 " = some 42 ∧ milliseconds? "-0" = none ∧
    milliseconds? "18446744073709551616" = none := by
  decide +kernel

theorem milliseconds?_eq_none_iff {raw : String} :
    milliseconds? raw = none ↔ ∀ n, ¬ WritesTime raw n := by
  simp only [← milliseconds?_eq_some_iff, Option.eq_none_iff_forall_ne_some, ne_eq]

/-! ### Configurations -/

/-- The configuration that variables describe. -/
structure Reads (lookup : String → Option String) (config : Config) : Prop where
  /-- The time is the number that the variable says. -/
  timeout : ∀ raw, Says lookup timeoutName raw →
    ∃ n, WritesTime raw n ∧ config.timeout = some n
  /-- Without one, no time is set. -/
  no_timeout : Silent lookup timeoutName → config.timeout = none
  /-- The place is what the variable says, white space included. -/
  baseUrl : ∀ text, Says lookup baseUrlName text → config.baseUrl = text
  /-- Without one, it is the usual place. -/
  no_baseUrl : Silent lookup baseUrlName → config.baseUrl = "http://localhost:8080"
  /-- The token is what the variable says, white space included. -/
  token : ∀ text, Says lookup tokenName text → config.token = some text
  /-- Without one, there is no token. -/
  no_token : Silent lookup tokenName → config.token = none

theorem WritesTime.unique {raw : String} {m n : Nat} (h : WritesTime raw m) (h' : WritesTime raw n) :
    m = n :=
  Option.some.inj ((milliseconds?_eq_some_iff.mpr h).symm.trans (milliseconds?_eq_some_iff.mpr h'))

/-- Variables describe at most one configuration. -/
theorem Reads.unique {c d : Config} (hc : Reads lookup c) (hd : Reads lookup d) : c = d := by
  have htimeout : c.timeout = d.timeout := by
    rcases says_or_silent lookup timeoutName with ⟨raw, hgiven⟩ | hsilent
    · obtain ⟨m, hm, hcm⟩ := hc.timeout raw hgiven
      obtain ⟨n, hn, hdn⟩ := hd.timeout raw hgiven
      rw [hcm, hdn, hm.unique hn]
    · rw [hc.no_timeout hsilent, hd.no_timeout hsilent]
  have hbase : c.baseUrl = d.baseUrl := by
    rcases says_or_silent lookup baseUrlName with ⟨text, hgiven⟩ | hsilent
    · rw [hc.baseUrl text hgiven, hd.baseUrl text hgiven]
    · rw [hc.no_baseUrl hsilent, hd.no_baseUrl hsilent]
  have htoken : c.token = d.token := by
    rcases says_or_silent lookup tokenName with ⟨text, hgiven⟩ | hsilent
    · rw [hc.token text hgiven, hd.token text hgiven]
    · rw [hc.no_token hsilent, hd.no_token hsilent]
  cases c
  cases d
  simp_all

/-- The configuration with some time, and with the other two variables as they stand. -/
def withTime (lookup : String → Option String) (timeout : Option Nat) : Config :=
  ⟨(nonBlank lookup baseUrlName).getD "http://localhost:8080", nonBlank lookup tokenName, timeout⟩

theorem reads_withTime {timeout : Option Nat}
    (hgiven : ∀ raw, Says lookup timeoutName raw → ∃ n, WritesTime raw n ∧ timeout = some n)
    (hsilent : Silent lookup timeoutName → timeout = none) :
    Reads lookup (withTime lookup timeout) where
  timeout := hgiven
  no_timeout := hsilent
  baseUrl text h := by rw [withTime, nonBlank_eq_some_iff.mpr h, Option.getD_some]
  no_baseUrl h := by rw [withTime, nonBlank_eq_none_iff.mpr h, Option.getD_none]
  token text h := nonBlank_eq_some_iff.mpr h
  no_token h := nonBlank_eq_none_iff.mpr h

theorem fromLookup_of_silent (h : Silent lookup timeoutName) :
    fromLookup lookup = .ok (withTime lookup none) := by
  rw [fromLookup, nonBlank_eq_none_iff.mpr h]
  rfl

theorem fromLookup_of_writesTime {raw : String} {n : Nat} (h : Says lookup timeoutName raw)
    (hn : WritesTime raw n) : fromLookup lookup = .ok (withTime lookup (some n)) := by
  rw [fromLookup, nonBlank_eq_some_iff.mpr h]
  dsimp only
  rw [milliseconds?_eq_some_iff.mpr hn]
  rfl

theorem fromLookup_of_not_writesTime {raw : String} (h : Says lookup timeoutName raw)
    (hraw : ∀ n, ¬ WritesTime raw n) : fromLookup lookup = .error (badTimeout raw) := by
  rw [fromLookup, nonBlank_eq_some_iff.mpr h]
  dsimp only
  rw [milliseconds?_eq_none_iff.mpr hraw]

theorem Says.unique {text text' : String} (h : Says lookup name text)
    (h' : Says lookup name text') : text = text' :=
  Option.some.inj (h.1.symm.trans h'.1)

theorem Says.not_silent {text : String} (h : Says lookup name text) : ¬ Silent lookup name := by
  intro hsilent
  rw [← nonBlank_eq_none_iff, nonBlank_eq_some_iff.mpr h] at hsilent
  cases hsilent

/-- The time is absent, or it is written, or there is none to be read. -/
theorem fromLookup_cases (lookup : String → Option String) :
    (∃ config, fromLookup lookup = .ok config ∧ Reads lookup config) ∨
      ∃ raw, Says lookup timeoutName raw ∧ (∀ n, ¬ WritesTime raw n) ∧
        fromLookup lookup = .error (badTimeout raw) := by
  rcases says_or_silent lookup timeoutName with ⟨raw, hgiven⟩ | hsilent
  · by_cases hraw : ∃ n, WritesTime raw n
    · obtain ⟨n, hn⟩ := hraw
      refine .inl ⟨_, fromLookup_of_writesTime hgiven hn, reads_withTime ?_ ?_⟩
      · intro raw' hgiven'
        obtain rfl := hgiven.unique hgiven'
        exact ⟨n, hn, rfl⟩
      · exact fun hsilent => absurd hsilent hgiven.not_silent
    · have hnone : ∀ n, ¬ WritesTime raw n := not_exists.mp hraw
      exact .inr ⟨raw, hgiven, hnone, fromLookup_of_not_writesTime hgiven hnone⟩
  · refine .inl ⟨_, fromLookup_of_silent hsilent, reads_withTime ?_ fun _ => rfl⟩
    exact fun raw hgiven => absurd hsilent hgiven.not_silent

theorem fromLookup_eq_error_iff {e : FlagError} :
    fromLookup lookup = .error e ↔
      ∃ raw, Says lookup timeoutName raw ∧ (∀ n, ¬ WritesTime raw n) ∧ e = badTimeout raw := by
  constructor
  · intro h
    rcases fromLookup_cases lookup with ⟨config, hok, -⟩ | ⟨raw, hgiven, hraw, herror⟩
    · rw [h] at hok
      cases hok
    · rw [h] at herror
      exact ⟨raw, hgiven, hraw, Except.error.inj herror⟩
  · rintro ⟨raw, hgiven, hraw, rfl⟩
    exact fromLookup_of_not_writesTime hgiven hraw

theorem fromLookup_eq_ok_iff {config : Config} :
    fromLookup lookup = .ok config ↔ Reads lookup config := by
  rcases fromLookup_cases lookup with ⟨c, hok, hc⟩ | ⟨raw, hgiven, hraw, herror⟩
  · rw [hok, Except.ok.injEq]
    exact ⟨fun h => h ▸ hc, hc.unique⟩
  · rw [herror]
    refine ⟨nofun, fun hreads => ?_⟩
    obtain ⟨n, hn, -⟩ := hreads.timeout raw hgiven
    exact absurd hn (hraw n)

/-- **What is accepted, and what comes of it.**

* Variables are refused exactly when the one with the time says something that is no text of a time,
  and the failure shows what it says.
* Otherwise the configuration is the one that they describe: the time is the number that is written,
  and place and token are what their variables say, without any change.
* The other two variables make no difference to whether the first one is accepted.
* If all three say nothing, the configuration is the usual one. -/
theorem fromLookup_grammar (lookup : String → Option String) :
    (∀ e, fromLookup lookup = .error e ↔
      ∃ raw, Says lookup "OFREP_TIMEOUT_MS" raw ∧ (∀ n, ¬ WritesTime raw n) ∧
        e = badTimeout raw) ∧
    (∀ config, fromLookup lookup = .ok config ↔ Reads lookup config) ∧
    (∀ lookup', lookup' "OFREP_TIMEOUT_MS" = lookup "OFREP_TIMEOUT_MS" →
      (fromLookup lookup').isOk = (fromLookup lookup).isOk) ∧
    ((∀ name ∈ ["OFREP_BASE_URL", "OFREP_TOKEN", "OFREP_TIMEOUT_MS"], Silent lookup name) →
      fromLookup lookup = .ok {}) := by
  refine ⟨fun e => fromLookup_eq_error_iff, fun config => fromLookup_eq_ok_iff, ?_, ?_⟩
  · intro lookup' hsame
    have hgiven : ∀ raw, Says lookup' timeoutName raw ↔ Says lookup timeoutName raw := by
      intro raw
      rw [Says, Says, timeoutName, hsame]
    rcases fromLookup_cases lookup with ⟨c, hok, hc⟩ | ⟨raw, hraw, hnone, herror⟩
    · rcases fromLookup_cases lookup' with ⟨c', hok', -⟩ | ⟨raw, hraw, hnone, -⟩
      · rw [hok, hok']
        rfl
      · obtain ⟨n, hn, -⟩ := hc.timeout raw ((hgiven raw).mp hraw)
        exact absurd hn (hnone n)
    · rw [herror, fromLookup_of_not_writesTime ((hgiven raw).mpr hraw) hnone]
  · intro hsilent
    rw [fromLookup_eq_ok_iff]
    have hbase : Silent lookup baseUrlName := hsilent _ (by simp [baseUrlName])
    have htoken : Silent lookup tokenName := hsilent _ (by simp [tokenName])
    have htimeout : Silent lookup timeoutName := hsilent _ (by simp [timeoutName])
    exact {
      timeout := fun raw h => absurd htimeout h.not_silent
      no_timeout := fun _ => rfl
      baseUrl := fun text h => absurd hbase h.not_silent
      no_baseUrl := fun _ => rfl
      token := fun text h => absurd htoken h.not_silent
      no_token := fun _ => rfl }

end Smoke.Config
end RemoteFlags
