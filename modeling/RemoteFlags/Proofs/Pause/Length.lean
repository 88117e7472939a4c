import RemoteFlags.Proofs.Pause.Refusal
import RemoteFlags.Proofs.Text.Decimal

/-!
# How long a pause can be

A server asks for a pause by a number of seconds.  Instants do not go on for ever, and a pause whose
end would be none of them lasts ten seconds, as if the server had not said for how long.  So up to a
limit that depends on the time a larger number gives a longer pause, and beyond it all numbers give
the same short one.

## Main definitions

* `Contact.AsksFor e n` — the server asks for a pause of a number of seconds.
* `endOf now n` — the end of a pause of so many seconds.

## Main results

* `seconds?_of_isNumeral`, `ofMailDate?_of_isNumeral` — how a numeral is read.
* `resumeInstant_of_isNumeral` — the pause that a numeral asks for.
* `endOf_le_endOf_iff` — which pauses are longer than others.
* `pause_le_pause_iff` — **the exact condition under which asking for more gives no less.**
* `not_pause_le_pause` — a server that asks for more and gets less.
-/

namespace RemoteFlags

/-! ### Numerals are no dates -/

namespace Instant

theorem needBlanks?_of_isDigit {cs : List Char} (h : ∀ c ∈ cs, c.isDigit = true) :
    needBlanks? cs = none := by
  cases cs with
  | nil => rfl
  | cons c cs =>
    have hc : Text.isBlank c = false := Text.isBlank_of_isDigit (h c List.mem_cons_self)
    simp [needBlanks?, hc]

theorem head_weekdayNames :
    ∀ name ∈ weekdayNames, name.toList.head?.any Char.isDigit = false := by
  decide

/-- No digit begins the name of a day. -/
theorem leadingWeekday?_of_isDigit {c : Char} (h : c.isDigit = true) (cs : List Char) :
    leadingWeekday? (c :: cs) = some (none, c :: cs) := by
  have hlower : c.toLower.isDigit = true := by
    rw [← Text.digitChar_of_isDigit h]
    obtain ⟨hlow, hhigh⟩ := Text.toNat_of_isDigit h
    generalize hd : c.toNat - 48 = d
    have hlt : d < 10 := by omega
    clear hd
    revert d
    decide
  have hname : name? weekdayNames (c :: cs) = none := by
    rw [name?, Option.map_eq_none_iff, List.findIdx?_eq_none_iff]
    intro name hname
    rw [beq_eq_false_iff_ne]
    intro heq
    rw [List.take_succ_cons, List.map_cons] at heq
    have hletter := head_weekdayNames name hname
    rw [heq] at hletter
    simp [hlower] at hletter
  rw [leadingWeekday?, hname]

theorem snd_of_dayNumber? {cs : List Char} {p : Nat × List Char} (h : dayNumber? cs = some p) :
    ∃ k, p.2 = cs.drop k := by
  obtain ⟨n, -, rfl⟩ := Option.map_eq_some_iff.mp h
  exact ⟨_, rfl⟩

/-- After the digits of a day comes white space, so a numeral is no date. -/
theorem ofMailDate?_of_isNumeral {s : String} {n : Nat} (h : Text.IsNumeral s.toList n) :
    ofMailDate? s = none := by
  obtain ⟨c, cs, hcs⟩ := List.exists_cons_of_ne_nil h.ne_nil
  have hdigits : ∀ c' ∈ c :: cs, c'.isDigit = true := fun c' hc' =>
    h.isDigit_of_mem (hcs ▸ hc')
  have hc : c.isDigit = true := hdigits c List.mem_cons_self
  have hskip : skipBlanks (c :: cs) = c :: cs :=
    List.dropWhile_cons_of_neg (by simp [Text.isBlank_of_isDigit hc])
  rw [ofMailDate?, hcs, hskip, leadingWeekday?_of_isDigit hc]
  show (dayNumber? (skipBlanks (c :: cs)) >>= _) = none
  rw [hskip]
  cases hday : dayNumber? (c :: cs) with
  | none => rfl
  | some p =>
    obtain ⟨k, hrest⟩ := snd_of_dayNumber? hday
    have hblanks : needBlanks? p.2 = none := by
      rw [hrest]
      exact needBlanks?_of_isDigit fun c' hc' => hdigits c' (List.mem_of_mem_drop hc')
    show (needBlanks? p.2 >>= _) = none
    rw [hblanks]
    rfl

/-! ### Later instants -/

theorem plus_le_plus_iff {t : Instant} {m n : Int} : t.plus m ≤ t.plus n ↔ m ≤ n := by
  show ¬ IsBefore _ _ ↔ _
  simp only [IsBefore, plus]
  omega

end Instant

/-! ### The pause that a numeral asks for -/

namespace Pause

open Bulk (Call)
open Remote (State)

theorem integer?_of_isNumeral {s : String} {n : Nat} (h : Text.IsNumeral s.toList n) :
    Text.integer? s = some (n : Int) := by
  have hnatural : Text.natural? s.toList = some n := Text.natural?_eq_some_iff.mpr h
  have hsign : ∀ c cs, s.toList = c :: cs → c.isDigit = true := fun c cs hcs =>
    h.isDigit_of_mem (hcs ▸ List.mem_cons_self)
  unfold Text.integer?
  split
  · next cs hcs => exact absurd (hsign _ cs hcs) (by decide)
  · next cs hcs => exact absurd (hsign _ cs hcs) (by decide)
  · rw [hnatural]
    rfl

theorem seconds?_of_isNumeral {s : String} {n : Nat} (h : Text.IsNumeral s.toList n) :
    seconds? s = if n < 2 ^ 63 then some (n : Int) else none := by
  rw [seconds?, integer?_of_isNumeral h, Option.bind_some]
  exact if_congr (by omega) rfl rfl

/-- The end of a pause of so many seconds.  If that is no instant, the pause lasts ten seconds. -/
def endOf (now : Instant) (n : Nat) : Instant :=
  if (now.plus n).InRange then now.plus n else now.plus 10

/-- A numeral asks for a pause of so many seconds, however many digits it has. -/
theorem resumeInstant_of_isNumeral {s : String} {n : Nat} (h : Text.IsNumeral s.toList n)
    {now : Instant} (hnow : now.InRange) : resumeInstant (some s) now = endOf now n := by
  have hrequested : requestedEnd? s now =
      if (now.plus n).InRange then some (now.plus n) else none := by
    rw [requestedEnd?, Text.trim_of_isNumeral h, seconds?_of_isNumeral h]
    split
    · next k hk =>
      split at hk
      · obtain rfl := Option.some.inj hk
        rw [max_eq_left (Int.natCast_nonneg n), Instant.after?_of_inRange hnow]
      · cases hk
    · next hk =>
      -- A number that does not fit a word would not lead to an instant either.
      have hlarge : ¬ (now.plus n).InRange := by
        have hn : ¬ n < 2 ^ 63 := by
          intro hn
          rw [if_pos hn] at hk
          cases hk
        have hfirst : Instant.firstSecond ≤ now.seconds := hnow.1
        rw [Instant.firstSecond_eq] at hfirst
        rintro ⟨-, hlast⟩
        rw [Instant.lastSecond_eq, Instant.plus] at hlast
        dsimp only at hlast
        omega
      rw [Instant.ofMailDate?_of_isNumeral h, if_neg hlarge]
  rw [resumeInstant, Option.bind_some, hrequested, endOf]
  split <;> rfl

/-- Which pauses are no longer than others: a pause of a larger number of seconds falls behind only
if it has no end, and then it lasts ten seconds. -/
theorem endOf_le_endOf_iff {now : Instant} (hnow : now.InRange) {m n : Nat} (hmn : m ≤ n) :
    endOf now m ≤ endOf now n ↔
      (now.plus n).InRange ∨ ¬ (now.plus m).InRange ∨ m ≤ 10 := by
  have hstart : ∀ k : Nat, Instant.firstSecond ≤ now.seconds + k := fun k =>
    Int.le_trans hnow.1 (Int.le_add_of_nonneg_right (Int.natCast_nonneg k))
  unfold endOf
  by_cases hn : (now.plus n).InRange
  · have hm : (now.plus m).InRange :=
      ⟨hstart m, Int.le_trans (Int.add_le_add_left (Int.ofNat_le.mpr hmn) _) hn.2⟩
    rw [if_pos hm, if_pos hn, Instant.plus_le_plus_iff]
    simp [hn, hmn]
  · rw [if_neg hn]
    by_cases hm : (now.plus m).InRange
    · rw [if_pos hm, Instant.plus_le_plus_iff]
      simp only [hn, hm, not_true_eq_false, false_or]
      omega
    · rw [if_neg hm, Instant.plus_le_plus_iff]
      simp [hm]

/-! ### Calls that are told to wait -/

/-- The server asks for a pause of a number of seconds: the status is 429, and decimal digits say how
many seconds. -/
def Contact.AsksFor (e : Contact) (n : Nat) : Prop :=
  ∃ res text, e.response = some res ∧ res.status = 429 ∧
    res.headerText? "retry-after" = some text ∧ Text.IsNumeral text.toList n

section

variable {r r' : Remote} {st st' : State} {w w' : World} {k k' : Call} {e e' : Contact}
  {now : Instant} {m n : Nat}

theorem Contact.AsksFor.resume?_eq (h : e.AsksFor n) (htime : e.time.InRange) :
    e.resume? = some (endOf e.time n) := by
  obtain ⟨res, text, hres, hstatus, htext, hn⟩ := h
  simp [Contact.resume?, hres, ofResponse?, hstatus, htext, resumeInstant_of_isNumeral hn htime]

/-- The pause that a call leaves behind when the server asks for one. -/
theorem pause_of_asksFor (hk : k.contact? r st w = some e) (h : e.AsksFor n)
    (htime : e.time.InRange) : (k.make r st w).state.pause = some (endOf e.time n) := by
  rw [(Call.follows_make hk).pause, h.resume?_eq htime]
  rfl

/-- **When asking for more gives no less.**  Whatever calls are told at one time to wait for some
seconds, the pause that is stored ends so many seconds later, or ten seconds later if that would be no
instant.  So if one server asks for at least as many seconds as another one, its pause ends no sooner
exactly if it has its full length, or neither of the two has, or the other one is not longer than ten
seconds either. -/
theorem pause_le_pause_iff (hnow : now.InRange) (hmn : m ≤ n)
    (hk : k.contact? r st w = some e) (htime : e.time = now) (hm : e.AsksFor m)
    (hk' : k'.contact? r' st' w' = some e') (htime' : e'.time = now) (hn : e'.AsksFor n) :
    ∃ t t', (k.make r st w).state.pause = some t ∧ (k'.make r' st' w').state.pause = some t' ∧
      t = (if (now.plus m).InRange then now.plus m else now.plus 10) ∧
      t' = (if (now.plus n).InRange then now.plus n else now.plus 10) ∧
      (t ≤ t' ↔ (now.plus n).InRange ∨ ¬ (now.plus m).InRange ∨ m ≤ 10) := by
  subst htime
  have hstored : (k.make r st w).state.pause = some (endOf e.time m) :=
    pause_of_asksFor hk hm hnow
  have hstored' : (k'.make r' st' w').state.pause = some (endOf e.time n) := by
    rw [pause_of_asksFor hk' hn (htime' ▸ hnow), htime']
  exact ⟨_, _, hstored, hstored', rfl, rfl, endOf_le_endOf_iff hnow hmn⟩

end

/-! ### A server that asks for too much -/

/-- The world at the start of 1970, with a server that always wants to be left alone. -/
def askingWorld (text : String) : World :=
  ⟨{ reply := fun _ => .answered { status := 429, headers := [("retry-after", text)] } },
    { reading := fun _ => ⟨0, 0⟩ }⟩

/-- What a call for a flag is told there. -/
def askedContact (text : String) : Contact :=
  oneByOneRemote.contact none (oneByOneRemote.endpoint (some "a")) ∅ none (askingWorld text)

theorem contact?_askingWorld (text : String) :
    (Call.resolve "a" ∅).contact? oneByOneRemote (.initial ⟨0, 0⟩) (askingWorld text) =
      some (askedContact text) := rfl

theorem asksFor_askedContact {text : String} {n : Nat}
    (htold : (askedContact text).response.any (fun res =>
      res.status == 429 && res.headerText? "retry-after" == some text) = true)
    (hn : Text.natural? text.toList = some n) : (askedContact text).AsksFor n := by
  obtain ⟨res, hres, htold⟩ := (Option.any_eq_true _ _).mp htold
  rw [Bool.and_eq_true, beq_iff_eq, beq_iff_eq] at htold
  exact ⟨res, text, hres, htold.1, htold.2, Text.natural?_eq_some_iff.mp hn⟩

theorem asksFor_hour : (askedContact "3600").AsksFor 3600 :=
  asksFor_askedContact (by decide +kernel) (by decide +kernel)

/-- More than three hundred thousand years. -/
theorem asksFor_ages : (askedContact "10000000000000").AsksFor 10000000000000 :=
  asksFor_askedContact (by decide +kernel) (by decide +kernel)

/-- Whoever is asked to wait for an hour waits longer than who is asked to wait for ages. -/
theorem pause_of_ages_lt_pause_of_hour :
    ∃ t t', ((Call.resolve "a" ∅).make oneByOneRemote (.initial ⟨0, 0⟩)
        (askingWorld "3600")).state.pause = some t ∧
      ((Call.resolve "a" ∅).make oneByOneRemote (.initial ⟨0, 0⟩)
        (askingWorld "10000000000000")).state.pause = some t' ∧ ¬ t ≤ t' := by
  obtain ⟨t, t', hstored, hstored', -, -, hiff⟩ := pause_le_pause_iff
    (by decide : Instant.InRange ⟨0, 0⟩) (by decide : 3600 ≤ 10000000000000)
    (contact?_askingWorld "3600") rfl asksFor_hour (contact?_askingWorld "10000000000000") rfl
    asksFor_ages
  refine ⟨t, t', hstored, hstored', fun hle => ?_⟩
  exact absurd (hiff.mp hle) (by decide)

/-- **A server that asks for more and gets less.**  Of two calls at one time, the one that is told to
wait for longer may be allowed sooner. -/
theorem not_pause_le_pause :
    ¬ ∀ (now : Instant) (m n : Nat) (r r' : Remote) (st st' : State) (w w' : World) (k k' : Call)
      (e e' : Contact) (t t' : Instant), now.InRange → m ≤ n →
      k.contact? r st w = some e → e.time = now → e.AsksFor m →
      k'.contact? r' st' w' = some e' → e'.time = now → e'.AsksFor n →
      (k.make r st w).state.pause = some t → (k'.make r' st' w').state.pause = some t' →
      t ≤ t' := by
  intro h
  have hnow : (⟨0, 0⟩ : Instant).InRange := by decide
  have hle : endOf ⟨0, 0⟩ 3600 ≤ endOf ⟨0, 0⟩ 10000000000000 :=
    h ⟨0, 0⟩ 3600 10000000000000 oneByOneRemote oneByOneRemote (.initial ⟨0, 0⟩) (.initial ⟨0, 0⟩)
      _ _ _ _ _ _ _ _ hnow (by decide) (contact?_askingWorld "3600") rfl asksFor_hour
      (contact?_askingWorld "10000000000000") rfl asksFor_ages
      (pause_of_asksFor (contact?_askingWorld "3600") asksFor_hour hnow)
      (pause_of_asksFor (contact?_askingWorld "10000000000000") asksFor_ages hnow)
  exact absurd hle (by decide)

end Pause
end RemoteFlags
