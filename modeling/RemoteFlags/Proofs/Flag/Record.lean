import RemoteFlags.Flag.Entry
import RemoteFlags.Proofs.Json.Record

/-!
# What a server says about a flag, as it is written

A success and a failure are records.  `Success.Written` and `Failure.Written` are their grammar: what
each field has to be, and what it then says.  Whatever is read follows it.

## Main definitions

* `Success.Written`, `Failure.Written` — a success and a failure as they are written.

## Main results

* `Success.written_of_ofOutline`, `Failure.written_of_ofOutline` — **what is read is written.**
-/

namespace RemoteFlags

open Json Outline

/-! ### The grammar -/

/-- A value is a string, which names a reason. -/
def Reason.Named (o : Outline) (r : Reason) : Prop := ∃ text, IsText o text ∧ r = .ofText text

/-- How a success is written. -/
structure Success.Written (o : Outline) (s : Success) : Prop where
  /-- It is an object or an array. -/
  record : o.IsRecord 5
  /-- The key is a string. -/
  key : o.field 0 "key" = [.string s.key]
  /-- The reason may be left out. -/
  reason : Given Reason.Named (o.field 1 "reason") s.reason
  /-- The variant may be left out. -/
  variant : Given IsText (o.field 2 "variant") s.variant
  /-- The value may be anything, but has to be there. -/
  value : ∃ t, o.field 3 "value" = [.ofTree t] ∧ s.value = .ofTree t
  /-- The metadata may be left out. -/
  metadata : Given IsMap (o.field 4 "metadata") s.metadata

/-- How a failure is written. -/
structure Failure.Written (o : Outline) (f : Failure) : Prop where
  /-- It is an object or an array. -/
  record : o.IsRecord 3
  /-- The key may be left out. -/
  key : Given IsText (o.field 0 "key") f.key
  /-- The code is a string. -/
  code : ∃ text, o.field 1 "errorCode" = [.string text] ∧ f.code = .ofText text
  /-- The details may be left out. -/
  details : Given IsText (o.field 2 "errorDetails") f.details

theorem Reason.named_of_ofOutline {o : Outline} {r : Reason} (h : Reason.ofOutline o = .ok r) :
    Reason.Named o r := by
  obtain ⟨text, htext, rfl⟩ := map_eq_ok_iff.mp h
  exact ⟨text, toText_eq_ok_iff.mp htext, rfl⟩

theorem ErrorCode.ofOutline_eq_ok_iff {o : Outline} {c : ErrorCode} :
    ErrorCode.ofOutline o = .ok c ↔ ∃ text, o = .string text ∧ c = .ofText text := by
  simp only [ErrorCode.ofOutline, map_eq_ok_iff, toText_eq_ok_iff, IsText, eq_comm (b := c)]

/-! ### Successes -/

namespace Success

variable {room : Nat} {d d' : Draft} {name : String} {o : Outline} {s : Success}

/-- What taking in one member does to the fields of a success. -/
inductive Draft.Took (room : Nat) (d : Draft) (name : String) (o : Outline) : Draft → Prop
  /-- The key is set. -/
  | key (hname : name = "key") (hempty : d.key = none) {a : String} (ha : o.toText = .ok a) :
      Took room d name o { d with key := some a }
  /-- The reason is set. -/
  | reason (hname : name = "reason") (hempty : d.reason = none) {a : Option Reason}
      (ha : o.optional Reason.ofOutline = .ok a) : Took room d name o { d with reason := some a }
  /-- The variant is set. -/
  | variant (hname : name = "variant") (hempty : d.variant = none) {a : Option String}
      (ha : o.optional toText = .ok a) : Took room d name o { d with variant := some a }
  /-- The value is set. -/
  | value (hname : name = "value") (hempty : d.value = none) {a : Json.Value}
      (ha : o.toValue room = .ok a) : Took room d name o { d with value := some a }
  /-- The metadata is set. -/
  | metadata (hname : name = "metadata") (hempty : d.metadata = none)
      {a : Option (SortedMap Json.Value)} (ha : o.optional (toMap room) = .ok a) :
      Took room d name o { d with metadata := some a }
  /-- The member does not count. -/
  | other (hname : name ∉ ["key", "reason", "variant", "value", "metadata"]) : Took room d name o d

theorem Draft.took_of_take (h : Draft.take room d name o = .ok d') : Draft.Took room d name o d' := by
  unfold Draft.take at h
  split at h
  · next hname =>
    obtain ⟨hempty, a, ha, rfl⟩ := bind_setField_eq_ok_iff.mp h
    exact .key hname hempty ha
  split at h
  · next hname =>
    obtain ⟨hempty, a, ha, rfl⟩ := bind_setField_eq_ok_iff.mp h
    exact .reason hname hempty ha
  split at h
  · next hname =>
    obtain ⟨hempty, a, ha, rfl⟩ := bind_setField_eq_ok_iff.mp h
    exact .variant hname hempty ha
  split at h
  · next hname =>
    obtain ⟨hempty, a, ha, rfl⟩ := bind_setField_eq_ok_iff.mp h
    exact .value hname hempty ha
  split at h
  · next hname =>
    obtain ⟨hempty, a, ha, rfl⟩ := bind_setField_eq_ok_iff.mp h
    exact .metadata hname hempty ha
  · obtain ⟨_, -, hd⟩ := bind_eq_ok_iff.mp h
    obtain rfl := Except.ok.inj hd
    exact .other (by simp [*])

theorem Draft.isField_key : IsField (Draft.take room) "key" Draft.key toText where
  own h := by
    cases Draft.took_of_take h with
    | key hname hempty ha => exact ⟨hempty, _, ha, rfl⟩
    | reason hname | variant hname | value hname | metadata hname | other hname => simp at hname
  other hne h := by
    cases Draft.took_of_take h with
    | key hname => exact absurd hname hne
    | reason | variant | value | metadata | other => rfl

theorem Draft.isField_reason :
    IsField (Draft.take room) "reason" Draft.reason (optional Reason.ofOutline) where
  own h := by
    cases Draft.took_of_take h with
    | reason hname hempty ha => exact ⟨hempty, _, ha, rfl⟩
    | key hname | variant hname | value hname | metadata hname | other hname => simp at hname
  other hne h := by
    cases Draft.took_of_take h with
    | reason hname => exact absurd hname hne
    | key | variant | value | metadata | other => rfl

theorem Draft.isField_variant :
    IsField (Draft.take room) "variant" Draft.variant (optional toText) where
  own h := by
    cases Draft.took_of_take h with
    | variant hname hempty ha => exact ⟨hempty, _, ha, rfl⟩
    | key hname | reason hname | value hname | metadata hname | other hname => simp at hname
  other hne h := by
    cases Draft.took_of_take h with
    | variant hname => exact absurd hname hne
    | key | reason | value | metadata | other => rfl

theorem Draft.isField_value : IsField (Draft.take room) "value" Draft.value (toValue room) where
  own h := by
    cases Draft.took_of_take h with
    | value hname hempty ha => exact ⟨hempty, _, ha, rfl⟩
    | key hname | reason hname | variant hname | metadata hname | other hname => simp at hname
  other hne h := by
    cases Draft.took_of_take h with
    | value hname => exact absurd hname hne
    | key | reason | variant | metadata | other => rfl

theorem Draft.isField_metadata :
    IsField (Draft.take room) "metadata" Draft.metadata (optional (toMap room)) where
  own h := by
    cases Draft.took_of_take h with
    | metadata hname hempty ha => exact ⟨hempty, _, ha, rfl⟩
    | key hname | reason hname | variant hname | value hname | other hname => simp at hname
  other hne h := by
    cases Draft.took_of_take h with
    | metadata hname => exact absurd hname hne
    | key | reason | variant | value | other => rfl

theorem Draft.finish_eq_ok_iff :
    d.finish = .ok s ↔ d.key = some s.key ∧ d.reason.join = s.reason ∧ d.variant.join = s.variant ∧
      d.value = some s.value ∧ d.metadata.join = s.metadata := by
  obtain ⟨key | key, reason, variant, value | value, metadata⟩ := d
  all_goals cases s; simp [Draft.finish]

/-- **Whatever is read as a success is written as one.** -/
theorem written_of_ofOutline (h : ofOutline room o = .ok s) : Written o s := by
  cases o with
  | object ms ending =>
    obtain ⟨room, -, h⟩ := bind_eq_ok_iff.mp h
    obtain ⟨d, hd, hfinish⟩ := bind_eq_ok_iff.mp h
    obtain ⟨hkey, hreason, hvariant, hvalue, hmetadata⟩ := Draft.finish_eq_ok_iff.mp hfinish
    obtain ⟨k, hk, hktext⟩ := Draft.isField_key.once_of_takeMembers rfl hd hkey
    obtain ⟨v, hv, hvtree⟩ := Draft.isField_value.once_of_takeMembers rfl hd hvalue
    obtain rfl := toText_eq_ok_iff.mp hktext
    obtain ⟨t, rfl, -, ht⟩ := toValue_eq_ok_iff.mp hvtree
    exact {
      record := closed_of_takeMembers hd
      key := hk
      reason := hreason ▸
        Draft.isField_reason.given_of_takeMembers Reason.named_of_ofOutline rfl hd
      variant := hvariant ▸ Draft.isField_variant.given_of_takeMembers toText_eq_ok_iff.mp rfl hd
      value := ⟨t, hv, ht.symm⟩
      metadata := hmetadata ▸ Draft.isField_metadata.given_of_takeMembers isMap_of_toMap rfl hd }
  | array os ending =>
    obtain ⟨room, -, h⟩ := bind_eq_ok_iff.mp h
    obtain ⟨⟨key, os₁⟩, hkey, h⟩ := bind_eq_ok_iff.mp h
    obtain ⟨⟨reason, os₂⟩, hreason, h⟩ := bind_eq_ok_iff.mp h
    obtain ⟨⟨variant, os₃⟩, hvariant, h⟩ := bind_eq_ok_iff.mp h
    obtain ⟨⟨value, os₄⟩, hvalue, h⟩ := bind_eq_ok_iff.mp h
    obtain ⟨⟨metadata, os₅⟩, hmetadata, h⟩ := bind_eq_ok_iff.mp h
    obtain ⟨_, hlast, ⟨⟩⟩ := bind_eq_ok_iff.mp h
    obtain ⟨rfl, rfl⟩ := lastItem_eq_ok_iff.mp hlast
    obtain ⟨k, rfl, hktext⟩ := needItem_eq_ok_iff.mp hkey
    obtain rfl := toText_eq_ok_iff.mp hktext
    obtain ⟨v, rfl, hvtree⟩ := needItem_eq_ok_iff.mp hvalue
    obtain ⟨t, rfl, -, rfl⟩ := toValue_eq_ok_iff.mp hvtree
    -- The value stands in the fourth place, so that the second and the third are taken.
    obtain ⟨-, -, -, ⟨⟩⟩ | ⟨x, variant, rfl, hx, rfl⟩ := mayItem_eq_ok_iff.mp hvariant
    obtain ⟨-, -, -, ⟨⟩⟩ | ⟨r, reason, rfl, hr, rfl⟩ := mayItem_eq_ok_iff.mp hreason
    have hwritten : ∀ {rest : List Outline} {metadata : Option (SortedMap Json.Value)},
        rest.length ≤ 1 → Given IsMap rest[0]?.toList metadata →
        Written (.array (.string key :: r :: x :: .ofTree t :: rest) .closed)
          ⟨key, reason, variant, .ofTree t, metadata⟩ := fun hlength hgiven => {
      record := ⟨by simp only [List.length_cons]; omega, rfl⟩
      key := rfl
      reason := given_of_optional Reason.named_of_ofOutline hr
      variant := given_of_optional toText_eq_ok_iff.mp hx
      value := ⟨t, rfl, rfl⟩
      metadata := hgiven }
    obtain ⟨rfl, -, rfl, -⟩ | ⟨m, metadata, rfl, hm, rfl⟩ := mayItem_eq_ok_iff.mp hmetadata
    · exact hwritten (Nat.zero_le _) .missing
    · exact hwritten (Nat.le_refl _) (given_of_optional isMap_of_toMap hm)
  | _ => exact nomatch h

end Success

/-! ### Failures -/

namespace Failure

variable {room : Nat} {d d' : Draft} {name : String} {o : Outline} {f : Failure}

/-- What taking in one member does to the fields of a failure. -/
inductive Draft.Took (d : Draft) (name : String) (o : Outline) : Draft → Prop
  /-- The key is set. -/
  | key (hname : name = "key") (hempty : d.key = none) {a : Option String}
      (ha : o.optional toText = .ok a) : Took d name o { d with key := some a }
  /-- The code is set. -/
  | code (hname : name = "errorCode") (hempty : d.code = none) {a : ErrorCode}
      (ha : ErrorCode.ofOutline o = .ok a) : Took d name o { d with code := some a }
  /-- The details are set. -/
  | details (hname : name = "errorDetails") (hempty : d.details = none) {a : Option String}
      (ha : o.optional toText = .ok a) : Took d name o { d with details := some a }
  /-- The member does not count. -/
  | other (hname : name ∉ ["key", "errorCode", "errorDetails"]) : Took d name o d

theorem Draft.took_of_take (h : Draft.take d name o = .ok d') : Draft.Took d name o d' := by
  unfold Draft.take at h
  split at h
  · next hname =>
    obtain ⟨hempty, a, ha, rfl⟩ := bind_setField_eq_ok_iff.mp h
    exact .key hname hempty ha
  split at h
  · next hname =>
    obtain ⟨hempty, a, ha, rfl⟩ := bind_setField_eq_ok_iff.mp h
    exact .code hname hempty ha
  split at h
  · next hname =>
    obtain ⟨hempty, a, ha, rfl⟩ := bind_setField_eq_ok_iff.mp h
    exact .details hname hempty ha
  · obtain ⟨_, -, hd⟩ := bind_eq_ok_iff.mp h
    obtain rfl := Except.ok.inj hd
    exact .other (by simp [*])

theorem Draft.isField_key : IsField Draft.take "key" Draft.key (optional toText) where
  own h := by
    cases Draft.took_of_take h with
    | key hname hempty ha => exact ⟨hempty, _, ha, rfl⟩
    | code hname | details hname | other hname => simp at hname
  other hne h := by
    cases Draft.took_of_take h with
    | key hname => exact absurd hname hne
    | code | details | other => rfl

theorem Draft.isField_code : IsField Draft.take "errorCode" Draft.code ErrorCode.ofOutline where
  own h := by
    cases Draft.took_of_take h with
    | code hname hempty ha => exact ⟨hempty, _, ha, rfl⟩
    | key hname | details hname | other hname => simp at hname
  other hne h := by
    cases Draft.took_of_take h with
    | code hname => exact absurd hname hne
    | key | details | other => rfl

theorem Draft.isField_details :
    IsField Draft.take "errorDetails" Draft.details (optional toText) where
  own h := by
    cases Draft.took_of_take h with
    | details hname hempty ha => exact ⟨hempty, _, ha, rfl⟩
    | key hname | code hname | other hname => simp at hname
  other hne h := by
    cases Draft.took_of_take h with
    | details hname => exact absurd hname hne
    | key | code | other => rfl

theorem Draft.finish_eq_ok_iff :
    d.finish = .ok f ↔
      d.key.join = f.key ∧ d.code = some f.code ∧ d.details.join = f.details := by
  obtain ⟨key, code | code, details⟩ := d
  all_goals cases f; simp [Draft.finish]

/-- **Whatever is read as a failure is written as one.** -/
theorem written_of_ofOutline (h : ofOutline room o = .ok f) : Written o f := by
  cases o with
  | object ms ending =>
    obtain ⟨_, -, h⟩ := bind_eq_ok_iff.mp h
    obtain ⟨d, hd, hfinish⟩ := bind_eq_ok_iff.mp h
    obtain ⟨hkey, hcode, hdetails⟩ := Draft.finish_eq_ok_iff.mp hfinish
    obtain ⟨c, hc, hctext⟩ := Draft.isField_code.once_of_takeMembers rfl hd hcode
    obtain ⟨text, rfl, htext⟩ := ErrorCode.ofOutline_eq_ok_iff.mp hctext
    exact {
      record := closed_of_takeMembers hd
      key := hkey ▸ Draft.isField_key.given_of_takeMembers toText_eq_ok_iff.mp rfl hd
      code := ⟨text, hc, htext⟩
      details := hdetails ▸ Draft.isField_details.given_of_takeMembers toText_eq_ok_iff.mp rfl hd }
  | array os ending =>
    obtain ⟨_, -, h⟩ := bind_eq_ok_iff.mp h
    obtain ⟨⟨key, os₁⟩, hkey, h⟩ := bind_eq_ok_iff.mp h
    obtain ⟨⟨code, os₂⟩, hcode, h⟩ := bind_eq_ok_iff.mp h
    obtain ⟨⟨details, os₃⟩, hdetails, h⟩ := bind_eq_ok_iff.mp h
    obtain ⟨_, hlast, ⟨⟩⟩ := bind_eq_ok_iff.mp h
    obtain ⟨rfl, rfl⟩ := lastItem_eq_ok_iff.mp hlast
    obtain ⟨c, rfl, hctext⟩ := needItem_eq_ok_iff.mp hcode
    obtain ⟨text, rfl, rfl⟩ := ErrorCode.ofOutline_eq_ok_iff.mp hctext
    -- The code stands in the second place, so that the first is taken.
    obtain ⟨-, -, -, ⟨⟩⟩ | ⟨k, key, rfl, hk, rfl⟩ := mayItem_eq_ok_iff.mp hkey
    have hwritten : ∀ {rest : List Outline} {details : Option String},
        rest.length ≤ 1 → Given IsText rest[0]?.toList details →
        Written (.array (k :: .string text :: rest) .closed) ⟨key, .ofText text, details⟩ :=
      fun hlength hgiven => {
      record := ⟨by simp only [List.length_cons]; omega, rfl⟩
      key := given_of_optional toText_eq_ok_iff.mp hk
      code := ⟨text, rfl, rfl⟩
      details := hgiven }
    obtain ⟨rfl, -, rfl, -⟩ | ⟨m, details, rfl, hm, rfl⟩ := mayItem_eq_ok_iff.mp hdetails
    · exact hwritten (Nat.zero_le _) .missing
    · exact hwritten (Nat.le_refl _) (given_of_optional toText_eq_ok_iff.mp hm)
  | _ => exact nomatch h

end Failure

end RemoteFlags
