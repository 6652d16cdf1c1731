import Shapewright.Proofs.Failure
import Shapewright.Proofs.Number.Decimal
import Shapewright.Proofs.Number.Rounding
import Shapewright.Proofs.Text.Distinct
import Shapewright.Wire.Typed

/-!
# Values that are equal

The elements of a set are compared by a key, their text.  What is equal as a value has the same key,
however it was spelled: decimals by their number, times by the instant.  There is one exception, a
zero and a negative zero among floating point numbers, which are equal but written differently.

* `Value.Equal`, `Value.OppositeZeros` — equality of values, and the exception.
* `WireType.key_eq_of_equal` — equal values that were read as one type have the same key.
-/

set_option autoImplicit false

namespace Shapewright

/-! ## Equality of values -/

namespace Wire

/-- Equality of values: numbers by what they amount to, times by the instant. Containers, which are
never read from text, are left to plain equality. -/
def Value.Equal : Value → Value → Prop
  | .float _ x, .float _ y => x.eq y = true
  | .decimal d, .decimal d' => d.toRat = d'.toRat
  | .time t, .time t' => t.seconds = t'.seconds ∧ t.nanos = t'.nanos
  | v, w => v = w

/-- Two floating point zeros with different signs. -/
def Value.OppositeZeros : Value → Value → Prop
  | .float _ x, .float _ y => x.isZero = true ∧ y.isZero = true ∧ x.isNegative ≠ y.isNegative
  | _, _ => False

theorem dateTime_congr {t t' : Time.Instant} (hseconds : t.seconds = t'.seconds)
    (hnanos : t.nanos = t'.nanos) : t.dateTime = t'.dateTime := by
  have hcalendar : t.calendarSeconds = t'.calendarSeconds := by
    rw [Time.Instant.calendarSeconds, hseconds]
    rfl
  have hdays : t.days = t'.days := by rw [Time.Instant.days, hcalendar, Time.Instant.days]
  have hclock : t.secondOfDay = t'.secondOfDay := by
    rw [Time.Instant.secondOfDay, hcalendar, Time.Instant.secondOfDay]
  have hfraction : t.fractionText = t'.fractionText := by
    rw [Time.Instant.fractionText, hnanos, Time.Instant.fractionText]
  rw [Time.Instant.dateTime, hdays, hclock, hfraction, Time.Instant.dateTime]

theorem isZero_of_eq {x y : Number.Binary} (h : x.eq y = true) (hx : x.isZero = true) :
    y.isZero = true := by
  cases x with
  | finite a m e =>
    obtain rfl : m = 0 := beq_iff_eq.1 hx
    cases y with
    | finite b m' e' =>
      have hvalue : (if a then -((0 : Nat) : ℚ) else (0 : Nat)) * 2 ^ e =
          (if b then -(m' : ℚ) else m') * 2 ^ e' := beq_iff_eq.1 h
      have hpow : (2 : ℚ) ^ e' ≠ 0 := by positivity
      refine beq_iff_eq.2 ?_
      cases a <;> cases b <;> simpa [hpow, eq_comm] using hvalue
    | _ => cases h
  | _ => cases hx

/-- The formats that values are read in. -/
def WireType.Sized : WireType → Prop
  | .float f => 0 < f.precision
  | _ => True

/-- **Equal values have the same key**, if they were read as one type. -/
theorem WireType.key_eq_of_equal {t : WireType} (ht : t.Sized) {field field' : String}
    {text text' : Bytes} {v w : Value} (hv : t.parse field text = .ok v)
    (hw : t.parse field' text' = .ok w) (h : v.Equal w) (hzeros : ¬ v.OppositeZeros w) :
    v.key = w.key := by
  cases t with
  | float f =>
    rw [WireType.parse] at hv hw
    obtain ⟨x, hx, rfl⟩ := Outcome.exists_ok_of_map hv
    obtain ⟨y, hy, rfl⟩ := Outcome.exists_ok_of_map hw
    have hnormal {field : String} {text : Bytes} {x : Number.Binary}
        (h : parseFloat f field text = .ok x) : f.Normal x := by
      rw [parseFloat] at h
      split at h
      · rename_i z hz
        cases h
        exact Number.Format.normal_of_read ht hz
      · cases h
    have heq : x = y := by
      refine Number.Binary.eq_of_eq ht (hnormal hx) (hnormal hy) h fun hzero => ?_
      by_contra hsign
      exact hzeros ⟨hzero, isZero_of_eq h hzero, hsign⟩
    rw [heq]
  | decimal =>
    rw [WireType.parse] at hv hw
    obtain ⟨d, -, rfl⟩ := Outcome.exists_ok_of_map hv
    obtain ⟨d', -, rfl⟩ := Outcome.exists_ok_of_map hw
    exact congrArg Bytes.encode (Number.Decimal.text_congr h)
  | timestamp format =>
    rw [WireType.parse] at hv hw
    obtain ⟨a, -, rfl⟩ := Outcome.exists_ok_of_map hv
    obtain ⟨b, -, rfl⟩ := Outcome.exists_ok_of_map hw
    exact congrArg Bytes.encode (dateTime_congr h.1 h.2)
  | string =>
    cases hv
    cases hw
    rw [show Value.text text = .text text' from h]
  | object | list | map => cases hv
  | _ =>
    obtain ⟨a, -, rfl⟩ := Outcome.exists_ok_of_map hv
    obtain ⟨b, -, rfl⟩ := Outcome.exists_ok_of_map hw
    exact congrArg Value.key h

/-- Each value comes from a text. -/
theorem WireType.exists_parse_of_mem {t : WireType} {field : String} {texts : List Bytes}
    {vs : List Value} (h : texts.mapM (t.parse field) = .ok vs) {v : Value} (hv : v ∈ vs) :
    ∃ text, t.parse field text = .ok v := by
  obtain ⟨i, hi, rfl⟩ := List.mem_iff_getElem.1 hv
  obtain ⟨hlength, hall⟩ := List.forall₂_iff_get.1 (Outcome.forall₂_of_mapM h)
  exact ⟨_, hall i (hlength ▸ hi) hi⟩

/-- **Of values of one type** a set keeps no two that are equal, opposite zeros apart. -/
theorem WireType.pairwise_firstBy_key {t : WireType} (ht : t.Sized) {field : String}
    {texts : List Bytes} {vs : List Value} (h : texts.mapM (t.parse field) = .ok vs) :
    (Text.firstBy Value.key vs).Pairwise fun v w => v.Equal w → v.OppositeZeros w := by
  have hsublist := Text.firstBy_sublist Value.key vs
  refine (List.pairwise_map.1 (Text.nodup_map_firstBy Value.key vs)).imp_of_mem fun hv hw hne hequal => ?_
  obtain ⟨text, hv⟩ := exists_parse_of_mem h (hsublist.subset hv)
  obtain ⟨text', hw⟩ := exists_parse_of_mem h (hsublist.subset hw)
  by_contra hzeros
  exact hne (WireType.key_eq_of_equal ht hv hw hequal hzeros)

end Wire
end Shapewright
