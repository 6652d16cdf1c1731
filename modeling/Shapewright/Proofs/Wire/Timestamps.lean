import Shapewright.Proofs.Time.Layout
import Shapewright.Proofs.Wire.Bytes
import Shapewright.Proofs.Wire.EpochSeconds
import Shapewright.Wire.Raw

/-!
# Times are read back in the format in which they are written

The texts with a date are read back element by element; seconds are written as an integer and read as
a number with a fraction, which is exact for all seconds of the years of four digits.  Two of the
formats do not write the fraction of a second.

* `Time.Instant.shown` — what a format writes of an instant.
* `readTime?_formatTimestamp` — the reader gives that back.
* `timestampFromRaw_timestampToRaw` — from a text, and from a document.
-/

set_option autoImplicit false

namespace Shapewright

open Number (double double_fits Format)

/-- What a format writes of an instant: seconds in UTC, with their fraction or without. -/
def Time.Instant.shown (t : Time.Instant) (format : String) : Time.Instant where
  seconds := t.seconds
  nanos := if format = "http-date" ∨ format = "epoch-seconds" then 0 else t.nanos

namespace Wire

variable {t : Time.Instant} {format : String}

/-- Seconds are read back as a number with a fraction. -/
theorem readTime?_toString {n : Int} (hlow : -2 ^ 53 ≤ n) (hhigh : n ≤ 2 ^ 53) :
    readTime? (toString n) "epoch-seconds" = some { seconds := n } := by
  have hrep := representable_intCast ⟨hlow, hhigh⟩
  obtain ⟨w, htext, hvalue⟩ := Number.exists_written_of_readInt? (Number.readInt?_toString n)
  have hnearest : (double.ofRat w.readRat).toRat? = some (n : ℚ) := by
    rw [hvalue, Format.toRat?_ofRat double_fits.1 hrep]
  obtain ⟨x, hread⟩ := exists_read hnearest
  obtain ⟨v, hx, hv⟩ := exists_of_read hread
  obtain rfl := Option.some.inj (hv.symm.trans hnearest)
  rw [htext] at hread
  rw [show readTime? (toString n) "epoch-seconds" =
    (double.read (toString n)).toOption.map instantOfSeconds from rfl, hread, Except.toOption,
    Option.map_some, instantOfSeconds_intCast hx hrep (by omega) (by omega)]

/-- **A time** is read back in the format in which it is written. -/
theorem readTime?_formatTimestamp (ht : t.Proper) (hyear : t.HasPlainYear)
    (hformat : format ∈ ["date-time", "", "http-date", "epoch-seconds"]) :
    readTime? (formatTimestamp t format) format = some (t.shown format) := by
  simp only [List.mem_cons, List.not_mem_nil, or_false] at hformat
  rcases hformat with rfl | rfl | rfl | rfl
  · exact Time.read?_dateTime ht hyear
  · exact Time.read?_dateTime ht hyear
  · exact Time.readHttpDate?_httpDate ht hyear
  · have hrange := (Time.Instant.hasPlainYear_iff ht).1 hyear
    exact readTime?_toString (by omega) (by omega)

/-- **Times are read back**, from a text and from a document alike, to what the format shows of
them; that is the same instant, unless there is a fraction and the format does not write it. -/
theorem timestampFromRaw_timestampToRaw (field : String) (ht : t.Proper) (hyear : t.HasPlainYear)
    (hformat : format ∈ ["date-time", "", "http-date", "epoch-seconds"]) :
    parseTimestamp field (Bytes.encode (formatTimestamp t format)) format = .ok (t.shown format) ∧
      timestampFromRaw format field (timestampToRaw t format) = .ok (t.shown format) ∧
      (t.nanos = 0 ∨ format = "date-time" ∨ format = "" →
        t.shown format = { t with offset := 0 }) := by
  have hparse : parseTimestamp field (Bytes.encode (formatTimestamp t format)) format =
      .ok (t.shown format) := by
    rw [parseTimestamp, Bytes.readable_encode, readTime?_formatTimestamp ht hyear hformat]
  refine ⟨hparse, ?_, fun h => ?_⟩
  · rw [timestampToRaw]
    split
    · rename_i hepoch
      rw [beq_iff_eq.1 hepoch] at hparse ⊢
      exact hparse
    · exact hparse
  · rw [Time.Instant.shown]
    rcases h with h | rfl | rfl
    · simp [h]
    · rfl
    · rfl

/-- A leap day, with a fraction and written east of UTC. -/
def leapDay : Time.Instant where
  seconds := 951827696
  nanos := 120000000
  offset := 3600

theorem timestampFromRaw_timestampToRaw_leapDay :
    leapDay.Proper ∧ leapDay.HasPlainYear ∧
      formatTimestamp leapDay "date-time" = "2000-02-29T12:34:56.12Z" ∧
      parseTimestamp "gusts" (Bytes.encode "2000-02-29T12:34:56.12Z") "date-time" =
        .ok { leapDay with offset := 0 } ∧
      timestampFromRaw "epoch-seconds" "gusts" (.number (.int 951827696)) =
        .ok { seconds := 951827696 } := by
  have hproper : leapDay.Proper := ⟨by decide, by decide⟩
  have hyear : leapDay.HasPlainYear := (Time.Instant.hasPlainYear_iff hproper).2 (by decide)
  have htext : formatTimestamp leapDay "date-time" = "2000-02-29T12:34:56.12Z" := by decide
  obtain ⟨hdate, -, hshown⟩ := timestampFromRaw_timestampToRaw "gusts" hproper hyear
    (show "date-time" ∈ ["date-time", "", "http-date", "epoch-seconds"] by simp)
  rw [htext, hshown (.inr (.inl rfl))] at hdate
  exact ⟨hproper, hyear, htext, hdate, (timestampFromRaw_timestampToRaw "gusts" hproper hyear
    (show "epoch-seconds" ∈ ["date-time", "", "http-date", "epoch-seconds"] by simp)).2.1⟩

end Wire
end Shapewright
