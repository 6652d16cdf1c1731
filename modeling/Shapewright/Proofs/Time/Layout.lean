import Mathlib.Data.List.Basic
import Mathlib.Tactic.IntervalCases
import Shapewright.Proofs.Number.Padded
import Shapewright.Proofs.Time.Calendar
import Shapewright.Time.Layout

/-!
# Written times are read back

A layout is read element by element, and each element takes from the front of the text what was
written for it, whatever follows.  So a time that is written in UTC, with a year of four digits, is
read back in the layout in which it was written: with its fraction where the layout writes one,
and as a whole second where it does not.

* `Instant.Proper` — instants that the words they are held in can hold.
* `Instant.year`, `Instant.year_iff` — the year in UTC, and the seconds of the years of four digits.
* `Element.read?_year` and its like — what each element reads.
* `read?_dateTime`, `readHttpDate?_httpDate` — the layouts.
-/

set_option autoImplicit false

namespace Shapewright
namespace Time

/-! ## Instants -/

/-- An instant whose seconds are a word of 64 bits and whose fraction is less than a second. -/
structure Instant.Proper (t : Instant) : Prop where
  seconds_range : -2 ^ 63 ≤ t.seconds ∧ t.seconds < 2 ^ 63
  nanos_lt : t.nanos < 1000000000

/-- The year in UTC. -/
def Instant.year (t : Instant) : Int := (Date.ofDays t.days).year

/-- An instant with a year that is written by four digits. -/
def Instant.HasPlainYear (t : Instant) : Prop := 1 ≤ t.year ∧ t.year ≤ 9999

/-- From the start of the year 1 to the end of the year 9999. -/
theorem Instant.hasPlainYear_iff {t : Instant} (ht : t.Proper) :
    t.HasPlainYear ↔ -62135596800 ≤ t.seconds ∧ t.seconds ≤ 253402300799 := by
  obtain ⟨hlow, hhigh⟩ := ht.seconds_range
  rw [HasPlainYear, year, Date.year_ofDays_iff, days, Int.fdiv_eq_ediv_of_nonneg _ (by decide),
    calendarSeconds, calendarStart]
  simp only [Nat.pow_eq, Nat.cast_pow, Nat.cast_ofNat]
  split <;> omega

/-- The seconds are those of the days and of the time of the day. -/
theorem Instant.seconds_eq {t : Instant} (ht : t.Proper) (hyear : t.HasPlainYear) :
    t.days * 86400 + t.secondOfDay = t.seconds ∧ t.secondOfDay < 86400 := by
  have hrange := (hasPlainYear_iff ht).1 hyear
  have hcalendar : t.calendarSeconds = t.seconds := by
    rw [calendarSeconds, calendarStart, if_neg (by omega)]
  rw [days, secondOfDay, hcalendar, Int.fdiv_eq_ediv_of_nonneg _ (by decide),
    Int.fmod_eq_emod_of_nonneg _ (by decide)]
  omega

/-! ## Digits -/

section

variable {p : Parts} {rest : List Char} {n : Nat}

/-- Digits start with one. -/
theorem head?_padNat {width : Nat} (hwidth : 0 < width) (h : n < 10 ^ width) (rest : List Char) :
    ∃ c, ((Text.padNat width n).toList ++ rest).head? = some c ∧ Number.isDigit c = true := by
  have hlength := Number.length_padNat hwidth h
  cases hdigits : (Text.padNat width n).toList with
  | nil =>
    rw [hdigits, List.length_nil] at hlength
    omega
  | cons c cs =>
    exact ⟨c, rfl, Number.isDigit_of_mem_padNat (by rw [hdigits]; exact List.mem_cons_self)⟩

/-- Two digits are read, also where one would do. -/
theorem readDigits?_padNat (fixed : Bool) (h : n < 100) (rest : List Char) :
    readDigits? fixed ((Text.padNat 2 n).toList ++ rest) = some (n, rest) := by
  obtain ⟨a, b, hdigits⟩ := List.length_eq_two.1 (Number.length_padNat (by decide : 0 < 2) h)
  have hvalue := Number.value_padNat 2 n
  have ha : Number.isDigit a = true := Number.isDigit_of_mem_padNat (by rw [hdigits]; simp)
  have hb : Number.isDigit b = true := Number.isDigit_of_mem_padNat (by rw [hdigits]; simp)
  rw [hdigits] at hvalue ⊢
  simp [readDigits?, ha, hb, hvalue]

theorem read?_year (h : n < 10000) : Element.year.read? p ((Text.padNat 4 n).toList ++ rest) =
    some ({ p with date := { p.date with year := n } }, rest) := by
  have hlength := Number.length_padNat (by decide : 0 < 4) h
  have hall : (Text.padNat 4 n).toList.all Number.isDigit = true :=
    List.all_eq_true.2 fun c hc => Number.isDigit_of_mem_padNat hc
  have hread : Number.readNat? (Text.padNat 4 n).toList = some n := by
    have hne : (Text.padNat 4 n).toList ≠ [] := List.ne_nil_of_length_eq_add_one hlength
    rw [Number.readNat?, hall, Number.value_padNat]
    simp [hne]
  rw [Element.read?, List.take_left' hlength, List.drop_left' hlength, List.length_append, hlength,
    if_neg (by omega), hread]
  rfl

theorem read?_month (h : 1 ≤ n ∧ n ≤ 12) :
    Element.month.read? p ((Text.padNat 2 n).toList ++ rest) =
      some ({ p with date := { p.date with month := n } }, rest) := by
  simp [Element.read?, readMonth?, readDigits?_padNat true (show n < 100 by omega)]
  omega

theorem read?_day (h : n < 100) : Element.day.read? p ((Text.padNat 2 n).toList ++ rest) =
    some ({ p with date := { p.date with day := n } }, rest) := by
  rw [Element.read?, readDay?, readDigits?_padNat true h, Option.map_some]

theorem read?_hour (h : n < 24) : Element.hour.read? p ((Text.padNat 2 n).toList ++ rest) =
    some ({ p with hour := n }, rest) := by
  simp [Element.read?, readDigits?_padNat false (show n < 100 by omega), Nat.not_le.2 h]

theorem read?_minute (h : n < 60) : Element.minute.read? p ((Text.padNat 2 n).toList ++ rest) =
    some ({ p with minute := n }, rest) := by
  simp [Element.read?, readMinute?, readDigits?_padNat true (show n < 100 by omega), Nat.not_le.2 h]

/-- Seconds are read with the fraction that follows. -/
theorem read?_second (h : n < 60) {nanos : Nat} {cs : List Char}
    (hfraction : readFraction cs = (nanos, rest)) :
    Element.second.read? p ((Text.padNat 2 n).toList ++ cs) =
      some ({ p with second := n, nanos }, rest) := by
  simp [Element.read?, readSecond?, readDigits?_padNat true (show n < 100 by omega),
    Nat.not_le.2 h, hfraction]

/-- What is not a point or a comma with digits behind it is no fraction. -/
theorem readFraction_of_ne {c : Char} (hpoint : c ≠ '.') (hcomma : c ≠ ',') (rest : List Char) :
    readFraction (c :: rest) = (0, c :: rest) := by
  cases rest <;> simp [readFraction, hpoint, hcomma]

/-- **A fraction** is read without the zeros at its end. -/
theorem readFraction_fractionText {t : Instant} (rest : List Char) (h : t.nanos < 1000000000) {c : Char}
    (hpoint : c ≠ '.') (hcomma : c ≠ ',') (hdigit : Number.isDigit c = false) :
    readFraction (t.fractionText.toList ++ c :: rest) = (t.nanos, c :: rest) := by
  by_cases hzero : t.nanos = 0
  · simp [Instant.fractionText, hzero, readFraction_of_ne hpoint hcomma]
  have hlength := Number.length_padNat (by decide : 0 < 9) h
  have hvalue := Number.value_padNat 9 t.nanos
  obtain ⟨k, hsplit, hscaled⟩ := Number.exists_trimmed (Text.padNat 9 t.nanos).toList
  have htext : t.fractionText.toList =
      '.' :: Text.dropWhileEnd (· == '0') (Text.padNat 9 t.nanos).toList := by
    simp [Instant.fractionText, hzero, Text.trimRightBy]
  have hdigits : ∀ d ∈ Text.dropWhileEnd (· == '0') (Text.padNat 9 t.nanos).toList,
      Number.isDigit d = true := fun d hd =>
    Number.isDigit_of_mem_padNat (by rw [hsplit]; exact List.mem_append_left _ hd)
  rw [htext]
  generalize Text.dropWhileEnd (· == '0') (Text.padNat 9 t.nanos).toList = ds at *
  rw [hsplit, List.length_append, List.length_replicate] at hlength
  have hnanos : fractionNanos ds = t.nanos := by
    rw [fractionNanos, List.take_of_length_le (by omega), Nat.pow_eq,
      show 9 - ds.length = k by omega, ← hscaled, hvalue]
  cases ds with
  | nil =>
    rw [hvalue, Number.value, List.foldl_nil, Nat.zero_mul] at hscaled
    exact absurd hscaled hzero
  | cons d ds =>
    have hspan : ((d :: ds) ++ c :: rest).takeWhile Number.isDigit = d :: ds ∧
        ((d :: ds) ++ c :: rest).dropWhile Number.isDigit = c :: rest := by
      rw [List.takeWhile_append_of_pos hdigits, List.dropWhile_append_of_pos hdigits,
        List.takeWhile_cons_of_neg (by simp [hdigit]), List.dropWhile_cons_of_neg (by simp [hdigit])]
      simp
    rw [List.cons_append] at hspan
    simp [readFraction, hdigits d List.mem_cons_self, hspan.1, hspan.2, hnanos]

end

/-! ## Names and blanks -/

section

variable {p : Parts} {rest : List Char}

theorem read?_shortWeekday {k : Nat} (h : k < 7) (rest : List Char) :
    Element.shortWeekday.read? p ((abbreviated (weekdays.getD k "")).toList ++ rest) =
      some (p, rest) := by
  interval_cases k <;> rfl

theorem read?_shortMonth {n : Nat} (h : 1 ≤ n ∧ n ≤ 12) (rest : List Char) :
    Element.shortMonth.read? p ((months.getD (n - 1) "").toList ++ rest) =
      some ({ p with date := { p.date with month := n } }, rest) := by
  obtain ⟨hlow, hhigh⟩ := h
  interval_cases n <;> rfl

/-- The names of the months start with a letter. -/
theorem head?_month {n : Nat} (h : 1 ≤ n ∧ n ≤ 12) (rest : List Char) :
    ((months.getD (n - 1) "").toList ++ rest).head? ≠ some ' ' := by
  obtain ⟨hlow, hhigh⟩ := h
  interval_cases n <;> simp [months]

/-- A blank is read where no other one follows. -/
theorem read?_blank (h : rest.head? ≠ some ' ') :
    (Element.text " ").read? p (' ' :: rest) = some (p, rest) := by
  cases rest <;> simp_all [Element.read?, readText?]

theorem read?_comma (h : rest.head? ≠ some ' ') :
    (Element.text ", ").read? p (',' :: ' ' :: rest) = some (p, rest) := by
  cases rest <;> simp_all [Element.read?, readText?]

end

/-! ## Layouts -/

/-- An element that takes the front of a text leaves the rest to those behind it. -/
theorem parts?_cons {e : Element} {l : Layout} {p q : Parts} {cs rest : List Char}
    (h : e.read? p cs = some (q, rest)) : Layout.parts? p cs (e :: l) = Layout.parts? q rest l := by
  rw [Layout.parts?, h]
  rfl

section

variable {t : Instant}

theorem toList_clockText (second : Nat) : (clockText second).toList =
    (Text.padNat 2 (second / 3600)).toList ++ ':' :: ((Text.padNat 2 (second / 60 % 60)).toList ++
      ':' :: (Text.padNat 2 (second % 60)).toList) := by
  simp [clockText]

/-- The parts of a time that is written in UTC, with its fraction or without. -/
def Instant.parts (t : Instant) (nanos : Nat) : Parts where
  date := Date.ofDays t.days
  hour := t.secondOfDay / 3600
  minute := t.secondOfDay / 60 % 60
  second := t.secondOfDay % 60
  nanos := nanos

/-- The parts are those of the instant. -/
theorem instant?_parts (ht : t.Proper) (hyear : t.HasPlainYear) (nanos : Nat) :
    (t.parts nanos).instant? = some { seconds := t.seconds, nanos } := by
  obtain ⟨hseconds, hday⟩ := t.seconds_eq ht hyear
  rw [Parts.instant?, Instant.parts]
  simp only [Date.isValid_ofDays, if_true, Date.toDays_ofDays, Option.some.injEq, Instant.mk.injEq,
    and_true]
  omega

/-- The date of an instant has parts of two and four digits. -/
theorem Instant.date_range (t : Instant) (hyear : t.HasPlainYear) :
    ((Date.ofDays t.days).year.natAbs : Int) = (Date.ofDays t.days).year ∧
      (Date.ofDays t.days).year.natAbs < 10000 ∧
      (1 ≤ (Date.ofDays t.days).month ∧ (Date.ofDays t.days).month ≤ 12) ∧
      (Date.ofDays t.days).day < 100 := by
  have hvalid := Date.isValid_ofDays t.days
  simp only [Date.isValid, Bool.and_eq_true, decide_eq_true_iff] at hvalid
  have hdays := daysIn_le (Date.ofDays t.days).year (Date.ofDays t.days).month
  obtain ⟨hlow, hhigh⟩ : 1 ≤ (Date.ofDays t.days).year ∧ (Date.ofDays t.days).year ≤ 9999 := hyear
  omega

/-- **Date and time** are read back, to the nanosecond. -/
theorem read?_dateTime (ht : t.Proper) (hyear : t.HasPlainYear) :
    dateTime.read? t.dateTime = some { seconds := t.seconds, nanos := t.nanos } := by
  obtain ⟨habs, hfour, hmonth, hday⟩ := t.date_range hyear
  obtain ⟨-, hsecond⟩ := t.seconds_eq ht hyear
  have hpositive : ¬ (Date.ofDays t.days).year < 0 := by omega
  have htext : t.dateTime.toList =
      (Text.padNat 4 (Date.ofDays t.days).year.natAbs).toList ++
        '-' :: ((Text.padNat 2 (Date.ofDays t.days).month).toList ++
        '-' :: ((Text.padNat 2 (Date.ofDays t.days).day).toList ++
        'T' :: ((Text.padNat 2 (t.secondOfDay / 3600)).toList ++
        ':' :: ((Text.padNat 2 (t.secondOfDay / 60 % 60)).toList ++
        ':' :: ((Text.padNat 2 (t.secondOfDay % 60)).toList ++
        (t.fractionText.toList ++ ['Z'])))))) := by
    simp [Instant.dateTime, yearText, hpositive, toList_clockText]
  have hfraction := readFraction_fractionText (t := t) (c := 'Z') [] ht.nanos_lt
    (by decide) (by decide) (by decide)
  have hparts : dateTime.parts? {} t.dateTime.toList = some (t.parts t.nanos) := by
    rw [htext, dateTime, parts?_cons (read?_year hfour), parts?_cons (q := _) rfl,
      parts?_cons (read?_month hmonth), parts?_cons rfl, parts?_cons (read?_day hday),
      parts?_cons rfl, parts?_cons (read?_hour (by omega)), parts?_cons rfl,
      parts?_cons (read?_minute (by omega)), parts?_cons rfl,
      parts?_cons (read?_second (by omega) hfraction), parts?_cons rfl, habs]
    rfl
  rw [Layout.read?, hparts, Option.bind_some, instant?_parts ht hyear]

/-- **The form that web servers write** is read back, but for the fraction, which it does not have. -/
theorem readHttpDate?_httpDate (ht : t.Proper) (hyear : t.HasPlainYear) :
    readHttpDate? t.httpDate = some { seconds := t.seconds } := by
  obtain ⟨habs, hfour, hmonth, hday⟩ := t.date_range hyear
  obtain ⟨-, hsecond⟩ := t.seconds_eq ht hyear
  have hpositive : ¬ (Date.ofDays t.days).year < 0 := by omega
  have hweekday : weekday t.days < 7 := by
    rw [weekday]
    omega
  have htext : t.httpDate.toList =
      (abbreviated (weekdays.getD (weekday t.days) "")).toList ++
        ',' :: ' ' :: ((Text.padNat 2 (Date.ofDays t.days).day).toList ++
        ' ' :: ((months.getD ((Date.ofDays t.days).month - 1) "").toList ++
        ' ' :: ((Text.padNat 4 (Date.ofDays t.days).year.natAbs).toList ++
        ' ' :: ((Text.padNat 2 (t.secondOfDay / 3600)).toList ++
        ':' :: ((Text.padNat 2 (t.secondOfDay / 60 % 60)).toList ++
        ':' :: ((Text.padNat 2 (t.secondOfDay % 60)).toList ++ " GMT".toList)))))) := by
    simp [Instant.httpDate, yearText, hpositive, toList_clockText]
  have hdigit {width n : Nat} (hwidth : 0 < width) (h : n < 10 ^ width) (rest : List Char) :
      ((Text.padNat width n).toList ++ rest).head? ≠ some ' ' := by
    obtain ⟨c, hc, hdigit⟩ := head?_padNat hwidth h rest
    rw [hc]
    rintro ⟨⟩
    exact absurd hdigit (by decide)
  have hnone : readFraction " GMT".toList = (0, " GMT".toList) := rfl
  have hparts : httpDate.parts? {} t.httpDate.toList = some (t.parts 0) := by
    rw [htext, httpDate, parts?_cons (read?_shortWeekday hweekday _),
      parts?_cons (read?_comma (hdigit (by decide) hday _)), parts?_cons (read?_day hday),
      parts?_cons (read?_blank (head?_month hmonth _)), parts?_cons (read?_shortMonth hmonth _),
      parts?_cons (read?_blank (hdigit (by decide) hfour _)), parts?_cons (read?_year hfour),
      parts?_cons (read?_blank (hdigit (by decide) (show _ < 10 ^ 2 by omega) _)),
      parts?_cons (read?_hour (by omega)), parts?_cons (q := _) rfl,
      parts?_cons (read?_minute (by omega)), parts?_cons rfl,
      parts?_cons (read?_second (by omega) hnone),
      parts?_cons rfl, habs]
    rfl
  rw [readHttpDate?, Layout.read?, hparts, Option.bind_some, instant?_parts ht hyear]
  rfl

end

end Time
end Shapewright
