import Shapewright.Proofs.Failure
import Shapewright.Proofs.Text.Pieces
import Shapewright.Proofs.Wire.Pieces
import Shapewright.Wire.Request

/-!
# Lists that arrive as text

A list is one text with commas, or a parameter that is repeated: its values are joined with commas, and
split again together with the commas that they had.  Dates have a comma of their own, so the parts of
a list of dates are put together in pairs; pairs stay pairs because every date has exactly one.

* `Wire.listParts_joinLists` — lists that are joined have the parts of all of them.
* `Wire.repeated_lists` — so repeated parameters and parameters with commas are split alike.
* `Wire.DateText` — a date whose comma is the only one.
* `Wire.dateParts_intercalate` — dates that are joined are found again.
* `Wire.joined_dates` — and converted one by one, up to the first that fails.
* `Wire.splitList`, `Wire.splitHttpDates` — the parts of a text, by its characters;
  `Wire.listParts_encode`, `Wire.dateParts_encode` — they are the parts of its bytes.
-/

set_option autoImplicit false

namespace Shapewright
namespace Wire

/-! ## Parts -/

section

variable {text : Bytes}

theorem listParts_of_blank (h : Bytes.trim text = []) : listParts text = [] := by
  rw [listParts, h, List.isEmpty_nil, if_pos rfl]

theorem listParts_of_ne (h : Bytes.trim text ≠ []) :
    listParts text = (text.splitOn delimiter).map Bytes.trim :=
  if_neg (by simpa using h)

/-- A text with a comma is not blank. -/
theorem trim_ne_nil_of_delimiter (h : delimiter ∈ text) : Bytes.trim text ≠ [] :=
  Bytes.trim_ne_nil (by decide) (by decide) h

/-- A part that is trimmed is the only part of itself. -/
theorem listParts_self (htrim : Bytes.trim text = text) (hne : text ≠ []) (hmem : delimiter ∉ text) :
    listParts text = [text] := by
  rw [listParts_of_ne (by rwa [htrim]), List.splitOn_eq_singleton hmem, List.map_singleton, htrim]

end

/-! ## Repeated lists -/

/-- Lists of which none is blank are not blank together. Two of them have a comma between them. -/
theorem trim_joinLists_ne_nil {texts : List Bytes} (hne : texts ≠ [])
    (htexts : ∀ t ∈ texts, Bytes.trim t ≠ []) : Bytes.trim (joinLists texts) ≠ [] := by
  rcases texts with _ | ⟨t, _ | ⟨t', texts⟩⟩
  · exact absurd rfl hne
  · rw [joinLists, List.intercalate_singleton]
    exact htexts t List.mem_cons_self
  · refine trim_ne_nil_of_delimiter ?_
    rw [joinLists, List.intercalate_cons_cons]
    simp

/-- **Lists that are joined** have the parts of all of them. -/
theorem listParts_joinLists {texts : List Bytes} (hne : texts ≠ [])
    (htexts : ∀ t ∈ texts, Bytes.trim t ≠ []) :
    listParts (joinLists texts) = texts.flatMap listParts := by
  rw [listParts_of_ne (trim_joinLists_ne_nil hne htexts), joinLists,
    splitOn_intercalate_eq_flatMap hne, List.map_flatMap]
  exact List.flatMap_congr fun t ht => (listParts_of_ne (htexts t ht)).symm

theorem listParts_joinLists_parts {parts : List Bytes}
    (h : ∀ p ∈ parts, Bytes.trim p = p ∧ p ≠ [] ∧ delimiter ∉ p) :
    listParts (joinLists parts) = parts := by
  by_cases hne : parts = []
  · subst hne
    exact listParts_of_blank rfl
  · rw [listParts_joinLists hne fun p hp => by rw [(h p hp).1]; exact (h p hp).2.1]
    calc parts.flatMap listParts = parts.flatMap fun p => [p] :=
          List.flatMap_congr fun p hp => listParts_self (h p hp).1 (h p hp).2.1 (h p hp).2.2
      _ = parts := List.flatMap_singleton' parts

theorem Request.queryParam_eq {r : Request} {key : String} (h : r.queryValues key ≠ []) :
    r.queryParam key = some (joinLists (r.queryValues key)) := by
  rw [queryParam]
  split
  · rename_i hnil
    exact absurd hnil h
  · rfl

/-- **Repeated lists** and lists with commas have the same parts, as texts and as parameters of
requests. -/
theorem repeated_lists :
    (∀ texts : List Bytes, texts ≠ [] → (∀ t ∈ texts, Bytes.trim t ≠ []) →
      listParts (joinLists texts) = texts.flatMap listParts) ∧
    (∀ parts : List Bytes, (∀ p ∈ parts, Bytes.trim p = p ∧ p ≠ [] ∧ delimiter ∉ p) →
      listParts (joinLists parts) = parts) ∧
    ∀ (repeated single : Request) (key : String), repeated.queryValues key ≠ [] →
      single.queryValues key = [joinLists (repeated.queryValues key)] →
      (repeated.queryParam key).map listParts
          = some (listParts (joinLists (repeated.queryValues key))) ∧
        (single.queryParam key).map listParts = (repeated.queryParam key).map listParts := by
  refine ⟨fun _ => listParts_joinLists, fun _ => listParts_joinLists_parts, ?_⟩
  intro repeated single key hrepeated hsingle
  have hparam := Request.queryParam_eq hrepeated
  have hparam' : single.queryParam key = some (joinLists (repeated.queryValues key)) := by
    rw [Request.queryParam_eq (by rw [hsingle]; simp), hsingle, joinLists,
      List.intercalate_singleton]
  rw [hparam, hparam']
  exact ⟨rfl, rfl⟩

/-- A parameter that is given twice, once with two parts, and the same parts in one value. -/
theorem repeated_lists_ids :
    let repeated : Request := { target := { query := Bytes.encode "id=1&id=2%2C+3" } }
    let single : Request := { target := { query := Bytes.encode "id=1%2C2%2C+3" } }
    (single.queryParam "id").map listParts = (repeated.queryParam "id").map listParts ∧
      (repeated.queryParam "id").map listParts =
        some [Bytes.encode "1", Bytes.encode "2", Bytes.encode "3"] := by
  intro repeated single
  have hvalues : repeated.queryValues "id" = [Bytes.encode "1", Bytes.encode "2, 3"] := by
    decide +kernel
  obtain ⟨hrepeated, hsingle⟩ := repeated_lists.2.2 repeated single "id" (by simp [hvalues])
    (by rw [hvalues]; decide +kernel)
  refine ⟨hsingle, hrepeated.trans ?_⟩
  rw [hvalues, repeated_lists.1 _ (by simp) (by decide +kernel)]
  decide +kernel

/-! ## Dates -/

/-- A date, or anything else with a comma behind the day and no other one. -/
structure DateText where
  day : Bytes
  rest : Bytes
  trim_day : Bytes.trim day = day
  trim_rest : Bytes.trim rest = rest
  not_mem_day : delimiter ∉ day
  not_mem_rest : delimiter ∉ rest

namespace DateText

/-- A date as it is written. -/
def text (d : DateText) : Bytes := joinDate d.day d.rest

/-- The two parts of a date. -/
def parts (d : DateText) : List Bytes := [d.day, d.rest]

end DateText

/-- What may stand between dates. -/
def dateSeparators : List Bytes := [[delimiter], [delimiter, Percent.byte ' ']]

/-- White space in front of a text is white space in front of its first part. -/
theorem map_trim_splitOn_space (text : Bytes) :
    ((Percent.byte ' ' :: text).splitOn delimiter).map Bytes.trim =
      (text.splitOn delimiter).map Bytes.trim := by
  rw [List.splitOn_cons_eq_if_modifyHead, if_neg (by decide)]
  obtain ⟨first, rest, hsplit⟩ := List.exists_cons_of_ne_nil (List.splitOn_ne_nil delimiter text)
  rw [hsplit, List.modifyHead_cons, List.map_cons, List.map_cons, Bytes.trim_space]

/-- What a separator has beside its comma goes with the date behind it, and is trimmed off. -/
theorem map_trim_splitOn_separator {separator : Bytes} (h : separator ∈ dateSeparators)
    (before after : Bytes) : ((before ++ separator ++ after).splitOn delimiter).map Bytes.trim =
      (before.splitOn delimiter).map Bytes.trim ++ (after.splitOn delimiter).map Bytes.trim := by
  simp only [dateSeparators, List.mem_cons, List.not_mem_nil, or_false] at h
  rcases h with rfl | rfl
  · rw [List.append_assoc, List.singleton_append, List.splitOn_append_cons_self, List.map_append]
  · rw [List.append_assoc, List.cons_append, List.singleton_append, List.splitOn_append_cons_self,
      List.map_append, map_trim_splitOn_space]

/-- The parts of one date. -/
theorem DateText.map_trim_splitOn (d : DateText) :
    (d.text.splitOn delimiter).map Bytes.trim = d.parts := by
  have htext : d.text = d.day ++ delimiter :: Percent.byte ' ' :: d.rest := by
    rw [text, joinDate, List.append_assoc]
    rfl
  have hrest : delimiter ∉ Percent.byte ' ' :: d.rest := by
    rw [List.mem_cons, not_or]
    exact ⟨by decide, d.not_mem_rest⟩
  rw [htext, List.splitOn_append_cons_self_of_not_mem d.not_mem_day, List.splitOn_eq_singleton hrest,
    List.map_cons, List.map_singleton, Bytes.trim_space, d.trim_day, d.trim_rest, parts]

theorem map_trim_splitOn_dates {dates : List DateText} (hne : dates ≠ []) {separator : Bytes}
    (hseparator : separator ∈ dateSeparators) :
    ((separator.intercalate (dates.map DateText.text)).splitOn delimiter).map Bytes.trim =
      dates.flatMap DateText.parts := by
  induction dates with
  | nil => exact absurd rfl hne
  | cons d dates ih =>
    cases dates with
    | nil => simpa using d.map_trim_splitOn
    | cons d' dates =>
      rw [List.map_cons, List.map_cons, List.intercalate_cons_cons, ← List.map_cons,
        map_trim_splitOn_separator hseparator, d.map_trim_splitOn, ih (by simp)]
      rfl

/-- Two parts for every date make pairs of its own parts. -/
theorem pairUp_parts (dates : List DateText) :
    pairUp joinDate (dates.flatMap DateText.parts) = dates.map DateText.text := by
  induction dates with
  | nil => rfl
  | cons d dates ih =>
    rw [List.flatMap_cons, DateText.parts, List.cons_append, List.singleton_append, pairUp, ih]
    rfl

/-- **Dates that are joined** are found again. -/
theorem dateParts_intercalate (dates : List DateText) {separator : Bytes}
    (hseparator : separator ∈ dateSeparators) :
    dateParts (separator.intercalate (dates.map DateText.text)) = dates.map DateText.text := by
  cases dates with
  | nil => rfl
  | cons d dates =>
    have hcomma : delimiter ∈ separator.intercalate ((d :: dates).map DateText.text) := by
      have hd : delimiter ∈ d.text := by simp [DateText.text, joinDate, delimiter]
      cases dates with
      | nil => simpa using hd
      | cons d' dates => simp [List.intercalate_cons_cons, hd]
    rw [dateParts, listParts_of_ne (trim_ne_nil_of_delimiter hcomma),
      map_trim_splitOn_dates (by simp) hseparator, pairUp_parts]

/-- **Dates that are joined** are found again, whatever of the two ways they are joined in, and are
converted one by one, up to the first that fails. -/
theorem joined_dates {separator : Bytes} (hseparator : separator ∈ dateSeparators) :
    (∀ dates : List DateText, dateParts (separator.intercalate (dates.map DateText.text)) =
      dates.map DateText.text) ∧
    (∀ text, Bytes.trim text = [] → dateParts text = []) ∧
    ∀ {α : Type} (field : String) (convert : String → Bytes → Served α) (dates : List DateText),
      let converted := convertEach field
        (dateParts (separator.intercalate (dates.map DateText.text))) convert
      ((∃ e, converted = .error e) ↔ ∃ d ∈ dates, ∃ e, convert field d.text = .error e) ∧
      (∀ e, converted = .error e ↔ ∃ front d back, dates = front ++ d :: back ∧
        (∀ d' ∈ front, ∃ v, convert field d'.text = .ok v) ∧ convert field d.text = .error e) ∧
      ∀ vs, converted = .ok vs ↔
        List.Forall₂ (fun (d : DateText) v => convert field d.text = .ok v) dates vs := by
  refine ⟨fun dates => dateParts_intercalate dates hseparator, fun text h => ?_, ?_⟩
  · rw [dateParts, listParts_of_blank h]
    rfl
  · intro α field convert dates converted
    have hconverted : converted = dates.mapM fun d => convert field d.text := by
      show convertEach field _ convert = _
      rw [dateParts_intercalate dates hseparator, convertEach, List.mapM_map]
      rfl
    rw [hconverted]
    exact ⟨Outcome.exists_mapM_eq_error_iff, fun _ => Outcome.mapM_eq_error_iff,
      fun _ => Outcome.mapM_eq_ok_iff⟩

/-- Two dates, of which one cannot be converted. -/
theorem joined_dates_two :
    dateParts (Bytes.encode "Tue, 1, Wed, 2") = [Bytes.encode "Tue, 1", Bytes.encode "Wed, 2"] ∧
      convertEach "at" (dateParts (Bytes.encode "Tue, 1, Wed, 2")) (fun field part =>
        if part == Bytes.encode "Tue, 1" then .ok () else .error (.malformed "time" field part none))
        = .error (.malformed "time" "at" (Bytes.encode "Wed, 2") none) := by
  let tuesday : DateText := ⟨Bytes.encode "Tue", Bytes.encode "1", by decide +kernel,
    by decide +kernel, by decide +kernel, by decide +kernel⟩
  let wednesday : DateText := ⟨Bytes.encode "Wed", Bytes.encode "2", by decide +kernel,
    by decide +kernel, by decide +kernel, by decide +kernel⟩
  have h := @joined_dates [delimiter, Percent.byte ' '] (by simp [dateSeparators])
  refine ⟨h.1 [tuesday, wednesday], ?_⟩
  exact ((h.2.2 "at" _ [tuesday, wednesday]).2.1 _).2
    ⟨[tuesday], wednesday, [], rfl, List.forall_mem_singleton.2 ⟨(), rfl⟩, rfl⟩

/-! ## Texts -/

/-- The parts of a list that is a text. -/
def splitList (s : String) : List String :=
  if Text.trim s == "" then [] else (Text.split ',' s).map Text.trim

/-- The parts of a list of dates that is a text. -/
def splitHttpDates (s : String) : List String :=
  pairUp (fun day rest => day ++ ", " ++ rest) (splitList s)

/-- The bytes of a text are split at its commas. -/
theorem splitOn_encode (s : String) :
    (Bytes.encode s).splitOn delimiter = (Text.split ',' s).map Bytes.encode := by
  have hs : s.toList = List.intercalate [','] (s.toList.splitOn ',') :=
    (List.intercalate_splitOn ',').symm
  have hne : s.toList.splitOn ',' ≠ [] := List.splitOn_ne_nil ',' s.toList
  have hpieces : ∀ p ∈ s.toList.splitOn ',', delimiter ∉ p.flatMap String.utf8EncodeChar := by
    intro p hp hmem
    obtain ⟨c, hc, hbyte⟩ := List.mem_flatMap.1 hmem
    obtain rfl : c = ',' := (Bytes.spells_utf8EncodeChar c).eq_of_mem (by decide) hbyte
    exact not_mem_of_mem_splitOn hp hc
  have hjoined : Bytes.encode s = List.intercalate [delimiter]
      ((s.toList.splitOn ',').map (·.flatMap String.utf8EncodeChar)) := by
    rw [Bytes.encode]
    conv_lhs => rw [hs]
    exact flatMap_intercalate _ _
  rw [hjoined, List.splitOn_intercalate delimiter (List.forall_mem_map.2 hpieces)
      (fun h => hne (List.map_eq_nil_iff.1 h)), Text.split, List.map_map]
  exact List.map_congr_left fun p _ => by simp [Bytes.encode]

/-- **The parts of a text** are those of its bytes. -/
theorem listParts_encode (s : String) :
    listParts (Bytes.encode s) = (splitList s).map Bytes.encode := by
  rw [splitList]
  split
  · rename_i hblank
    rw [listParts_of_blank (by rw [Bytes.trim_encode, eq_of_beq hblank]; rfl), List.map_nil]
  · rename_i hne
    have htrim : Bytes.trim (Bytes.encode s) ≠ [] := by
      rw [Bytes.trim_encode]
      intro hnil
      have hempty : Text.trim s = "" :=
        (Bytes.readable_encode (Text.trim s)).symm.trans (by rw [hnil]; rfl)
      exact hne (beq_iff_eq.2 hempty)
    rw [listParts_of_ne htrim, splitOn_encode, List.map_map, List.map_map]
    exact List.map_congr_left fun p _ => by
      rw [Function.comp_apply, Bytes.trim_encode, Function.comp_apply]

theorem pairUp_map {α β : Type} {join : α → α → α} {join' : β → β → β} {f : α → β}
    (h : ∀ a b, f (join a b) = join' (f a) (f b)) (xs : List α) :
    pairUp join' (xs.map f) = (pairUp join xs).map f := by
  fun_induction pairUp join xs with
  | case1 a b rest ih => rw [List.map_cons, List.map_cons, pairUp, ih, List.map_cons, h]
  | case2 xs hxs =>
    rcases xs with _ | ⟨a, _ | ⟨b, rest⟩⟩
    · rfl
    · rfl
    · exact absurd rfl (hxs a b rest)

/-- **The dates of a text** are those of its bytes. -/
theorem dateParts_encode (s : String) :
    dateParts (Bytes.encode s) = (splitHttpDates s).map Bytes.encode := by
  rw [dateParts, listParts_encode, splitHttpDates]
  refine pairUp_map (fun day rest => ?_) _
  rw [Bytes.encode, String.toList_append, String.toList_append, List.flatMap_append,
    List.flatMap_append]
  rfl

end Wire
end Shapewright
