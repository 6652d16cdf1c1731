import Mathlib.Data.List.TakeWhile
import Shapewright.Http.UriPattern
import Shapewright.Proofs.Failure
import Shapewright.Proofs.Text.Lines

/-!
# Reading target patterns

A pattern is cut at its first question mark, and what stands before it is cut at slashes.  A piece
in braces is a label, and a plus sign before the closing brace makes it greedy; nothing else is
looked at, so braces and plus signs elsewhere are text.  Writing the segments back gives the pieces,
and the pieces give the pattern.  The query of a pattern says nothing about whether there is a
question mark: a pattern that ends with its question mark has the same parts as the pattern without.
The path is cut off where the query is not empty, so the pattern that ends with its question mark
keeps the mark in its path; the path of any other pattern is what stands before the mark.

* `Segment.Proper` — the segments that are read.
* `Segment.parse?_eq_some_iff` — reading a segment accepts exactly what writing a proper one gives.
* `UriPattern.exists_parse_iff` — which patterns are read.
* `UriPattern.of_parse` — the parts of a pattern write it back.
* `UriPattern.eq_or_of_parse` — which patterns have the same parts.
* `UriPattern.parse_written` — all three together.
* `UriPattern.EndsAtMark` — the patterns whose query is there and empty.
* `UriPattern.path_eq` — the path of a pattern, in terms of what its segments write.
* `UriPattern.exists_parse_of_beforeMark_eq` — the query has no part in whether a pattern is read.
* `UriPattern.path_beforeMark` — which patterns have what stands before their mark as path.
-/

set_option autoImplicit false

namespace Shapewright

open Text

/-! ## Segments -/

namespace Segment

/-- What a segment is if it has been read: a label has a name, which ends in a plus sign only if
another one follows it, and other text is not in braces. -/
def Proper (s : Segment) : Prop :=
  if s.isLabel then s.content ≠ "" ∧ (s.isGreedy = false → endsWith "+" s.content = false)
  else s.isGreedy = false ∧ (startsWith "\x7b" s.content && endsWith "\x7d" s.content) = false

theorem braced?_eq_some_iff {cs inner : List Char} :
    braced? cs = some inner ↔ cs = '\x7b' :: inner ++ ['\x7d'] := by
  constructor
  · intro h
    cases cs with
    | nil => cases h
    | cons c rest =>
      rw [braced?.eq_def] at h
      split at h
      · rename_i tail heq
        obtain ⟨rfl, rfl⟩ := List.cons.inj heq
        split at h
        · rename_i hlast
          obtain ⟨front, rfl⟩ := List.getLast?_eq_some_iff.1 (beq_iff_eq.1 hlast)
          obtain rfl : front = inner := by simpa using h
          rfl
        · cases h
      · cases h
  · rintro rfl
    simp [braced?]

/-- Text in braces starts with the one and ends with the other. -/
theorem isSome_braced?_iff {s : String} :
    (startsWith "\x7b" s && endsWith "\x7d" s) = true ↔ ∃ inner, braced? s.toList = some inner := by
  simp only [braced?_eq_some_iff, startsWith, endsWith, Bool.and_eq_true,
    List.isPrefixOf_iff_prefix, List.isSuffixOf_iff_suffix]
  constructor
  · rintro ⟨⟨rest, hrest⟩, ⟨front, hfront⟩⟩
    rcases List.eq_nil_or_concat rest with rfl | ⟨inner, c, rfl⟩
    · -- A single brace is not both of them.
      exact absurd (congrArg List.getLast? (hrest.trans hfront.symm)) (by simp)
    · have hlast := congrArg List.getLast? (hrest.trans hfront.symm)
      rw [List.concat_eq_append, ← List.append_assoc, List.getLast?_concat] at hlast
      obtain rfl : c = '\x7d' := Option.some_inj.1 (hlast.trans List.getLast?_concat)
      exact ⟨inner, by rw [← hrest]; simp⟩
  · rintro ⟨inner, hinner⟩
    rw [hinner]
    exact ⟨⟨inner ++ ['\x7d'], rfl⟩, ⟨'\x7b' :: inner, rfl⟩⟩

theorem toList_written_plain (name : String) :
    ({ content := name, isLabel := true } : Segment).written.toList =
      '\x7b' :: name.toList ++ ['\x7d'] := by
  simp [written]

theorem toList_written_greedy (name : String) :
    ({ content := name, isLabel := true, isGreedy := true } : Segment).written.toList =
      '\x7b' :: (name.toList ++ ['+']) ++ ['\x7d'] := by
  simp [written]

/-! ### The three kinds of segment -/

theorem parse?_of_braced?_eq_none {text : String} (h : braced? text.toList = none) :
    parse? text = some { content := text } := by
  rw [parse?, h]

theorem parse?_of_plain {text : String} {name : List Char} (hname : name.getLast? ≠ some '+')
    (h : braced? text.toList = some name) :
    parse? text =
      if name.isEmpty then none else some { content := String.ofList name, isLabel := true } := by
  have hlast : (name.getLast? == some '+') = false := by simpa using hname
  rw [parse?, h]
  simp [hlast]

theorem parse?_of_greedy {text : String} {name : List Char}
    (h : braced? text.toList = some (name ++ ['+'])) :
    parse? text = if name.isEmpty then none
      else some { content := String.ofList name, isLabel := true, isGreedy := true } := by
  rw [parse?, h]
  simp

/-- A piece is other text, a plain label or a greedy one. -/
theorem kinds (text : String) : braced? text.toList = none ∨
    (∃ name, name.getLast? ≠ some '+' ∧ braced? text.toList = some name) ∨
    ∃ name, braced? text.toList = some (name ++ ['+']) := by
  cases hbraced : braced? text.toList with
  | none => exact .inl rfl
  | some inner =>
    by_cases hlast : inner.getLast? = some '+'
    · obtain ⟨name, rfl⟩ := List.getLast?_eq_some_iff.1 hlast
      exact .inr (.inr ⟨name, rfl⟩)
    · exact .inr (.inl ⟨inner, hlast, rfl⟩)

theorem endsWith_plus_iff {name : List Char} :
    endsWith "+" (String.ofList name) = true ↔ name.getLast? = some '+' := by
  have hname : (String.ofList name).toList = name := String.toList_ofList
  rw [endsWith, List.isSuffixOf_iff_suffix, hname, List.getLast?_eq_some_iff]
  exact exists_congr fun front => eq_comm

theorem written_of_parse? {text : String} {s : Segment} (h : parse? text = some s) :
    s.written = text := by
  apply String.toList_inj.1
  rcases kinds text with hnone | ⟨name, hname, hbraced⟩ | ⟨name, hbraced⟩
  · rw [parse?_of_braced?_eq_none hnone] at h
    rw [← Option.some_inj.1 h]
    rfl
  · rw [parse?_of_plain hname hbraced] at h
    obtain rfl := Option.some_inj.1 (Option.ite_none_left_eq_some.1 h).2
    rw [toList_written_plain, braced?_eq_some_iff.1 hbraced, String.toList_ofList]
  · rw [parse?_of_greedy hbraced] at h
    obtain rfl := Option.some_inj.1 (Option.ite_none_left_eq_some.1 h).2
    rw [toList_written_greedy, braced?_eq_some_iff.1 hbraced, String.toList_ofList]

theorem proper_of_parse? {text : String} {s : Segment} (h : parse? text = some s) : s.Proper := by
  rcases kinds text with hnone | ⟨name, hname, hbraced⟩ | ⟨name, hbraced⟩
  · rw [parse?_of_braced?_eq_none hnone] at h
    rw [← Option.some_inj.1 h, Proper, if_neg (by simp)]
    refine ⟨rfl, Bool.eq_false_iff.2 fun hends => ?_⟩
    obtain ⟨inner, hinner⟩ := isSome_braced?_iff.1 hends
    rw [hnone] at hinner
    cases hinner
  · rw [parse?_of_plain hname hbraced] at h
    obtain ⟨hne, h⟩ := Option.ite_none_left_eq_some.1 h
    obtain rfl := Option.some_inj.1 h
    rw [Proper, if_pos rfl]
    exact ⟨by simpa using hne, fun _ => Bool.eq_false_iff.2 fun h => hname (endsWith_plus_iff.1 h)⟩
  · rw [parse?_of_greedy hbraced] at h
    obtain ⟨hne, h⟩ := Option.ite_none_left_eq_some.1 h
    obtain rfl := Option.some_inj.1 h
    rw [Proper, if_pos rfl]
    exact ⟨by simpa using hne, fun h => absurd h (by simp)⟩

/-- A proper segment that is written is read again. -/
theorem parse?_written {s : Segment} (h : s.Proper) : parse? s.written = some s := by
  obtain ⟨content, isLabel, isGreedy⟩ := s
  cases isLabel with
  | false =>
    obtain ⟨hgreedy, hends⟩ : isGreedy = false ∧
        (startsWith "\x7b" content && endsWith "\x7d" content) = false := by simpa [Proper] using h
    subst hgreedy
    refine parse?_of_braced?_eq_none (Option.eq_none_iff_forall_not_mem.2 fun inner hinner => ?_)
    exact absurd (isSome_braced?_iff.2 ⟨inner, hinner⟩) (Bool.eq_false_iff.1 hends)
  | true =>
    obtain ⟨hne, hplus⟩ : content ≠ "" ∧ (isGreedy = false → endsWith "+" content = false) := h
    have hempty : ¬ content.toList.isEmpty = true :=
      fun h => hne (String.toList_inj.1 (List.isEmpty_iff.1 h))
    cases isGreedy with
    | false =>
      have hlast : content.toList.getLast? ≠ some '+' := by
        intro h
        have hends := endsWith_plus_iff.2 h
        rw [String.ofList_toList, hplus rfl] at hends
        cases hends
      rw [parse?_of_plain hlast (braced?_eq_some_iff.2 (toList_written_plain content)),
        if_neg hempty, String.ofList_toList]
    | true =>
      rw [parse?_of_greedy (braced?_eq_some_iff.2 (toList_written_greedy content)), if_neg hempty,
        String.ofList_toList]

/-- **Reading a segment accepts exactly what writing a proper one gives.** -/
theorem parse?_eq_some_iff {text : String} {s : Segment} :
    parse? text = some s ↔ s.written = text ∧ s.Proper := by
  constructor
  · exact fun h => ⟨written_of_parse? h, proper_of_parse? h⟩
  · rintro ⟨rfl, h⟩
    exact parse?_written h

/-- A label without a name is refused, and nothing else. -/
theorem parse?_eq_none_iff {text : String} :
    parse? text = none ↔ text = "\x7b\x7d" ∨ text = "\x7b+\x7d" := by
  constructor
  · intro h
    rcases kinds text with hnone | ⟨name, hname, hbraced⟩ | ⟨name, hbraced⟩
    · rw [parse?_of_braced?_eq_none hnone] at h
      cases h
    · rw [parse?_of_plain hname hbraced] at h
      obtain rfl : name = [] := by simpa using h
      exact .inl (String.toList_inj.1 (braced?_eq_some_iff.1 hbraced))
    · rw [parse?_of_greedy hbraced] at h
      obtain rfl : name = [] := by simpa using h
      exact .inr (String.toList_inj.1 (braced?_eq_some_iff.1 hbraced))
  · rintro (rfl | rfl) <;> rfl

/-! ### Segments one by one -/

theorem mapM_parse?_eq_some_iff {pieces : List String} {segments : List Segment} :
    pieces.mapM parse? = some segments ↔
      segments.map written = pieces ∧ ∀ s ∈ segments, s.Proper := by
  constructor
  · intro h
    have hall := Outcome.forall₂_of_mapM_eq_some h
    clear h
    induction hall with
    | nil => exact ⟨rfl, by simp⟩
    | cons hpiece _ ih =>
      obtain ⟨hwritten, hproper⟩ := parse?_eq_some_iff.1 hpiece
      exact ⟨by rw [List.map_cons, hwritten, ih.1], List.forall_mem_cons.2 ⟨hproper, ih.2⟩⟩
  · rintro ⟨rfl, hproper⟩
    induction segments with
    | nil => rfl
    | cons s rest ih =>
      obtain ⟨hs, hrest⟩ := List.forall_mem_cons.1 hproper
      rw [List.map_cons, List.mapM_cons, parse?_written hs, ih hrest]
      rfl

theorem exists_mapM_parse?_iff {pieces : List String} :
    (∃ segments, pieces.mapM parse? = some segments) ↔
      ∀ piece ∈ pieces, piece ≠ "\x7b\x7d" ∧ piece ≠ "\x7b+\x7d" := by
  induction pieces with
  | nil => exact iff_of_true ⟨[], rfl⟩ (by simp)
  | cons piece rest ih =>
    rw [List.forall_mem_cons, ← not_or, ← parse?_eq_none_iff, ← ih, List.mapM_cons]
    cases hpiece : parse? piece with
    | none => exact iff_of_false (by rintro ⟨segments, ⟨⟩⟩) (by simp)
    | some s =>
      cases hrest : rest.mapM parse? with
      | none => exact iff_of_false (by rintro ⟨segments, ⟨⟩⟩) (by simp)
      | some segments => exact iff_of_true ⟨s :: segments, rfl⟩ (by simp)

end Segment

/-! ## Patterns -/

namespace UriPattern

/-- What stands before the first question mark, if there is one. -/
def beforeMark (raw : String) : List Char := raw.toList.takeWhile (· != '?')

/-- The two sides of the first question mark; there is no second side without one. -/
theorem cut_mark (raw : String) :
    ((cut '?' raw).elim raw (·.1)).toList = beforeMark raw ∧
      raw.toList = beforeMark raw ++
        (if hasChar '?' raw then '?' :: ((cut '?' raw).elim "" (·.2)).toList else []) ∧
      (hasChar '?' raw = false → (cut '?' raw).elim "" (·.2) = "") := by
  by_cases hmark : hasChar '?' raw = true
  · obtain ⟨front, rest, hraw, hfront⟩ := List.eq_append_cons_of_mem (List.contains_iff_mem.1 hmark)
    have hall : ∀ c ∈ front, (c != '?') = true := by
      intro c hc
      simpa using fun he : c = '?' => hfront (he ▸ hc)
    have hbefore : beforeMark raw = front := by
      rw [beforeMark, hraw, List.takeWhile_append_of_pos hall]
      simp
    have hafter : raw.toList.dropWhile (· != '?') = '?' :: rest := by
      rw [hraw, List.dropWhile_append_of_pos hall]
      simp
    have hcut : cut '?' raw = some (String.ofList front, String.ofList rest) := by
      rw [cut, hafter]
      simp only
      rw [← hbefore]
      rfl
    rw [hcut, if_pos hmark, hbefore, hmark]
    refine ⟨String.toList_ofList, ?_, fun h => by cases h⟩
    rw [hraw]
    exact congrArg (front ++ '?' :: ·) String.toList_ofList.symm
  · have hmark := Bool.eq_false_iff.2 hmark
    have hall : ∀ c ∈ raw.toList, (c != '?') = true := by
      intro c hc
      simpa using fun he : c = '?' => hasChar_eq_false_iff.1 hmark (he ▸ hc)
    have hbefore : beforeMark raw = raw.toList := List.takeWhile_eq_self_iff.2 hall
    have hcut : cut '?' raw = none := by
      rw [cut, List.dropWhile_eq_nil_iff.2 hall]
    rw [hcut, hbefore, if_neg (by simp [hmark]), List.append_nil]
    exact ⟨rfl, rfl, fun _ => rfl⟩

theorem dropStart?_eq_some_iff {s path : String} :
    dropStart? "/" s = some path ↔ s.toList = '/' :: path.toList := by
  rw [dropStart?, Option.ite_none_right_eq_some, startsWith_eq_true_iff, Option.some_inj]
  constructor
  · rintro ⟨⟨rest, hrest⟩, rfl⟩
    rw [String.toList_ofList, ← hrest]
    rfl
  · intro h
    rw [h]
    exact ⟨⟨path.toList, rfl⟩, String.ofList_toList⟩

/-- What is before the question mark starts with a slash where the pattern does. -/
theorem startsWith_slash_iff {raw : String} :
    startsWith "/" raw = true ↔ ∃ path : String, beforeMark raw = '/' :: path.toList := by
  rw [startsWith_eq_true_iff, beforeMark]
  constructor
  · rintro ⟨rest, hrest⟩
    rw [← hrest]
    exact ⟨String.ofList (rest.takeWhile (· != '?')), by simp⟩
  · rintro ⟨path, hpath⟩
    exact (List.prefix_append ['/'] _).trans (hpath ▸ List.takeWhile_prefix _)

/-- How a pattern is read. -/
theorem parse_eq_ok_iff {raw : String} {p : UriPattern} :
    parse raw = .ok p ↔ ∃ path : String, beforeMark raw = '/' :: path.toList ∧
      (split '/' path).mapM Segment.parse? = some p.segments ∧ p.raw = raw ∧
      p.query = (cut '?' raw).elim "" (·.2) := by
  have hstart : ∀ path, dropStart? "/" ((cut '?' raw).elim raw (·.1)) = some path ↔
      beforeMark raw = '/' :: path.toList := by
    intro path
    rw [dropStart?_eq_some_iff, (cut_mark raw).1]
  rw [parse]
  split
  · rename_i hnone
    refine iff_of_false (by simp) ?_
    rintro ⟨path, hpath, -⟩
    rw [(hstart path).2 hpath] at hnone
    cases hnone
  · rename_i path hsome
    have hpath := (hstart path).1 hsome
    have hunique : ∀ path' : String, beforeMark raw = '/' :: path'.toList → path' = path :=
      fun path' h => String.toList_inj.1 (List.cons.inj (h.symm.trans hpath)).2
    split
    · rename_i hmapM
      refine iff_of_false (by simp) ?_
      rintro ⟨path', hpath', hsegments, -⟩
      rw [hunique path' hpath', hmapM] at hsegments
      cases hsegments
    · rename_i segments hmapM
      constructor
      · rintro ⟨⟩
        exact ⟨path, hpath, hmapM, rfl, rfl⟩
      · rintro ⟨path', hpath', hsegments, hraw, hquery⟩
        rw [hunique path' hpath', hmapM] at hsegments
        obtain rfl := Option.some_inj.1 hsegments
        subst hraw
        rw [← hquery]

variable {raw : String} {p : UriPattern}

/-- The segments of a pattern write back what stands before its question mark. -/
theorem toList_writtenPath (h : parse raw = .ok p) : p.writtenPath.toList = beforeMark raw := by
  obtain ⟨path, hpath, hsegments, -⟩ := parse_eq_ok_iff.1 h
  have hjoined : List.intercalate ['/'] ((split '/' path).map String.toList) = path.toList := by
    rw [split, List.map_map]
    simp
  rw [writtenPath, (Segment.mapM_parse?_eq_some_iff.1 hsegments).1, String.toList_append,
    String.toList_intercalate, hpath]
  exact congrArg ('/' :: ·) hjoined

/-- The parts of a pattern write it back, and all of its segments are proper. -/
theorem of_parse (h : parse raw = .ok p) :
    p.raw = raw ∧ p.writtenPath ++ (if hasChar '?' raw then "?" ++ p.query else "") = raw ∧
      (hasChar '?' raw = false → p.query = "") ∧ ∀ s ∈ p.segments, s.Proper := by
  obtain ⟨path, -, hsegments, hraw, hquery⟩ := parse_eq_ok_iff.1 h
  obtain ⟨-, htext, hnone⟩ := cut_mark raw
  refine ⟨hraw, ?_, fun hmark => hquery.trans (hnone hmark),
    (Segment.mapM_parse?_eq_some_iff.1 hsegments).2⟩
  apply String.toList_inj.1
  rw [htext, String.toList_append, toList_writtenPath h, hquery]
  split <;> simp

theorem forall_mem_splitOn_iff {path : String} (hpath : beforeMark raw = '/' :: path.toList) :
    (∀ piece ∈ (beforeMark raw).splitOn '/',
      piece ≠ "\x7b\x7d".toList ∧ piece ≠ "\x7b+\x7d".toList) ↔
    ∀ piece ∈ split '/' path, piece ≠ "\x7b\x7d" ∧ piece ≠ "\x7b+\x7d" := by
  have hne : ∀ (cs : List Char) (s : String), String.ofList cs ≠ s ↔ cs ≠ s.toList := by
    intro cs s
    rw [ne_eq, ← String.toList_inj, String.toList_ofList]
  have hsplit : (beforeMark raw).splitOn '/' = [] :: path.toList.splitOn '/' := by
    rw [hpath]
    have hslash : '/' ∉ ([] : List Char) := by simp
    exact List.splitOn_append_cons_self_of_not_mem hslash path.toList
  rw [hsplit, List.forall_mem_cons, split, List.forall_mem_map]
  simp only [hne]
  exact and_iff_right (by decide)

/-- Which patterns are read. -/
theorem exists_parse_iff : (∃ p, parse raw = .ok p) ↔ startsWith "/" raw = true ∧
    ∀ piece ∈ (beforeMark raw).splitOn '/',
      piece ≠ "\x7b\x7d".toList ∧ piece ≠ "\x7b+\x7d".toList := by
  constructor
  · rintro ⟨p, h⟩
    obtain ⟨path, hpath, hsegments, -⟩ := parse_eq_ok_iff.1 h
    exact ⟨startsWith_slash_iff.2 ⟨path, hpath⟩,
      (forall_mem_splitOn_iff hpath).2 (Segment.exists_mapM_parse?_iff.1 ⟨_, hsegments⟩)⟩
  · rintro ⟨hstart, hpieces⟩
    obtain ⟨path, hpath⟩ := startsWith_slash_iff.1 hstart
    obtain ⟨segments, hsegments⟩ :=
      Segment.exists_mapM_parse?_iff.2 ((forall_mem_splitOn_iff hpath).1 hpieces)
    exact ⟨{ raw, segments, query := (cut '?' raw).elim "" (·.2) },
      parse_eq_ok_iff.2 ⟨path, hpath, hsegments, rfl, rfl⟩⟩

/-- Patterns with the same parts differ in a question mark at the end, if at all. -/
theorem eq_or_of_parse {raw' : String} {p' : UriPattern} (h : parse raw = .ok p)
    (h' : parse raw' = .ok p') (hsegments : p.segments = p'.segments)
    (hquery : p.query = p'.query) :
    raw = raw' ∨ p.query = "" ∧ (raw' = raw ++ "?" ∨ raw = raw' ++ "?") := by
  obtain ⟨-, hwritten, hnone, -⟩ := of_parse h
  obtain ⟨-, hwritten', hnone', -⟩ := of_parse h'
  have hpath : p'.writtenPath = p.writtenPath := by rw [writtenPath, writtenPath, hsegments]
  rw [hpath, ← hquery] at hwritten'
  cases hmark : hasChar '?' raw with
  | true =>
    rw [hmark, if_pos rfl] at hwritten
    cases hmark' : hasChar '?' raw' with
    | true =>
      rw [hmark', if_pos rfl] at hwritten'
      exact .inl (hwritten.symm.trans hwritten')
    | false =>
      have hempty := hquery.trans (hnone' hmark')
      rw [hmark', if_neg (by simp), String.append_empty] at hwritten'
      refine .inr ⟨hempty, .inr ?_⟩
      rw [← hwritten, ← hwritten', hempty]
      rfl
  | false =>
    have hempty := hnone hmark
    rw [hmark, if_neg (by simp), String.append_empty] at hwritten
    cases hmark' : hasChar '?' raw' with
    | true =>
      rw [hmark', if_pos rfl] at hwritten'
      refine .inr ⟨hempty, .inl ?_⟩
      rw [← hwritten', ← hwritten, hempty]
      rfl
    | false =>
      rw [hmark', if_neg (by simp), String.append_empty] at hwritten'
      exact .inl (hwritten.symm.trans hwritten')

/-- **A pattern is read exactly if it starts with a slash and has no label without a name**, and its
parts write it back.  Two patterns with the same segments and the same query are the same, but for a
question mark at the end. -/
theorem parse_written (raw : String) :
    ((∃ p, parse raw = .ok p) ↔ startsWith "/" raw = true ∧
      ∀ piece ∈ (raw.toList.takeWhile (· != '?')).splitOn '/',
        piece ≠ "\x7b\x7d".toList ∧ piece ≠ "\x7b+\x7d".toList) ∧
    ∀ p, parse raw = .ok p → p.raw = raw ∧ p.written = raw ∧ (∀ s ∈ p.segments, s.Proper) ∧
      ∀ raw' p', parse raw' = .ok p' → p.segments = p'.segments → p.query = p'.query →
        raw = raw' ∨ p.query = "" ∧ (raw' = raw ++ "?" ∨ raw = raw' ++ "?") := by
  refine ⟨exists_parse_iff, fun p h => ?_⟩
  obtain ⟨hraw, hwritten, -, hproper⟩ := of_parse h
  rw [← hraw] at hwritten
  exact ⟨hraw, hwritten.trans hraw, hproper, fun _ _ h' => eq_or_of_parse h h'⟩

/-- Braces and plus signs that are not at the ends of a piece are text, also in a name; and a
question mark at the end is all that two patterns with the same parts differ in. -/
theorem parse_written_braces :
    (∃ p, parse "/a\x7bb\x7d/\x7b\x7bc+\x7d\x7d//\x7bd++\x7d?e=\x7b\x7d?" = .ok p ∧
      p.labels = ["\x7bc+\x7d", "d+"] ∧
      p.written = "/a\x7bb\x7d/\x7b\x7bc+\x7d\x7d//\x7bd++\x7d?e=\x7b\x7d?") ∧
    ∃ p p', parse "/tides" = .ok p ∧ parse "/tides?" = .ok p' ∧
      ("/tides" = "/tides?" ∨
        p.query = "" ∧ ("/tides?" = "/tides" ++ "?" ∨ "/tides" = "/tides?" ++ "?")) := by
  constructor
  · refine ⟨_, rfl, by decide, ?_⟩
    exact ((parse_written "/a\x7bb\x7d/\x7b\x7bc+\x7d\x7d//\x7bd++\x7d?e=\x7b\x7d?").2 _ rfl).2.1
  · have hp : parse "/tides" = .ok { raw := "/tides", segments := [{ content := "tides" }] } := rfl
    have hp' : parse "/tides?" = .ok { raw := "/tides?", segments := [{ content := "tides" }] } :=
      rfl
    exact ⟨_, _, hp, hp', ((parse_written "/tides").2 _ hp).2.2.2 _ _ hp' rfl rfl⟩

/-- The question mark at the end of a pattern is in none of its parts. -/
theorem parse_question_mark : ∃ p p', parse "/tides" = .ok p ∧ parse "/tides?" = .ok p' ∧
    p.segments = p'.segments ∧ p.query = p'.query ∧ p.raw ≠ p'.raw :=
  ⟨_, _, rfl, rfl, rfl, rfl, by decide⟩

/-! ## The path of a pattern -/

theorem not_mem_beforeMark (raw : String) : '?' ∉ beforeMark raw := by
  intro h
  have hne := List.mem_takeWhile_imp h
  simp at hne

/-- The first question mark of a pattern is its last character: there is a query, and it is
empty. -/
def EndsAtMark (raw : String) : Prop := raw.toList = beforeMark raw ++ ['?']

instance (raw : String) : Decidable (EndsAtMark raw) :=
  inferInstanceAs (Decidable (raw.toList = beforeMark raw ++ ['?']))

/-- The empty query of a pattern that is read says that the pattern has no question mark or ends
with it. -/
theorem endsAtMark_iff (h : parse raw = .ok p) :
    EndsAtMark raw ↔ hasChar '?' raw = true ∧ p.query = "" := by
  obtain ⟨-, -, -, -, hquery⟩ := parse_eq_ok_iff.1 h
  obtain ⟨-, htext, -⟩ := cut_mark raw
  rw [EndsAtMark]
  nth_rewrite 1 [htext]
  rw [List.append_right_inj, ← hquery]
  cases hmark : hasChar '?' raw with
  | true => simp
  | false => simp

/-- What the segments write is the path, with the question mark behind it that ends the pattern. -/
theorem path_eq (h : parse raw = .ok p) :
    p.path = p.writtenPath ++ (if EndsAtMark raw then "?" else "") := by
  obtain ⟨hraw, hwritten, hnone, -⟩ := of_parse h
  by_cases hquery : p.query = ""
  · -- Nothing is cut off.
    have hpath : p.path = raw := by rw [path, hquery, hraw]; rfl
    rw [hpath]
    nth_rewrite 1 [← hwritten]
    simp only [endsAtMark_iff h, hquery, and_true, String.append_empty]
  · have hends : ¬ EndsAtMark raw := fun hends => hquery ((endsAtMark_iff h).1 hends).2
    have hpath : p.path = (cut '?' raw).elim raw (·.1) := by
      rw [path, hraw, if_neg (by simpa using hquery)]
    rw [hpath, if_neg hends, String.append_empty]
    exact String.toList_inj.1 ((cut_mark raw).1.trans (toList_writtenPath h).symm)

theorem hasChar_path_iff (h : parse raw = .ok p) : hasChar '?' p.path = true ↔ EndsAtMark raw := by
  have hmem := not_mem_beforeMark raw
  rw [hasChar, List.contains_iff_mem, path_eq h, String.toList_append, toList_writtenPath h]
  split
  · rename_i hends
    exact iff_of_true (by simp) hends
  · rename_i hends
    exact iff_of_false (by simpa using hmem) hends

/-- Whether a pattern is read, and as which segments, hangs on what stands before the question
mark alone. -/
theorem exists_parse_of_beforeMark_eq {raw' : String} (h : parse raw = .ok p)
    (hbefore : beforeMark raw' = beforeMark raw) :
    ∃ p', parse raw' = .ok p' ∧ p'.segments = p.segments := by
  obtain ⟨path, hpath, hsegments, -⟩ := parse_eq_ok_iff.1 h
  exact ⟨{ raw := raw', segments := p.segments, query := (cut '?' raw').elim "" (·.2) },
    parse_eq_ok_iff.2 ⟨path, hbefore.trans hpath, hsegments, rfl, rfl⟩, rfl⟩

/-- Patterns that differ only behind what stands before the question mark have the same path if
both of them end with the mark, or neither does. -/
theorem path_eq_path_iff {raw' : String} {p' : UriPattern} (h : parse raw = .ok p)
    (h' : parse raw' = .ok p') (hsegments : p'.segments = p.segments) :
    p'.path = p.path ↔ (EndsAtMark raw' ↔ EndsAtMark raw) := by
  have hwritten : p'.writtenPath = p.writtenPath := by rw [writtenPath, writtenPath, hsegments]
  constructor
  · intro hpath
    rw [← hasChar_path_iff h, ← hasChar_path_iff h', hpath]
  · intro hends
    rw [path_eq h, path_eq h', hwritten]
    simp only [hends]

/-- **The path of a pattern is what stands before its first question mark, exactly if the pattern
does not end with that mark.**  What stands there is what the segments write; a pattern that ends
with the mark is its own path, mark and all.  The query has no part in whether a pattern is read,
and of two patterns that differ in nothing else the paths are the same unless one of the two ends
with the mark and the other does not. -/
theorem path_beforeMark (h : parse raw = .ok p) :
    "/" ++ "/".intercalate (p.segments.map Segment.written) =
        String.ofList (raw.toList.takeWhile (· != '?')) ∧
      p.path = "/" ++ "/".intercalate (p.segments.map Segment.written) ++
        (if EndsAtMark raw then "?" else "") ∧
      (p.path = String.ofList (raw.toList.takeWhile (· != '?')) ↔ ¬ EndsAtMark raw) ∧
      (hasChar '?' p.path = false ↔ ¬ EndsAtMark raw) ∧
      ∀ raw' : String, raw'.toList.takeWhile (· != '?') = raw.toList.takeWhile (· != '?') →
        ∃ p', parse raw' = .ok p' ∧ p'.segments = p.segments ∧
          (p'.path = p.path ↔ (EndsAtMark raw' ↔ EndsAtMark raw)) := by
  have hwritten : p.writtenPath = String.ofList (beforeMark raw) := by
    rw [← toList_writtenPath h, String.ofList_toList]
  have hmark : hasChar '?' p.path = false ↔ ¬ EndsAtMark raw := by
    rw [← hasChar_path_iff h, Bool.not_eq_true]
  refine ⟨hwritten, path_eq h, ⟨fun hpath => hmark.1 ?_, fun hends => ?_⟩, hmark, ?_⟩
  · rw [hpath, hasChar_eq_false_iff, String.toList_ofList]
    exact not_mem_beforeMark raw
  · rw [path_eq h, if_neg hends, String.append_empty]
    exact hwritten
  · intro raw' hbefore
    obtain ⟨p', h', hsegments⟩ := exists_parse_of_beforeMark_eq h hbefore
    exact ⟨p', h', hsegments, path_eq_path_iff h h' hsegments⟩

/-- A second question mark belongs to the query; a mark with nothing behind it belongs to the
path. -/
theorem path_beforeMark_tides :
    ∃ p p', parse "/tides/\x7bport+\x7d?at=?" = .ok p ∧ parse "/tides/\x7bport+\x7d?" = .ok p' ∧
      p.path = "/tides/\x7bport+\x7d" ∧ p'.segments = p.segments ∧ p'.path ≠ p.path := by
  have h : parse "/tides/\x7bport+\x7d?at=?" = .ok
      { raw := "/tides/\x7bport+\x7d?at=?", query := "at=?"
        segments := [{ content := "tides" },
          { content := "port", isLabel := true, isGreedy := true }] } := rfl
  obtain ⟨-, -, hpath, -, hsame⟩ := path_beforeMark h
  obtain ⟨p', h', hsegments, hiff⟩ := hsame "/tides/\x7bport+\x7d?" (by decide)
  refine ⟨_, p', h, h', hpath.2 (by decide), hsegments, fun heq => ?_⟩
  exact absurd ((hiff.1 heq).1 (by decide)) (by decide)

/-- A question mark with nothing behind it is not cut off. -/
theorem path_question_mark : ∃ p p', parse "/tides" = .ok p ∧ parse "/tides?" = .ok p' ∧
    beforeMark "/tides?" = beforeMark "/tides" ∧ p'.path ≠ String.ofList (beforeMark "/tides?") ∧
    p'.path ≠ p'.writtenPath ∧ hasChar '?' p'.path = true ∧ p'.path ≠ p.path :=
  ⟨_, _, rfl, rfl, by decide, by decide, by decide, by decide, by decide⟩

end UriPattern

end Shapewright
