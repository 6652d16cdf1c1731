import Shapewright.Http.UriPattern
import Shapewright.Proofs.Failure
import Shapewright.Proofs.Text.Percent
import Shapewright.Proofs.Text.Pieces
import Shapewright.Wire.Request

/-!
# Labels of a pattern and segments of a path

A label of a target pattern is bound by its position: the position of its segment in the pattern is
the position of its value in the path of a request.  The two are computed by different splits, one
of the pattern and one of an escaped path, and a value may hold slashes, percent signs and question
marks itself.

* `UriPattern.filled` — the path of a pattern once every label has a value.
* `Wire.Request.segments_eq` — the split of such a path, up to any segment before which no label is
  greedy.
* `Wire.Request.param_filled` — every label is read back.
* `Wire.Request.escapedPath_filled` — a request for such a path sends it as it is.
-/

set_option autoImplicit false

namespace Shapewright

open Percent

/-! ## Patterns with values -/

/-- The bytes of a segment in a path, once labels have values: everything is escaped, and only the
slashes of a greedy label are kept. -/
def Segment.filled (value : String → Bytes) (s : Segment) : Bytes :=
  if s.isGreedy then
    List.intercalate [byte '/']
      ((Wire.Request.splitBytes '/' (value s.content)).map (escape inSegment))
  else if s.isLabel then escape inSegment (value s.content)
  else escape inSegment (Bytes.encode s.content)

/-- The path of a pattern, once labels have values. -/
def UriPattern.filled (p : UriPattern) (value : String → Bytes) : Bytes :=
  byte '/' :: List.intercalate [byte '/'] (p.segments.map (Segment.filled value))

namespace Segment

variable {value : String → Bytes} {s : Segment}

theorem filled_of_label (hl : s.isLabel = true) (hg : s.isGreedy = false) :
    s.filled value = escape inSegment (value s.content) := by
  simp [filled, hl, hg]

theorem slash_not_mem_filled (hg : s.isGreedy = false) : byte '/' ∉ s.filled value := by
  rw [filled, hg, if_neg (by simp)]
  split
  · exact slash_not_mem_escape (by decide) _
  · exact slash_not_mem_escape (by decide) _

/-- A greedy label is escaped as a whole, its slashes kept. -/
theorem filled_of_greedy (hg : s.isGreedy = true) :
    s.filled value = escape (fun b => inSegment b || b == byte '/') (value s.content) := by
  rw [filled, if_pos hg, Wire.Request.splitBytes,
    escape_intercalate inSegment fun _ => not_mem_of_mem_splitOn, List.intercalate_splitOn]

theorem filled_ne_nil (hl : s.isLabel = true) (hv : value s.content ≠ []) :
    s.filled value ≠ [] := by
  cases hg : s.isGreedy with
  | true =>
    rw [filled_of_greedy hg]
    exact escape_ne_nil _ hv
  | false =>
    rw [filled_of_label hl hg]
    exact escape_ne_nil _ hv

/-- What stands for a label is read back. -/
theorem readEscaped_filled (hl : s.isLabel = true) :
    Wire.Request.readEscaped (s.filled value) = value s.content := by
  cases hg : s.isGreedy with
  | true => rw [filled_of_greedy hg, Wire.Request.readEscaped, unescape?_escape (by decide)]; rfl
  | false => rw [filled_of_label hl hg, Wire.Request.readEscaped, unescape?_escape (by decide)]; rfl

theorem isPathText_of_inSegment {b : UInt8} (h : inSegment b = true) : isPathText b = true := by
  simp only [inSegment, isPathText, inPath, Bool.or_eq_true, List.any_eq_true] at h ⊢
  rcases h with h | ⟨c, hc, h⟩
  · exact .inl (.inl h)
  · refine .inl (.inr ⟨c, ?_, h⟩)
    revert hc
    simp only [String.reduceToList, List.mem_cons, List.not_mem_nil, or_false]
    rintro (rfl | rfl | rfl | rfl | rfl | rfl) <;> decide

/-- What stands for a segment are bytes that a path may show. -/
theorem isPathText_of_mem_filled {b : UInt8} (hb : b ∈ s.filled value) : isPathText b = true := by
  have hkeep : ∀ keep bs, (∀ c, keep c = true → inSegment c = true ∨ c = byte '/') →
      b ∈ escape keep bs → isPathText b = true := by
    intro keep bs hk hmem
    rcases mem_escape hmem with h | rfl | ⟨n, hn, rfl⟩
    · rcases hk b h with h | rfl
      · exact isPathText_of_inSegment h
      · decide
    · decide
    · have hdigits : ∀ n < 16, isPathText (byte (Bytes.hexDigit true n)) = true := by decide
      exact hdigits n hn
  cases hg : s.isGreedy with
  | true =>
    rw [filled_of_greedy hg] at hb
    exact hkeep _ _ (fun c hc => by simpa using hc) hb
  | false =>
    rw [filled, hg, if_neg (by simp)] at hb
    split at hb
    · exact hkeep _ _ (fun _ => .inl) hb
    · exact hkeep _ _ (fun _ => .inl) hb

end Segment

namespace UriPattern

/-- A pattern has a route only if a greedy label ends it. -/
theorem greedy_last_of_route {p : UriPattern} {path : String} (h : p.route = .ok path) {i : Nat}
    {s : Segment} (hs : p.segments[i]? = some s) (hg : s.isGreedy = true) :
    i + 1 = p.segments.length := by
  have hlt : i < p.segments.length := (List.getElem?_eq_some_iff.1 hs).1
  have hmem : (s, i) ∈ p.segments.zipIdx := List.mem_zipIdx_iff_getElem?.2 hs
  obtain ⟨parts, hparts, -⟩ := Outcome.exists_ok_of_bind h
  obtain ⟨part, hpart⟩ := Outcome.exists_ok_of_mapM hparts (s, i) hmem
  -- The step at a greedy label gives a part only if the label is the last one.
  cases hlast : i != p.segments.length - 1 with
  | true =>
    simp only [hg, hlast, if_true] at hpart
    cases hpart
  | false =>
    have heq : i = p.segments.length - 1 := by simpa using hlast
    omega

theorem exists_split {p : UriPattern} {i : Nat} {s : Segment} (h : p.segments[i]? = some s) :
    ∃ before after, p.segments = before ++ s :: after ∧ before.length = i := by
  obtain ⟨hlt, rfl⟩ := List.getElem?_eq_some_iff.1 h
  refine ⟨p.segments.take i, p.segments.drop (i + 1), ?_, ?_⟩
  · rw [← List.drop_eq_getElem_cons hlt, List.take_append_drop]
  · rw [List.length_take]
    omega

theorem exists_labelIndex? {p : UriPattern} {name : String} (h : name ∈ p.labels) :
    ∃ (i : Nat) (s : Segment), p.labelIndex? name = some i ∧ p.segments[i]? = some s ∧
      s.isLabel = true ∧ s.content = name := by
  obtain ⟨t, ht, htname⟩ := List.mem_map.1 h
  rw [List.mem_filter] at ht
  have hsome : (p.labelIndex? name).isSome := by
    rw [labelIndex?, List.findIdx?_isSome, List.any_eq_true]
    exact ⟨t, ht.1, by simp [ht.2, htname]⟩
  obtain ⟨i, hi⟩ := Option.isSome_iff_exists.1 hsome
  obtain ⟨hlt, hmatch, -⟩ := List.findIdx?_eq_some_iff_getElem.1 hi
  rw [Bool.and_eq_true, beq_iff_eq] at hmatch
  exact ⟨i, p.segments[i], hi, List.getElem?_eq_getElem hlt, hmatch⟩

end UriPattern

namespace Wire
namespace Request

variable {p : UriPattern} {value : String → Bytes} {r : Request}

/-- **The split of a filled path**, up to a segment before which no label is greedy. -/
theorem segments_eq (hr : r.escapedPath = p.filled value) {before after : List Segment}
    {s : Segment} (hp : p.segments = before ++ s :: after)
    (hbefore : ∀ t ∈ before, t.isGreedy = false) (hs : s.filled value ≠ []) :
    r.segments = before.map (Segment.filled value) ++ splitBytes '/'
      (List.intercalate [byte '/'] (s.filled value :: after.map (Segment.filled value))) := by
  have hmap : p.segments.map (Segment.filled value) = before.map (Segment.filled value) ++
      s.filled value :: after.map (Segment.filled value) := by
    rw [hp, List.map_append, List.map_cons]
  have hne : List.intercalate [byte '/'] (p.segments.map (Segment.filled value)) ≠ [] := by
    rw [hmap]
    exact intercalate_ne_nil (by simp) hs
  rw [segments, hr, UriPattern.filled]
  simp only [beq_self_eq_true, if_true, List.isEmpty_iff, if_neg hne]
  rw [splitBytes, splitBytes, hmap, splitOn_intercalate_append _ (by simp)]
  intro l hl
  obtain ⟨t, ht, rfl⟩ := List.mem_map.1 hl
  exact Segment.slash_not_mem_filled (hbefore t ht)

/-- A plain label is read from the segment at its position. -/
theorem pathParam_of_split (hr : r.escapedPath = p.filled value) {before after : List Segment}
    {s : Segment} (hp : p.segments = before ++ s :: after)
    (hbefore : ∀ t ∈ before, t.isGreedy = false) (hl : s.isLabel = true) (hg : s.isGreedy = false)
    (hv : value s.content ≠ []) : r.pathParam before.length = some (value s.content) := by
  have hne := Segment.filled_ne_nil hl hv
  obtain ⟨rest, hsplit⟩ := exists_splitOn_intercalate_cons
    (@Segment.slash_not_mem_filled value s hg) (after.map (Segment.filled value))
  have hget : r.segments[before.length]? = some (s.filled value) := by
    rw [segments_eq hr hp hbefore hne, splitBytes, hsplit, List.getElem?_append_right (by simp)]
    simp
  have hindex : ¬ ((before.length : Int) < 0) := by omega
  rw [pathParam, if_neg hindex, Int.toNat_natCast, hget]
  simp only [List.isEmpty_iff, if_neg hne, Segment.readEscaped_filled hl]

/-- A greedy label at the end is read from the rest of the path. -/
theorem greedyPathParam_of_split (hr : r.escapedPath = p.filled value) {before : List Segment}
    {s : Segment} (hp : p.segments = before ++ [s]) (hbefore : ∀ t ∈ before, t.isGreedy = false)
    (hl : s.isLabel = true) (hv : value s.content ≠ []) :
    r.greedyPathParam before.length = some (value s.content) := by
  have hne := Segment.filled_ne_nil hl hv
  have hrest : List.intercalate [byte '/'] (r.segments.drop before.length) = s.filled value := by
    rw [segments_eq hr hp hbefore hne, List.map_nil, List.intercalate_singleton,
      List.drop_append_of_le_length (by simp), List.drop_of_length_le (by simp), List.nil_append,
      splitBytes, List.intercalate_splitOn]
  have hindex : ¬ ((before.length : Int) < 0) := by omega
  rw [greedyPathParam, if_neg hindex, Int.toNat_natCast]
  simp only [hrest, List.isEmpty_iff, if_neg hne, Segment.readEscaped_filled hl]

/-- A request for a filled path sends it as it is. -/
theorem escapedPath_filled (htarget : r.target.path = p.filled value) :
    r.escapedPath = p.filled value := by
  have hall : (p.filled value).all isPathText = true := by
    rw [List.all_eq_true]
    intro b hb
    rcases List.mem_cons.1 hb with rfl | hb
    · decide
    rcases mem_intercalate hb with rfl | ⟨l, hl, hb⟩
    · decide
    · obtain ⟨s, -, rfl⟩ := List.mem_map.1 hl
      exact Segment.isPathText_of_mem_filled hb
  rw [escapedPath, htarget]
  split
  · rfl
  · rw [if_pos hall]

/-- **Labels are bound by their position.**  If a pattern has a route and every label has a value
that is not empty, then a request for the filled path gives every label its value back, at the
position that the label has in the pattern. -/
theorem param_filled {route : String} (hroute : p.route = .ok route)
    (hvalue : ∀ name ∈ p.labels, value name ≠ []) (hr : r.escapedPath = p.filled value)
    (name : String) (hname : name ∈ p.labels) :
    ∃ (i : Nat) (s : Segment), p.labelIndex? name = some i ∧ p.segments[i]? = some s ∧
      s.isLabel = true ∧ s.content = name ∧
      (s.isGreedy = false → r.pathParam i = some (value name)) ∧
      (s.isGreedy = true → r.greedyPathParam i = some (value name)) := by
  obtain ⟨i, s, hindex, hs, hl, rfl⟩ := UriPattern.exists_labelIndex? hname
  obtain ⟨before, after, hp, hlen⟩ := UriPattern.exists_split hs
  have hlength : p.segments.length = before.length + after.length + 1 := by
    rw [hp, List.length_append, List.length_cons]
    omega
  have hbefore : ∀ t ∈ before, t.isGreedy = false := by
    intro t ht
    obtain ⟨j, hj, rfl⟩ := List.mem_iff_getElem.1 ht
    cases hg : before[j].isGreedy with
    | false => rfl
    | true =>
      have hget : p.segments[j]? = some before[j] := by
        rw [hp, List.getElem?_append_left hj, List.getElem?_eq_getElem hj]
      have hlast := UriPattern.greedy_last_of_route hroute hget hg
      omega
  refine ⟨i, s, hindex, hs, hl, rfl, fun hg => ?_, fun hg => ?_⟩
  · rw [← hlen]
    exact pathParam_of_split hr hp hbefore hl hg (hvalue _ hname)
  · have hlast := UriPattern.greedy_last_of_route hroute hs hg
    have hnil : after = [] := List.length_eq_zero_iff.1 (by omega)
    subst hnil
    rw [← hlen]
    exact greedyPathParam_of_split hr hp hbefore hl (hvalue _ hname)

/-- A value with a slash and a percent sign, and one with empty pieces, are read back. -/
theorem param_filled_files :
    ∃ p route, UriPattern.parse "/files/{id}//{key+}?format=raw" = .ok p ∧ p.route = .ok route ∧
      let value := fun name => Bytes.encode (if name = "id" then "50%/7?" else "/a b//c/")
      let r : Request := { target := { path := p.filled value } }
      r.escapedPath = p.filled value ∧
        r.pathParam 1 = some (Bytes.encode "50%/7?") ∧
        r.greedyPathParam 3 = some (Bytes.encode "/a b//c/") := by
  refine ⟨_, _, rfl, rfl, ?_⟩
  intro value r
  have hr := escapedPath_filled (r := r) rfl
  have hvalue : ∀ name, value name ≠ [] := by
    intro name
    by_cases hname : name = "id" <;> simp [value, hname] <;> decide
  refine ⟨hr, ?_, ?_⟩
  · obtain ⟨i, s, hi, hs, -, -, hplain, -⟩ := param_filled rfl (fun name _ => hvalue name) hr "id"
      (by decide)
    cases hi
    cases hs
    exact hplain rfl
  · obtain ⟨i, s, hi, hs, -, -, -, hgreedy⟩ := param_filled rfl (fun name _ => hvalue name) hr "key"
      (by decide)
    cases hi
    cases hs
    exact hgreedy rfl

end Request
end Wire
end Shapewright
