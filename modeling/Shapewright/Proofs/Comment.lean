import Shapewright.Code.Doc
import Shapewright.Comment
import Shapewright.Proofs.Text.Lines

/-!
# What a comment shows of its text

A block shows rows, each behind an opening: the indentation, or as many blanks, and the marker.
A text without newlines is one row, or filled word by word, and every word of it is shown.  A text
with newlines is broken line by line, and there a word can be lost: what is left of a line behind
the last break is shown only if it is still too wide.

* `Layout.rows`, `Layout.toList_block` — the rows of a block, and the block that they make.
* `words_shownLines` — a line that is broken, and what is lost of it.
* `eachLine_comment` — every line of a comment is behind its marker.
* `unled`, `words_comment_iff` — reading a comment, and which comments show every word.
-/

set_option autoImplicit false

namespace Shapewright
namespace Comment

open Text

/-! ## The rows of a block -/

namespace Layout

/-- Whether a block is a single row behind the indentation itself. -/
def isShort (l : Layout) (text : String) : Bool :=
  !hasChar '\n' text && decide (l.columns - l.lead ≤ width l.indent.toList)

/-- What stands before each row: the indentation of a single row, or as many blanks, and the
marker. -/
def opening (l : Layout) (text : String) : List Char :=
  (if l.isShort text then l.indent.toList else l.margin) ++ l.marker.toList

/-- The rows of a text that is filled, `row` being the one that is open. -/
def fillRows (l : Layout) (column : Int) (row : List Char) : List (List Char) → List (List Char)
  | [] => [row]
  | word :: rest =>
    if column + width word ≥ l.columns - l.lead then
      row :: fillRows l (width l.indent.toList + width l.marker.toList + width word) word rest
    else fillRows l (column + width word + 1) (row ++ ' ' :: word) rest

/-- The rows of a block. -/
def rows (l : Layout) (text : String) : List (List Char) :=
  if hasChar '\n' text then (text.toList.splitOn '\n').flatMap (shownLines l.columns.toNat)
  else if l.isShort text then [text.toList]
  else match text.toList.splitOn ' ' with
    | [] => []
    | word :: rest =>
      l.fillRows (width l.indent.toList + width l.marker.toList + width word) word rest

variable {l : Layout}

/-- A word that is too wide for the open row starts a new one. -/
theorem fill_wide (hlead : l.lead = 0) {column : Int} {word : List Char}
    (h : column + width word ≥ l.columns - l.lead) (newline : Bool) (rest : List (List Char)) :
    fill l column newline (word :: rest) = '\n' :: (l.margin ++ l.marker.toList ++ word ++
      fill l (width l.indent.toList + width l.marker.toList + width word) false rest) := by
  simp only [fill, decide_eq_true h]
  simp [hlead]

theorem fill_narrow {column : Int} {word : List Char}
    (h : ¬ column + width word ≥ l.columns - l.lead) (rest : List (List Char)) :
    fill l column false (word :: rest) =
      ' ' :: word ++ fill l (column + width word + 1) false rest := by
  simp only [fill, decide_eq_false h]
  simp

theorem fill_first {column : Int} {word : List Char}
    (h : ¬ column + width word ≥ l.columns - l.lead) (rest : List (List Char)) :
    fill l column true (word :: rest) = l.margin ++ l.marker.toList ++ word ++
      fill l (width l.indent.toList + width l.marker.toList + width word) false rest := by
  simp only [fill, decide_eq_false h]
  simp

/-- Filling prints the open row and those that follow. -/
theorem fill_eq (hlead : l.lead = 0) (column : Int) (row : List Char) (words : List (List Char)) :
    l.margin ++ l.marker.toList ++ row ++ fill l column false words =
      printed ((l.fillRows column row words).map (l.margin ++ l.marker.toList ++ ·)) := by
  induction words generalizing column row with
  | nil => simp [fill, fillRows, printed]
  | cons word rest ih =>
    by_cases hwide : column + width word ≥ l.columns - l.lead
    · rw [fillRows, if_pos hwide, List.map_cons, printed_cons, ← ih, fill_wide hlead hwide]
    · rw [fillRows, if_neg hwide, ← ih, fill_narrow hwide]
      simp

/-- A block prints its rows, perhaps below an empty line; that line stands there where the first of
the words to be filled is too wide. -/
theorem toList_block (hlead : l.lead = 0) (text : String) :
    ∃ blank : List (List Char), (blank = [] ∨ blank = [[]] ∧ l.isShort text = false) ∧
      (block l text).toList = printed (blank ++ (l.rows text).map (l.opening text ++ ·)) := by
  by_cases hlines : hasChar '\n' text = true
  · refine ⟨[], .inl rfl, ?_⟩
    have hopening : l.opening text = l.margin ++ l.marker.toList := by
      simp [opening, isShort, hlines]
    rw [block, if_pos hlines, String.toList_ofList, hopening, rows, if_pos hlines, printed,
      List.nil_append, List.flatMap_map, List.flatMap_assoc]
  · have hisShort : l.isShort text = decide (l.columns - l.lead ≤ width l.indent.toList) := by
      simp [isShort, hlines]
    by_cases hshort : l.columns - l.lead ≤ width l.indent.toList
    · refine ⟨[], .inl rfl, ?_⟩
      rw [block, if_neg hlines, if_pos hshort]
      simp [opening, rows, hlines, hisShort, hshort, printed]
    · have hopening : l.opening text = l.margin ++ l.marker.toList := by
        simp [opening, hisShort, hshort]
      obtain ⟨word, rest, hsplit⟩ :=
        List.exists_cons_of_ne_nil (List.splitOn_ne_nil ' ' text.toList)
      have hrows : l.rows text =
          l.fillRows (width l.indent.toList + width l.marker.toList + width word) word rest := by
        rw [rows, if_neg hlines, hisShort, if_neg (by simpa using hshort), hsplit]
      rw [block, if_neg hlines, if_neg hshort, String.toList_ofList, filled, hsplit, hopening,
        hrows]
      by_cases hwide : 0 + width word ≥ l.columns - l.lead
      · refine ⟨[[]], .inr ⟨rfl, by simp [hisShort, hshort]⟩, ?_⟩
        rw [List.singleton_append, printed_cons, ← fill_eq hlead, fill_wide hlead hwide]
        rfl
      · refine ⟨[], .inl rfl, ?_⟩
        rw [List.nil_append, ← fill_eq hlead, fill_first hwide]

/-! ### What is in the rows -/

theorem newline_not_mem_of_mem_fillRows {column : Int} {row : List Char}
    {words : List (List Char)} (hrow : '\n' ∉ row) (hwords : ∀ word ∈ words, '\n' ∉ word) :
    ∀ r ∈ l.fillRows column row words, '\n' ∉ r := by
  induction words generalizing column row with
  | nil => simpa [fillRows] using hrow
  | cons word rest ih =>
    have hword := hwords word (by simp)
    have hrest : ∀ w ∈ rest, '\n' ∉ w := fun w hw => hwords w (List.mem_cons_of_mem _ hw)
    rw [fillRows]
    split
    · exact List.forall_mem_cons.2 ⟨hrow, ih hword hrest⟩
    · exact ih (by simp [hrow, hword]) hrest

/-- No word is lost or changed by filling. -/
theorem flatMap_words_fillRows (column : Int) (row : List Char) (pieces : List (List Char)) :
    (l.fillRows column row pieces).flatMap words = words row ++ pieces.flatMap words := by
  induction pieces generalizing column row with
  | nil => simp [fillRows]
  | cons word rest ih =>
    rw [fillRows]
    split
    · rw [List.flatMap_cons, ih, List.flatMap_cons]
    · rw [ih, words_append_cons (by decide), List.flatMap_cons, List.append_assoc]

end Layout

/-! ## Lines that are broken -/

/-- The last blank within the limit cuts a line in two. -/
theorem of_lastBlank {limit : Nat} {cs : List Char} {i : Nat} (h : lastBlank limit cs = some i) :
    i < cs.length ∧ cs = cs.take i ++ ' ' :: cs.drop (i + 1) := by
  obtain ⟨⟨c, j, byte⟩, hlast, rfl⟩ := Option.map_eq_some_iff.1 h
  obtain ⟨hstart, hblank⟩ := List.mem_filter.1 (List.mem_of_getLast? hlast)
  obtain ⟨⟨d, k⟩, hzip, hd⟩ := List.mem_map.1 hstart
  obtain ⟨rfl, rfl, -⟩ : d = c ∧ k = j ∧ width (cs.take k) = byte := by simpa using hd
  have hget? : cs[k]? = some d := List.mem_zipIdx_iff_getElem?.1 hzip
  obtain ⟨hlt, hget⟩ := List.getElem?_eq_some_iff.1 hget?
  rw [Bool.and_eq_true, Bool.and_eq_true, beq_iff_eq] at hblank
  refine ⟨hlt, ?_⟩
  rw [← hblank.1.1, ← hget, ← List.drop_eq_getElem_cons hlt, List.take_append_drop]

/-- What is behind the pieces of a line that are shown, each of which takes a blank with it. -/
def lost (limit : Nat) (line : List Char) : List Char :=
  line.drop ((shownLines limit line).flatMap (· ++ [' '])).length

/-- Breaking a line splits its words between the pieces and what is behind them. -/
theorem words_broken (limit : Nat) {fuel : Nat} {cs : List Char} (hfuel : cs.length < fuel) :
    words cs = (broken limit fuel cs).flatMap words ++
      words (cs.drop ((broken limit fuel cs).flatMap (· ++ [' '])).length) := by
  induction fuel generalizing cs with
  | zero => omega
  | succ fuel ih =>
    rw [broken]
    split
    · simp
    · cases hblank : lastBlank limit cs with
      | none => simp [List.drop_eq_nil_of_le (Nat.le_succ cs.length), words_nil]
      | some i =>
        obtain ⟨hlt, hcut⟩ := of_lastBlank hblank
        have hshorter : (cs.drop (i + 1)).length < fuel := by rw [List.length_drop]; omega
        have hpiece : (cs.take i ++ [' ']).length = i + 1 := by simp; omega
        conv => lhs; rw [hcut]
        dsimp only
        rw [words_append_cons (by decide), ih hshorter, List.drop_drop, List.flatMap_cons,
          List.flatMap_cons, List.length_append, hpiece, List.append_assoc]

/-- The words of a line are those that are shown and those that are lost. -/
theorem words_shownLines (limit : Nat) (line : List Char) :
    words line = (shownLines limit line).flatMap words ++ words (lost limit line) := by
  have hbroken := words_broken limit (Nat.lt_succ_self line.length)
  rw [lost, shownLines]
  split
  · simp [List.drop_eq_nil_of_le (Nat.le_succ line.length), words_nil]
  · exact hbroken

/-- The pieces of a line are made of its characters. -/
theorem subset_of_mem_broken {limit fuel : Nat} {cs piece : List Char}
    (h : piece ∈ broken limit fuel cs) : piece ⊆ cs := by
  induction fuel generalizing cs with
  | zero => cases h
  | succ fuel ih =>
    rw [broken] at h
    split at h
    · cases h
    · cases hblank : lastBlank limit cs with
      | none =>
        rw [hblank, List.mem_singleton] at h
        exact h ▸ List.Subset.refl _
      | some i =>
        rw [hblank] at h
        rcases List.mem_cons.1 h with rfl | h
        · exact List.take_subset i cs
        · exact List.Subset.trans (ih h) (List.drop_subset (i + 1) cs)

theorem subset_of_mem_shownLines {limit : Nat} {line piece : List Char}
    (h : piece ∈ shownLines limit line) : piece ⊆ line := by
  rw [shownLines] at h
  split at h
  · rw [List.mem_singleton] at h
    exact h ▸ List.Subset.refl _
  · exact subset_of_mem_broken h

/-! ## Blocks as they are read -/

namespace Layout

variable {l : Layout}

theorem newline_not_mem_of_mem_rows (text : String) : ∀ row ∈ l.rows text, '\n' ∉ row := by
  intro row hrow
  rw [rows] at hrow
  split at hrow
  · obtain ⟨line, hline, hpiece⟩ := List.mem_flatMap.1 hrow
    exact fun hmem => not_mem_of_mem_splitOn hline (subset_of_mem_shownLines hpiece hmem)
  · rename_i hlines
    have htext : '\n' ∉ text.toList := hasChar_eq_false_iff.1 (by simpa using hlines)
    split at hrow
    · rwa [List.mem_singleton.1 hrow]
    · have hpieces : ∀ piece ∈ text.toList.splitOn ' ', '\n' ∉ piece :=
        fun piece hpiece hmem => htext (subset_of_mem_splitOn hpiece hmem)
      split at hrow
      · cases hrow
      · rename_i hsplit
        rw [hsplit] at hpieces
        exact newline_not_mem_of_mem_fillRows (hpieces _ (by simp))
          (fun w hw => hpieces w (List.mem_cons_of_mem _ hw)) row hrow

/-- The words of the rows: all of them where the text has no newline, else those of the pieces that
are shown of its lines. -/
theorem flatMap_words_rows (text : String) :
    (l.rows text).flatMap words = if hasChar '\n' text then
        (text.toList.splitOn '\n').flatMap fun line =>
          (shownLines l.columns.toNat line).flatMap words
      else words text.toList := by
  rw [rows]
  split
  · rw [List.flatMap_assoc]
  · split
    · rw [List.flatMap_singleton]
    · rw [← flatMap_words_splitOn (c := ' ') (by decide)]
      split
      · rename_i hsplit
        rw [hsplit]
      · rename_i hsplit
        rw [hsplit, flatMap_words_fillRows, List.flatMap_cons]

end Layout

/-! ## The lines of a comment -/

/-- A line of a comment: an empty one, or one behind the indentation, or as many blanks, and the
marker. -/
def Layout.Opens (l : Layout) (line : String) : Prop :=
  line = "" ∨ startsWith (l.indent ++ l.marker) line = true ∨
    startsWith (String.ofList l.margin ++ l.marker) line = true

theorem newline_not_mem_margin (l : Layout) : '\n' ∉ l.margin := by
  intro hmem
  exact absurd (List.eq_of_mem_replicate hmem) (by decide)

/-- Each row of a block is behind an opening. -/
theorem Layout.opens_opening_append (l : Layout) (text : String) (row : List Char) :
    l.Opens (String.ofList (l.opening text ++ row)) := by
  refine .inr ?_
  rw [startsWith_eq_true_iff, startsWith_eq_true_iff, String.toList_append, String.toList_append,
    String.toList_ofList, String.toList_ofList, Layout.opening]
  split
  · exact .inl (List.prefix_append _ _)
  · exact .inr (List.prefix_append _ _)

/-- **Documentation stays behind its marker**, whatever its text is. -/
theorem eachLine_comment {l : Layout} (hlead : l.lead = 0) (hindent : '\n' ∉ l.indent.toList)
    (hmarker : '\n' ∉ l.marker.toList) (text : String) (padded : Bool) :
    EachLine l.Opens (comment l.indent l.marker text l.columns padded) := by
  obtain ⟨blank, hblank, hbody⟩ := l.toList_block hlead text
  have hlayout :
      ({ indent := l.indent, marker := l.marker, columns := l.columns } : Layout) = l := by
    rw [← hlead]
  let pad : List (List Char) := if padded then [l.indent.toList ++ l.marker.toList] else []
  have hprinted : (comment l.indent l.marker text l.columns padded).toList =
      printed (pad ++ (blank ++ (l.rows text).map (l.opening text ++ ·)) ++ pad) := by
    rw [printed_append, printed_append, ← hbody, comment, hlayout]
    cases padded <;> simp [pad, printed]
  have hpad : ∀ row ∈ pad, '\n' ∉ row ∧ l.Opens (String.ofList row) := by
    intro row hrow
    cases padded with
    | false => simp [pad] at hrow
    | true =>
      obtain rfl : row = l.indent.toList ++ l.marker.toList := by simpa [pad] using hrow
      refine ⟨by simp [hindent, hmarker], .inr (.inl ?_)⟩
      simp [startsWith_eq_true_iff]
  have hblanks : ∀ row ∈ blank, '\n' ∉ row ∧ l.Opens (String.ofList row) := by
    intro row hrow
    rcases hblank with rfl | ⟨rfl, -⟩
    · cases hrow
    · rw [List.mem_singleton.1 hrow]
      exact ⟨by simp, .inl rfl⟩
  have hrows : ∀ row ∈ (l.rows text).map (l.opening text ++ ·),
      '\n' ∉ row ∧ l.Opens (String.ofList row) := by
    intro row hrow
    obtain ⟨body, hbody, rfl⟩ := List.mem_map.1 hrow
    have hopening : '\n' ∉ l.opening text := by
      rw [Layout.opening]
      split <;> simp [hindent, hmarker, newline_not_mem_margin]
    refine ⟨?_, l.opens_opening_append text body⟩
    rw [List.mem_append, not_or]
    exact ⟨hopening, l.newline_not_mem_of_mem_rows text body hbody⟩
  have hall := List.forall_mem_append.2
    ⟨List.forall_mem_append.2 ⟨hpad, List.forall_mem_append.2 ⟨hblanks, hrows⟩⟩, hpad⟩
  obtain ⟨hclosed, hlines⟩ := closedLines_of_printed hprinted fun row hrow => (hall row hrow).1
  refine ⟨hclosed, ?_⟩
  rw [hlines, List.forall_mem_map]
  exact fun row hrow => (hall row hrow).2

/-! ## Reading a comment -/

/-- The lines of a text, each without `lead` where it stands in front of the line. -/
def unled (lead : List Char) : List Char → List (List Char)
  | [] => []
  | c :: cs =>
    let line := Code.Line.dropStart lead (c :: cs)
    line.takeWhile (· != '\n') :: unled lead (line.dropWhile (· != '\n')).tail
termination_by cs => cs.length
decreasing_by
  have hstart : (Code.Line.dropStart lead (c :: cs)).length ≤ cs.length + 1 := by
    rw [Code.Line.dropStart]
    split <;> simp
  have hline := (List.dropWhile_sublist (p := (· != '\n'))
    (l := Code.Line.dropStart lead (c :: cs))).length_le
  simp only [List.length_tail, List.length_cons]
  omega

variable {lead : List Char}

theorem unled_of_ne_nil {cs : List Char} (h : cs ≠ []) :
    unled lead cs = (Code.Line.dropStart lead cs).takeWhile (· != '\n') ::
      unled lead ((Code.Line.dropStart lead cs).dropWhile (· != '\n')).tail := by
  cases cs with
  | nil => exact absurd rfl h
  | cons c cs => rw [unled]

/-- What is in front of a line is taken away. -/
theorem unled_append {row : List Char} (hrow : '\n' ∉ row) (rest : List Char) :
    unled lead (lead ++ row ++ '\n' :: rest) = row :: unled lead rest := by
  have hdrop : Code.Line.dropStart lead (lead ++ row ++ '\n' :: rest) = row ++ '\n' :: rest := by
    simp [Code.Line.dropStart]
  have hall : ∀ c ∈ row, (c != '\n') = true := by
    intro c hc
    simpa using fun he : c = '\n' => hrow (he ▸ hc)
  rw [unled_of_ne_nil (by simp), hdrop, List.takeWhile_append_of_pos hall,
    List.dropWhile_append_of_pos hall]
  simp

/-- An empty line has nothing to be taken away, if what is taken away holds no newline. -/
theorem unled_newline (hlead : '\n' ∉ lead) (rest : List Char) :
    unled lead ('\n' :: rest) = [] :: unled lead rest := by
  have hdrop : Code.Line.dropStart lead ('\n' :: rest) = '\n' :: rest := by
    cases lead with
    | nil => rfl
    | cons c cs =>
      have hne : (c == '\n') = false := by simpa using fun he : c = '\n' => hlead (by simp [he])
      simp [Code.Line.dropStart, List.isPrefixOf, hne]
  rw [unled_of_ne_nil (by simp), hdrop]
  simp

theorem unled_printed {rows : List (List Char)} (h : ∀ row ∈ rows, '\n' ∉ row) :
    unled lead (printed (rows.map (lead ++ ·))) = rows := by
  induction rows with
  | nil => rw [List.map_nil, printed, List.flatMap_nil, unled]
  | cons row rows ih =>
    rw [List.map_cons, printed_cons, unled_append (h row (by simp)),
      ih fun r hr => h r (List.mem_cons_of_mem _ hr)]

/-- The lines of a block without their opening hold the words of its rows. -/
theorem flatMap_words_unled_block {l : Layout} (hlead : l.lead = 0)
    (hmarker : '\n' ∉ l.marker.toList) (text : String) :
    (unled (l.opening text) (block l text).toList).flatMap words = (l.rows text).flatMap words := by
  have hrows := l.newline_not_mem_of_mem_rows text
  obtain ⟨blank, hblank, hprinted⟩ := l.toList_block hlead text
  rw [hprinted]
  rcases hblank with rfl | ⟨rfl, hlong⟩
  · rw [List.nil_append, unled_printed hrows]
  · have hopening : '\n' ∉ l.opening text := by
      rw [Layout.opening, hlong]
      simp [newline_not_mem_margin, hmarker]
    rw [List.singleton_append, printed_cons, List.nil_append, unled_newline hopening,
      unled_printed hrows, List.flatMap_cons, words_nil, List.nil_append]

theorem flatMap_eq_flatMap_append_iff {α β : Type} {xs : List α} {f g : α → List β} :
    xs.flatMap f = xs.flatMap (fun x => f x ++ g x) ↔ ∀ x ∈ xs, g x = [] := by
  have hlength : (xs.flatMap fun x => f x ++ g x).length =
      (xs.flatMap f).length + (xs.flatMap g).length := by
    induction xs with
    | nil => rfl
    | cons x xs ih =>
      simp only [List.flatMap_cons, List.length_append, ih]
      omega
  rw [← List.flatMap_eq_nil_iff]
  constructor
  · intro h
    rw [← h] at hlength
    exact List.length_eq_zero_iff.1 (by omega)
  · intro h
    have hnil := List.flatMap_eq_nil_iff.1 h
    rw [List.flatMap_def, List.flatMap_def]
    refine congrArg List.flatten (List.map_congr_left fun x hx => ?_)
    rw [hnil x hx, List.append_nil]

/-- **A comment shows every word of its text**, in order and nothing else, exactly if no line of a
text with newlines has words behind the last of its pieces that is shown. -/
theorem words_comment_iff (indent marker text : String) (columns : Nat)
    (hmarker : hasChar '\n' marker = false) :
    (unled (Layout.opening { indent, marker, columns } text)
        (comment indent marker text columns false).toList).flatMap words = words text.toList ↔
      (hasChar '\n' text = true →
        ∀ line ∈ text.toList.splitOn '\n', words (lost columns line) = []) := by
  have hcomment : comment indent marker text columns false =
      block { indent, marker, columns } text := rfl
  have hmark : '\n' ∉ marker.toList := hasChar_eq_false_iff.1 hmarker
  have hrows := flatMap_words_unled_block (l := { indent, marker, columns }) rfl hmark text
  rw [hcomment, hrows, Layout.flatMap_words_rows]
  by_cases hlines : hasChar '\n' text = true
  · have hwords : words text.toList = (text.toList.splitOn '\n').flatMap fun line =>
        (shownLines columns line).flatMap words ++ words (lost columns line) := by
      rw [← flatMap_words_splitOn (c := '\n') (by decide)]
      exact congrArg (List.flatMap · _) (funext (words_shownLines columns))
    rw [if_pos hlines, hwords, Int.toNat_natCast, flatMap_eq_flatMap_append_iff]
    exact ⟨fun h _ => h, fun h => h hlines⟩
  · rw [if_neg hlines]
    exact iff_of_true rfl fun h => absurd h hlines

/-- A word that is wider than a line is kept behind a break. -/
theorem words_comment_thunderstorm :
    hasChar '\n' "// " = false ∧
      (unled (Layout.opening { indent := "\t", marker := "// ", columns := 6 }
          "gale\nwind thunderstorm")
        (comment "\t" "// " "gale\nwind thunderstorm" 6 false).toList).flatMap words =
          words "gale\nwind thunderstorm".toList :=
  ⟨by decide, (words_comment_iff "\t" "// " "gale\nwind thunderstorm" 6 (by decide)).2 (by decide)⟩

/-- A word that would fit behind a break is lost. -/
theorem words_comment_windChill :
    comment "" "// " "gale\nwind chill" 6 false = "// gale\n// wind\n" ∧
      (unled (Layout.opening { indent := "", marker := "// ", columns := 6 } "gale\nwind chill")
        (comment "" "// " "gale\nwind chill" 6 false).toList).flatMap words ≠
          words "gale\nwind chill".toList := by
  refine ⟨by decide, ?_⟩
  have hblock := flatMap_words_unled_block
    (l := { indent := "", marker := "// ", columns := 6 }) rfl (by decide) "gale\nwind chill"
  exact fun h => absurd (hblock.symm.trans h) (by decide)

end Comment
end Shapewright
