import Shapewright.Code.Layout
import Shapewright.Proofs.Text.Pieces
import Shapewright.Text.Blank

/-!
# Lines and words of a text

Lines that are printed with a newline behind each of them can be told apart again, as long as none
of them holds a newline; and wherever white space cuts a text, the words of the pieces are the words
of the text.

* `Text.words_intercalate`, `Text.flatMap_words_splitOn` — words of pieces between blanks.
* `Text.printed`, `Text.splitOn_printed` — lines as characters, and the lines that are read from
  them.
* `Text.isClosed`, `Text.closedLines`, `Text.EachLine` — texts of whole lines, and these lines.
* `Text.closedLines_of_printed`, `Code.closedLines_unlines` — lines that are printed are read again.
-/

set_option autoImplicit false

namespace Shapewright
namespace Text

/-! ## Words -/

theorem words_nil : words [] = [] := by simp [words, List.splitOnP_nil]

/-- White space belongs to no word, and no word reaches across it. -/
theorem words_append_cons {c : Char} (hc : isBlank c = true) (front back : List Char) :
    words (front ++ c :: back) = words front ++ words back := by
  rw [words, List.splitOnP_append_cons _ _ hc, List.filter_append]
  rfl

theorem words_intercalate {c : Char} (hc : isBlank c = true) (pieces : List (List Char)) :
    words (List.intercalate [c] pieces) = pieces.flatMap words := by
  induction pieces with
  | nil => exact words_nil
  | cons piece rest ih =>
    cases rest with
    | nil => rw [List.intercalate_singleton, List.flatMap_singleton]
    | cons next rest =>
      rw [List.intercalate_cons_cons, List.append_assoc, List.singleton_append,
        words_append_cons hc, ih]
      rfl

/-- The words of the pieces between blanks are the words of the text. -/
theorem flatMap_words_splitOn {c : Char} (hc : isBlank c = true) (cs : List Char) :
    (cs.splitOn c).flatMap words = words cs := by
  rw [← words_intercalate hc, List.intercalate_splitOn]

/-! ## Lines -/

theorem hasChar_eq_false_iff {c : Char} {s : String} : hasChar c s = false ↔ c ∉ s.toList := by
  rw [hasChar, ← Bool.not_eq_true, List.contains_iff_mem]

/-- Lines, each with a newline behind it. -/
def printed (rows : List (List Char)) : List Char := rows.flatMap (· ++ ['\n'])

theorem printed_cons (row : List Char) (rows : List (List Char)) :
    printed (row :: rows) = row ++ '\n' :: printed rows := by
  simp [printed]

theorem printed_append (rows rows' : List (List Char)) :
    printed (rows ++ rows') = printed rows ++ printed rows' :=
  List.flatMap_append

/-- Lines that are printed are the pieces between newlines, but for an empty piece at the end. -/
theorem splitOn_printed {rows : List (List Char)} (h : ∀ row ∈ rows, '\n' ∉ row) :
    (printed rows).splitOn '\n' = rows ++ [[]] := by
  induction rows with
  | nil => rfl
  | cons row rows ih =>
    rw [printed_cons, List.splitOn_append_cons_self_of_not_mem (h row (by simp)),
      ih fun r hr => h r (List.mem_cons_of_mem _ hr), List.cons_append]

/-- Whether every line of a text has a newline behind it. -/
def isClosed (s : String) : Bool := (lines s).getLast? == some ""

/-- The lines of a text that have a newline behind them. -/
def closedLines (s : String) : List String := (lines s).dropLast

/-- A text of whole lines, for each of which `P` holds. -/
def EachLine (P : String → Prop) (s : String) : Prop :=
  isClosed s = true ∧ ∀ line ∈ closedLines s, P line

theorem lines_of_printed {s : String} {rows : List (List Char)} (hs : s.toList = printed rows)
    (h : ∀ row ∈ rows, '\n' ∉ row) : lines s = rows.map String.ofList ++ [""] := by
  rw [lines, split, hs, splitOn_printed h, List.map_append]
  rfl

/-- Lines that are printed are read again. -/
theorem closedLines_of_printed {s : String} {rows : List (List Char)} (hs : s.toList = printed rows)
    (h : ∀ row ∈ rows, '\n' ∉ row) :
    isClosed s = true ∧ closedLines s = rows.map String.ofList := by
  rw [isClosed, closedLines, lines_of_printed hs h, List.getLast?_concat, List.dropLast_concat]
  exact ⟨rfl, rfl⟩

theorem startsWith_eq_true_iff {start s : String} :
    startsWith start s = true ↔ start.toList <+: s.toList :=
  List.isPrefixOf_iff_prefix

/-- No line holds a newline. -/
theorem newline_not_mem_of_mem_lines {s l : String} (h : l ∈ lines s) : '\n' ∉ l.toList := by
  obtain ⟨piece, hpiece, rfl⟩ := List.mem_map.1 h
  rw [String.toList_ofList]
  exact not_mem_of_mem_splitOn hpiece

end Text

/-! ## Lines of code -/

namespace Code

open Text

theorem toList_unlines (ls : List String) :
    (unlines ls).toList = printed (ls.map String.toList) := by
  induction ls with
  | nil => rfl
  | cons l ls ih =>
    rw [List.map_cons, printed_cons, ← ih]
    simp [unlines, String.join_cons]

/-- Lines of code that are printed are read again. -/
theorem closedLines_unlines {ls : List String} (h : ∀ l ∈ ls, '\n' ∉ l.toList) :
    isClosed (unlines ls) = true ∧ closedLines (unlines ls) = ls := by
  simpa using closedLines_of_printed (toList_unlines ls) (by simpa using h)

end Code
end Shapewright
