import Shapewright.Proofs.Text.Lines

/-!
# Indentation

Statements are written as finished lines that are indented afterwards.  They can also be written
with the indentation handed down: a statement puts it in front of its own text and behind every
newline in that text, and hands more of it to the statements inside.  Both ways give the same text,
and in both more indentation is a start that every line gets.

* `placed` — a text at an indentation.
* `Stmt.write`, `writeAll` — writing with the indentation handed down.
* `Stmt.newline_not_mem` — no line of a statement holds a newline.
* `writeAll_eq_render` — both ways give the same text.
* `render_indented` — indentation commutes with writing.
-/

set_option autoImplicit false

namespace Shapewright
namespace Code

open Text

/-! ## Handing the indentation down -/

/-- A text at an indentation, which is repeated behind every newline, and a newline. -/
def placed (indent text : String) : String :=
  indent ++ replaceChar '\n' ("\n" ++ indent) text ++ "\n"

/-- A text without the newline at its end. -/
def unclosed (text : String) : String :=
  if endsWith "\n" text then String.ofList text.toList.dropLast else text

/-- The value of a declared variable. -/
def valueText : Option Expr → String
  | none => ""
  | some x => " = " ++ x.text

/-- The head of a switch. -/
def switchText : Option Expr → String
  | none => "switch \x7b"
  | some x => "switch " ++ x.text ++ " \x7b"

/-- What is returned. -/
def returnText (values : List Expr) : String :=
  if values.isEmpty then "return" else "return " ++ commas (exprTexts values)

mutual

/-- A statement at an indentation. -/
def Stmt.write (indent : String) : Stmt → String
  | .define names values => placed indent (commas names ++ " := " ++ commas (exprTexts values))
  | .assign names values => placed indent (commas names ++ " = " ++ commas (exprTexts values))
  | .var name type value =>
    placed indent ("var " ++ name ++ (if type == "" then "" else " " ++ type) ++ valueText value)
  | .branch init cond yes no =>
    placed indent ("if " ++ writeInit init ++ cond.text ++ " \x7b")
      ++ writeAll (indent ++ "\t") yes
      ++ (if no.isEmpty then "" else placed indent "\x7d else \x7b" ++ writeAll (indent ++ "\t") no)
      ++ placed indent "\x7d"
  | .ret values => placed indent (returnText values)
  | .eval x => placed indent x.text
  | .comment text => String.join ((lines text).map fun l => placed indent ("// " ++ l))
  | .switch tag cases fallback =>
    placed indent (switchText tag) ++ writeCases indent cases
      ++ (if fallback.isEmpty then ""
        else placed indent "default:" ++ writeAll (indent ++ "\t") fallback)
      ++ placed indent "\x7d"

/-- What stands between a condition and its keyword: a statement in front of it, without indentation
and without its last newline. -/
def writeInit : Option Stmt → String
  | none => ""
  | some s => unclosed (s.write "") ++ "; "

/-- The cases of a switch at an indentation. -/
def writeCases (indent : String) : List (List Expr × List Stmt) → String
  | [] => ""
  | (values, body) :: rest =>
    placed indent ("case " ++ commas (exprTexts values) ++ ":")
      ++ writeAll (indent ++ "\t") body ++ writeCases indent rest

/-- Statements at an indentation. -/
def writeAll (indent : String) : List Stmt → String
  | [] => ""
  | s :: rest => s.write indent ++ writeAll indent rest

end

/-! ## Finished lines -/

/-- What stands between a condition and its keyword, from finished lines. -/
def initText : Option Stmt → String
  | none => ""
  | some s => "\n".intercalate s.lines ++ "; "

theorem lines_define (names : List String) (values : List Expr) :
    (Stmt.define names values).lines =
      lines (commas names ++ " := " ++ commas (exprTexts values)) :=
  rfl

theorem lines_assign (names : List String) (values : List Expr) :
    (Stmt.assign names values).lines =
      lines (commas names ++ " = " ++ commas (exprTexts values)) :=
  rfl

theorem lines_eval (x : Expr) : (Stmt.eval x).lines = lines x.text := rfl

theorem lines_comment (text : String) :
    (Stmt.comment text).lines = (lines text).map ("// " ++ ·) :=
  rfl

theorem lines_var (name type : String) (value : Option Expr) :
    (Stmt.var name type value).lines =
      lines ("var " ++ name ++ (if type == "" then "" else " " ++ type) ++ valueText value) := by
  cases value <;> rfl

theorem lines_branch (init : Option Stmt) (cond : Expr) (yes no : List Stmt) :
    (Stmt.branch init cond yes no).lines =
      lines ("if " ++ initText init ++ cond.text ++ " \x7b") ++ indented (bodyLines yes)
        ++ (if no.isEmpty then [] else "\x7d else \x7b" :: indented (bodyLines no))
        ++ ["\x7d"] := by
  cases init <;> rfl

theorem lines_ret (values : List Expr) : (Stmt.ret values).lines = lines (returnText values) := by
  have hlines : (Stmt.ret values).lines = if values.isEmpty then ["return"]
      else lines ("return " ++ commas (exprTexts values)) := rfl
  rw [hlines, returnText]
  split <;> rfl

theorem lines_switch (tag : Option Expr) (cases : List (List Expr × List Stmt))
    (fallback : List Stmt) :
    (Stmt.switch tag cases fallback).lines = lines (switchText tag) ++ caseLines cases
      ++ (if fallback.isEmpty then [] else "default:" :: indented (bodyLines fallback))
      ++ ["\x7d"] := by
  cases tag <;> rfl

theorem newline_not_mem_of_mem_indented {ls : List String} (h : ∀ l ∈ ls, '\n' ∉ l.toList) :
    ∀ l ∈ indented ls, '\n' ∉ l.toList := by
  intro l hl
  obtain ⟨l', hl', rfl⟩ := List.mem_map.1 hl
  simpa using h l' hl'

theorem newline_not_mem_marked {text : String} :
    ∀ line ∈ (lines text).map ("// " ++ ·), '\n' ∉ line.toList := by
  intro line hline
  obtain ⟨l, hl, rfl⟩ := List.mem_map.1 hline
  simpa using newline_not_mem_of_mem_lines hl

mutual

/-- No line of a statement holds a newline. -/
theorem Stmt.newline_not_mem : ∀ s : Stmt, ∀ l ∈ s.lines, '\n' ∉ l.toList
  | .define .. => by
    rw [lines_define]
    exact fun l => newline_not_mem_of_mem_lines
  | .assign .. => by
    rw [lines_assign]
    exact fun l => newline_not_mem_of_mem_lines
  | .eval _ => by
    rw [lines_eval]
    exact fun l => newline_not_mem_of_mem_lines
  | .var .. => by
    rw [lines_var]
    exact fun l => newline_not_mem_of_mem_lines
  | .branch init cond yes no => by
    have hyes := newline_not_mem_of_mem_indented (bodyLines_newline_not_mem yes)
    have hno := newline_not_mem_of_mem_indented (bodyLines_newline_not_mem no)
    simp only [lines_branch, List.forall_mem_append]
    refine ⟨⟨⟨fun l => newline_not_mem_of_mem_lines, hyes⟩, ?_⟩, by simp⟩
    split
    · simp
    · exact List.forall_mem_cons.2 ⟨by simp, hno⟩
  | .ret values => by
    rw [lines_ret]
    exact fun l => newline_not_mem_of_mem_lines
  | .comment text => by
    rw [lines_comment]
    exact newline_not_mem_marked
  | .switch tag cases fallback => by
    have hcases := caseLines_newline_not_mem cases
    have hfallback := newline_not_mem_of_mem_indented (bodyLines_newline_not_mem fallback)
    simp only [lines_switch, List.forall_mem_append]
    refine ⟨⟨⟨fun l => newline_not_mem_of_mem_lines, hcases⟩, ?_⟩, by simp⟩
    split
    · simp
    · exact List.forall_mem_cons.2 ⟨by simp, hfallback⟩

theorem caseLines_newline_not_mem : ∀ (cases : List (List Expr × List Stmt)),
    ∀ l ∈ caseLines cases, '\n' ∉ l.toList
  | [] => by simp [caseLines]
  | (values, body) :: rest => by
    have hbody := newline_not_mem_of_mem_indented (bodyLines_newline_not_mem body)
    have hrest := caseLines_newline_not_mem rest
    simp only [caseLines, List.forall_mem_append]
    exact ⟨⟨fun l => newline_not_mem_of_mem_lines, hbody⟩, hrest⟩

theorem bodyLines_newline_not_mem : ∀ (stmts : List Stmt), ∀ l ∈ bodyLines stmts, '\n' ∉ l.toList
  | [] => by simp [bodyLines]
  | s :: rest => by
    have hs := s.newline_not_mem
    have hrest := bodyLines_newline_not_mem rest
    rw [bodyLines]
    exact List.forall_mem_append.2 ⟨hs, hrest⟩

end

/-! ## Texts at an indentation -/

theorem unlines_append (ls ls' : List String) :
    unlines (ls ++ ls') = unlines ls ++ unlines ls' := by
  simp [unlines]

/-- Moving lines one step to the right is indenting them by a tab more. -/
theorem unlines_map_indented (indent : String) (ls : List String) :
    unlines ((indented ls).map (indent ++ ·)) = unlines (ls.map (indent ++ "\t" ++ ·)) := by
  rw [indented, List.map_map]
  congr 2
  exact funext fun l => String.append_assoc.symm

/-- Pieces behind a start are the start and the pieces with the start behind every newline. -/
theorem printed_map_append (start : List Char) {pieces : List (List Char)} (h : pieces ≠ []) :
    printed (pieces.map (start ++ ·)) =
      start ++ List.intercalate ('\n' :: start) pieces ++ ['\n'] := by
  induction pieces with
  | nil => exact absurd rfl h
  | cons piece rest ih =>
    cases rest with
    | nil => simp [printed]
    | cons next rest =>
      rw [List.map_cons, printed_cons, ih (by simp), List.intercalate_cons_cons]
      simp

/-- A text at an indentation is the lines of the text, indented one by one. -/
theorem placed_eq (indent text : String) :
    placed indent text = unlines ((lines text).map (indent ++ ·)) := by
  let move (d : Char) : List Char := if d == '\n' then ("\n" ++ indent).toList else [d]
  have hbreak : move '\n' = '\n' :: indent.toList := by simp [move]
  have hmove : (text.toList.splitOn '\n').map (·.flatMap move) = text.toList.splitOn '\n' := by
    refine (List.map_congr_left (g := id) fun piece hpiece => ?_).trans (List.map_id _)
    have hnewline := not_mem_of_mem_splitOn hpiece
    rw [List.flatMap_def, List.map_congr_left (g := fun d => [d]), ← List.flatMap_def,
      List.flatMap_singleton', id]
    intro d hd
    have hne : d ≠ '\n' := fun he => hnewline (he ▸ hd)
    simp [move, hne]
  have hreplace : (replaceChar '\n' ("\n" ++ indent) text).toList =
      List.intercalate ('\n' :: indent.toList) (text.toList.splitOn '\n') := by
    rw [replaceChar, String.toList_ofList]
    have htext : ['\n'].intercalate (text.toList.splitOn '\n') = text.toList :=
      List.intercalate_splitOn '\n'
    conv => lhs; rw [← htext]
    rw [flatMap_intercalate, ← hbreak]
    exact congrArg (List.intercalate (move '\n')) hmove
  have hlines : (((lines text).map (indent ++ ·)).map String.toList) =
      (text.toList.splitOn '\n').map (indent.toList ++ ·) := by
    simp [lines, split]
  apply String.toList_inj.1
  rw [placed, String.toList_append, String.toList_append, hreplace, toList_unlines, hlines,
    printed_map_append _ (List.splitOn_ne_nil '\n' text.toList)]
  rfl

theorem lines_of_newline_not_mem {s : String} (h : '\n' ∉ s.toList) : lines s = [s] := by
  rw [lines, split, List.splitOn_eq_singleton h, List.map_singleton, String.ofList_toList]

theorem placed_eq_of_lines {text line : String} (h : lines text = [line]) (indent : String) :
    placed indent text = unlines [indent ++ line] := by
  rw [placed_eq, h, List.map_singleton]

/-- A block behind a keyword, which is left out with an empty block. -/
theorem placed_block {keyword : String} (h : lines keyword = [keyword]) (indent : String)
    (stmts : List Stmt) :
    (if stmts.isEmpty then ""
      else placed indent keyword ++ unlines ((bodyLines stmts).map (indent ++ "\t" ++ ·))) =
    unlines ((if stmts.isEmpty then [] else keyword :: indented (bodyLines stmts)).map
      (indent ++ ·)) := by
  split
  · rfl
  · rw [placed_eq_of_lines h, ← unlines_map_indented, ← unlines_append]
    rfl

theorem lines_ne_nil (s : String) : lines s ≠ [] := by
  rw [lines, split]
  simp

/-- A statement has at least one line. -/
theorem Stmt.lines_ne_nil (s : Stmt) : s.lines ≠ [] := by
  cases s with
  | define => exact Code.lines_ne_nil _
  | assign => exact Code.lines_ne_nil _
  | eval => exact Code.lines_ne_nil _
  | var =>
    rw [lines_var]
    exact Code.lines_ne_nil _
  | ret =>
    rw [lines_ret]
    exact Code.lines_ne_nil _
  | comment text =>
    rw [lines_comment]
    simpa using Code.lines_ne_nil text
  | branch => simp [lines_branch]
  | switch => simp [lines_switch]

/-- Without the last newline, lines have newlines between them. -/
theorem unclosed_unlines {ls : List String} (h : ls ≠ []) :
    unclosed (unlines ls) = "\n".intercalate ls := by
  have hne : ls.map String.toList ≠ [] := by simpa using h
  have htext : (unlines ls).toList = ("\n".intercalate ls).toList ++ ['\n'] := by
    rw [toList_unlines, String.toList_intercalate]
    exact (congrArg printed (List.map_id _).symm).trans (printed_map_append [] hne)
  rw [unclosed, endsWith, htext, if_pos (by simp), List.dropLast_concat, String.ofList_toList]

mutual

/-- A statement is written as its lines are. -/
theorem Stmt.write_eq (indent : String) : ∀ s : Stmt,
    s.write indent = unlines (s.lines.map (indent ++ ·))
  | .define .. => by rw [Stmt.write, placed_eq, lines_define]
  | .assign .. => by rw [Stmt.write, placed_eq, lines_assign]
  | .eval _ => by rw [Stmt.write, placed_eq, lines_eval]
  | .var .. => by rw [Stmt.write, placed_eq, lines_var]
  | .branch init cond yes no => by
    have hyes := writeAll_eq (indent ++ "\t") yes
    have hno := writeAll_eq (indent ++ "\t") no
    rw [Stmt.write, writeInit_eq init, placed_eq, hyes, hno, placed_block (by decide),
      placed_eq_of_lines (show lines "\x7d" = ["\x7d"] by decide), lines_branch]
    simp only [List.map_append, unlines_append, unlines_map_indented, List.map_singleton]
  | .ret .. => by rw [Stmt.write, placed_eq, lines_ret]
  | .comment text => by
    rw [Stmt.write, lines_comment, unlines, List.map_map, List.map_map]
    refine congrArg String.join (List.map_congr_left fun l hl => ?_)
    have hline := newline_not_mem_marked _ (List.mem_map_of_mem hl)
    rw [placed_eq_of_lines (lines_of_newline_not_mem hline)]
    simp [unlines]
  | .switch tag cases fallback => by
    have hcases := writeCases_eq indent cases
    have hfallback := writeAll_eq (indent ++ "\t") fallback
    rw [Stmt.write, placed_eq, hcases, hfallback, placed_block (by decide),
      placed_eq_of_lines (show lines "\x7d" = ["\x7d"] by decide), lines_switch]
    simp only [List.map_append, unlines_append, List.map_singleton]

theorem writeInit_eq : ∀ init : Option Stmt, writeInit init = initText init
  | none => rfl
  | some s => by
    rw [writeInit, s.write_eq "", initText]
    simp [unclosed_unlines s.lines_ne_nil]

theorem writeCases_eq (indent : String) : ∀ cases : List (List Expr × List Stmt),
    writeCases indent cases = unlines ((caseLines cases).map (indent ++ ·))
  | [] => by simp [writeCases, caseLines, unlines]
  | (values, body) :: rest => by
    rw [writeCases, placed_eq, writeAll_eq (indent ++ "\t") body, writeCases_eq indent rest,
      caseLines, List.map_append, List.map_append, unlines_append, unlines_append,
      unlines_map_indented]

theorem writeAll_eq (indent : String) : ∀ stmts : List Stmt,
    writeAll indent stmts = unlines ((bodyLines stmts).map (indent ++ ·))
  | [] => by simp [writeAll, bodyLines, unlines]
  | s :: rest => by
    rw [writeAll, s.write_eq indent, writeAll_eq indent rest, bodyLines, List.map_append,
      unlines_append]

end

/-- **Both ways of writing give the same text.** -/
theorem writeAll_eq_render (indent : String) (stmts : List Stmt) :
    writeAll indent stmts = render indent stmts :=
  writeAll_eq indent stmts

/-- The body of a function literal is written at an indentation of its own, wherever the literal
stands. -/
theorem text_func (params : List Param) (results : List String) (body : List Stmt) :
    (Expr.func params results body).text = "func" ++ paramList params ++ resultList results
      ++ " \x7b\n" ++ writeAll "\t" body ++ "\x7d" := by
  rw [Expr.text, writeAll_eq]
  rfl

/-! ## More indentation -/

/-- **Indentation commutes with writing.**  Statements at an indentation are whole lines, and with
more indentation in front they are these lines with more in front of each; this is the text that is
written with the indentation handed down, by every statement to the statements inside it and by a
function literal to its body. -/
theorem render_indented (stmts : List Stmt) (more indent : String)
    (hindent : hasChar '\n' indent = false) :
    isClosed (render indent stmts) = true ∧
      render (more ++ indent) stmts =
        unlines ((closedLines (render indent stmts)).map (more ++ ·)) ∧
      (∀ start, render start stmts = writeAll start stmts) ∧
      ∀ params results, (Expr.func params results stmts).text = "func" ++ paramList params
        ++ resultList results ++ " \x7b\n" ++ writeAll "\t" stmts ++ "\x7d" := by
  have hlines : ∀ l ∈ (bodyLines stmts).map (indent ++ ·), '\n' ∉ l.toList := by
    intro l hl
    obtain ⟨l', hl', rfl⟩ := List.mem_map.1 hl
    rw [String.toList_append, List.mem_append, not_or]
    exact ⟨hasChar_eq_false_iff.1 hindent, bodyLines_newline_not_mem stmts l' hl'⟩
  obtain ⟨hclosed, hread⟩ := closedLines_unlines hlines
  refine ⟨hclosed, ?_, fun start => (writeAll_eq_render start stmts).symm, fun params results =>
    text_func params results stmts⟩
  rw [render, render, hread, List.map_map]
  congr 2
  exact funext fun l => String.append_assoc

/-- A switch in a function literal that stands in front of a condition. -/
theorem render_indented_guard :
    let guard := Stmt.branch
      (some (.define ["f"] [.func [⟨"n", "int"⟩] ["bool"]
        [.comment "zero\nor less", .switch none [([.lit "n > 0"], [.ret [.lit "false"]])]
          [.ret [.lit "true"]]]]))
      (.callOf "f" [.int 3]) [.ret []] [.eval (.callOf "run" [])]
    hasChar '\n' "  " = false ∧ isClosed (render "  " [guard]) = true ∧
      render ("\t" ++ "  ") [guard] =
        unlines ((closedLines (render "  " [guard])).map ("\t" ++ ·)) := by
  intro guard
  obtain ⟨hclosed, hmore, -⟩ := render_indented [guard] "\t" "  " (by decide)
  exact ⟨by decide, hclosed, hmore⟩

example : render "\t" [.define ["f"] [.func [⟨"raw", "string"⟩] ["int32", "error"]
    [.ret [.callOf "parse" [.ident "raw"]]]]] =
      "\tf := func(raw string) (int32, error) \x7b\n\t\treturn parse(raw)\n\t\x7d\n" := by
  decide

end Code
end Shapewright
