import Shapewright.Proofs.Code.Indentation
import Shapewright.Proofs.Comment

/-!
# Documentation stays documentation

Documentation of a model is text of any kind that is printed among code.  Wherever it is printed,
the line breaks in it get a marker behind them, so no part of it becomes code.

* `Function.newline_not_mem_docLines` — the lines above a function hold no newlines.
* `eachLine_documentation` — comments, the lines above a function and comments among statements.
-/

set_option autoImplicit false

namespace Shapewright
namespace Code

open Text

/-! ## Lines above a function -/

theorem Function.newline_not_mem_docLines (f : Function) :
    ∀ line ∈ f.docLines, '\n' ∉ line.toList := by
  rw [Function.docLines]
  split
  · simp
  · exact newline_not_mem_marked

theorem Function.startsWith_docLines (f : Function) :
    ∀ line ∈ f.docLines, startsWith "// " line = true := by
  rw [Function.docLines]
  split
  · simp
  · simp [startsWith_eq_true_iff]

/-- **Documentation stays behind its marker**, whatever its text is: in a comment every line is
empty or behind the indentation, or as many blanks, and the marker; what is printed above the head
of a function is whole lines behind `// `; and so is a comment among statements, behind the
indentation. -/
theorem eachLine_documentation (indent marker text : String) (columns : Nat) (padded : Bool)
    (f : Function) (hindent : hasChar '\n' indent = false) (hmarker : hasChar '\n' marker = false) :
    EachLine (fun line => line = "" ∨ startsWith (indent ++ marker) line = true ∨
        startsWith (String.ofList (List.replicate (Comment.width indent.toList) ' ') ++ marker) line
          = true)
      (Comment.comment indent marker text columns padded) ∧
    (∃ above, f.text = above ++ f.signature ++ " \x7b\n" ++ render "\t" f.body ++ "\x7d\n" ∧
      EachLine (fun line => startsWith "// " line = true) above) ∧
    EachLine (fun line => startsWith (indent ++ "// ") line = true)
      (render indent [.comment text]) := by
  have hindent := hasChar_eq_false_iff.1 hindent
  have hmarker := hasChar_eq_false_iff.1 hmarker
  refine ⟨?_, ⟨unlines f.docLines, rfl, ?_⟩, ?_⟩
  · exact Comment.eachLine_comment (l := { indent, marker, columns }) rfl hindent hmarker text
      padded
  · obtain ⟨hclosed, hlines⟩ := closedLines_unlines f.newline_not_mem_docLines
    rw [EachLine, hlines]
    exact ⟨hclosed, f.startsWith_docLines⟩
  · have hrows : ∀ line ∈ (bodyLines [.comment text]).map (indent ++ ·), '\n' ∉ line.toList := by
      intro line hline
      obtain ⟨l, hl, rfl⟩ := List.mem_map.1 hline
      simpa [hindent] using bodyLines_newline_not_mem _ l hl
    obtain ⟨hclosed, hlines⟩ := closedLines_unlines hrows
    rw [EachLine, render, hlines]
    refine ⟨hclosed, ?_⟩
    simp [bodyLines, lines_comment, startsWith_eq_true_iff]

/-- A text that ends its first line and goes on like code. -/
theorem eachLine_documentation_gale :
    (hasChar '\n' "\t" = false ∧ hasChar '\n' "// " = false) ∧
    EachLine (fun line => line = "" ∨ startsWith ("\t" ++ "// ") line = true ∨
        startsWith (String.ofList (List.replicate (Comment.width "\t".toList) ' ') ++ "// ") line
          = true)
      (Comment.comment "\t" "// " "gale\n\nfunc init() \x7b\x7d" 20 true) ∧
    (∃ above, Function.text { doc := "gale\nfunc init()", name := "Gale", body := [] } =
        above ++ Function.signature { doc := "gale\nfunc init()", name := "Gale", body := [] }
          ++ " \x7b\n" ++ render "\t" [] ++ "\x7d\n" ∧
      EachLine (fun line => startsWith "// " line = true) above) ∧
    EachLine (fun line => startsWith ("\t" ++ "// ") line = true)
      (render "\t" [.comment "gale\n\nfunc init() \x7b\x7d"]) :=
  ⟨⟨by decide, by decide⟩,
    eachLine_documentation "\t" "// " "gale\n\nfunc init() \x7b\x7d" 20 true
      { doc := "gale\nfunc init()", name := "Gale", body := [] } (by decide) (by decide)⟩

end Code
end Shapewright
