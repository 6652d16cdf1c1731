/-!
# Truth values as text

* `truth?` — the truth value that a text spells.
-/

set_option autoImplicit false

namespace Shapewright
namespace Text

/-- The spellings of a truth value. -/
def truthSpellings : List (String × Bool) :=
  (["1", "t", "T", "TRUE", "true", "True"].map (·, true))
    ++ (["0", "f", "F", "FALSE", "false", "False"].map (·, false))

/-- The truth value that a text spells. -/
def truth? (s : String) : Option Bool := truthSpellings.lookup s

end Text
end Shapewright
