/-
This file holds the engine that the program runs with. A text is read as a pattern, the
flags of the pattern are resolved, and the expression it stands for is matched. Not every
text is a pattern; one that would take too much room when its repetitions are written out
is none either.
-/

import JsonShape.Pattern.Engine
import JsonShape.Pattern.Meaning
import JsonShape.Pattern.Reader

namespace JsonShape.Pattern

/-- The room that a pattern may take. -/
def sizeLimit : Nat := 10 <<< 20

/-- The expression that a text spells, if it spells a pattern. -/
def expression? (source : String) : Option Expression := do
  let node ← Node.read? source
  let (expression, _) ← node.expression? .initial
  return expression

/-- The engine for patterns with Unicode classes and without references back. -/
def engine : PatternEngine where
  compile source :=
    match expression? source with
    | none => .error "the text is not a pattern"
    | some expression =>
        if expression.size ≤ sizeLimit then .ok expression.matchesIn
        else .error ("the pattern takes more room than " ++ toString sizeLimit ++ " bytes")

end JsonShape.Pattern
