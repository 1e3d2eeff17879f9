/-
This file says what a registry asks of whatever reads its patterns. The syntax of
patterns and what they match are not decided here: an engine takes the text of a
pattern and gives the test that it stands for, or says what is wrong with it, and
registries work with any engine.
-/

namespace JsonShape

/-- A pattern that is ready to be matched: whether it matches a part of a text. -/
abbrev Matcher := String → Bool

/-- What makes a matcher of the text of a pattern, or says why the text is no pattern. -/
structure PatternEngine where
  compile : String → Except String Matcher

end JsonShape
