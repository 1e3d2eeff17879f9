/-
This file reads the setting that turns the trace on from outside. It is on unless it
is missing, blank, or one of the words that deny it, in any case of letters.
-/

import JsonShape.Text.Blank

namespace JsonShape

/-- The words that deny. -/
def denials : List String := ["", "0", "false", "off", "no"]

/-- Whether a word turns a switch on. -/
def isAffirmed (word : String) : Bool :=
  !denials.contains (String.ofList ((trim word.toList).map Char.toLower))

/-- Whether the setting turns the trace on. -/
def traceEnabled (setting : Option String) : Bool := setting.any isAffirmed

/-- The name of the setting. -/
def traceSetting : String := "JSON_ADT_TRACE"

end JsonShape
