import FarmScript.Text.Blank
import FarmScript.Text.Search

/-! # Code in an answer

A model answers in prose with fenced code in it. `extractCode` finds the code: the text of the
first fenced block without the rest of the line that opens it, or the whole answer when nothing is
fenced.
-/

namespace FarmScript.Tutor
set_option autoImplicit false

/-- The mark that opens and closes a fenced block. -/
def fence : List Char := List.replicate 3 '\x60'

/-- The text of a block, from what follows its opening fence: a first line without a fence in it
only names the language. -/
def blockBody (opened : List Char) : List Char :=
  match Text.splitOnce? ['\n'] opened with
  | some (tag, rest) => if Text.contains fence tag then opened else rest
  | none => opened

/-- The code in an answer, as characters. -/
def codeChars (answer : List Char) : List Char :=
  match Text.after? fence answer with
  | none => Text.trim answer
  | some opened => Text.trimEnd (Text.before fence (blockBody opened))

/-- The code in an answer. -/
def extractCode (answer : String) : String := String.ofList (codeChars answer.toList)

/-- The words that code is recognised by. -/
def codeMarkers : List String := ["def ", "for ", "while ", "forward"]

/-- Whether an answer seems to contain code. -/
def looksLikeCode (answer : String) : Bool :=
  codeMarkers.any fun marker => Text.contains marker.toList answer.toList

end FarmScript.Tutor
