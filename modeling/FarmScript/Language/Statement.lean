import FarmScript.Language.Condition

/-! # Statements

What a single line of a script says. A line is judged on its own, by its trimmed text and a fixed
order of rules, and every line is some statement: the language has no errors of spelling.
-/

namespace FarmScript
set_option autoImplicit false

/-- The meaning of one line. -/
inductive Statement where
  /-- An empty line or a comment. -/
  | blank
  | whileLoop (condition : Condition)
  | forLoop (count : UInt32)
  | ifThen (condition : Condition)
  | elseThen
  /-- A word called without arguments; it need not be the word of a command. -/
  | call (word : String)
  | assignment
  /-- A line that says nothing the bot could do. -/
  | noOp
deriving DecidableEq

namespace Statement

/-- The short name of a kind of statement. -/
def kind : Statement → String
  | blank => "blank"
  | whileLoop _ => "while"
  | forLoop _ => "for"
  | ifThen _ => "if"
  | elseThen => "else"
  | call _ => "call"
  | assignment => "assignment"
  | noOp => "noop"

/-- Whether a line is empty or a comment. -/
def isSkippable (line : List Char) : Bool :=
  match Text.trim line with
  | [] => true
  | c :: _ => c = '#'

/-- The condition of a header, given the text after its keyword: its first colon is dropped. -/
def headerCondition (rest : List Char) : Condition := Condition.ofChars (rest.erase ':')

/-- The digits of a text that starts with `range(`, digits and `)`. -/
def rangeDigits? (text : List Char) : Option (List Char) := do
  let rest ← Text.afterStart? "range(".toList text
  let digits := rest.takeWhile Text.isDigit
  if digits ≠ [] ∧ Text.startsWith [')'] (rest.dropWhile Text.isDigit) then some digits else none

/-- The digits of the first range in a text. -/
def firstRange? : List Char → Option (List Char)
  | [] => none
  | c :: text =>
    match rangeDigits? (c :: text) with
    | some digits => some digits
    | none => firstRange? text

/-- How often the body of a `for` header is repeated: the number in its first range. Without a
range, or with a number that does not fit, it is 1. -/
def rangeCount (text : List Char) : UInt32 :=
  ((firstRange? text).bind fun digits => Text.word32? (Text.digitsValue digits)).getD 1

/-- Whether a character can stand in the word of a call. -/
def isWordChar (c : Char) : Bool := c.isAlpha || c = '_'

/-- The word of a text that starts with a word and `()`. -/
def callWord? (text : List Char) : Option (List Char) :=
  let word := text.takeWhile isWordChar
  if word ≠ [] ∧ Text.startsWith "()".toList (text.dropWhile isWordChar) then some word else none

/-- The statement of a trimmed text that is neither empty nor a comment. -/
def ofTrimmed (text : List Char) : Statement :=
  match Text.afterStart? "while ".toList text with
  | some rest => whileLoop (headerCondition rest)
  | none =>
  if Text.startsWith "for ".toList text then forLoop (rangeCount text)
  else match Text.afterStart? "if ".toList text with
  | some rest => ifThen (headerCondition rest)
  | none =>
  if Text.startsWith "else:".toList text then elseThen
  else match callWord? text with
  | some word => call (String.ofList word)
  | none => if '=' ∈ text then assignment else noOp

/-- The statement of a line. -/
def ofChars (line : List Char) : Statement :=
  if isSkippable line then blank else ofTrimmed (Text.trim line)

/-- The statement of a line. -/
def classify (line : String) : Statement := ofChars line.toList

end Statement

end FarmScript
