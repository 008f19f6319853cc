import FarmScript.Json.Value
import FarmScript.Text.Numeral

/-! # JSON tokens

The first half of reading JSON: `Token.scan` cuts a text into tokens. It goes over the characters
once, in one of the states of `Scanner`; numbers, words and strings are collected and turned into
a token where they end.

White space between tokens is a space, a tab, a carriage return or a line feed, and nothing else.
-/

namespace FarmScript.Json
set_option autoImplicit false

/-- A piece of a JSON text. -/
inductive Token where
  | null
  | bool (value : Bool)
  | number (value : Number)
  | string (text : Option String)
  | openArray
  | closeArray
  | openObject
  | closeObject
  | comma
  | colon
deriving DecidableEq

/-! ## Strings -/

/-- A part of a string literal: a character, or a 16-bit unit that was written as an escape. -/
inductive Piece where
  | char (c : Char)
  | unit (value : Nat)
deriving DecidableEq

/-- Whether a unit is the first half of a surrogate pair. -/
def isHighSurrogate (unit : Nat) : Bool := 0xD800 ≤ unit && unit < 0xDC00

/-- Whether a unit is the second half of a surrogate pair. -/
def isLowSurrogate (unit : Nat) : Bool := 0xDC00 ≤ unit && unit < 0xE000

/-- The character of a surrogate pair. -/
def surrogatePair (high low : Nat) : Char :=
  Char.ofNat (0x10000 + (high - 0xD800) * 0x400 + (low - 0xDC00))

/-- The characters that the pieces of a string literal stand for; an unpaired surrogate stands for
none. -/
def textOfPieces : List Piece → Option (List Char)
  | [] => some []
  | .char c :: rest => (textOfPieces rest).map (c :: ·)
  | .unit high :: .unit low :: rest =>
    if isHighSurrogate high then
      if isLowSurrogate low then (textOfPieces rest).map (surrogatePair high low :: ·) else none
    else if isLowSurrogate high then none
    else (textOfPieces (.unit low :: rest)).map (Char.ofNat high :: ·)
  | .unit value :: rest =>
    if isHighSurrogate value || isLowSurrogate value then none
    else (textOfPieces rest).map (Char.ofNat value :: ·)

/-- The character that a one-letter escape stands for. -/
def escaped? : Char → Option Char
  | '"' => some '"'
  | '\\' => some '\\'
  | '/' => some '/'
  | 'b' => some '\x08'
  | 'f' => some '\x0c'
  | 'n' => some '\n'
  | 'r' => some '\r'
  | 't' => some '\t'
  | _ => none

/-- The value of a hexadecimal digit. -/
def hexValue? (c : Char) : Option Nat :=
  if '0' ≤ c && c ≤ '9' then some (c.toNat - '0'.toNat)
  else if 'a' ≤ c && c ≤ 'f' then some (c.toNat - 'a'.toNat + 10)
  else if 'A' ≤ c && c ≤ 'F' then some (c.toNat - 'A'.toNat + 10)
  else none

/-! ## Numbers and words -/

/-- The exponent of a number literal, from the text after its digits. -/
def exponent? : List Char → Option (Option Int)
  | [] => some none
  | e :: rest => if e = 'e' ∨ e = 'E' then (Text.integer? rest).map some else none

/-- The number of a literal without its sign. -/
def magnitude? (negative : Bool) (literal : List Char) : Option Number :=
  let whole := literal.takeWhile Text.isDigit
  let rest := literal.dropWhile Text.isDigit
  if whole = [] ∨ (whole.head? = some '0' ∧ whole ≠ ['0']) then none
  else
    let (fraction?, rest) : Option (List Char) × List Char :=
      match rest with
      | '.' :: rest => (some (rest.takeWhile Text.isDigit), rest.dropWhile Text.isDigit)
      | rest => (none, rest)
    if fraction? = some [] then none
    else (exponent? rest).map fun exponent? =>
      let value := Text.digitsValue whole
      match fraction?, exponent? with
      | none, none =>
        if negative then
          if value = 0 then .decimal ⟨true, 0, 0⟩ else .integer (-(value : Int))
        else .integer value
      | _, _ =>
        let fraction := fraction?.getD []
        .decimal ⟨negative, Text.digitsValue (whole ++ fraction),
          exponent?.getD 0 - fraction.length⟩

/-- The number of a literal: digits without a needless zero in front, then a fraction and an
exponent if wanted. -/
def number? : List Char → Option Number
  | '-' :: literal => magnitude? true literal
  | literal => magnitude? false literal

/-- Whether a character can stand in a number literal. -/
def isNumberChar (c : Char) : Bool :=
  Text.isDigit c || c = '-' || c = '+' || c = '.' || c = 'e' || c = 'E'

/-- The token of one of the three words. -/
def word? (letters : List Char) : Option Token :=
  if letters = "null".toList then some .null
  else if letters = "true".toList then some (.bool true)
  else if letters = "false".toList then some (.bool false)
  else none

/-! ## Scanning -/

/-- Where a scan is. Collected characters are kept latest first. -/
inductive Scanner.Mode where
  | between
  | word (letters : List Char)
  | number (literal : List Char)
  | string (pieces : List Piece)
  | escape (pieces : List Piece)
  | hex (pieces : List Piece) (count value : Nat)
deriving DecidableEq

/-- The tokens so far, latest first, and where the scan is. -/
structure Scanner where
  tokens : List Token
  mode : Scanner.Mode
deriving DecidableEq

namespace Scanner

/-- Whether a character separates tokens. -/
def isGap (c : Char) : Bool := c = ' ' || c = '\t' || c = '\r' || c = '\n'

/-- The token of a punctuation mark. -/
def mark? : Char → Option Token
  | '[' => some .openArray
  | ']' => some .closeArray
  | '\x7b' => some .openObject
  | '\x7d' => some .closeObject
  | ',' => some .comma
  | ':' => some .colon
  | _ => none

/-- Takes a character that follows complete tokens. -/
def begin (tokens : List Token) (c : Char) : Option Scanner :=
  if isGap c then some ⟨tokens, .between⟩
  else if c = '"' then some ⟨tokens, .string []⟩
  else if c.isAlpha then some ⟨tokens, .word [c]⟩
  else if c = '-' || Text.isDigit c then some ⟨tokens, .number [c]⟩
  else (mark? c).map fun token => ⟨token :: tokens, .between⟩

/-- The tokens of a scan that ends here. -/
def finish? (scanner : Scanner) : Option (List Token) :=
  match scanner.mode with
  | .between => some scanner.tokens
  | .word letters => (word? letters.reverse).map (· :: scanner.tokens)
  | .number literal => (number? literal.reverse).map (.number · :: scanner.tokens)
  | .string _ | .escape _ | .hex _ _ _ => none

/-- Takes one character. -/
def step (scanner : Scanner) (c : Char) : Option Scanner :=
  match scanner.mode with
  | .between => begin scanner.tokens c
  | .word letters =>
    if c.isAlpha then some { scanner with mode := .word (c :: letters) }
    else scanner.finish?.bind (begin · c)
  | .number literal =>
    if isNumberChar c then some { scanner with mode := .number (c :: literal) }
    else scanner.finish?.bind (begin · c)
  | .string pieces =>
    if c = '"' then
      some ⟨.string ((textOfPieces pieces.reverse).map String.ofList) :: scanner.tokens, .between⟩
    else if c = '\\' then some { scanner with mode := .escape pieces }
    else if c.toNat < 0x20 then none
    else some { scanner with mode := .string (.char c :: pieces) }
  | .escape pieces =>
    if c = 'u' then some { scanner with mode := .hex pieces 0 0 }
    else (escaped? c).map fun c => { scanner with mode := .string (.char c :: pieces) }
  | .hex pieces count value =>
    (hexValue? c).map fun digit =>
      let value := 16 * value + digit
      { scanner with
        mode := if count = 3 then .string (.unit value :: pieces)
          else .hex pieces (count + 1) value }

end Scanner

/-- The tokens of a text. -/
def Token.scan (text : List Char) : Option (List Token) := do
  let scanner ← text.foldlM Scanner.step (⟨[], .between⟩ : Scanner)
  let tokens ← scanner.finish?
  return tokens.reverse

end FarmScript.Json
