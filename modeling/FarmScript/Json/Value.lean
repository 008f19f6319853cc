/-! # JSON values

`Json` is what a JSON document says, with two things kept that matter to a strict reader:

* a number is an integer only if its literal has neither fraction nor exponent (`-0` is none
  either), so an integer is never read off `1.0` or `1e2`;
* a string literal may spell an unpaired surrogate. It is well formed but stands for no text, so
  texts and keys are optional here and a reader that needs the text refuses it.
-/

namespace FarmScript
set_option autoImplicit false

/-- A number with a fraction or an exponent: `digits * 10 ^ scale`, with a sign. -/
structure Json.Decimal where
  negative : Bool
  digits : Nat
  scale : Int
deriving DecidableEq

/-- A JSON number. -/
inductive Json.Number where
  | integer (value : Int)
  | decimal (value : Json.Decimal)
deriving DecidableEq

/-- A JSON value. The members of an object are kept in their order, repeated keys included. -/
inductive Json where
  | null
  | bool (value : Bool)
  | number (value : Json.Number)
  | string (text : Option String)
  | array (items : List Json)
  | object (members : List (Option String × Json))

namespace Json

/-- The value of a text. -/
def text (value : String) : Json := .string (some value)

/-- The value of an integer. -/
def int (value : Int) : Json := .number (.integer value)

/-- The value of a number. -/
def nat (value : Nat) : Json := int (Int.ofNat value)

/-- The value of a text that may be missing. -/
def optionalText : Option String → Json
  | none => .null
  | some value => text value

/-- An object with the given members. -/
def record (members : List (String × Json)) : Json :=
  .object (members.map fun (key, value) => (some key, value))

end Json

end FarmScript
