import FarmScript.Json.Token

/-! # Reading JSON

The second half of reading: a machine that takes tokens and keeps the arrays and objects that are
still open. `Json.read` accepts a text exactly when it is one JSON value, with nothing but white
space around it.
-/

namespace FarmScript.Json
set_option autoImplicit false

/-- An open array or object: what it holds so far, latest first, and in an object the key whose
value is being read. -/
inductive Layer where
  | array (items : List Json)
  | object (members : List (Option String × Json)) (key : Option String)

/-- Where the reader is, with the layers that are open there, the innermost first. -/
inductive Reader where
  /-- A value has to follow. -/
  | expectValue (layers : List Layer)
  /-- After an opening bracket: a value or the closing bracket. -/
  | arrayStart (layers : List Layer)
  /-- After an opening brace: a key or the closing brace. -/
  | objectStart (layers : List Layer)
  /-- After a comma in an object: a key. -/
  | expectKey (layers : List Layer) (members : List (Option String × Json))
  /-- After a key: a colon. -/
  | expectColon (layers : List Layer) (members : List (Option String × Json)) (key : Option String)
  /-- After a value: a comma or a closing mark, or the end outside of all layers. -/
  | after (layers : List Layer) (value : Json)

namespace Reader

/-- Takes the first token of a value. -/
def beginValue (layers : List Layer) : Token → Option Reader
  | .null => some (.after layers .null)
  | .bool value => some (.after layers (.bool value))
  | .number value => some (.after layers (.number value))
  | .string text => some (.after layers (.string text))
  | .openArray => some (.arrayStart layers)
  | .openObject => some (.objectStart layers)
  | .closeArray | .closeObject | .comma | .colon => none

/-- Takes one token. -/
def step : Reader → Token → Option Reader
  | .expectValue layers, token => beginValue layers token
  | .arrayStart layers, .closeArray => some (.after layers (.array []))
  | .arrayStart layers, token => beginValue (.array [] :: layers) token
  | .objectStart layers, .closeObject => some (.after layers (.object []))
  | .objectStart layers, .string key => some (.expectColon layers [] key)
  | .expectKey layers members, .string key => some (.expectColon layers members key)
  | .expectColon layers members key, .colon => some (.expectValue (.object members key :: layers))
  | .after (.array items :: layers) value, .comma =>
    some (.expectValue (.array (value :: items) :: layers))
  | .after (.array items :: layers) value, .closeArray =>
    some (.after layers (.array (value :: items).reverse))
  | .after (.object members key :: layers) value, .comma =>
    some (.expectKey layers ((key, value) :: members))
  | .after (.object members key :: layers) value, .closeObject =>
    some (.after layers (.object ((key, value) :: members).reverse))
  | _, _ => none

/-- The value of a text that ends here. -/
def finish? : Reader → Option Json
  | .after [] value => some value
  | _ => none

end Reader

/-- The value of a list of tokens. -/
def ofTokens? (tokens : List Token) : Option Json := do
  let reader ← tokens.foldlM Reader.step (.expectValue [])
  reader.finish?

/-- The value of a JSON text. -/
def read? (text : String) : Option Json := do
  let tokens ← Token.scan text.toList
  ofTokens? tokens

end FarmScript.Json
