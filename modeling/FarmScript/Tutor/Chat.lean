import FarmScript.Json.Record

/-! # Chats

What is said to a language model and what it answers.
-/

namespace FarmScript.Tutor
set_option autoImplicit false

/-- Who says something in a chat. -/
inductive Role where
  | system
  | user
  | assistant
deriving DecidableEq

namespace Role

/-- The name of a role. -/
def name : Role → String
  | system => "system"
  | user => "user"
  | assistant => "assistant"

/-- All roles. -/
def all : List Role := [system, user, assistant]

/-- A role as JSON. -/
def toJson (role : Role) : Json := Json.text role.name

/-- The role of a JSON value. -/
def ofJson? : Json → Option Role := Json.variant? name all

end Role

/-- One contribution to a chat. -/
structure ChatMessage where
  role : Role
  content : Option String
deriving DecidableEq

namespace ChatMessage

/-- A contribution as JSON. -/
def toJson (message : ChatMessage) : Json :=
  Json.record [("role", message.role.toJson), ("content", .optionalText message.content)]

/-- The contribution of a JSON value. -/
def ofJson? (json : Json) : Option ChatMessage := do
  let [role, content] ← json.slots? ["role", "content"] | none
  return {
    role := ← role.required? Role.ofJson?
    content := ← content.optional? Json.toText? }

end ChatMessage

/-- What a model is asked for. Parts that are missing are left to the provider. -/
structure CompletionRequest where
  messages : List ChatMessage
  model : Option String
  temperature : Option Json.Decimal
  maxTokens : Option UInt64
  stop : Option (List String)
deriving DecidableEq

/-- Why a model stopped. -/
inductive FinishReason where
  | stop
  | length
  | contentFilter
  | unknown
deriving DecidableEq

namespace FinishReason

/-- The reason of a word of the provider. -/
def ofWord? : Option String → FinishReason
  | some "stop" => stop
  | some "length" => length
  | some "content_filter" => contentFilter
  | _ => unknown

/-- The name of a reason. -/
def name : FinishReason → String
  | stop => "Stop"
  | length => "Length"
  | contentFilter => "ContentFilter"
  | unknown => "Unknown"

end FinishReason

/-- How many tokens a completion took. -/
structure Usage where
  prompt : UInt64
  completion : UInt64
  total : UInt64
deriving DecidableEq

/-- The answer of a model. -/
structure Completion where
  id : String
  model : String
  content : Option String
  finishReason : FinishReason
  usage : Usage
deriving DecidableEq

end FarmScript.Tutor
