import FarmScript.Language.Vocabulary
import FarmScript.Text.Blank
import FarmScript.Tutor.Chat
import FarmScript.Tutor.ProviderFailure

/-! # Lessons

The tutor explains: a question of the player goes to a language model together with a manual of
the game, and the model's answer comes back. An answer without any text in it counts as a failure.
-/

namespace FarmScript.Tutor
set_option autoImplicit false

/-- How the tutor asks a model. -/
structure Settings where
  temperature : Json.Decimal
  maxTokens : Option UInt64
  model : Option String
deriving DecidableEq

/-- The settings a tutor has when nothing else is said. -/
def Settings.default : Settings where
  temperature := ⟨false, 2, -1⟩
  maxTokens := some 800
  model := none

/-- What a model is told about the game. -/
def manual (rules : Rules) : String :=
  "You are the coding tutor of Code Farm, a game that teaches beginners "
    ++ "Python-like syntax by driving a farm bot (similar to the turtle library).\n"
    ++ "Answer briefly and clearly.\n\n"
    ++ Vocabulary.reference rules
    ++ "\nWhen the learner asks for a solution, answer with runnable code in a "
    ++ "single fenced code block.\n"

/-- The chat that puts a question about a level. -/
def messages (rules : Rules) (question context : String) : List ChatMessage :=
  [⟨.system, some (manual rules)⟩,
    ⟨.user, some ("Current level: " ++ context ++ "\nQuestion: " ++ question)⟩]

/-- The request that puts a question about a level. -/
def Settings.request (settings : Settings) (rules : Rules) (question context : String) :
    CompletionRequest where
  messages := messages rules question context
  model := settings.model
  temperature := some settings.temperature
  maxTokens := settings.maxTokens
  stop := none

/-- The fault of an answer without text. -/
def emptyAnswer (model : String) : Fault :=
  ((Fault.of .inferenceFailed "The tutor returned an empty answer").withOperation
    "tutor::explain").withContext "model" model

/-- The answer to a question about a level, given how a provider completes a request. -/
def explain (provider : CompletionRequest → Except ProviderFailure Completion)
    (settings : Settings) (rules : Rules) (question context : String) : Except Fault String :=
  match provider (settings.request rules question context) with
  | .error failure => .error (failure.fault.withOperation "tutor::explain")
  | .ok completion =>
    match completion.content with
    | none => .error (emptyAnswer completion.model)
    | some text =>
      if text.toList.all Text.isBlank then .error (emptyAnswer completion.model) else .ok text

end FarmScript.Tutor
