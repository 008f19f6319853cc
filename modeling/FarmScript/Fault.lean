/-! # Faults

A `Fault` is a failure as it is shown to the player: what kind it is, whether trying again may
help, during which operation it came up and which details are known. It is built up step by step
while it passes through the operations that met it:

* `withOperation` names the operation that reports the fault; the operation named before moves
  into the context under the key `called`, so the context keeps the chain of operations;
* `withContext` appends one detail;
* `withStatus` overrides the status that the kind suggests;
* `withSource` keeps the text of the cause.

`Fault.summary` writes a fault on one line, `Fault.details` on several.
-/

namespace FarmScript
set_option autoImplicit false

/-- The kinds of failure. -/
inductive Fault.Kind where
  | unexpected
  | unsupported
  | configInvalid
  | invalidArgument
  | levelNotFound
  | scriptTooLarge
  | inferenceFailed
  | rateLimited
  | fileNotFound
  | permissionDenied
  | ioFailed
  | networkFailed
  | parseFailed
  | serializationFailed
deriving DecidableEq

namespace Fault.Kind

/-- The name of a kind, as it is shown. -/
def name : Kind → String
  | unexpected => "Unexpected"
  | unsupported => "Unsupported"
  | configInvalid => "ConfigInvalid"
  | invalidArgument => "InvalidArgument"
  | levelNotFound => "LevelNotFound"
  | scriptTooLarge => "ScriptTooLarge"
  | inferenceFailed => "InferenceFailed"
  | rateLimited => "RateLimited"
  | fileNotFound => "FileNotFound"
  | permissionDenied => "PermissionDenied"
  | ioFailed => "IoFailed"
  | networkFailed => "NetworkFailed"
  | parseFailed => "ParseFailed"
  | serializationFailed => "SerializationFailed"

/-- All kinds. -/
def all : List Kind :=
  [unexpected, unsupported, configInvalid, invalidArgument, levelNotFound, scriptTooLarge,
    inferenceFailed, rateLimited, fileNotFound, permissionDenied, ioFailed, networkFailed,
    parseFailed, serializationFailed]

/-- Whether a failure of this kind may pass when the operation is tried again. -/
def isRetryable : Kind → Bool
  | inferenceFailed | networkFailed | rateLimited => true
  | _ => false

end Fault.Kind

/-- Whether a failure lasts. -/
inductive Fault.Status where
  | permanent
  | temporary
deriving DecidableEq

/-- The name of a status, as it is shown. -/
def Fault.Status.name : Fault.Status → String
  | permanent => "permanent"
  | temporary => "temporary"

/-- A failure with what is known about it. -/
structure Fault where
  kind : Fault.Kind
  message : String
  status : Fault.Status
  /-- The operation that reports the fault; empty when none was named. -/
  operation : String
  /-- Details in the order in which they were added. -/
  context : List (String × String)
  /-- The text of the underlying failure. -/
  source : Option String
deriving DecidableEq

namespace Fault

/-- A fault of a kind, with the status that the kind suggests. -/
def of (kind : Kind) (message : String) : Fault where
  kind := kind
  message := message
  status := if kind.isRetryable then .temporary else .permanent
  operation := ""
  context := []
  source := none

/-- The fault with one more detail. -/
def withContext (fault : Fault) (key value : String) : Fault :=
  { fault with context := fault.context ++ [(key, value)] }

/-- The fault as reported by `operation`. -/
def withOperation (fault : Fault) (operation : String) : Fault :=
  if fault.operation = "" then { fault with operation := operation }
  else { fault.withContext "called" fault.operation with operation := operation }

/-- The fault with another status. -/
def withStatus (fault : Fault) (status : Status) : Fault := { fault with status := status }

/-- The fault with the text of its cause. -/
def withSource (fault : Fault) (source : String) : Fault := { fault with source := some source }

/-- Whether the operation may be tried again. -/
def isRetryable (fault : Fault) : Bool := fault.status = .temporary

/-! ## Wording -/

/-- The kind and status that both forms start with. -/
def heading (fault : Fault) : String := fault.kind.name ++ " (" ++ fault.status.name ++ ")"

/-- A detail as `key: value`. -/
def detail (entry : String × String) : String := entry.1 ++ ": " ++ entry.2

/-- The fault on one line; parts that are empty are left out. -/
def summary (fault : Fault) : String :=
  fault.heading
    ++ (if fault.operation = "" then "" else " at " ++ fault.operation)
    ++ (if fault.context.isEmpty then ""
        else ", context \x7b " ++ String.intercalate ", " (fault.context.map detail) ++ " \x7d")
    ++ (if fault.message = "" then "" else " => " ++ fault.message)

/-- The fault as a paragraph each for its message, its context and its cause. -/
def details (fault : Fault) : String :=
  fault.heading ++ " at " ++ fault.operation ++ "\n"
    ++ (if fault.message = "" then "" else "\n    Message: " ++ fault.message ++ "\n")
    ++ (if fault.context.isEmpty then ""
        else "\n    Context:\n"
          ++ String.join (fault.context.map fun entry => "        " ++ detail entry ++ "\n"))
    ++ (match fault.source with
        | none => ""
        | some source => "\n    Source: " ++ source ++ "\n")

end Fault

end FarmScript
