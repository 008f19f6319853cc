import FarmScript.Fault
import Mathlib.Data.List.Induction

/-! # The history of a fault

Every operation that a fault passes through may put its name to it, add details and change its
status. Only the last name stands in a field of its own; those before it have moved into the
context, between the details. No name is lost on the way, though: the names in the context and then
the one in the field are the call chain of the fault (`Fault.callChain`), which grows at its end
only (`Fault.callChain_withOperation`), and what else is in the context are the details as they
were added. `Fault.HasHistory` says this of a fault and all that was remarked on it, and every
further remark keeps it (`Fault.HasHistory.remarked`).
-/

namespace FarmScript.Fault
set_option autoImplicit false

/-- What an operation may add to a fault. -/
inductive Remark where
  | operation (name : String)
  | detail (key value : String)
  | status (value : Status)

namespace Remark

def operation? : Remark → Option String
  | operation name => some name
  | _ => none

def detail? : Remark → Option (String × String)
  | detail key value => some (key, value)
  | _ => none

def status? : Remark → Option Status
  | status value => some value
  | _ => none

/-- Whether a remark is no detail under the key that the call chain uses. -/
def IsPlain : Remark → Prop
  | detail key _ => key ≠ "called"
  | _ => True

end Remark

/-- The fault with a remark on it. -/
def remarked (fault : Fault) : Remark → Fault
  | .operation name => fault.withOperation name
  | .detail key value => fault.withContext key value
  | .status value => fault.withStatus value

/-- The operations whose names have moved into the context. -/
def called (fault : Fault) : List String :=
  (fault.context.filter fun entry => entry.1 = "called").map (·.2)

/-- The details in the context that are no operations. -/
def ownDetails (fault : Fault) : List (String × String) :=
  fault.context.filter fun entry => entry.1 ≠ "called"

/-- The operations that have put their names to the fault, the last one at the end. -/
def callChain (fault : Fault) : List String :=
  fault.called ++ if fault.operation = "" then [] else [fault.operation]

/-! ## One remark -/

section Builders
variable (fault : Fault) (operation : String)

@[simp] theorem operation_withOperation :
    (fault.withOperation operation).operation = operation := by
  unfold withOperation
  split <;> rfl

@[simp] theorem kind_withOperation : (fault.withOperation operation).kind = fault.kind := by
  unfold withOperation
  split <;> rfl

@[simp] theorem message_withOperation :
    (fault.withOperation operation).message = fault.message := by
  unfold withOperation
  split <;> rfl

@[simp] theorem status_withOperation :
    (fault.withOperation operation).status = fault.status := by
  unfold withOperation
  split <;> rfl

@[simp] theorem isRetryable_withOperation :
    (fault.withOperation operation).isRetryable = fault.isRetryable := by
  simp [isRetryable]

/-- The name that stood in the field is the next one in the context. -/
theorem called_withOperation : (fault.withOperation operation).called = fault.callChain := by
  unfold withOperation callChain
  split
  · simp [called]
  · simp [called, withContext]

/-- A fault that was reported before keeps the earlier operation in its context. -/
theorem called_mem_withOperation (h : fault.operation ≠ "") :
    ("called", fault.operation) ∈ (fault.withOperation operation).context := by
  rw [withOperation, if_neg h]
  exact List.mem_append_right fault.context List.mem_cons_self

theorem callChain_withOperation :
    (fault.withOperation operation).callChain =
      fault.callChain ++ if operation = "" then [] else [operation] := by
  rw [callChain, called_withOperation, operation_withOperation]

@[simp] theorem ownDetails_withOperation :
    (fault.withOperation operation).ownDetails = fault.ownDetails := by
  unfold withOperation
  split
  · rfl
  · simp [ownDetails, withContext]

variable {key : String} (value : String)

@[simp] theorem callChain_withContext (h : key ≠ "called") :
    (fault.withContext key value).callChain = fault.callChain := by
  have hcalled : (fault.withContext key value).called = fault.called := by
    simp [called, withContext, h]
  rw [callChain, hcalled]
  rfl

@[simp] theorem ownDetails_withContext (h : key ≠ "called") :
    (fault.withContext key value).ownDetails = fault.ownDetails ++ [(key, value)] := by
  simp [ownDetails, withContext, h]

@[simp] theorem isRetryable_withContext :
    (fault.withContext key value).isRetryable = fault.isRetryable := rfl

variable (status : Status)

@[simp] theorem callChain_withStatus : (fault.withStatus status).callChain = fault.callChain := rfl

@[simp] theorem ownDetails_withStatus :
    (fault.withStatus status).ownDetails = fault.ownDetails := rfl

@[simp] theorem isRetryable_withStatus :
    (fault.withStatus status).isRetryable = decide (status = .temporary) := rfl

end Builders

theorem isRetryable_of (kind : Kind) (message : String) :
    (Fault.of kind message).isRetryable = kind.isRetryable := by
  cases hkind : kind.isRetryable <;> simp [isRetryable, Fault.of, hkind]

/-! ## All remarks -/

/-- Whether a fault holds all that was remarked on it, from the first remark to the last. -/
structure HasHistory (kind : Kind) (message : String) (remarks : List Remark) (fault : Fault) :
    Prop where
  callChain_eq : fault.callChain = (remarks.filterMap Remark.operation?).filter (· ≠ "")
  ownDetails_eq : fault.ownDetails = remarks.filterMap Remark.detail?
  kind_eq : fault.kind = kind
  message_eq : fault.message = message
  isRetryable_eq : fault.isRetryable =
    match (remarks.filterMap Remark.status?).getLast? with
    | some status => decide (status = .temporary)
    | none => kind.isRetryable

namespace HasHistory
variable {kind : Kind} {message : String} {remarks : List Remark} {fault : Fault}

theorem of (kind : Kind) (message : String) :
    HasHistory kind message [] (Fault.of kind message) where
  callChain_eq := rfl
  ownDetails_eq := rfl
  kind_eq := rfl
  message_eq := rfl
  isRetryable_eq := isRetryable_of kind message

theorem remarked (h : HasHistory kind message remarks fault) {remark : Remark}
    (hplain : remark.IsPlain) :
    HasHistory kind message (remarks ++ [remark]) (fault.remarked remark) := by
  obtain ⟨hchain, hdetails, hkind, hmessage, hretry⟩ := h
  cases remark with
  | operation name =>
    refine ⟨?_, ?_, ?_, ?_, ?_⟩
    · rw [Fault.remarked, callChain_withOperation, hchain]
      by_cases hname : name = "" <;> simp [Remark.operation?, hname]
    · simp [Fault.remarked, List.filterMap_cons, Remark.detail?, hdetails]
    · simp [Fault.remarked, hkind]
    · simp [Fault.remarked, hmessage]
    · simp [Fault.remarked, List.filterMap_cons, Remark.status?, hretry]
  | detail key value =>
    have hkey : key ≠ "called" := hplain
    refine ⟨?_, ?_, hkind, hmessage, ?_⟩
    · simp [Fault.remarked, hkey, List.filterMap_cons, Remark.operation?, hchain]
    · simp [Fault.remarked, hkey, Remark.detail?, hdetails]
    · simp [Fault.remarked, List.filterMap_cons, Remark.status?, hretry]
  | status value =>
    refine ⟨?_, ?_, hkind, hmessage, ?_⟩
    · simp [Fault.remarked, List.filterMap_cons, Remark.operation?, hchain]
    · simp [Fault.remarked, List.filterMap_cons, Remark.detail?, hdetails]
    · simp [Fault.remarked, Remark.status?]

theorem foldl (kind : Kind) (message : String) (hplain : ∀ remark ∈ remarks, remark.IsPlain) :
    HasHistory kind message remarks (remarks.foldl Fault.remarked (Fault.of kind message)) := by
  induction remarks using List.reverseRecOn with
  | nil => exact .of kind message
  | append_singleton remarks remark ih =>
    rw [List.foldl_append, List.foldl_cons, List.foldl_nil]
    have hbefore := ih fun earlier hmem => hplain earlier (List.mem_append_left _ hmem)
    exact hbefore.remarked (hplain remark (List.mem_append_right _ List.mem_cons_self))

end HasHistory

/-- Whatever operations, details and statuses are put on a new fault, and in whatever order: its
call chain is the list of the operations that have a name, in order; its other details are those
that were added, in order; its kind and its message stay; and whether it may be tried again is said
by the last status, or by the kind if there was none. -/
theorem history_is_kept (kind : Kind) (message : String) {remarks : List Remark}
    (hplain : ∀ remark ∈ remarks, remark.IsPlain) :
    let fault := remarks.foldl remarked (Fault.of kind message)
    (remarks.filterMap Remark.operation?).filter (· ≠ "") =
        fault.called ++ (if fault.operation = "" then [] else [fault.operation]) ∧
      fault.ownDetails = remarks.filterMap Remark.detail? ∧
      fault.kind = kind ∧ fault.message = message ∧
      fault.isRetryable =
        match (remarks.filterMap Remark.status?).getLast? with
        | some status => decide (status = .temporary)
        | none => kind.isRetryable := by
  intro fault
  have h : HasHistory kind message remarks fault := .foldl kind message hplain
  exact ⟨h.callChain_eq.symm, h.ownDetails_eq, h.kind_eq, h.message_eq, h.isRetryable_eq⟩

/-- An operation without a name moves the one before it into the context and leaves no mark. -/
theorem history_is_kept_past_a_nameless_operation :
    let remarks : List Remark :=
      [.operation "io", .detail "path" "a.txt", .operation "", .status .temporary,
        .operation "script::load", .detail "line" "3", .status .permanent, .operation "cli::run"]
    let fault := remarks.foldl remarked (Fault.of .networkFailed "no answer")
    (∀ remark ∈ remarks, remark.IsPlain) ∧
      fault.callChain = ["io", "script::load", "cli::run"] ∧
      fault.ownDetails = [("path", "a.txt"), ("line", "3")] ∧ fault.isRetryable = false := by
  intro remarks fault
  have hplain : ∀ remark ∈ remarks, remark.IsPlain := by simp [remarks, Remark.IsPlain]
  obtain ⟨hchain, hdetails, -, -, hretry⟩ := history_is_kept .networkFailed "no answer" hplain
  exact ⟨hplain, hchain.symm.trans (by decide), hdetails, hretry⟩

end FarmScript.Fault
