import FarmScript.Proofs.Play.Operation

/-! # The messages of a session

`Session.messagesSinceReset` is the whole log of a session: all that it has said since the last
reset, the line for the reset included. What the session keeps of it are the latest messages, as
many as the rules say and the newest first (`logs_after`).
-/

namespace FarmScript
set_option autoImplicit false

namespace Session

def stepMessages (session : Session) : List Message :=
  match session.finished with
  | none => session.nextMessages
  | some _ => []

/-- The line for a reset. -/
def resetMessage : Message where
  level := .info
  text := "Level reset"

/-- All that a session has said since the last reset, the oldest first. -/
def messagesSinceReset (session : Session) (operations : List Operation) : List Message :=
  gatherSince stepMessages [resetMessage] [] session operations

/-- The texts of messages, the newest first. -/
def newestFirst (messages : List Message) : List String :=
  (messages.map (·.text)).reverse

theorem newestFirst_append (messages messages' : List Message) :
    newestFirst (messages ++ messages') = newestFirst messages' ++ newestFirst messages := by
  simp [newestFirst]

/-! ## What the log keeps -/

/-- What is cut off from the end of a list twice is cut off once. -/
theorem take_append_take {α : Type} (n : Nat) (front back : List α) :
    (front ++ back.take n).take n = (front ++ back).take n := by
  have hmin : min (n - front.length) n = n - front.length := by omega
  rw [List.take_append, List.take_append, List.take_take, hmin]

theorem logs_emitAll (session : Session) {log : List String} (messages : List Message)
    (h : session.logs = log.take session.rules.maxLogs.toNat) :
    (session.emitAll messages).logs =
      (newestFirst messages ++ log).take session.rules.maxLogs.toNat := by
  induction messages generalizing session log with
  | nil => exact h
  | cons message messages ih =>
    have hemit : (session.emit message).logs =
        (message.text :: log).take (session.emit message).rules.maxLogs.toNat := by
      have htake := take_append_take session.rules.maxLogs.toNat [message.text] log
      rw [← h] at htake
      exact htake
    have hrest := ih (session.emit message) hemit
    rw [← List.singleton_append, newestFirst_append, List.append_assoc]
    exact hrest

/-- Whether the log of a session is the latest part of a whole log: `messages`, the oldest first, on
top of `log`. -/
def KeepsLog (max : UInt64) (log : List String) (messages : List Message) (session : Session) :
    Prop :=
  session.rules.maxLogs = max ∧ session.logs = (newestFirst messages ++ log).take max.toNat

theorem KeepsLog.step {max : UInt64} {log : List String} {messages : List Message}
    {session : Session} (h : session.KeepsLog max log messages) :
    session.step.2.KeepsLog max log (messages ++ session.stepMessages) := by
  obtain ⟨rfl, hlogs⟩ := h
  cases hfinished : session.finished with
  | none =>
    have hmessages : session.stepMessages = session.nextMessages := by
      simp [stepMessages, hfinished]
    refine ⟨by rw [session.sameSettings_step.rules_eq], ?_⟩
    rw [step_eq_of_open hfinished, hmessages, newestFirst_append, List.append_assoc]
    exact logs_emitAll (session.adopt session.nextTick) session.nextMessages hlogs
  | some outcome =>
    rw [step_of_finished hfinished, stepMessages, hfinished, List.append_nil]
    exact ⟨rfl, hlogs⟩

/-- The log of a session after operations. What was in it before is still there below the messages
since, unless there was a reset. -/
theorem logs_after (session : Session) (log : List String) (operations : List Operation)
    (hreset : .reset ∈ operations → log = [])
    (h : session.logs = log.take session.rules.maxLogs.toNat) :
    (session.after operations).logs =
      (newestFirst (session.messagesSinceReset operations) ++ log).take
        session.rules.maxLogs.toNat := by
  have hkeeps : (session.after operations).KeepsLog session.rules.maxLogs log
      (session.messagesSinceReset operations) := by
    refine gatherSince_induction
      (R := fun messages s => s.KeepsLog session.rules.maxLogs log messages) ?_ ?_ ?_ ⟨rfl, h⟩
    · intro messages s hs
      exact hs.step
    · intro messages s script hs
      exact hs
    · rintro hmem messages s ⟨hmax, -⟩
      obtain rfl := hreset hmem
      exact ⟨hmax, by rw [← hmax]; rfl⟩
  exact hkeeps.2

end Session

end FarmScript
