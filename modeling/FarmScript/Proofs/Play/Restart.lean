import FarmScript.Proofs.Play.Messages

/-! # A reset forgets everything

After a reset a session goes on like a new one with the same script. The two differ in their logs,
where the line for the reset is left, and in what they have told a listener so far
(`Session.Repeats`). Neither is ever looked at: whatever is then done with both, they hand back the
same answers, come to the same state and tell the listener the same from there on.
-/

namespace FarmScript
set_option autoImplicit false

namespace Session

/-- Whether a session differs from another in its log only and in having told `earlier` to the
listener before. -/
def Repeats (earlier : List Message) (session session' : Session) : Prop :=
  ∃ logs outbox, session' = { session with logs := logs, outbox := outbox } ∧
    outbox.toList = earlier ++ session.outbox.toList

namespace Repeats
variable {earlier : List Message} {session session' : Session}

theorem emit (h : session.Repeats earlier session') (message : Message) :
    (session.emit message).Repeats earlier (session'.emit message) := by
  obtain ⟨logs, outbox, rfl, houtbox⟩ := h
  refine ⟨_, _, rfl, ?_⟩
  cases hlistening : session.listening with
  | true => simp [Session.emit, hlistening, houtbox]
  | false => simp [Session.emit, hlistening, houtbox]

theorem emitAll (h : session.Repeats earlier session') (messages : List Message) :
    (session.emitAll messages).Repeats earlier (session'.emitAll messages) := by
  induction messages generalizing session session' with
  | nil => exact h
  | cons message messages ih => exact ih (h.emit message)

theorem adopt (h : session.Repeats earlier session') (t : Tick) :
    (session.adopt t).Repeats earlier (session'.adopt t) := by
  obtain ⟨logs, outbox, rfl, houtbox⟩ := h
  exact ⟨logs, outbox, rfl, houtbox⟩

theorem finish (h : session.Repeats earlier session') (outcome : Option Outcome) :
    Repeats earlier { session with finished := outcome } { session' with finished := outcome } := by
  obtain ⟨logs, outbox, rfl, houtbox⟩ := h
  exact ⟨logs, outbox, rfl, houtbox⟩

theorem edit (h : session.Repeats earlier session') (script : Script) :
    (session.edit script).Repeats earlier (session'.edit script) := by
  obtain ⟨logs, outbox, rfl, houtbox⟩ := h
  exact ⟨logs, outbox, rfl, houtbox⟩

theorem reset (h : session.Repeats earlier session') :
    session.reset.Repeats earlier session'.reset := by
  obtain ⟨logs, outbox, rfl, houtbox⟩ := h
  rw [Session.reset, Session.reset]
  apply emit
  exact ⟨[], outbox, rfl, houtbox⟩

theorem stepMessages_eq (h : session.Repeats earlier session') :
    session'.stepMessages = session.stepMessages := by
  obtain ⟨logs, outbox, rfl, -⟩ := h
  rfl

theorem ends_eq (h : session.Repeats earlier session') :
    session'.finished = session.finished ∧ session'.ticks = session.ticks := by
  obtain ⟨logs, outbox, rfl, -⟩ := h
  exact ⟨rfl, rfl⟩

theorem step (h : session.Repeats earlier session') :
    session'.step.1 = session.step.1 ∧ session.step.2.Repeats earlier session'.step.2 := by
  have hfinished' : session'.finished = session.finished := h.ends_eq.1
  cases hfinished : session.finished with
  | some outcome =>
    rw [hfinished] at hfinished'
    rw [step_of_finished hfinished, step_of_finished hfinished']
    refine ⟨?_, h⟩
    obtain ⟨logs, outbox, rfl, -⟩ := h
    rfl
  | none =>
    rw [hfinished] at hfinished'
    rw [step_eq_of_open hfinished, step_eq_of_open hfinished']
    have htick := (h.adopt session.nextTick).emitAll session.nextMessages
    have hended := htick.finish session.ending?
    obtain ⟨logs, outbox, rfl, -⟩ := h
    exact ⟨rfl, hended⟩

theorem perform (h : session.Repeats earlier session') (operation : Operation) :
    (session.perform operation).Repeats earlier (session'.perform operation) :=
  (perform_bisimulation (fun _ _ => ends_eq) (fun _ _ => step) (fun _ _ script h => h.edit script)
    (fun _ _ => reset) operation h).2.2

theorem after (h : session.Repeats earlier session') (operations : List Operation) :
    session'.answers operations = session.answers operations ∧
      (session.after operations).Repeats earlier (session'.after operations) := by
  obtain ⟨hanswers, -, hafter⟩ := after_bisimulation (fun _ _ => ends_eq) (fun _ _ => step)
    (fun _ _ script h => h.edit script) (fun _ _ => reset) operations h
  exact ⟨hanswers, hafter⟩

/-! ## What both say -/

theorem gatherRun_eq (h : session.Repeats earlier session') (n : Nat) :
    session'.gatherRun stepMessages n = session.gatherRun stepMessages n := by
  induction n generalizing session session' with
  | zero => rfl
  | succ n ih =>
    obtain ⟨hreport, hnext⟩ := h.step
    rw [gatherRun, gatherRun, h.stepMessages_eq, hreport, ih hnext]

theorem gather_eq (h : session.Repeats earlier session') (operation : Operation) :
    session'.gather stepMessages operation = session.gather stepMessages operation := by
  cases operation with
  | step => exact h.stepMessages_eq
  | run max => exact h.gatherRun_eq max
  | reset => rfl
  | edit script => rfl

theorem messages_eq (h : session.Repeats earlier session') (restart items : List Message)
    (operations : List Operation) :
    gatherSince stepMessages restart items session' operations =
      gatherSince stepMessages restart items session operations := by
  induction operations generalizing items session session' with
  | nil => rfl
  | cons operation operations ih =>
    by_cases hreset : operation = .reset
    · subst hreset
      exact ih h.reset restart
    · rw [gatherSince_cons_of_ne hreset, gatherSince_cons_of_ne hreset, h.gather_eq operation]
      exact ih (h.perform operation) _

end Repeats

/-- A session that is reset repeats a new one with its script and its settings. -/
theorem repeats_reset {session : Session} {rules : Rules} {level : Level} {script : Script}
    {haltOnError recordTrace listening : Bool}
    (h : ((fresh rules level script).configure haltOnError recordTrace listening).SameSettings
      session) :
    ((fresh rules level session.script).configure haltOnError recordTrace listening).Repeats
      session.reset.outbox.toList session.reset := by
  refine ⟨session.reset.logs, session.reset.outbox, ?_, (List.append_nil _).symm⟩
  obtain ⟨hrules, hlevel, hhalt, htrace, hlistening⟩ := h
  simp only [configure, fresh] at hrules hlevel hhalt htrace hlistening
  subst hrules hlevel hhalt htrace hlistening
  rfl

end Session

/-- By playable rules, whatever has been done with a session before: once it is reset it cannot be
told from a new one with its script and the same switches. Whatever is then done with both, they
hand back the same answers, they are on the same farm at the same place of the same program, with
the same count of ticks, the same trace and the same outcome, and the listener hears the same from
there on. And until the next reset the log of the one is the latest part of the whole log of the
other with the line for the reset at its end. -/
theorem reset_leaks_nothing {rules : Rules} (hrules : rules.validate = .ok rules) (level : Level)
    (script : Script) (haltOnError recordTrace listening : Bool) (history : List Operation) :
    ∃ session, Session.start rules level script = .ok session ∧
      let played := (session.configure haltOnError recordTrace listening).after history
      ∃ other, Session.start rules level played.script = .ok other ∧
        let anew := other.configure haltOnError recordTrace listening
        ∀ more : List Operation,
          played.reset.answers more = anew.answers more ∧
          (played.reset.after more).world = (anew.after more).world ∧
          (played.reset.after more).program = (anew.after more).program ∧
          (played.reset.after more).ticks = (anew.after more).ticks ∧
          (played.reset.after more).trace = (anew.after more).trace ∧
          (played.reset.after more).finished = (anew.after more).finished ∧
          (played.reset.after more).outbox.toList =
            played.reset.outbox.toList ++ (anew.after more).outbox.toList ∧
          (anew.after more).logs =
            (Session.newestFirst (anew.messagesSinceReset more)).take rules.maxLogs.toNat ∧
          (.reset ∉ more →
            (played.reset.after more).logs =
              (Session.newestFirst (anew.messagesSinceReset more) ++ ["Level reset"]).take
                rules.maxLogs.toNat) := by
  refine ⟨_, Session.start_of_validate hrules level script, ?_⟩
  intro played
  refine ⟨_, Session.start_of_validate hrules level played.script, ?_⟩
  intro anew more
  have hsettings := Session.sameSettings_after
    ((Session.fresh rules level script).configure haltOnError recordTrace listening) history
  have hrepeats : anew.Repeats played.reset.outbox.toList played.reset :=
    Session.repeats_reset hsettings
  have hmax : played.reset.rules.maxLogs = rules.maxLogs :=
    congrArg Rules.maxLogs hsettings.rules_eq
  have hmessages : played.reset.messagesSinceReset more = anew.messagesSinceReset more :=
    hrepeats.messages_eq [Session.resetMessage] [] more
  obtain ⟨hanswers, logs, outbox, hafter, houtbox⟩ := hrepeats.after more
  refine ⟨hanswers, by rw [hafter], by rw [hafter], by rw [hafter], by rw [hafter],
    by rw [hafter], by rw [hafter]; exact houtbox, ?_, ?_⟩
  · have hlogs := anew.logs_after [] more (fun _ => rfl) List.take_nil.symm
    rw [List.append_nil] at hlogs
    exact hlogs
  · intro hreset
    have hlogs := played.reset.logs_after ["Level reset"] more
      (fun hmem => absurd hmem hreset) rfl
    rw [hmessages, hmax] at hlogs
    exact hlogs

/-- A session that halted at the wall, was given another script, and is reset: its next steps are
those of a new session, and the line for the reset is the last of its log, which holds three. -/
theorem reset_leaks_nothing_at_wall :
    let rules : Rules := { Rules.default with maxLogs := 3 }
    let history : List Operation := [.run 5, .edit ⟨#["right()", "plant()", "plant()"]⟩, .step]
    rules.validate = .ok rules ∧
      ∃ session, Session.start rules Level.firstSteps ⟨#["left()", "forward()"]⟩ = .ok session ∧
        let played := (session.configure true true true).after history
        ∃ other, Session.start rules Level.firstSteps played.script = .ok other ∧
          played.reset.answers [.step, .run 1] =
            (other.configure true true true).answers [.step, .run 1] ∧
          (played.reset.after [.step, .run 1]).logs =
            ["plant(): seeds sown (-2 G)", "right(): turned right", "Level reset"] := by
  intro rules history
  have hrules : rules.validate = .ok rules := rfl
  obtain ⟨session, hstart, other, hother, hmore⟩ := reset_leaks_nothing hrules Level.firstSteps
    ⟨#["left()", "forward()"]⟩ true true true history
  obtain rfl := Session.eq_fresh_of_start hrules hstart
  obtain ⟨hanswers, -, -, -, -, -, -, -, hlogs⟩ := hmore [.step, .run 1]
  refine ⟨hrules, _, hstart, other, hother, hanswers, ?_⟩
  obtain rfl := Session.eq_fresh_of_start hrules hother
  rw [hlogs (by decide)]
  decide +kernel

end FarmScript
