import FarmScript.Console.Program
import FarmScript.Proofs.Farm.RulesText
import FarmScript.Proofs.Play.FirstStop
import FarmScript.Proofs.Play.Listener
import FarmScript.Proofs.Play.Trace

/-! # The console plays a session like `Session.run`

`Console.drive` goes by the number of ticks and hands the messages over after each step, while
`Session.run` counts its steps and lets the messages wait. From a session that is still open both
come to the same end (`drive_drain`): a step does not depend on the messages that wait
(`step_drain`), and what is written at a step is the text of its event (`stepText_drain`).

The rest is what stands around the loop: which session an order gets, and what is left of it in the
output and in the exit code.
-/

namespace FarmScript
set_option autoImplicit false

namespace Session

/-! ## Messages that wait -/

theorem drain_emitAll (session : Session) (messages : List Message) :
    (session.drain.2.emitAll messages).drain.2 = (session.emitAll messages).drain.2 := by
  induction messages generalizing session with
  | nil => rfl
  | cons message messages ih =>
    have hemit : (session.drain.2.emit message).drain.2 = (session.emit message).drain.2 := rfl
    calc
      _ = ((session.drain.2.emit message).emitAll messages).drain.2 := rfl
      _ = ((session.emit message).drain.2.emitAll messages).drain.2 := by rw [← ih, hemit]
      _ = ((session.emit message).emitAll messages).drain.2 := ih (session.emit message)

/-- A step does not depend on the messages that wait. -/
theorem step_drain (session : Session) :
    session.drain.2.step.1 = session.step.1 ∧
      session.drain.2.step.2.drain.2 = session.step.2.drain.2 := by
  cases hopen : session.finished with
  | some outcome =>
    have hopen' : session.drain.2.finished = some outcome := hopen
    rw [step_of_finished hopen, step_of_finished hopen']
    exact ⟨rfl, rfl⟩
  | none =>
    have hopen' : session.drain.2.finished = none := hopen
    rw [step_eq_of_open hopen, step_eq_of_open hopen']
    refine ⟨rfl, ?_⟩
    have hmessages := drain_emitAll (session.adopt session.nextTick) session.nextMessages
    exact congrArg (fun s : Session => { s with finished := session.ending? }) hmessages

theorem stepEvents_of_open {session : Session} (hopen : session.finished = none) :
    session.stepEvents = [.tick session.program.cursor session.nextTick session.ending?] := by
  rw [stepEvents, hopen, (step_of_open hopen).2]

end Session

theorem Script.length_le_of_load {path : String} {content : Except File.Failure String}
    {script : Script} (h : load path content = .ok script) : script.length ≤ maxLines := by
  unfold load at h
  split at h
  · cases h
  · simp only at h
    split at h
    · cases h
    · next hle =>
      cases h
      exact Nat.not_lt.mp hle

namespace Console

/-! ## The loop -/

/-- What is written at an event: the lines of its messages if somebody listens and, if wanted, a
picture of the farm. -/
def eventText (listening pictures : Bool) (event : Event) : String :=
  String.join ((if listening then event.messages else []).map messageLine)
    ++ match event with
      | .tick _ t _ => if pictures then t.world.picture ++ "\n" else ""
      | .reset => ""

section Drive
variable {maxTicks : Nat} {pictures : Bool} {session : Session} {written : String}

theorem drive_of_le (h : maxTicks ≤ session.ticks) :
    drive maxTicks pictures session written = (.tickLimit session.ticks, session, written) := by
  rw [drive, if_neg (Nat.not_lt.mpr h)]

theorem drive_of_outcome {outcome : Outcome} (h : session.ticks < maxTicks)
    (houtcome : session.step.1.outcome = some outcome) :
    drive maxTicks pictures session written =
      (outcome, session.step.2.drain.2, written ++ stepText pictures session.step.2) := by
  rw [drive, if_pos h]
  split
  next report next hstep =>
    rw [hstep] at houtcome
    split
    · next other hother =>
      obtain rfl := Option.some.inj (houtcome.symm.trans hother)
      rw [hstep]
    · next hnone => cases houtcome.symm.trans hnone

theorem drive_of_open (h : session.ticks < maxTicks) (hopen : session.step.1.outcome = none) :
    drive maxTicks pictures session written =
      drive maxTicks pictures session.step.2.drain.2
        (written ++ stepText pictures session.step.2) := by
  rw [drive, if_pos h]
  split
  next report next hstep =>
    rw [hstep] at hopen
    split
    · next outcome houtcome => cases hopen.symm.trans houtcome
    · simp only [hstep]

end Drive

theorem stepText_drain {session : Session} (hopen : session.finished = none) (pictures : Bool) :
    stepText pictures session.drain.2.step.2 =
      String.join (session.stepEvents.map (eventText session.listening pictures)) := by
  have hopen' : session.drain.2.finished = none := hopen
  have houtbox : session.drain.2.step.2.outbox.toList =
      if session.listening then session.stepEvents.flatMap Event.messages else [] := by
    rw [Session.outbox_step, Session.stepEvents_of_open hopen, Session.stepEvents_of_open hopen']
    rfl
  have hworld : session.drain.2.step.2.world = session.nextTick.world := by
    rw [(Session.step_of_open hopen').2]
    rfl
  rw [stepText, Session.drain, houtbox, hworld, Session.stepEvents_of_open hopen]
  simp [eventText]

/-- The loop comes to where a run of the ticks that are left comes to. -/
theorem drive_drain {maxTicks n : Nat} (pictures : Bool) {session : Session} (written : String)
    (hopen : session.finished = none) (hticks : session.ticks + n = maxTicks) :
    drive maxTicks pictures session.drain.2 written =
      ((session.run n).1, (session.run n).2.drain.2,
        written ++ String.join ((session.gatherRun Session.stepEvents n).map
          (eventText session.listening pictures))) := by
  induction n generalizing session written with
  | zero =>
    rw [drive_of_le (by rw [← hticks]; exact Nat.le_refl _)]
    simp [Session.run, Session.gatherRun, hopen, Session.drain]
  | succ n ih =>
    have hlt : session.drain.2.ticks < maxTicks := by
      rw [← hticks]
      exact Nat.lt_add_of_pos_right (Nat.succ_pos n)
    obtain ⟨hreport, hnext⟩ := session.step_drain
    have htext := stepText_drain hopen pictures
    cases houtcome : session.step.1.outcome with
    | some outcome =>
      rw [drive_of_outcome hlt (by rw [hreport, houtcome]), hnext, htext, Session.run_succ,
        Session.gatherRun, houtcome]
      simp
    | none =>
      have hopen' : session.step.2.finished = none := session.finished_step.trans houtcome
      have hticks' : session.step.2.ticks + n = maxTicks := by
        rw [Session.ticks_step hopen]
        omega
      rw [drive_of_open hlt (by rw [hreport, houtcome]), hnext, htext,
        ih _ hopen' hticks', Session.run_succ, Session.gatherRun, houtcome,
        session.sameSettings_step.listening_eq]
      simp [String.append_assoc]

/-! ## What an order loads -/

theorem validate_of_orderRules {order : RunOrder} {read : String → Except File.Failure String}
    {rules : Rules} (h : orderRules order read = .ok rules) : rules.validate = .ok rules := by
  rw [Rules.validate_eq_ok_iff]
  unfold orderRules at h
  -- the pause between two ticks has no say in whether rules are playable
  cases hinterval : order.intervalMs <;> rw [hinterval] at h <;>
  cases hpath : order.rules with
  | none =>
    rw [hpath] at h
    obtain rfl := Except.ok.inj h
    rfl
  | some path =>
    rw [hpath] at h
    cases hload : Rules.load path (read path) with
    | error fault =>
      simp only [hload] at h
      cases h
    | ok loaded =>
      simp only [hload] at h
      obtain rfl := Except.ok.inj h
      exact (Rules.validate_eq_ok_iff loaded).mp (Rules.validate_of_load hload)

theorem orderSession_eq {order : RunOrder} (quiet : Bool)
    {read : String → Except File.Failure String} {rules : Rules} {level : Level} {script : Script}
    (hrules : orderRules order read = .ok rules) (hlevel : Level.find order.level = .ok level)
    (hscript : Script.load order.script (read order.script) = .ok script) :
    orderSession order quiet read = .ok
      ((Session.fresh rules level script).configure (!order.keepGoing) order.trace (!quiet)) := by
  have hstart := Session.start_of_validate (validate_of_orderRules hrules) level script
  rw [orderSession, hrules, hlevel, hscript]
  simp only [bind, Except.bind, hstart]
  rfl

/-! ## What is left of a run -/

theorem play_eq {order : RunOrder} {quiet : Bool} {read : String → Except File.Failure String}
    {begun played : Session} {outcome : Outcome} {title written : String}
    (hsession : orderSession order quiet read = .ok begun)
    (htitle : title = if quiet then ""
      else begun.level.title ++ "\nGoal: " ++ begun.level.goalText ++ "\n\n")
    (hdrive : drive order.maxTicks (order.render && !quiet) begun title =
      (outcome, played, written)) :
    play order quiet read = .ok (outcome,
      written
        ++ (if quiet || order.render then "" else "\n" ++ played.world.picture ++ "\n")
        ++ (if order.trace then traceText played else "")
        ++ outcomeText order.level outcome) := by
  subst htitle
  rw [play, hsession]
  simp only [bind, Except.bind, hdrive]
  rfl

theorem doRun_eq {order : RunOrder} {quiet : Bool} {around : Surroundings} {outcome : Outcome}
    {text : String} (h : play order quiet around.files.read = .ok (outcome, text)) :
    (doRun order quiet around).output = text ∧
      (doRun order quiet around).exitCode = if outcome.isHalted then 2 else 0 := by
  rw [doRun, h]
  exact ⟨String.empty_append, rfl⟩

theorem traceText_eq {session : Session} (h : session.Traced) :
    (if session.recordTrace then traceText session else "") =
      String.join ((session.trace.toList.map fun step => step.toJson.write).map (· ++ "\n")) := by
  cases hrecord : session.recordTrace with
  | true =>
    rw [if_pos rfl, traceText, List.map_map]
    rfl
  | false =>
    have hnone := h.ticks_eq
    rw [hrecord, if_neg Bool.false_ne_true, List.map_eq_nil_iff] at hnone
    rw [hnone]
    rfl

end Console

open Console in
/-- For an order whose rules, level and script can be loaded: the loop of the console ends like a
run of the same session, with the same outcome and the same session but for the messages, which
have been handed over. It writes, tick by tick, what a listener to the run hears, with a picture of
the farm if wanted. The output ends with a line of JSON for each step of the trace, which holds one
step for each tick and is found again in these lines, and with the outcome. The exit code is 2 if
the run was halted and 0 otherwise. -/
theorem console_plays_like_run {order : RunOrder} (quiet : Bool) (around : Surroundings)
    {rules : Rules} {level : Level} {script : Script}
    (hrules : orderRules order around.files.read = .ok rules)
    (hlevel : Level.find order.level = .ok level)
    (hscript : Script.load order.script (around.files.read order.script) = .ok script)
    (hmax : order.maxTicks < UInt64.size) :
    ∃ session, Session.start rules level script = .ok session ∧
      let begun := session.configure (!order.keepGoing) order.trace (!quiet)
      let outcome := (begun.run order.maxTicks).1
      let played := (begun.run order.maxTicks).2
      let events := begun.events [.run order.maxTicks]
      let lines := played.trace.toList.map fun step => step.toJson.write
      let title := if quiet then "" else level.title ++ "\nGoal: " ++ level.goalText ++ "\n\n"
      let written :=
        title ++ String.join (events.map (eventText (!quiet) (order.render && !quiet)))
      let transcript := carryOut ⟨.run order, quiet⟩ around
      drive order.maxTicks (order.render && !quiet) begun title =
          (outcome, { played with outbox := #[] }, written) ∧
        played.outbox.toList = (if quiet then [] else events.flatMap Event.messages) ∧
        played.trace.toList.map TraceStep.tick =
          (if order.trace then List.range' 1 played.ticks else []) ∧
        lines.map (fun line => (Json.read? line).bind TraceStep.ofJson?) =
          played.trace.toList.map some ∧
        (∀ line ∈ lines, '\n' ∉ line.toList) ∧
        transcript.output =
          written
            ++ (if quiet || order.render then "" else "\n" ++ played.world.picture ++ "\n")
            ++ String.join (lines.map (· ++ "\n"))
            ++ outcomeText order.level outcome ∧
        transcript.exitCode = (if outcome.isHalted then 2 else 0) := by
  refine ⟨_, Session.start_of_validate (validate_of_orderRules hrules) level script, ?_⟩
  intro begun outcome played events lines title written transcript
  have hsession : orderSession order quiet around.files.read = .ok begun :=
    orderSession_eq quiet hrules hlevel hscript
  have hopen : begun.finished = none := rfl
  have hevents : events = begun.gatherRun Session.stepEvents order.maxTicks :=
    List.append_nil _
  have hdrive : drive order.maxTicks (order.render && !quiet) begun title =
      (outcome, { played with outbox := #[] }, written) := by
    have hempty : begun.drain.2 = begun := rfl
    have hlistening : begun.listening = !quiet := rfl
    have hdrain := drive_drain (order.render && !quiet) title hopen (Nat.zero_add order.maxTicks)
    rw [hempty, ← hevents, hlistening] at hdrain
    exact hdrain
  have hrecords : played.Records rules.maxLogs (!quiet) events :=
    Session.records_after (Session.records_fresh rules level script _ _ _) [.run order.maxTicks]
  have htraced : played.Traced :=
    (Session.traced_fresh rules level script _ _ _).run order.maxTicks
  have hrecord : played.recordTrace = order.trace :=
    (begun.sameSettings_after [.run order.maxTicks]).recordTrace_eq
  have hfits : ∀ step ∈ played.trace.toList, step.Fits := by
    refine htraced.fits ?_ ?_
    · have hle : played.ticks ≤ 0 + order.maxTicks := begun.ticks_run_le order.maxTicks
      omega
    · have hlength := Script.length_le_of_load hscript
      have hsame : played.script = script := begun.script_run order.maxTicks
      have hlimit : Script.maxLines < UInt64.size := by decide
      rw [hsame]
      omega
  have htrace : (if order.trace then traceText { played with outbox := #[] } else "") =
      String.join (lines.map (· ++ "\n")) := by
    rw [← traceText_eq htraced, hrecord]
    rfl
  have hplay := play_eq hsession rfl hdrive
  rw [htrace] at hplay
  obtain ⟨houtput, hexit⟩ := doRun_eq hplay
  refine ⟨hdrive, ?_, ?_, ?_, ?_, houtput, hexit⟩
  · rw [hrecords.outbox_eq]
    cases quiet <;> rfl
  · rw [htraced.ticks_eq, hrecord]
  · rw [List.map_map]
    refine List.map_congr_left fun step hmem => ?_
    have hround := TraceStep.roundTrips (hfits step hmem)
    rw [RoundTrips] at hround
    rw [Function.comp_apply, hround]
  · intro line hmem
    obtain ⟨step, -, rfl⟩ := List.mem_map.mp hmem
    rw [Json.write, String.toList_ofList]
    exact Json.lineBreak_not_mem_writeChars step.isIntegral_toJson

open Console in
/-- A walk into the wall, with pictures and a trace: the run is halted in its second tick, so the
exit code is 2 and the trace has two steps. -/
theorem console_plays_like_run_wall :
    let order : RunOrder := ⟨"walk", 1, none, 10, some 0, false, true, true⟩
    let around : Surroundings :=
      ⟨[("walk", .bytes "left()\nforward()".toUTF8)], none, none, none, fun _ => none⟩
    let rules : Rules := { Rules.default with tickIntervalMs := 0 }
    orderRules order around.files.read = .ok rules ∧
      Level.find order.level = .ok Level.firstSteps ∧
      Script.load order.script (around.files.read order.script) =
        .ok (Script.parse "left()\nforward()") ∧
      (carryOut ⟨.run order, false⟩ around).exitCode = 2 ∧
      ∃ session, Session.start rules Level.firstSteps (Script.parse "left()\nforward()") =
          .ok session ∧
        let begun := session.configure (!order.keepGoing) order.trace (!false)
        (begun.run order.maxTicks).2.trace.toList.map TraceStep.tick = [1, 2] := by
  intro order around rules
  have hrules : orderRules order around.files.read = .ok rules := rfl
  have hlevel : Level.find order.level = .ok Level.firstSteps := rfl
  have hscript : Script.load order.script (around.files.read order.script) =
      .ok (Script.parse "left()\nforward()") := rfl
  obtain ⟨session, hstart, -, -, hticks, -, -, -, hexit⟩ :=
    console_plays_like_run false around hrules hlevel hscript (by decide)
  obtain rfl := Session.eq_fresh_of_start rfl hstart
  refine ⟨hrules, hlevel, hscript, ?_, _, hstart, hticks.trans ?_⟩
  · rw [hexit]
    decide +kernel
  · decide +kernel

end FarmScript
