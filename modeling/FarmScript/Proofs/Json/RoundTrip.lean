import FarmScript.Language.Format
import FarmScript.Machine.Format
import FarmScript.Play.Format
import FarmScript.Proofs.Json.Record
import FarmScript.Tutor.Chat

/-! # Values survive as JSON

Every value of the farm, the language, the machine, the session and the chat is found again in the
compact text of its JSON (`RoundTrips`). Each type has one lemma that says what `ofJson?` makes of
`toJson`, and one that its JSON has no numbers but integers, which is what the text needs.

Lines and counts of ticks are natural numbers here, so they must fit the 64 bits that they are read
as (`Block.Fits` and the like).
-/

namespace FarmScript
set_option autoImplicit false

/-! ## The farm -/

@[simp] theorem Crop.isIntegral_toJson (crop : Crop) : crop.toJson.IsIntegral :=
  Json.isIntegral_text _

theorem Crop.ofJson?_toJson (crop : Crop) : ofJson? crop.toJson = some crop := by
  apply Json.variant?_text
  cases crop <;> decide

@[simp] theorem Heading.isIntegral_toJson (heading : Heading) : heading.toJson.IsIntegral :=
  Json.isIntegral_text _

theorem Heading.ofJson?_toJson (heading : Heading) : ofJson? heading.toJson = some heading := by
  apply Json.variant?_text
  cases heading <;> decide

@[simp] theorem Tile.isIntegral_toJson (tile : Tile) : tile.toJson.IsIntegral := by
  simp [toJson]

theorem Tile.ofJson?_toJson (tile : Tile) : ofJson? tile.toJson = some tile := by
  have hslots : tile.toJson.slots? ["x", "y", "state", "growth"] = _ :=
    Json.slots?_record (by simp)
  simp [ofJson?, hslots, Json.Slot.required?, Crop.ofJson?_toJson]

@[simp] theorem Grid.isIntegral_toJson (grid : Grid) : grid.toJson.IsIntegral := by
  simp [toJson]

theorem Grid.ofJson?_toJson (grid : Grid) : ofJson? grid.toJson = some grid := by
  have hslots : grid.toJson.slots? ["size", "tiles"] = _ := Json.slots?_record (by simp)
  have htiles := Json.toList?_map grid.tiles.toList fun tile _ => tile.ofJson?_toJson
  simp [ofJson?, hslots, Json.Slot.required?, htiles]

@[simp] theorem Bot.isIntegral_toJson (bot : Bot) : bot.toJson.IsIntegral := by
  simp [toJson]

theorem Bot.ofJson?_toJson (bot : Bot) : ofJson? bot.toJson = some bot := by
  have hslots : bot.toJson.slots? ["x", "y", "facing", "inventory"] = _ :=
    Json.slots?_record (by simp)
  simp [ofJson?, hslots, Json.Slot.required?, Heading.ofJson?_toJson]

theorem World.isIntegral_toJson (world : World) : world.toJson.IsIntegral := by
  simp [toJson]

theorem World.ofJson?_toJson (world : World) : ofJson? world.toJson = some world := by
  have hslots : world.toJson.slots? ["grid", "agent", "gold"] = _ := Json.slots?_record (by simp)
  simp [ofJson?, hslots, Json.Slot.required?, Grid.ofJson?_toJson, Bot.ofJson?_toJson]

/-! ## The language -/

theorem Command.ofJson?_toJson (command : Command) : ofJson? command.toJson = some command := by
  apply Json.variant?_text
  cases command <;> decide

@[simp] theorem Condition.isIntegral_toJson (condition : Condition) :
    condition.toJson.IsIntegral := by
  cases condition <;> simp [toJson]

theorem Condition.ofJson?_toJson (condition : Condition) :
    ofJson? condition.toJson = some condition := by
  have hkind (name : String) : (Json.record [("kind", .text name)]).slots? ["kind", "value"] =
      some [.given (.text name), .absent] := rfl
  have hvalue (name : String) (value : Json) :
      (Json.record [("kind", .text name), ("value", value)]).slots? ["kind", "value"] =
        some [.given (.text name), .given value] := Json.slots?_record (by simp)
  cases condition <;>
    simp [ofJson?, toJson, hkind, hvalue, Json.Slot.required?, Json.Slot.nothing?]

theorem Condition.isHoldable_toJson (condition : Condition) :
    condition.toJson.isHoldable 1 = true := by
  have hrecord (members : List (String × Json)) := @Json.isHoldable_record 1 members (by decide)
  cases condition <;> simp [toJson, hrecord, Json.isHoldable]

theorem Statement.isIntegral_toJson (statement : Statement) : statement.toJson.IsIntegral := by
  cases statement <;> simp [toJson]

theorem Statement.ofJson?_toJson (statement : Statement) :
    ofJson? statement.toJson = some statement := by
  have hplain (name : String) : (Json.record [("kind", .text name)]).tagged? 0 "kind" =
      some (name, .record []) := Json.tagged?_record name (by simp) (by simp)
  have hfield (name field : String) (value : Json) (hne : field ≠ "kind")
      (hhold : value.isHoldable 1 = true) :
      (Json.record [("kind", .text name), (field, value)]).tagged? 0 "kind" =
        some (name, .record [(field, value)]) :=
    Json.tagged?_record name (by simpa using hne.symm) (by simpa using hhold)
  have hslots (field : String) (value : Json) :
      (Json.record [(field, value)]).slots? [field] = some [.given value] :=
    Json.slots?_record (by simp)
  have hnone : (Json.record []).slots? [] = some [] := rfl
  cases statement <;>
    simp [ofJson?, toJson, hplain, hfield, hslots, hnone, Json.Slot.required?,
      Condition.isHoldable_toJson, Condition.ofJson?_toJson]

/-! ## Running programs -/

def Block.Fits (block : Block) : Prop := block.line < UInt64.size ∧ block.indent < UInt64.size

def Program.Fits (program : Program) : Prop :=
  program.cursor < UInt64.size ∧ ∀ block ∈ program.nesting, block.Fits

theorem Block.ofFields?_record {line indent : Nat} (kind : Kind) (hline : line < UInt64.size)
    (hindent : indent < UInt64.size) :
    ofFields? kind (.record [("line", .nat line), ("indent", .nat indent)]) =
      some ⟨kind, line, indent⟩ := by
  have hslots : (Json.record [("line", .nat line), ("indent", .nat indent)]).slots?
      ["line", "indent"] = _ := Json.slots?_record (by simp)
  simp [ofFields?, hslots, Json.Slot.required?, Json.toCount?_nat hline, Json.toCount?_nat hindent]

@[simp] theorem Block.isIntegral_toJson (block : Block) : block.toJson.IsIntegral := by
  obtain ⟨kind, line, indent⟩ := block
  cases kind <;> simp [toJson]

theorem Block.ofJson?_toJson {block : Block} (depth : Nat) (h : block.Fits) :
    ofJson? depth block.toJson = some block := by
  obtain ⟨kind, line, indent⟩ := block
  obtain ⟨hline, hindent⟩ : line < UInt64.size ∧ indent < UInt64.size := h
  have htagged {name : String} {more : List (String × Json)} (hkind : "kind" ∉ more.map Prod.fst)
      (hmore : ∀ member ∈ more, member.2.isHoldable (depth + 1) = true) :
      (Json.record ([("kind", .text name), ("line", .nat line), ("indent", .nat indent)]
        ++ more)).tagged? depth "kind" =
      some (name, .record ([("line", .nat line), ("indent", .nat indent)] ++ more)) := by
    have hall : ∀ member ∈ ("line", Json.nat line) :: ("indent", .nat indent) :: more,
        member.2.isHoldable (depth + 1) = true := by
      simp only [List.forall_mem_cons]
      exact ⟨Json.isHoldable_nat _ hline, Json.isHoldable_nat _ hindent, hmore⟩
    exact Json.tagged?_record name (by simpa using hkind) hall
  cases kind with
  | forLoop iteration target =>
    have hslots : (Json.record [("line", .nat line), ("indent", .nat indent),
        ("iteration", .ofUInt32 iteration), ("target", .ofUInt32 target)]).slots?
        ["line", "indent", "iteration", "target"] = _ := Json.slots?_record (by simp)
    rw [ofJson?, toJson, htagged (by simp) (by simp)]
    simp [Kind.name, hslots, Json.Slot.required?, Json.toCount?_nat hline,
      Json.toCount?_nat hindent]
  | whileLoop | ifThen | elseThen =>
    rw [ofJson?, toJson, htagged (by simp) (by simp)]
    exact ofFields?_record _ hline hindent

theorem Nesting.ofJson?_toJson {nesting : Nesting} (depth : Nat)
    (h : ∀ block ∈ nesting, block.Fits) : ofJson? depth nesting.toJson = some nesting := by
  have hslots : nesting.toJson.slots? ["frames"] = _ := Json.slots?_record (by simp)
  have hblocks := Json.toList?_map nesting.reverse fun block hmem =>
    Block.ofJson?_toJson (depth + 2) (h block (List.mem_reverse.mp hmem))
  simp [ofJson?, hslots, Json.Slot.required?, -List.map_reverse, hblocks]

theorem Program.isIntegral_toJson (program : Program) : program.toJson.IsIntegral := by
  simp [toJson, Nesting.toJson]

theorem Program.ofJson?_toJson {program : Program} (h : program.Fits) :
    ofJson? program.toJson = some program := by
  have hslots : program.toJson.slots? ["cursor", "stack"] = _ := Json.slots?_record (by simp)
  simp [ofJson?, hslots, Json.Slot.required?, Json.toCount?_nat h.1,
    Nesting.ofJson?_toJson 1 h.2]

theorem TickStatus.ofJson?_toJson (status : TickStatus) : ofJson? status.toJson = some status := by
  apply Json.variant?_text
  cases status <;> decide

/-! ## Sessions -/

def Outcome.Fits : Outcome → Prop
  | goalReached ticks | exhausted ticks | tickLimit ticks => ticks < UInt64.size
  | halted line _ => line < UInt64.size

def TraceStep.Fits (step : TraceStep) : Prop := step.tick < UInt64.size ∧ step.line < UInt64.size

theorem LogLevel.ofJson?_toJson (level : LogLevel) : ofJson? level.toJson = some level := by
  apply Json.variant?_text
  cases level <;> decide

theorem Outcome.isIntegral_toJson (outcome : Outcome) : outcome.toJson.IsIntegral := by
  cases outcome <;> simp [toJson]

theorem Outcome.ofJson?_toJson {outcome : Outcome} (h : outcome.Fits) :
    ofJson? outcome.toJson = some outcome := by
  have hticks {ticks : Nat} (hfits : ticks < UInt64.size) (name : String) :
      (Json.record [("outcome", .text name), ("ticks", .nat ticks)]).tagged? 0 "outcome" =
        some (name, .record [("ticks", .nat ticks)]) :=
    Json.tagged?_record name (by simp) (by simpa using Json.isHoldable_nat 1 hfits)
  have hfield {ticks : Nat} (hfits : ticks < UInt64.size) :
      ticksField? (.record [("ticks", .nat ticks)]) = some ticks := by
    have hslots : (Json.record [("ticks", .nat ticks)]).slots? ["ticks"] = _ :=
      Json.slots?_record (by simp)
    simp [ticksField?, hslots, Json.Slot.required?, Json.toCount?_nat hfits]
  cases outcome with
  | goalReached ticks => simp [ofJson?, toJson, hticks h, hfield h]
  | exhausted ticks => simp [ofJson?, toJson, hticks h, hfield h]
  | tickLimit ticks => simp [ofJson?, toJson, hticks h, hfield h]
  | halted line message =>
    have htagged : (Json.record [("outcome", .text "halted"), ("line", .nat line),
        ("message", .text message)]).tagged? 0 "outcome" = _ :=
      Json.tagged?_record "halted" (by simp) (by simpa using Json.isHoldable_nat 1 h)
    have hslots : (Json.record [("line", .nat line), ("message", .text message)]).slots?
        ["line", "message"] = _ := Json.slots?_record (by simp)
    simp [ofJson?, toJson, htagged, hslots, Json.Slot.required?, Json.toCount?_nat h]

theorem TraceStep.isIntegral_toJson (step : TraceStep) : step.toJson.IsIntegral := by
  simp [toJson]

theorem TraceStep.ofJson?_toJson {step : TraceStep} (h : step.Fits) :
    ofJson? step.toJson = some step := by
  have hslots : step.toJson.slots? ["tick", "line", "source", "log", "error"] = _ :=
    Json.slots?_record (by simp)
  simp [ofJson?, hslots, Json.Slot.required?, Json.Slot.optional?, Json.toCount?_nat h.1,
    Json.toCount?_nat h.2]

/-! ## Chats -/

theorem Tutor.Role.ofJson?_toJson (role : Tutor.Role) : ofJson? role.toJson = some role := by
  apply Json.variant?_text
  cases role <;> decide

theorem Tutor.ChatMessage.isIntegral_toJson (message : Tutor.ChatMessage) :
    message.toJson.IsIntegral := by
  simp [toJson, Role.toJson]

theorem Tutor.ChatMessage.ofJson?_toJson (message : Tutor.ChatMessage) :
    ofJson? message.toJson = some message := by
  have hslots : message.toJson.slots? ["role", "content"] = _ := Json.slots?_record (by simp)
  simp [ofJson?, hslots, Json.Slot.required?, Json.Slot.optional?, Role.ofJson?_toJson]

/-! ## Round trips -/

/-- Whether a value is found again in the compact text of its JSON. -/
def RoundTrips {α : Type} (toJson : α → Json) (ofJson? : Json → Option α) (value : α) : Prop :=
  (Json.read? (toJson value).write).bind ofJson? = some value

theorem RoundTrips.of_isIntegral {α : Type} {toJson : α → Json} {ofJson? : Json → Option α}
    {value : α} (hintegral : (toJson value).IsIntegral)
    (h : ofJson? (toJson value) = some value) : RoundTrips toJson ofJson? value := by
  rw [RoundTrips, Json.read?_write hintegral, Option.bind_some, h]

theorem TraceStep.roundTrips {step : TraceStep} (h : step.Fits) : RoundTrips toJson ofJson? step :=
  .of_isIntegral step.isIntegral_toJson (ofJson?_toJson h)

/-- Every value is found again in the compact text of its JSON, as long as its lines and counts of
ticks fit 64 bits. -/
theorem json_round_trips :
    (∀ command, RoundTrips Command.toJson Command.ofJson? command) ∧
    (∀ condition, RoundTrips Condition.toJson Condition.ofJson? condition) ∧
    (∀ statement, RoundTrips Statement.toJson Statement.ofJson? statement) ∧
    (∀ block : Block, block.Fits → RoundTrips Block.toJson (Block.ofJson? 0) block) ∧
    (∀ program : Program, program.Fits → RoundTrips Program.toJson Program.ofJson? program) ∧
    (∀ status, RoundTrips TickStatus.toJson TickStatus.ofJson? status) ∧
    (∀ tile, RoundTrips Tile.toJson Tile.ofJson? tile) ∧
    (∀ bot, RoundTrips Bot.toJson Bot.ofJson? bot) ∧
    (∀ heading, RoundTrips Heading.toJson Heading.ofJson? heading) ∧
    (∀ crop, RoundTrips Crop.toJson Crop.ofJson? crop) ∧
    (∀ grid, RoundTrips Grid.toJson Grid.ofJson? grid) ∧
    (∀ world, RoundTrips World.toJson World.ofJson? world) ∧
    (∀ outcome : Outcome, outcome.Fits → RoundTrips Outcome.toJson Outcome.ofJson? outcome) ∧
    (∀ step : TraceStep, step.Fits → RoundTrips TraceStep.toJson TraceStep.ofJson? step) ∧
    (∀ level, RoundTrips LogLevel.toJson LogLevel.ofJson? level) ∧
    (∀ message, RoundTrips Tutor.ChatMessage.toJson Tutor.ChatMessage.ofJson? message) ∧
    (∀ role, RoundTrips Tutor.Role.toJson Tutor.Role.ofJson? role) := by
  refine ⟨fun command => ?_, fun condition => ?_, fun statement => ?_, fun block hblock => ?_,
    fun program hprogram => ?_, fun status => ?_, fun tile => ?_, fun bot => ?_, fun heading => ?_,
    fun crop => ?_, fun grid => ?_, fun world => ?_, fun outcome houtcome => ?_,
    fun step hstep => ?_, fun level => ?_, fun message => ?_, fun role => ?_⟩
  · exact .of_isIntegral (Json.isIntegral_text _) command.ofJson?_toJson
  · exact .of_isIntegral condition.isIntegral_toJson condition.ofJson?_toJson
  · exact .of_isIntegral statement.isIntegral_toJson statement.ofJson?_toJson
  · exact .of_isIntegral block.isIntegral_toJson (Block.ofJson?_toJson 0 hblock)
  · exact .of_isIntegral program.isIntegral_toJson (Program.ofJson?_toJson hprogram)
  · exact .of_isIntegral (Json.isIntegral_text _) status.ofJson?_toJson
  · exact .of_isIntegral tile.isIntegral_toJson tile.ofJson?_toJson
  · exact .of_isIntegral bot.isIntegral_toJson bot.ofJson?_toJson
  · exact .of_isIntegral heading.isIntegral_toJson heading.ofJson?_toJson
  · exact .of_isIntegral crop.isIntegral_toJson crop.ofJson?_toJson
  · exact .of_isIntegral grid.isIntegral_toJson grid.ofJson?_toJson
  · exact .of_isIntegral world.isIntegral_toJson world.ofJson?_toJson
  · exact .of_isIntegral outcome.isIntegral_toJson (Outcome.ofJson?_toJson houtcome)
  · exact TraceStep.roundTrips hstep
  · exact .of_isIntegral (Json.isIntegral_text _) level.ofJson?_toJson
  · exact .of_isIntegral message.isIntegral_toJson message.ofJson?_toJson
  · exact .of_isIntegral (Json.isIntegral_text _) role.ofJson?_toJson

/-- A program inside two blocks at the last line that fits, and a run that was halted there by a
message with a quote, a backslash, a line break and a control character. -/
theorem json_round_trips_last_line :
    RoundTrips Program.toJson Program.ofJson?
        ⟨18446744073709551615, [⟨.forLoop 0 4294967295, 18446744073709551614, 4⟩, ⟨.whileLoop, 0, 0⟩]⟩ ∧
      RoundTrips Outcome.toJson Outcome.ofJson? (.halted (18446744073709551615) "\"no\\\n\x01é😀") := by
  obtain ⟨_, _, _, _, hprogram, _, _, _, _, _, _, _, houtcome, _⟩ := json_round_trips
  refine ⟨hprogram _ ⟨by decide, ?_⟩, houtcome _ ?_⟩
  · simp [Block.Fits, UInt64.size]
  · simp [Outcome.Fits, UInt64.size]

end FarmScript
