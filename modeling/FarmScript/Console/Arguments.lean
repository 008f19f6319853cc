import FarmScript.Text.Numeral
import FarmScript.Text.Search

/-! # Command line arguments

What the words of a command line ask for. Words that start with a dash are options, up to a lone
`--`; all others are positional. Options have a long form (`--level 2`, `--level=2`) and some a
short one (`-l 2`, `-l2`), and short ones without a value can share a dash. An option that is
unknown, given twice or without its value, a number that does not fit and a word too many are all
refused.
-/

namespace FarmScript.Console
set_option autoImplicit false

/-! ## Options -/

/-- What an option does. -/
inductive Arity where
  /-- It stands alone. -/
  | flag
  /-- It takes a value. -/
  | value
  /-- It decides the whole command line, whatever follows. -/
  | final
deriving DecidableEq

/-- An option that a command knows. -/
structure OptionSpec where
  long : String
  short : Option Char
  arity : Arity
deriving DecidableEq

/-- The options and words of a command line, in their order. -/
structure Words where
  options : List (String × String)
  positional : List String
  /-- Whether a lone `--` was met. -/
  escaped : Bool
  /-- Whether an option decided the command line. -/
  final : Bool
deriving DecidableEq

namespace Words

/-- No words. -/
def empty : Words where
  options := []
  positional := []
  escaped := false
  final := false

/-- The words with one more option in front. -/
def addOption (name value : String) (words : Words) : Words :=
  { words with options := (name, value) :: words.options }

/-- The words with one more positional word in front. -/
def addPositional (word : String) (words : Words) : Words :=
  { words with positional := word :: words.positional }

/-- Whether an option was given. -/
def has (words : Words) (name : String) : Bool := words.options.any (·.1 = name)

/-- The value of an option. -/
def value? (words : Words) (name : String) : Option String := words.options.lookup name

/-- Whether no option was given twice. -/
def isOnce (words : Words) : Bool :=
  decide (words.options.map (·.1)).Nodup

end Words

/-- What a word with options in it comes to: options with their values, then perhaps an option
that needs the next word as its value, or one that decides the command line. -/
structure Cluster where
  options : List (String × String)
  pending : Option String
  final : Bool
deriving DecidableEq

/-- The options that share a dash. The first that takes a value takes the rest of the word. -/
def shortCluster? (specs : List OptionSpec) : List Char → Option Cluster
  | [] => some ⟨[], none, false⟩
  | c :: rest =>
    match specs.find? (·.short = some c) with
    | none => none
    | some spec =>
      match spec.arity with
      | .flag =>
        (shortCluster? specs rest).map fun cluster =>
          { cluster with options := (spec.long, "") :: cluster.options }
      | .final => some ⟨[], none, true⟩
      | .value =>
        match rest with
        | [] => some ⟨[], some spec.long, false⟩
        | '=' :: value => some ⟨[(spec.long, String.ofList value)], none, false⟩
        | value => some ⟨[(spec.long, String.ofList value)], none, false⟩

/-- The option of a word that starts with two dashes, which are left out. -/
def longOption? (specs : List OptionSpec) (word : List Char) : Option Cluster :=
  let (name, value?) := match Text.splitOnce? ['='] word with
    | some (name, value) => (name, some (String.ofList value))
    | none => (word, none)
  match specs.find? (·.long.toList = name) with
  | none => none
  | some spec =>
    match spec.arity, value? with
    | .flag, none => some ⟨[(spec.long, "")], none, false⟩
    | .final, none => some ⟨[], none, true⟩
    | .value, some value => some ⟨[(spec.long, value)], none, false⟩
    | .value, none => some ⟨[], some spec.long, false⟩
    | .flag, some _ | .final, some _ => none

/-- What a word is. -/
inductive WordKind where
  | escape
  | options (cluster : Option Cluster)
  | plain
deriving DecidableEq

/-- The kind of a word. A lone dash is a plain word. -/
def wordKind (specs : List OptionSpec) (word : String) : WordKind :=
  match word.toList with
  | ['-', '-'] => .escape
  | '-' :: '-' :: rest => .options (longOption? specs rest)
  | '-' :: c :: rest => .options (shortCluster? specs (c :: rest))
  | _ => .plain

/-- Sorts the words of a command line; `greedy` says that all words after the first positional one
are positional too. -/
def sortWords? (specs : List OptionSpec) (greedy : Bool) : List String → Option Words
  | [] => some Words.empty
  | word :: rest =>
    match wordKind specs word with
    | .escape => some { Words.empty with positional := rest, escaped := true }
    | .plain =>
      if greedy then some { Words.empty with positional := word :: rest }
      else (sortWords? specs greedy rest).map (Words.addPositional word)
    | .options none => none
    | .options (some cluster) =>
      let add (words : Words) : Words := { words with options := cluster.options ++ words.options }
      if cluster.final then some (add { Words.empty with final := true })
      else match cluster.pending with
      | none => (sortWords? specs greedy rest).map add
      | some name =>
        match rest with
        | [] => none
        | value :: rest =>
          if wordKind specs value = .plain then
            (sortWords? specs greedy rest).map fun words => add (words.addOption name value)
          else none

/-! ## Values -/

/-- The 32-bit number of a text, which may carry a sign. -/
def number32? (text : String) : Option UInt32 := do
  let value ← Text.integer? text.toList
  if 0 ≤ value then Text.word32? value.toNat else none

/-- The 64-bit number of a text, which may carry a plus sign. -/
def number64? (text : String) : Option UInt64 := do
  Text.word64? (← Text.natural? text.toList)

/-- The path of a text, which is never empty. -/
def path? (text : String) : Option String := if text = "" then none else some text

/-- The value of an option, read by `value?`; none if the option was not given. -/
def Words.optional? {α : Type} (words : Words) (name : String) (value? : String → Option α) :
    Option (Option α) :=
  match words.value? name with
  | none => some none
  | some text => (value? text).map some

/-! ## Orders -/

/-- How a script is to be run. -/
structure RunOrder where
  script : String
  level : UInt32
  rules : Option String
  maxTicks : Nat
  intervalMs : Option UInt64
  keepGoing : Bool
  render : Bool
  trace : Bool
deriving DecidableEq

/-- What the program is asked to do. -/
inductive Order where
  | run (order : RunOrder)
  | levels
  | level (id : UInt32)
  | vocabulary (json : Bool)
  | ask (question : String) (level : UInt32) (apply : Option String)
  | version
deriving DecidableEq

/-- An order, and whether only results are to be shown. -/
structure Invocation where
  order : Order
  quiet : Bool
deriving DecidableEq

/-- The options that every command knows. -/
def sharedSpecs : List OptionSpec :=
  [⟨"quiet", some 'q', .flag⟩, ⟨"verbose", some 'v', .flag⟩]

/-- The options that stand before the command. -/
def leadingSpecs : List OptionSpec := ⟨"version", some 'V', .final⟩ :: sharedSpecs

/-- The option that chooses a level. -/
def levelSpec : OptionSpec := ⟨"level", some 'l', .value⟩

/-- The options of `run`. -/
def runSpecs : List OptionSpec :=
  [levelSpec, ⟨"config", some 'c', .value⟩, ⟨"max-ticks", none, .value⟩,
    ⟨"interval-ms", none, .value⟩, ⟨"keep-going", none, .flag⟩, ⟨"render", none, .flag⟩,
    ⟨"trace", none, .flag⟩]
  ++ sharedSpecs

/-- The words of a command, if no option is given twice. -/
def commandWords? (specs : List OptionSpec) (greedy : Bool) (args : List String) : Option Words :=
  (sortWords? specs greedy args).bind fun words => if words.isOnce then some words else none

/-- The order of `run`. -/
def runOrder? (words : Words) : Option Order := do
  let [script] := words.positional | none
  return .run {
    script := ← path? script
    level := (← words.optional? "level" number32?).getD 1
    rules := ← words.optional? "config" path?
    maxTicks := ((← words.optional? "max-ticks" number64?).getD 1000).toNat
    intervalMs := ← words.optional? "interval-ms" number64?
    keepGoing := words.has "keep-going"
    render := words.has "render"
    trace := words.has "trace" }

/-- The order of `ask`: the words of the question are joined by spaces. -/
def askOrder? (words : Words) : Option Order := do
  if words.positional.isEmpty then none
  else
    return .ask (String.intercalate " " words.positional)
      ((← words.optional? "level" number32?).getD 1) (← words.optional? "apply" path?)

/-- The order of a command and the words after it. -/
def order? (command : String) (args : List String) : Option (Order × Words) :=
  match command with
  | "run" => do
    let words ← commandWords? runSpecs false args
    return (← runOrder? words, words)
  | "levels" => do
    let words ← commandWords? sharedSpecs false args
    if words.positional.isEmpty then return (.levels, words) else none
  | "level" => do
    let words ← commandWords? sharedSpecs false args
    let [id] := words.positional | none
    return (.level (← number32? id), words)
  | "vocab" => do
    let words ← commandWords? (⟨"json", none, .flag⟩ :: sharedSpecs) false args
    if words.positional.isEmpty then return (.vocabulary (words.has "json"), words) else none
  | "ask" => do
    let words ← commandWords? (levelSpec :: ⟨"apply", none, .value⟩ :: sharedSpecs) true args
    return (← askOrder? words, words)
  | _ => none

/-- What a command line asks for; none if it is refused. -/
def parseArguments? (args : List String) : Option Invocation := do
  let leading ← commandWords? leadingSpecs true args
  if leading.final then return ⟨.version, leading.has "quiet"⟩
  else if leading.escaped then none
  else
    let command :: rest := leading.positional | none
    let (order, words) ← order? command rest
    return ⟨order, leading.has "quiet" || words.has "quiet"⟩

end FarmScript.Console
