import FarmScript.Proofs.Machine.Step

/-! # Structured programs

A structured program is a list of nodes: lines to carry out, and headers with a nested program.
It has a text and a meaning, and the meaning knows neither lines nor indentation nor open blocks.

* `render`: the text, one line a node, every body indented four columns deeper than its header.
* `Progress.unit`: one unit of evaluation. The field grows; then the next task is dealt with. A
  leaf is carried out. A header costs a unit and, if its block is entered, puts the body before
  what follows it, together with what the header asks for after the body: a `for` header the
  remaining passes, each after a unit in which nothing but growth happens (`Task.idle`), and a
  `while` header such a unit and then itself.
* `evaluate`: the farm and the tasks that are left after a number of units.
-/

namespace FarmScript

namespace Statement

/-- Whether a statement is one that a leaf can have: it says something and opens no block. -/
def isPlain : Statement → Bool
  | call _ | assignment | noOp => true
  | blank | whileLoop _ | forLoop _ | ifThen _ | elseThen => false

end Statement

namespace Structured
set_option autoImplicit false

/-! ## Nodes -/

/-- A line to carry out, written without blanks before it. -/
structure Leaf where
  text : String
  flush : Script.indentOf text = 0
  plain : (Statement.classify text).isPlain = true

/-- The text of a condition: what stands between the keyword and the colon of a header. -/
structure Guard where
  text : String
  noColon : ':' ∉ text.toList

/-- The condition that a guard spells. -/
def Guard.condition (guard : Guard) : Condition := Condition.parse guard.text

/-- The first line of a block. -/
inductive Header where
  | forLoop (count : UInt32)
  | whileLoop (guard : Guard)
  | ifThen (guard : Guard)
  | elseThen

/-- A leaf, or a header with the nodes of its body. -/
inductive Node where
  | leaf (leaf : Leaf)
  | block (header : Header) (body : List Node)

/-! ## Text -/

/-- The text of a header. -/
def Header.text : Header → String
  | forLoop count => "for i in range(" ++ Text.numeral count.toNat ++ "):"
  | whileLoop guard => "while " ++ guard.text ++ ":"
  | ifThen guard => "if " ++ guard.text ++ ":"
  | elseThen => "else:"

/-- A line at a depth: four blanks for each block around it, then its text. -/
def indented (depth : Nat) (text : String) : String :=
  String.ofList (List.replicate (4 * depth) ' ') ++ text

mutual

/-- The lines of a node at a depth. -/
def Node.lines : Node → Nat → List String
  | .leaf leaf, depth => [indented depth leaf.text]
  | .block header body, depth => indented depth header.text :: linesOf body (depth + 1)

/-- The lines of nodes at a depth. -/
def linesOf : List Node → Nat → List String
  | [], _ => []
  | node :: rest, depth => node.lines depth ++ linesOf rest depth

end

/-- The script of a structured program. -/
def render (nodes : List Node) : Script := ⟨(linesOf nodes 0).toArray⟩

/-! ## Meaning -/

/-- Something that takes a unit, with whether it stands inside a block: a node, or a unit in which
the field grows and nothing else happens. -/
inductive Task where
  | node (inside : Bool) (node : Node)
  | idle (inside : Bool)

/-- The nodes of a program or of a body as tasks. -/
def tasksOf (inside : Bool) (nodes : List Node) : List Task := nodes.map (Task.node inside)

/-- A number of further passes through a body, each after an idle unit. -/
def passes (body : List Node) : Nat → List Task
  | 0 => []
  | n + 1 => .idle true :: tasksOf true body ++ passes body n

/-- Whether the block of a header is entered. -/
def Header.isEntered (world : World) : Header → Bool
  | forLoop _ | elseThen => true
  | whileLoop guard | ifThen guard => guard.condition.holds world

/-- What a header that is entered asks for after its body: a `for` header with the number `n` runs
its body `max n 1` times, and a `while` header is checked again. -/
def Header.afterBody (inside : Bool) (body : List Node) : Header → List Task
  | forLoop count => passes body (max count.toNat 1 - 1)
  | whileLoop guard => [.idle inside, .node inside (.block (.whileLoop guard) body)]
  | ifThen _ | elseThen => []

/-- An evaluation: the tasks that are left, the farm, and whether the last unit was spent inside a
block. -/
structure Progress where
  tasks : List Task
  world : World
  inside : Bool

/-- An evaluation before its first unit. -/
def Progress.start (nodes : List Node) (world : World) : Progress where
  tasks := tasksOf false nodes
  world := world
  inside := false

/-- One unit of an evaluation. A finished evaluation only lets the field grow. -/
def Progress.unit (rules : Rules) (progress : Progress) : Progress :=
  let world := progress.world.grow rules.growthStep
  match progress.tasks with
  | [] => ⟨[], world, false⟩
  | .idle inside :: rest => ⟨rest, world, inside⟩
  | .node inside (.leaf leaf) :: rest =>
    ⟨rest, (Statement.classify leaf.text).effect rules world, inside⟩
  | .node inside (.block header body) :: rest =>
    if header.isEntered world then
      ⟨tasksOf true body ++ header.afterBody inside body ++ rest, world, true⟩
    else ⟨rest, world, inside⟩

/-- An evaluation after a number of units. -/
def evaluate (rules : Rules) (nodes : List Node) (world : World) : Nat → Progress
  | 0 => Progress.start nodes world
  | n + 1 => (evaluate rules nodes world n).unit rules

end Structured

end FarmScript
