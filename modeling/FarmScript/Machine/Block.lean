import FarmScript.Farm.Tile

/-! # Open blocks

While a script runs, the blocks that have been entered and not yet left form a `Nesting`. A line
that is indented no deeper than a block's header closes the block. Closing works from the inside
out (`Nesting.close`): a block that is done goes away, and the first loop that still has to run
sends the script back to its header or its body.
-/

namespace FarmScript
set_option autoImplicit false

/-- What kind of header opened a block. -/
inductive Block.Kind where
  /-- A `for` block with the number of passes completed and the number of passes asked for. -/
  | forLoop (iteration target : UInt32)
  | whileLoop
  | ifThen
  | elseThen
deriving DecidableEq

/-- The name of a kind of block. -/
def Block.Kind.name : Block.Kind → String
  | forLoop _ _ => "for"
  | whileLoop => "while"
  | ifThen => "if"
  | elseThen => "else"

/-- A block that has been entered: its kind, the line of its header and the header's
indentation. -/
structure Block where
  kind : Block.Kind
  line : Nat
  indent : Nat
deriving DecidableEq

/-- Whether a line that is indented by `indent` closes the block. -/
def Block.isClosedBy (indent : Nat) (block : Block) : Bool := indent ≤ block.indent

/-- The open blocks, the innermost first. -/
abbrev Nesting := List Block

namespace Nesting

/-- The nesting with one more block inside. -/
def push (block : Block) (nesting : Nesting) : Nesting := block :: nesting

/-- The innermost block. -/
def peek? (nesting : Nesting) : Option Block := nesting.head?

/-- The innermost block and the blocks around it. -/
def pop? : Nesting → Option (Block × Nesting)
  | [] => none
  | block :: outer => some (block, outer)

/-- The innermost block and the blocks around it, if a line that is indented by `indent` closes
it. -/
def popClosedBy? (indent : Nat) : Nesting → Option (Block × Nesting)
  | [] => none
  | block :: outer => if block.isClosedBy indent then some (block, outer) else none

/-- What closing blocks comes to: a loop runs again from a line, with the blocks that are then
open, or the blocks that stay open are all that is left. -/
inductive Closing where
  | loopedBack (cursor : Nat) (nesting : Nesting)
  | fellThrough (nesting : Nesting)
deriving DecidableEq

/-- Closes the blocks that a line indented by `indent` closes. A `while` block goes back to its
header, which is then checked again; a `for` block with passes left goes back to the line after
its header; every other block is left. -/
def close (indent : Nat) : Nesting → Closing
  | [] => .fellThrough []
  | block :: outer =>
    if block.isClosedBy indent then
      match block.kind with
      | .whileLoop => .loopedBack block.line outer
      | .forLoop iteration target =>
        if saturatingAdd iteration 1 < target then
          .loopedBack (block.line + 1)
            ({ block with kind := .forLoop (iteration + 1) target } :: outer)
        else close indent outer
      | .ifThen | .elseThen => close indent outer
    else .fellThrough (block :: outer)

@[simp] theorem popClosedBy?_push (indent : Nat) (block : Block) (nesting : Nesting) :
    popClosedBy? indent (push block nesting)
      = if block.isClosedBy indent then some (block, nesting) else none := rfl

end Nesting

end FarmScript
