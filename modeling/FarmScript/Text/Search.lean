/-! # Searching a text

* `afterStart? pattern text`: what follows `pattern` when the text starts with it;
* `splitOnce? pattern text`: the parts of the text before and after the first `pattern`; whether a
  pattern occurs, and the text on either side of it, are read off this one search;
* `splitLines text`: the text cut at every line feed.
-/

namespace FarmScript.Text
set_option autoImplicit false

/-- The rest of a text that starts with `pattern`. -/
def afterStart? : (pattern text : List Char) → Option (List Char)
  | [], text => some text
  | _ :: _, [] => none
  | p :: pattern, c :: text => if p = c then afterStart? pattern text else none

/-- Whether a text starts with `pattern`. -/
def startsWith (pattern text : List Char) : Bool := (afterStart? pattern text).isSome

/-- The texts before and after the first occurrence of `pattern`. -/
def splitOnce? (pattern : List Char) : List Char → Option (List Char × List Char)
  | [] => (afterStart? pattern []).map ([], ·)
  | c :: text =>
    match afterStart? pattern (c :: text) with
    | some rest => some ([], rest)
    | none => (splitOnce? pattern text).map fun (before, after) => (c :: before, after)

/-- Whether `pattern` occurs in a text. -/
def contains (pattern text : List Char) : Bool := (splitOnce? pattern text).isSome

/-- The text after the first occurrence of `pattern`. -/
def after? (pattern text : List Char) : Option (List Char) := (splitOnce? pattern text).map (·.2)

/-- The text up to the first occurrence of `pattern`, or all of it. -/
def before (pattern text : List Char) : List Char :=
  ((splitOnce? pattern text).map (·.1)).getD text

/-- The text split at every line feed; a text without one is a single line. -/
def splitLines (text : List Char) : List (List Char) :=
  text.foldr (fun c lines =>
    if c = '\n' then [] :: lines
    else match lines with
      | [] => [[c]]
      | line :: rest => (c :: line) :: rest) [[]]

end FarmScript.Text
