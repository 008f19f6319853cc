import FarmScript.Json.Value
import FarmScript.Text.Numeral

/-! # Reading records off JSON values

How the values of this library are found in a JSON value:

* a record is an object with its fields as members, or an array with its fields in order. Members
  with other keys are passed over; a field that is given twice, or an array that is too long, is
  refused (`slots?`);
* a plain variant is its name, or an object with the name as its only key and `null` as the value
  (`variant?`);
* a tagged record has the name of its variant as one more member, or as the first item of an array
  (`tagged?`). Its other parts are held back until the tag is known, so all of them must be values
  that can be held: numbers within the range of a double, texts without unpaired surrogates, and
  no more than `maxDepth` levels in the whole document.
-/

namespace FarmScript.Json
set_option autoImplicit false

/-! ## Scalars -/

/-- The truth value of a JSON value. -/
def toBool? : Json → Option Bool
  | .bool value => some value
  | _ => none

/-- The text of a JSON value. -/
def toText? : Json → Option String
  | .string text => text
  | _ => none

/-- The integer of a JSON value. -/
def toInt? : Json → Option Int
  | .number (.integer value) => some value
  | _ => none

/-- The signed 64-bit word of a JSON value. -/
def toInt64? (json : Json) : Option Int64 := json.toInt?.bind Text.signed64?

/-- The number of a JSON value that is not negative. -/
def toNat? (json : Json) : Option Nat :=
  json.toInt?.bind fun value => if 0 ≤ value then some value.toNat else none

/-- The number of a JSON value that fits 64 bits. -/
def toCount? (json : Json) : Option Nat :=
  json.toNat?.bind fun value => if value < UInt64.size then some value else none

/-- The 32-bit word of a JSON value. -/
def toUInt32? (json : Json) : Option UInt32 := json.toNat?.bind Text.word32?

/-- The 64-bit word of a JSON value. -/
def toUInt64? (json : Json) : Option UInt64 := json.toNat?.bind Text.word64?

/-- The items of an array, each read by `item?`. -/
def toList? {α : Type} (item? : Json → Option α) : Json → Option (List α)
  | .array items => items.mapM item?
  | _ => none

/-- The value read by `value?`, where `null` stands for none. -/
def toOption? {α : Type} (value? : Json → Option α) : Json → Option (Option α)
  | .null => some none
  | json => (value? json).map some

/-! ## Records -/

/-- A field of a record: given, absent from an object, or beyond the end of an array. -/
inductive Slot where
  | given (value : Json)
  | absent
  | cut

namespace Slot

/-- The value of a field that must be given. -/
def required? {α : Type} (value? : Json → Option α) : Slot → Option α
  | given json => value? json
  | absent | cut => none

/-- The value of a field that may be null, or absent from an object. -/
def optional? {α : Type} (value? : Json → Option α) : Slot → Option (Option α)
  | given json => json.toOption? value?
  | absent => some none
  | cut => none

/-- The value of a field that has a default. -/
def withDefault? {α : Type} (default : α) (value? : Json → Option α) : Slot → Option α
  | given json => value? json
  | absent | cut => some default

/-- The field of a variant that has nothing to say: absent from an object, or null. -/
def nothing? : Slot → Option Unit
  | given .null | absent => some ()
  | given _ | cut => none

end Slot

/-- The members of an object whose keys all stand for texts. -/
def namedMembers? (members : List (Option String × Json)) : Option (List (String × Json)) :=
  members.mapM fun (key, value) => key.map (·, value)

/-- The field of a name among the members of an object. -/
def memberSlot? (members : List (String × Json)) (name : String) : Option Slot :=
  match members.filter (·.1 = name) with
  | [] => some .absent
  | [(_, value)] => some (.given value)
  | _ => none

/-- The fields of the given names, in the order of the names. -/
def slots? (names : List String) : Json → Option (List Slot)
  | .object members => do
    let members ← namedMembers? members
    names.mapM (memberSlot? members)
  | .array items =>
    if items.length ≤ names.length then
      some (items.map .given ++ List.replicate (names.length - items.length) .cut)
    else none
  | _ => none

/-! ## Variants -/

/-- The name of a plain variant. -/
def variantName? : Json → Option String
  | .string name => name
  | .object [(name, .null)] => name
  | _ => none

/-- The one of `choices` whose name a JSON value gives. -/
def variant? {α : Type} (name : α → String) (choices : List α) (json : Json) : Option α :=
  json.variantName?.bind fun given => choices.find? (name · = given)

/-! ## Values that can be held -/

/-- The most levels of arrays and objects in a document whose values are held. -/
def maxDepth : Nat := 127

/-- The least number that is beyond the doubles: halfway between the largest double and the next
power of two. -/
def doubleLimit : Nat := Nat.pow 2 1024 - Nat.pow 2 970

/-- Whether a number is within the range of a double. -/
def Number.isFinite : Number → Bool
  | .integer value => value.natAbs < doubleLimit
  | .decimal ⟨_, digits, scale⟩ =>
    let length := (Nat.toDigits 10 digits).length
    if digits = 0 then true
    else if 310 < length + scale then false
    else match scale with
    | .ofNat zeros => digits * Nat.pow 10 zeros < doubleLimit
    | .negSucc _ =>
      -- the whole part decides: the limit is an integer
      length + scale ≤ 0 || digits / Nat.pow 10 scale.natAbs < doubleLimit

mutual

/-- Whether a value that stands inside `depth` arrays and objects can be held. -/
def isHoldable (depth : Nat) : Json → Bool
  | .null | .bool _ => true
  | .number value => value.isFinite
  | .string text => text.isSome
  | .array items => depth < maxDepth && areHoldable (depth + 1) items
  | .object members => depth < maxDepth && membersHoldable (depth + 1) members

/-- Whether all items of an array can be held. -/
def areHoldable (depth : Nat) : List Json → Bool
  | [] => true
  | item :: rest => isHoldable depth item && areHoldable depth rest

/-- Whether all members of an object can be held. -/
def membersHoldable (depth : Nat) : List (Option String × Json) → Bool
  | [] => true
  | (key, value) :: rest => key.isSome && isHoldable depth value && membersHoldable depth rest

end

/-- The name of the variant of a tagged record that stands inside `depth` arrays and objects, and
the record without its tag. -/
def tagged? (depth : Nat) (tag : String) : Json → Option (String × Json)
  | .object members => do
    let (own, rest) := members.partition (·.1 = some tag)
    match own with
    | [(_, .string (some name))] =>
      if membersHoldable (depth + 1) rest then some (name, .object rest) else none
    | _ => none
  | .array (.string (some name) :: rest) =>
    if areHoldable (depth + 1) rest then some (name, .array rest) else none
  | _ => none

end FarmScript.Json
