import FarmScript.Farm.Format
import FarmScript.Proofs.Json.Document

/-! # Records that were written

What is read off the records that this library writes: their fields (`slots?_record`), their tag
(`tagged?_record`) and the scalars in them.
-/

namespace FarmScript.Json
set_option autoImplicit false

/-! ## Records -/

theorem mapM_map_of_forall {α β γ : Type} {f : β → Option γ} {g : α → β} {h : α → γ}
    {xs : List α} (hxs : ∀ x ∈ xs, f (g x) = some (h x)) :
    (xs.map g).mapM f = some (xs.map h) := by
  induction xs with
  | nil => rfl
  | cons x xs ih =>
    have hrest := ih fun y hy => hxs y (List.mem_cons_of_mem x hy)
    rw [List.map_cons, List.mapM_cons, hxs x List.mem_cons_self, hrest]
    rfl

theorem namedMembers?_record (members : List (String × Json)) :
    namedMembers? (members.map fun (key, value) => (some key, value)) = some members := by
  refine (mapM_map_of_forall (h := id) ?_).trans (by rw [List.map_id])
  intro member _
  rfl

theorem filter_name_of_not_mem {members : List (String × Json)} {name : String}
    (h : name ∉ members.map Prod.fst) : members.filter (·.1 = name) = [] := by
  rw [List.filter_eq_nil_iff]
  intro member hmem hname
  exact h (List.mem_map.mpr ⟨member, hmem, by simpa using hname⟩)

theorem filter_name_of_mem {members : List (String × Json)} {member : String × Json}
    (hnodup : (members.map Prod.fst).Nodup) (h : member ∈ members) :
    members.filter (·.1 = member.1) = [member] := by
  induction members with
  | nil => cases h
  | cons first members ih =>
    rw [List.map_cons, List.nodup_cons] at hnodup
    rcases List.mem_cons.mp h with rfl | h
    · rw [List.filter_cons_of_pos (by simp), filter_name_of_not_mem hnodup.1]
    · have hne : first.1 ≠ member.1 := fun heq =>
        hnodup.1 (heq ▸ List.mem_map_of_mem h)
      rw [List.filter_cons_of_neg (by simp [hne]), ih hnodup.2 h]

theorem memberSlot?_of_mem {members : List (String × Json)} {member : String × Json}
    (hnodup : (members.map Prod.fst).Nodup) (h : member ∈ members) :
    memberSlot? members member.1 = some (.given member.2) := by
  rw [memberSlot?, filter_name_of_mem hnodup h]

theorem slots?_record {members : List (String × Json)} (h : (members.map Prod.fst).Nodup) :
    (record members).slots? (members.map Prod.fst) = some (members.map fun m => .given m.2) := by
  rw [record, slots?, namedMembers?_record]
  exact mapM_map_of_forall fun member hmem => memberSlot?_of_mem h hmem

/-! ## Tagged records -/

theorem membersHoldable_record (depth : Nat) (members : List (String × Json)) :
    membersHoldable depth (members.map fun (key, value) => (some key, value)) =
      members.all fun member => member.2.isHoldable depth := by
  induction members with
  | nil => rfl
  | cons member members ih =>
    rw [List.map_cons, membersHoldable, ih]
    rfl

theorem isHoldable_record {depth : Nat} (members : List (String × Json)) (h : depth < maxDepth) :
    (record members).isHoldable depth =
      members.all fun member => member.2.isHoldable (depth + 1) := by
  simp [record, isHoldable, h, membersHoldable_record]

theorem isHoldable_int {n : Int} (depth : Nat) (h : n.natAbs < UInt64.size) :
    (int n).isHoldable depth = true := by
  have hlimit : UInt64.size ≤ doubleLimit := by decide +kernel
  have hfinite : n.natAbs < doubleLimit := Nat.lt_of_lt_of_le h hlimit
  simpa [int, isHoldable, Number.isFinite] using hfinite

theorem isHoldable_nat {n : Nat} (depth : Nat) (h : n < UInt64.size) :
    (nat n).isHoldable depth = true :=
  isHoldable_int depth h

@[simp] theorem isHoldable_ofUInt32 (depth : Nat) (word : UInt32) :
    (ofUInt32 word).isHoldable depth = true :=
  isHoldable_nat depth (Nat.lt_trans word.toNat_lt (by decide))

@[simp] theorem isHoldable_ofInt64 (depth : Nat) (word : Int64) :
    (ofInt64 word).isHoldable depth = true := by
  have hlow := word.le_toInt
  have hhigh := word.toInt_lt
  have hsize : UInt64.size = 18446744073709551616 := rfl
  exact isHoldable_int depth (by omega)

@[simp] theorem isHoldable_text (depth : Nat) (value : String) :
    (text value).isHoldable depth = true := by
  simp [text, isHoldable]

theorem tagged?_object {depth : Nat} {tag : String} (name : String)
    {rest : List (Option String × Json)} (htag : ∀ member ∈ rest, member.1 ≠ some tag)
    (hhold : membersHoldable (depth + 1) rest = true) :
    (object ((some tag, text name) :: rest)).tagged? depth tag = some (name, .object rest) := by
  have hown : rest.filter (fun member => decide (member.1 = some tag)) = [] := by
    rw [List.filter_eq_nil_iff]
    simpa using htag
  have hothers : rest.filter (not ∘ fun member => decide (member.1 = some tag)) = rest := by
    rw [List.filter_eq_self]
    simpa using htag
  simp [tagged?, List.partition_eq_filter_filter, hown, hothers, hhold, text]

theorem tagged?_record {depth : Nat} {tag : String} (name : String)
    {members : List (String × Json)} (htag : tag ∉ members.map Prod.fst)
    (hhold : ∀ member ∈ members, member.2.isHoldable (depth + 1) = true) :
    (record ((tag, text name) :: members)).tagged? depth tag = some (name, record members) := by
  apply tagged?_object
  · intro member hmem htagged
    obtain ⟨⟨key, value⟩, hkey, rfl⟩ := List.mem_map.mp hmem
    exact htag (List.mem_map.mpr ⟨(key, value), hkey, Option.some.inj htagged⟩)
  · rw [membersHoldable_record, List.all_eq_true]
    exact hhold

/-! ## Scalars -/

@[simp] theorem variantName?_text (name : String) : (text name).variantName? = some name := rfl

@[simp] theorem toBool?_bool (value : Bool) : (bool value).toBool? = some value := rfl

@[simp] theorem toText?_text (value : String) : (text value).toText? = some value := rfl

@[simp] theorem toOption?_optionalText (value : Option String) :
    (optionalText value).toOption? toText? = some value := by
  cases value <;> rfl

@[simp] theorem toNat?_nat (n : Nat) : (nat n).toNat? = some n := by
  simp [toNat?, toInt?, nat, int]

@[simp] theorem toUInt32?_ofUInt32 (word : UInt32) : (ofUInt32 word).toUInt32? = some word := by
  simp [toUInt32?, ofUInt32, Text.word32?_toNat]

@[simp] theorem toUInt64?_ofUInt64 (word : UInt64) : (ofUInt64 word).toUInt64? = some word := by
  simp [toUInt64?, ofUInt64, Text.word64?_toNat]

@[simp] theorem toInt64?_ofInt64 (word : Int64) : (ofInt64 word).toInt64? = some word :=
  Text.signed64?_toInt word

theorem toCount?_nat {n : Nat} (h : n < UInt64.size) : (nat n).toCount? = some n := by
  simp [toCount?, h]

theorem toList?_map {α : Type} {item? : Json → Option α} {toJson : α → Json} (xs : List α)
    (h : ∀ x ∈ xs, item? (toJson x) = some x) :
    (array (xs.map toJson)).toList? item? = some xs := by
  have hall := mapM_map_of_forall (h := id) h
  rwa [List.map_id] at hall

theorem variant?_text {α : Type} {name : α → String} {choices : List α} {value : α}
    (h : choices.find? (name · = name value) = some value) :
    variant? name choices (text (name value)) = some value := h

/-! ## Integral values -/

@[simp] theorem isIntegral_record {members : List (String × Json)} :
    IsIntegral (record members) ↔ ∀ member ∈ members, IsIntegral member.2 := by
  constructor
  · rintro (_ | _ | _ | _ | _ | h) member hmem
    exact h (some member.1, member.2) (List.mem_map_of_mem hmem)
  · intro h
    refine .object ?_
    rintro _ hmem
    obtain ⟨member, hmember, rfl⟩ := List.mem_map.mp hmem
    exact h member hmember

@[simp] theorem isIntegral_array {items : List Json} :
    IsIntegral (array items) ↔ ∀ item ∈ items, IsIntegral item :=
  ⟨fun | .array h => h, .array⟩

@[simp] theorem isIntegral_bool (value : Bool) : IsIntegral (bool value) := .bool value

@[simp] theorem isIntegral_text (value : String) : IsIntegral (text value) := .string value

@[simp] theorem isIntegral_optionalText (value : Option String) :
    IsIntegral (optionalText value) := by
  cases value with
  | none => exact .null
  | some value => exact .string value

@[simp] theorem isIntegral_nat (n : Nat) : IsIntegral (nat n) := .integer n

@[simp] theorem isIntegral_ofUInt32 (word : UInt32) : IsIntegral (ofUInt32 word) :=
  .integer word.toNat

@[simp] theorem isIntegral_ofUInt64 (word : UInt64) : IsIntegral (ofUInt64 word) :=
  .integer word.toNat

@[simp] theorem isIntegral_ofInt64 (word : Int64) : IsIntegral (ofInt64 word) :=
  .integer word.toInt

end FarmScript.Json
