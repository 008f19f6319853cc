import FarmScript.Json.Reader
import FarmScript.Json.Writer
import FarmScript.Proofs.Json.Lexeme
import FarmScript.Proofs.Text.Numerals
import Mathlib.Data.List.TakeWhile

/-! # JSON documents

`tokens` gives the tokens of a value, and `Reader` finds the value in them (`finds`). So a text
that spells the tokens of a value reads as the value, however it is spelled (`read?_of_spells`).

Both writers spell the tokens of the value they write (`spells_writeChars`, `spells_prettyChars`),
as long as its numbers are integers (`IsIntegral`): the literal of a decimal need not show its
scale.
-/

namespace FarmScript.Json
set_option autoImplicit false

/-- What holds of an array if it holds of its items, and of an object if it holds of the values of
its members, holds of every value. -/
theorem nested_induction {P : Json → Prop} (null : P .null) (bool : ∀ value, P (.bool value))
    (number : ∀ value, P (.number value)) (string : ∀ text, P (.string text))
    (array : ∀ items, (∀ item ∈ items, P item) → P (.array items))
    (object : ∀ members, (∀ member ∈ members, P member.2) → P (.object members)) (json : Json) :
    P json := by
  refine @Json.rec P (fun items => ∀ item ∈ items, P item)
    (fun members => ∀ member ∈ members, P member.2) (fun member => P member.2)
    null bool number string array object ?_ ?_ ?_ ?_ ?_ json
  · simp
  · intro first items hfirst hitems
    exact List.forall_mem_cons.mpr ⟨hfirst, hitems⟩
  · simp
  · intro first members hfirst hmembers
    exact List.forall_mem_cons.mpr ⟨hfirst, hmembers⟩
  · intro key value hvalue
    exact hvalue

/-! ## The tokens of a value -/

mutual

/-- The tokens of a value. -/
def tokens : Json → List Token
  | .null => [.null]
  | .bool value => [.bool value]
  | .number value => [.number value]
  | .string text => [.string text]
  | .array items => .openArray :: (itemTokens items ++ [.closeArray])
  | .object members => .openObject :: (memberTokens members ++ [.closeObject])

def itemTokens : List Json → List Token
  | [] => []
  | [item] => tokens item
  | item :: rest => tokens item ++ .comma :: itemTokens rest

def memberTokens : List (Option String × Json) → List Token
  | [] => []
  | [(key, value)] => .string key :: .colon :: tokens value
  | (key, value) :: rest => .string key :: .colon :: (tokens value ++ .comma :: memberTokens rest)

end

namespace Reader

/-- Whether a reader that expects a value finds this one in its tokens. -/
def Finds (json : Json) : Prop :=
  ∀ (layers : List Layer) (rest : List Token),
    (tokens json ++ rest).foldlM step (.expectValue layers) = rest.foldlM step (.after layers json)

/-- In an array that was just opened the first item is read like any other. -/
theorem foldlM_arrayStart (item : Json) (items : List Json) (layers : List Layer)
    (rest : List Token) :
    (itemTokens (item :: items) ++ rest).foldlM step (.arrayStart layers) =
      (itemTokens (item :: items) ++ rest).foldlM step (.expectValue (.array [] :: layers)) := by
  cases items <;> cases item <;> rfl

theorem foldlM_items (items earlier : List Json) (layers : List Layer) (rest : List Token)
    (hne : items ≠ []) (h : ∀ item ∈ items, Finds item) :
    (itemTokens items ++ .closeArray :: rest).foldlM step
        (.expectValue (.array earlier :: layers)) =
      rest.foldlM step (.after layers (.array (earlier.reverse ++ items))) := by
  induction items generalizing earlier with
  | nil => exact absurd rfl hne
  | cons item items ih =>
    have hitem := h item List.mem_cons_self (.array earlier :: layers)
    cases items with
    | nil =>
      calc
        _ = (.closeArray :: rest).foldlM step (.after (.array earlier :: layers) item) := hitem _
        _ = rest.foldlM step (.after layers (.array (item :: earlier).reverse)) := rfl
        _ = _ := by simp
    | cons next items =>
      have hrest := ih (item :: earlier) (List.cons_ne_nil _ _)
        fun other hmem => h other (List.mem_cons_of_mem item hmem)
      calc
        _ = (.comma :: (itemTokens (next :: items) ++ .closeArray :: rest)).foldlM step
            (.after (.array earlier :: layers) item) := by
          rw [← hitem]
          simp [itemTokens]
        _ = (itemTokens (next :: items) ++ .closeArray :: rest).foldlM step
            (.expectValue (.array (item :: earlier) :: layers)) := rfl
        _ = _ := by simp [hrest]

theorem foldlM_members (members earlier : List (Option String × Json)) (layers : List Layer)
    (rest : List Token) (start : Reader) (hne : members ≠ [])
    (hstart : ∀ key, start.step (.string key) = some (.expectColon layers earlier key))
    (h : ∀ member ∈ members, Finds member.2) :
    (memberTokens members ++ .closeObject :: rest).foldlM step start =
      rest.foldlM step (.after layers (.object (earlier.reverse ++ members))) := by
  induction members generalizing earlier start with
  | nil => exact absurd rfl hne
  | cons member members ih =>
    obtain ⟨key, value⟩ := member
    have hvalue := h (key, value) List.mem_cons_self (.object earlier key :: layers)
    have hkey (more : List Token) : (.string key :: .colon :: more).foldlM step start =
        more.foldlM step (.expectValue (.object earlier key :: layers)) := by
      rw [List.foldlM_cons, hstart]
      rfl
    cases members with
    | nil =>
      calc
        _ = (.closeObject :: rest).foldlM step (.after (.object earlier key :: layers) value) :=
          (hkey _).trans (hvalue _)
        _ = rest.foldlM step (.after layers (.object ((key, value) :: earlier).reverse)) := rfl
        _ = _ := by simp
    | cons next members =>
      have hrest := ih ((key, value) :: earlier) (.expectKey layers ((key, value) :: earlier))
        (List.cons_ne_nil _ _) (fun _ => rfl)
        fun other hmem => h other (List.mem_cons_of_mem _ hmem)
      calc
        _ = (.comma :: (memberTokens (next :: members) ++ .closeObject :: rest)).foldlM step
            (.after (.object earlier key :: layers) value) := by
          rw [← hvalue, ← hkey]
          simp [memberTokens]
        _ = (memberTokens (next :: members) ++ .closeObject :: rest).foldlM step
            (.expectKey layers ((key, value) :: earlier)) := rfl
        _ = _ := by simp [hrest]

theorem finds (json : Json) : Finds json := by
  induction json using nested_induction with
  | null => exact fun _ _ => rfl
  | bool value => exact fun _ _ => rfl
  | number value => exact fun _ _ => rfl
  | string text => exact fun _ _ => rfl
  | array items ih =>
    intro layers rest
    cases items with
    | nil => rfl
    | cons item items =>
      have hitems := foldlM_items (item :: items) [] layers rest (List.cons_ne_nil _ _) ih
      calc
        _ = (itemTokens (item :: items) ++ .closeArray :: rest).foldlM step
            (.arrayStart layers) := by
          rw [tokens, List.cons_append, List.append_assoc]
          rfl
        _ = _ := (foldlM_arrayStart item items layers _).trans hitems
  | object members ih =>
    intro layers rest
    cases members with
    | nil => rfl
    | cons member members =>
      have hmembers := foldlM_members (member :: members) [] layers rest (.objectStart layers)
        (List.cons_ne_nil _ _) (fun _ => rfl) ih
      calc
        _ = (memberTokens (member :: members) ++ .closeObject :: rest).foldlM step
            (.objectStart layers) := by
          rw [tokens, List.cons_append, List.append_assoc]
          rfl
        _ = _ := hmembers

end Reader

theorem ofTokens?_tokens (json : Json) : ofTokens? (tokens json) = some json := by
  have hfold := Reader.finds json [] []
  rw [List.append_nil] at hfold
  simp [ofTokens?, hfold, Reader.finish?]

/-- A text that spells the tokens of a value reads as the value. -/
theorem read?_of_spells {json : Json} {text : String} (h : Spells (tokens json) text.toList) :
    read? text = some json := by
  simp [read?, scan_of_spells h, ofTokens?_tokens]

/-! ## Written strings -/

theorem hexValue?_digitChar : ∀ n < 16, hexValue? (Nat.digitChar n) = some n := by
  decide

theorem textOfPieces_unit {value : Nat} (h : value < 0xD800) (rest : List Piece) :
    textOfPieces (.unit value :: rest) = (textOfPieces rest).map (Char.ofNat value :: ·) := by
  have hhigh : isHighSurrogate value = false := by simp [isHighSurrogate]; omega
  have hlow : isLowSurrogate value = false := by simp [isLowSurrogate]; omega
  rw [textOfPieces.eq_def]
  split <;> simp_all

/-- A character is escaped by a letter, or by its number if it is a control character, or it stands
for itself. -/
theorem escape_cases (c : Char) :
    (∃ e, escaped? e = some c ∧ escape c = ['\\', e]) ∨
    (c.toNat < 0x20 ∧ escape c =
      ['\\', 'u', '0', '0', Nat.digitChar (c.toNat / 16), Nat.digitChar (c.toNat % 16)]) ∨
    (c ≠ '"' ∧ c ≠ '\\' ∧ 0x20 ≤ c.toNat ∧ escape c = [c]) := by
  by_cases hquote : c = '"'
  · exact .inl ⟨'"', by rw [hquote]; rfl, by rw [hquote]; rfl⟩
  by_cases hslash : c = '\\'
  · exact .inl ⟨'\\', by rw [hslash]; rfl, by rw [hslash]; rfl⟩
  by_cases hback : c = '\x08'
  · exact .inl ⟨'b', by rw [hback]; rfl, by rw [hback]; rfl⟩
  by_cases hfeed : c = '\x0c'
  · exact .inl ⟨'f', by rw [hfeed]; rfl, by rw [hfeed]; rfl⟩
  by_cases hline : c = '\n'
  · exact .inl ⟨'n', by rw [hline]; rfl, by rw [hline]; rfl⟩
  by_cases hreturn : c = '\r'
  · exact .inl ⟨'r', by rw [hreturn]; rfl, by rw [hreturn]; rfl⟩
  by_cases htab : c = '\t'
  · exact .inl ⟨'t', by rw [htab]; rfl, by rw [htab]; rfl⟩
  have hescape : escape c = if c.toNat < 0x20 then
      ['\\', 'u', '0', '0', Nat.digitChar (c.toNat / 16), Nat.digitChar (c.toNat % 16)]
      else [c] := by
    rw [escape, if_neg hquote, if_neg hslash, if_neg hback, if_neg hfeed, if_neg hline,
      if_neg hreturn, if_neg htab]
  by_cases hcontrol : c.toNat < 0x20
  · exact .inr (.inl ⟨hcontrol, by rw [hescape, if_pos hcontrol]⟩)
  · exact .inr (.inr ⟨hquote, hslash, Nat.not_lt.mp hcontrol, by rw [hescape, if_neg hcontrol]⟩)

theorem exists_piece (c : Char) :
    ∃ piece : Piece, piece.Spelled (escape c) ∧
      ∀ rest, textOfPieces (piece :: rest) = (textOfPieces rest).map (c :: ·) := by
  rcases escape_cases c with ⟨e, he, hescape⟩ | ⟨hcontrol, hescape⟩ |
    ⟨hquote, hslash, hcontrol, hescape⟩ <;> rw [hescape]
  · exact ⟨.char c, .letter he, fun _ => rfl⟩
  · have hhex := @Piece.Spelled.hex '0' '0' _ _ 0 0 _ _ rfl rfl
      (hexValue?_digitChar (c.toNat / 16) (by omega))
      (hexValue?_digitChar (c.toNat % 16) (by omega))
    have hvalue : 16 * (16 * (16 * 0 + 0) + c.toNat / 16) + c.toNat % 16 = c.toNat := by omega
    rw [hvalue] at hhex
    refine ⟨.unit c.toNat, hhex, fun rest => ?_⟩
    rw [textOfPieces_unit (by omega), Char.ofNat_toNat]
  · exact ⟨.char c, .plain hquote hslash hcontrol, fun _ => rfl⟩

theorem exists_pieces (text : List Char) :
    ∃ pieces, PiecesSpelled pieces (text.flatMap escape) ∧ textOfPieces pieces = some text := by
  induction text with
  | nil => exact ⟨[], .nil, rfl⟩
  | cons c text ih =>
    obtain ⟨piece, hpiece, hc⟩ := exists_piece c
    obtain ⟨pieces, hpieces, htext⟩ := ih
    exact ⟨piece :: pieces, .cons hpiece hpieces, by rw [hc, htext, Option.map_some]⟩

theorem spelled_writeText (text : Option String) :
    (Token.string text).Spelled (writeText text) := by
  cases text with
  | some text =>
    obtain ⟨pieces, hpieces, htext⟩ := exists_pieces text.toList
    have hspelled := Token.Spelled.string hpieces
    rw [htext, Option.map_some, String.ofList_toList] at hspelled
    exact hspelled
  | none =>
    have hunit : Piece.Spelled (.unit 0xD800) ['\\', 'u', 'd', '8', '0', '0'] :=
      @Piece.Spelled.hex 'd' '8' '0' '0' 13 8 0 0 rfl rfl rfl rfl
    exact .string (.cons hunit .nil)

/-! ## Written numbers -/

theorem eq_zero_of_head?_decimal {n : Nat} (h : (Text.decimal n).head? = some '0') : n = 0 := by
  induction n using Nat.strongRecOn with
  | ind n ih =>
    rw [Text.decimal, Nat.toDigits_eq_if (by decide)] at h
    split at h
    · simpa using h
    · next hten =>
      obtain ⟨c, digits, hdigits⟩ := List.exists_cons_of_ne_nil (@Nat.toDigits_ne_nil (n / 10) 10)
      rw [hdigits] at h
      have hhead : (Text.decimal (n / 10)).head? = some '0' := by
        rw [Text.decimal, hdigits]
        exact h
      have hquotient := ih (n / 10) (by omega) hhead
      omega

theorem magnitude?_decimal (negative : Bool) (n : Nat) :
    magnitude? negative (Text.decimal n) = some
      (if negative then if n = 0 then .decimal ⟨true, 0, 0⟩ else .integer (-(n : Int))
      else .integer n) := by
  have hdigits : ∀ c ∈ Text.decimal n, Text.isDigit c = true :=
    fun c hc => Text.isDigit_of_mem_decimal hc
  have hwhole : (Text.decimal n).takeWhile Text.isDigit = Text.decimal n :=
    List.takeWhile_eq_self_iff.mpr hdigits
  have hrest : (Text.decimal n).dropWhile Text.isDigit = [] :=
    List.dropWhile_eq_nil_iff.mpr hdigits
  have hzero : ¬ (Text.decimal n = [] ∨ (Text.decimal n).head? = some '0' ∧
      Text.decimal n ≠ ['0']) := by
    rintro (hnil | ⟨hhead, hne⟩)
    · exact Nat.toDigits_ne_nil hnil
    · rw [eq_zero_of_head?_decimal hhead] at hne
      exact hne (Nat.toDigits_zero 10)
  simp only [magnitude?, hwhole, hrest, if_neg hzero]
  simp [exponent?, Text.digitsValue_decimal]

theorem number?_signedDecimal (n : Int) :
    number? (Text.signedDecimal n) = some (.integer n) := by
  unfold Text.signedDecimal
  split
  · next hneg =>
    have hvalue : -(n.natAbs : Int) = n := by omega
    have hne : n.natAbs ≠ 0 := by omega
    rw [number?, magnitude?_decimal, if_pos rfl, if_neg hne, hvalue]
  · next hnonneg =>
    have hvalue : (n.natAbs : Int) = n := by omega
    unfold number?
    split
    · next literal htext => exact absurd htext (Text.decimal_ne_cons rfl)
    · rw [magnitude?_decimal, if_neg Bool.false_ne_true, hvalue]

theorem spelled_signedDecimal (n : Int) :
    (Token.number (.integer n)).Spelled (Text.signedDecimal n) := by
  have hnumber := number?_signedDecimal n
  have hchars (c : Char) (hc : c ∈ Text.signedDecimal n) : c = '-' ∨ Text.isDigit c = true :=
    Text.isDigit_or_sign_of_mem_signedDecimal hc
  obtain ⟨c, literal, htext⟩ := List.exists_cons_of_ne_nil (Text.signedDecimal_ne_nil n)
  rw [htext] at hnumber hchars ⊢
  refine .number hnumber (hchars c List.mem_cons_self) ?_
  intro d hd
  rcases hchars d (List.mem_cons_of_mem c hd) with rfl | hdigit
  · rfl
  · simp [isNumberChar, hdigit]

/-! ## Written documents -/

/-- Whether all numbers of a value are integers. -/
inductive IsIntegral : Json → Prop
  | null : IsIntegral .null
  | bool (value : Bool) : IsIntegral (.bool value)
  | integer (value : Int) : IsIntegral (.number (.integer value))
  | string (text : Option String) : IsIntegral (.string text)
  | array {items : List Json} (h : ∀ item ∈ items, IsIntegral item) : IsIntegral (.array items)
  | object {members : List (Option String × Json)} (h : ∀ member ∈ members, IsIntegral member.2) :
      IsIntegral (.object members)

theorem spells_bool (value : Bool) : Spells [.bool value] (writeBool value) := by
  cases value <;> exact .lexeme (.word rfl)

theorem spells_writeItems {items : List Json}
    (h : ∀ item ∈ items, Spells (tokens item) (writeChars item)) :
    Spells (itemTokens items) (writeItems items) := by
  induction items with
  | nil => exact .nil
  | cons item items ih =>
    have hitem := h item List.mem_cons_self
    have hrest := ih fun other hmem => h other (List.mem_cons_of_mem item hmem)
    cases items with
    | nil => exact hitem
    | cons next items => exact hitem.append_mark rfl hrest

theorem spells_member (key : Option String) {value : Json} {text : List Char}
    (h : Spells (tokens value) text) :
    Spells (.string key :: .colon :: tokens value) (writeText key ++ ':' :: text) :=
  .token (spelled_writeText key) (.inl rfl) (.mark rfl h)

theorem spells_writeMembers {members : List (Option String × Json)}
    (h : ∀ member ∈ members, Spells (tokens member.2) (writeChars member.2)) :
    Spells (memberTokens members) (writeMembers members) := by
  induction members with
  | nil => exact .nil
  | cons member members ih =>
    obtain ⟨key, value⟩ := member
    have hmember := spells_member key (h (key, value) List.mem_cons_self)
    have hrest := ih fun other hmem => h other (List.mem_cons_of_mem _ hmem)
    cases members with
    | nil => exact hmember
    | cons next members => simpa [memberTokens, writeMembers] using hmember.append_mark rfl hrest

/-- The compact text of a value spells its tokens. -/
theorem spells_writeChars {json : Json} (h : IsIntegral json) :
    Spells (tokens json) (writeChars json) := by
  induction h with
  | null => exact .lexeme (.word rfl)
  | bool value => exact spells_bool value
  | integer value => exact .lexeme (spelled_signedDecimal value)
  | string text => exact .lexeme (spelled_writeText text)
  | array _ ih =>
    exact .mark rfl ((spells_writeItems ih).append_mark rfl .nil)
  | object _ ih => exact .mark rfl ((spells_writeMembers ih).append_mark rfl .nil)

theorem isGap_of_mem_lineBreak {depth : Nat} {c : Char} (h : c ∈ lineBreak depth) :
    Scanner.isGap c = true := by
  rcases List.mem_cons.mp h with rfl | h
  · rfl
  · rw [List.eq_of_mem_replicate h]
    rfl

theorem delimited_lineBreak (depth : Nat) (text : List Char) :
    Delimited (lineBreak depth ++ text) :=
  delimited_cons _ (by decide)

theorem Spells.lineBreak {tokens : List Token} {text : List Char} (depth : Nat)
    (h : Spells tokens text) : Spells tokens (Json.lineBreak depth ++ text) :=
  h.gaps fun _ hmem => isGap_of_mem_lineBreak hmem

theorem spells_prettyItems {items : List Json} (depth : Nat)
    (h : ∀ item ∈ items, ∀ depth, Spells (tokens item) (prettyChars depth item)) :
    Spells (itemTokens items) (prettyItems depth items) := by
  induction items with
  | nil => exact .nil
  | cons item items ih =>
    have hitem := h item List.mem_cons_self (depth + 1)
    have hrest := ih fun other hmem => h other (List.mem_cons_of_mem item hmem)
    cases items with
    | nil => exact hitem
    | cons next items => exact hitem.append_mark rfl (hrest.lineBreak depth)

theorem spells_prettyMembers {members : List (Option String × Json)} (depth : Nat)
    (h : ∀ member ∈ members, ∀ depth, Spells (tokens member.2) (prettyChars depth member.2)) :
    Spells (memberTokens members) (prettyMembers depth members) := by
  induction members with
  | nil => exact .nil
  | cons member members ih =>
    obtain ⟨key, value⟩ := member
    have hvalue : Spells (tokens value) (' ' :: prettyChars (depth + 1) value) :=
      .gap rfl (h (key, value) List.mem_cons_self (depth + 1))
    have hmember := spells_member key hvalue
    have hrest := ih fun other hmem => h other (List.mem_cons_of_mem _ hmem)
    cases members with
    | nil => simpa [memberTokens, prettyMembers] using hmember
    | cons next members =>
      simpa [memberTokens, prettyMembers] using hmember.append_mark rfl (hrest.lineBreak depth)

/-- The text of a value on several lines spells its tokens. -/
theorem spells_prettyChars {json : Json} (h : IsIntegral json) (depth : Nat) :
    Spells (tokens json) (prettyChars depth json) := by
  induction h generalizing depth with
  | null => exact .lexeme (.word rfl)
  | bool value => exact spells_bool value
  | integer value => exact .lexeme (spelled_signedDecimal value)
  | string text => exact .lexeme (spelled_writeText text)
  | @array items _ ih =>
    cases items with
    | nil => exact .mark rfl (.mark rfl .nil)
    | cons item items =>
      have hitems := (spells_prettyItems depth ih).lineBreak depth
      have hclose : Spells [.closeArray] (lineBreak (depth - 1) ++ [']']) :=
        .lineBreak _ (.mark rfl .nil)
      have hall := hitems.append hclose (delimited_lineBreak _ _)
      rw [← List.append_assoc] at hall
      exact .mark rfl hall
  | @object members _ ih =>
    cases members with
    | nil => exact .mark rfl (.mark rfl .nil)
    | cons member members =>
      have hmembers := (spells_prettyMembers depth ih).lineBreak depth
      have hclose : Spells [.closeObject] (lineBreak (depth - 1) ++ ['\x7d']) :=
        .lineBreak _ (.mark rfl .nil)
      have hall := hmembers.append hclose (delimited_lineBreak _ _)
      rw [← List.append_assoc] at hall
      exact .mark rfl hall

theorem read?_write {json : Json} (h : IsIntegral json) : read? json.write = some json := by
  apply read?_of_spells
  rw [write, String.toList_ofList]
  exact spells_writeChars h

theorem read?_writePretty {json : Json} (h : IsIntegral json) :
    read? json.writePretty = some json := by
  apply read?_of_spells
  rw [writePretty, String.toList_ofList]
  exact spells_prettyChars h 1

/-! ## Compact text is one line -/

theorem lineBreak_not_mem_escape (c : Char) : '\n' ∉ escape c := by
  have hdigit : ∀ n < 16, Nat.digitChar n ≠ '\n' := by decide
  rcases escape_cases c with ⟨e, he, hescape⟩ | ⟨hcontrol, hescape⟩ | ⟨_, _, hcontrol, hescape⟩ <;>
    rw [hescape]
  · have hne : e ≠ '\n' := by
      rintro rfl
      cases he
    simpa using hne.symm
  · have hhigh := hdigit (c.toNat / 16) (by omega)
    have hlow := hdigit (c.toNat % 16) (by omega)
    simp [hhigh.symm, hlow.symm]
  · have hne : c ≠ '\n' := by
      rintro rfl
      exact absurd hcontrol (by decide)
    simpa using hne.symm

theorem lineBreak_not_mem_writeText (text : Option String) : '\n' ∉ writeText text := by
  cases text with
  | none =>
    have hliteral : writeText none = ['"', '\\', 'u', 'd', '8', '0', '0', '"'] := rfl
    rw [hliteral]
    decide
  | some text =>
    have hliteral : writeText (some text) = '"' :: (text.toList.flatMap escape ++ ['"']) := rfl
    have hbody : '\n' ∉ text.toList.flatMap escape := by
      intro hmem
      obtain ⟨c, _, hc⟩ := List.mem_flatMap.mp hmem
      exact lineBreak_not_mem_escape c hc
    rw [hliteral]
    simpa using hbody

theorem lineBreak_not_mem_writeItems {items : List Json}
    (h : ∀ item ∈ items, '\n' ∉ writeChars item) : '\n' ∉ writeItems items := by
  induction items with
  | nil => simp [writeItems]
  | cons item items ih =>
    obtain ⟨hitem, hitems⟩ := List.forall_mem_cons.mp h
    cases items with
    | nil => simpa [writeItems] using hitem
    | cons next items => simp [writeItems, hitem, ih hitems]

theorem lineBreak_not_mem_writeMembers {members : List (Option String × Json)}
    (h : ∀ member ∈ members, '\n' ∉ writeChars member.2) : '\n' ∉ writeMembers members := by
  induction members with
  | nil => simp [writeMembers]
  | cons member members ih =>
    obtain ⟨key, value⟩ := member
    obtain ⟨hvalue, hmembers⟩ := List.forall_mem_cons.mp h
    cases members with
    | nil => simpa [writeMembers, lineBreak_not_mem_writeText] using hvalue
    | cons next members =>
      simp [writeMembers, lineBreak_not_mem_writeText, hvalue, ih hmembers]

theorem lineBreak_not_mem_writeChars {json : Json} (h : IsIntegral json) :
    '\n' ∉ writeChars json := by
  induction h with
  | null =>
    have hliteral : writeChars .null = ['n', 'u', 'l', 'l'] := rfl
    rw [hliteral]
    decide
  | bool value => cases value <;> decide +kernel
  | integer value => exact Text.not_mem_signedDecimal (by decide) rfl
  | string text => exact lineBreak_not_mem_writeText text
  | array _ ih => simp [writeChars, lineBreak_not_mem_writeItems ih]
  | object _ ih => simp [writeChars, lineBreak_not_mem_writeMembers ih]

end FarmScript.Json
