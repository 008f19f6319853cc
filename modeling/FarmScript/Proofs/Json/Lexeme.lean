import FarmScript.Json.Token

/-! # Texts of JSON tokens

`Token.Spelled` says how a token may be written: a string literal may escape what it likes, the
other tokens have one form each. A text spells a list of tokens (`Spells`) if it consists of their
lexemes, one after the other, with white space wherever wanted. A word or a number does not show
its own end, so white space or a mark has to follow it.

`Token.scan` finds the tokens of every such text (`scan_of_spells`). A scan that could end where it
is (`Scanner.finish?`) has the same future as one that stands between two tokens
(`foldlM_step_of_finish?`), which is what the induction over the text carries.
-/

namespace FarmScript.Json
set_option autoImplicit false

/-! ## Lexemes -/

/-- The ways to write a piece of a string literal. -/
inductive Piece.Spelled : Piece → List Char → Prop
  | plain {c : Char} (hquote : c ≠ '"') (hslash : c ≠ '\\') (hcontrol : 0x20 ≤ c.toNat) :
      Spelled (.char c) [c]
  | letter {e c : Char} (h : escaped? e = some c) : Spelled (.char c) ['\\', e]
  | hex {a b c d : Char} {w x y z : Nat} (ha : hexValue? a = some w) (hb : hexValue? b = some x)
      (hc : hexValue? c = some y) (hd : hexValue? d = some z) :
      Spelled (.unit (16 * (16 * (16 * w + x) + y) + z)) ['\\', 'u', a, b, c, d]

/-- The ways to write the pieces of a string literal one after the other. -/
inductive PiecesSpelled : List Piece → List Char → Prop
  | nil : PiecesSpelled [] []
  | cons {piece : Piece} {pieces : List Piece} {text body : List Char} (hpiece : piece.Spelled text)
      (hbody : PiecesSpelled pieces body) : PiecesSpelled (piece :: pieces) (text ++ body)

/-- The ways to write a token. -/
inductive Token.Spelled : Token → List Char → Prop
  | mark {c : Char} {token : Token} (h : Scanner.mark? c = some token) : Spelled token [c]
  | word {letters : List Char} {token : Token} (h : word? letters = some token) :
      Spelled token letters
  | number {c : Char} {literal : List Char} {value : Number}
      (h : number? (c :: literal) = some value) (hstart : c = '-' ∨ Text.isDigit c = true)
      (hliteral : ∀ d ∈ literal, isNumberChar d = true) : Spelled (.number value) (c :: literal)
  | string {pieces : List Piece} {body : List Char} (h : PiecesSpelled pieces body) :
      Spelled (.string ((textOfPieces pieces).map String.ofList)) ('"' :: (body ++ ['"']))

/-- Whether the last character of a token shows that the token ends there. -/
def Token.showsEnd : Token → Bool
  | .null | .bool _ | .number _ => false
  | .string _ | .openArray | .closeArray | .openObject | .closeObject | .comma | .colon => true

/-- White space and marks. -/
def delimiters : List Char := [' ', '\t', '\r', '\n', '[', ']', '\x7b', '\x7d', ',', ':']

/-- Whether a text is empty or starts with a delimiter. -/
def Delimited (text : List Char) : Prop := ∀ c ∈ text.head?, c ∈ delimiters

/-- The texts of a list of tokens. -/
inductive Spells : List Token → List Char → Prop
  | nil : Spells [] []
  | gap {tokens : List Token} {c : Char} {text : List Char} (hgap : Scanner.isGap c = true)
      (h : Spells tokens text) : Spells tokens (c :: text)
  | token {token : Token} {tokens : List Token} {lexeme text : List Char}
      (hlexeme : token.Spelled lexeme) (hend : token.showsEnd = true ∨ Delimited text)
      (h : Spells tokens text) : Spells (token :: tokens) (lexeme ++ text)

theorem delimited_nil : Delimited [] := by
  simp [Delimited]

theorem delimited_cons {c : Char} (text : List Char) (h : c ∈ delimiters) :
    Delimited (c :: text) := by
  simpa [Delimited] using h

theorem Delimited.append {text rest : List Char} (h : Delimited text) (hrest : Delimited rest) :
    Delimited (text ++ rest) := by
  cases text with
  | nil => exact hrest
  | cons c text => exact h

theorem mark?_eq_some {c : Char} {token : Token} (h : Scanner.mark? c = some token) :
    token.showsEnd = true ∧ c ∈ delimiters := by
  unfold Scanner.mark? at h
  split at h <;> cases h <;> decide

theorem word?_eq_some {letters : List Char} {token : Token} (h : word? letters = some token) :
    letters ≠ [] ∧ (∀ c ∈ letters, c.isAlpha = true) ∧ token.showsEnd = false := by
  rw [← List.all_eq_true]
  unfold word? at h
  split at h
  · next hnull =>
    cases h
    rw [hnull]
    decide
  · split at h
    · next htrue =>
      cases h
      rw [htrue]
      decide
    · split at h
      · next hfalse =>
        cases h
        rw [hfalse]
        decide
      · cases h

theorem Token.Spelled.ne_nil {token : Token} {lexeme : List Char} (h : token.Spelled lexeme) :
    lexeme ≠ [] := by
  cases h with
  | mark h => simp
  | word h => exact (word?_eq_some h).1
  | number h hstart hliteral => simp
  | string h => simp

namespace Spells

theorem append {tokens tokens' : List Token} {text text' : List Char} (h : Spells tokens text)
    (h' : Spells tokens' text') (hend : Delimited text') :
    Spells (tokens ++ tokens') (text ++ text') := by
  induction h with
  | nil => exact h'
  | gap hgap _ ih => exact .gap hgap ih
  | token hlexeme hclosed _ ih =>
    rw [List.cons_append, List.append_assoc]
    exact .token hlexeme (hclosed.imp_right fun h => h.append hend) ih

theorem mark {c : Char} {token : Token} {tokens : List Token} {text : List Char}
    (hmark : Scanner.mark? c = some token) (h : Spells tokens text) :
    Spells (token :: tokens) (c :: text) :=
  .token (.mark hmark) (.inl (mark?_eq_some hmark).1) h

theorem append_mark {c : Char} {token : Token} {tokens tokens' : List Token}
    {text text' : List Char} (h : Spells tokens text) (hmark : Scanner.mark? c = some token)
    (h' : Spells tokens' text') : Spells (tokens ++ token :: tokens') (text ++ c :: text') :=
  h.append (.mark hmark h') (delimited_cons _ (mark?_eq_some hmark).2)

theorem lexeme {token : Token} {text : List Char} (h : token.Spelled text) :
    Spells [token] text := by
  rw [← List.append_nil text]
  exact .token h (.inr delimited_nil) .nil

theorem gaps {tokens : List Token} {blanks text : List Char}
    (hblanks : ∀ c ∈ blanks, Scanner.isGap c = true) (h : Spells tokens text) :
    Spells tokens (blanks ++ text) := by
  induction blanks with
  | nil => exact h
  | cons c blanks ih =>
    exact .gap (hblanks c List.mem_cons_self) (ih fun d hd => hblanks d (List.mem_cons_of_mem c hd))

end Spells

/-! ## Scanning lexemes -/

namespace Scanner

theorem not_extends {c : Char} (h : c ∈ delimiters) :
    c.isAlpha = false ∧ isNumberChar c = false := by
  have hall : delimiters.all fun c => !c.isAlpha && !isNumberChar c := by decide
  simpa using List.all_eq_true.mp hall c h

theorem mem_delimiters_of_isGap {c : Char} (h : isGap c = true) : c ∈ delimiters := by
  simp only [isGap, Bool.or_eq_true, decide_eq_true_eq] at h
  rcases h with ((rfl | rfl) | rfl) | rfl <;> decide

theorem begin_gap {c : Char} (tokens : List Token) (h : isGap c = true) :
    begin tokens c = some ⟨tokens, .between⟩ := by
  simp [begin, h]

theorem begin_mark {c : Char} {token : Token} (tokens : List Token) (h : mark? c = some token) :
    begin tokens c = some ⟨token :: tokens, .between⟩ := by
  unfold mark? at h
  split at h <;> cases h <;> rfl

theorem begin_letter {c : Char} (tokens : List Token) (h : c.isAlpha = true) :
    begin tokens c = some ⟨tokens, .word [c]⟩ := by
  have hgap : isGap c ≠ true := by
    intro hgap
    simp [(not_extends (mem_delimiters_of_isGap hgap)).1] at h
  have hquote : c ≠ '"' := by
    rintro rfl
    cases h
  simp [begin, hgap, hquote, h]

theorem begin_number {c : Char} (tokens : List Token) (h : c = '-' ∨ Text.isDigit c = true) :
    begin tokens c = some ⟨tokens, .number [c]⟩ := by
  have hnumber : isNumberChar c = true := by
    rcases h with rfl | h
    · rfl
    · simp [isNumberChar, h]
  have hgap : isGap c ≠ true := by
    intro hgap
    simp [(not_extends (mem_delimiters_of_isGap hgap)).2] at hnumber
  have hquote : c ≠ '"' := by
    rintro rfl
    cases hnumber
  have halpha : c.isAlpha ≠ true := by
    intro halpha
    -- letters start at 65, and digits and the sign lie below
    have hletter : 65 ≤ c.val.toNat := by
      rcases (Bool.or_eq_true _ _).mp halpha with hupper | hlower
      · exact UInt32.le_iff_toNat_le.mp (of_decide_eq_true hupper).1
      · have hle := UInt32.le_iff_toNat_le.mp
          (of_decide_eq_true ((Bool.and_eq_true _ _).mp hlower).1)
        exact Nat.le_trans (by decide) hle
    rcases h with rfl | h
    · exact absurd hletter (by decide)
    · simp only [Text.isDigit, Char.le_def, Bool.and_eq_true, decide_eq_true_eq,
        UInt32.le_iff_toNat_le] at h
      have h9 : ('9' : Char).val.toNat = 57 := rfl
      omega
  simp [begin, hgap, hquote, halpha, h]

theorem step_of_finish? {scanner : Scanner} {tokens : List Token} {c : Char}
    (h : scanner.finish? = some tokens) (hc : scanner.mode = .between ∨ c ∈ delimiters) :
    scanner.step c = begin tokens c := by
  rcases scanner with ⟨earlier, mode⟩
  cases mode with
  | between =>
    obtain rfl : earlier = tokens := Option.some.inj h
    rfl
  | word letters =>
    have halpha := (not_extends (hc.resolve_left (by simp))).1
    simp only [step, halpha, h]
    rfl
  | number literal =>
    have hnumber := (not_extends (hc.resolve_left (by simp))).2
    simp only [step, hnumber, h]
    rfl
  | string pieces => cases h
  | escape pieces => cases h
  | hex pieces count value => cases h

/-- A scan that could end goes on like one that stands between two tokens. -/
theorem foldlM_step_of_finish? {scanner : Scanner} {tokens : List Token} {text : List Char}
    (h : scanner.finish? = some tokens) (hne : text ≠ [])
    (htext : scanner.mode = .between ∨ Delimited text) :
    text.foldlM step scanner = text.foldlM step ⟨tokens, .between⟩ := by
  obtain ⟨c, text, rfl⟩ := List.exists_cons_of_ne_nil hne
  have hc : scanner.mode = .between ∨ c ∈ delimiters :=
    htext.imp_right fun hdelimited => hdelimited c rfl
  rw [List.foldlM_cons, List.foldlM_cons, step_of_finish? h hc]
  rfl

theorem foldlM_letters {letters : List Char} (h : ∀ c ∈ letters, c.isAlpha = true)
    (tokens : List Token) (earlier : List Char) :
    letters.foldlM step ⟨tokens, .word earlier⟩ =
      some ⟨tokens, .word (letters.reverse ++ earlier)⟩ := by
  induction letters generalizing earlier with
  | nil => rfl
  | cons c letters ih =>
    have hc := h c List.mem_cons_self
    have hrest := ih (fun d hd => h d (List.mem_cons_of_mem c hd)) (c :: earlier)
    simp only [List.foldlM_cons, step, hc]
    simpa using hrest

theorem foldlM_literal {literal : List Char} (h : ∀ c ∈ literal, isNumberChar c = true)
    (tokens : List Token) (earlier : List Char) :
    literal.foldlM step ⟨tokens, .number earlier⟩ =
      some ⟨tokens, .number (literal.reverse ++ earlier)⟩ := by
  induction literal generalizing earlier with
  | nil => rfl
  | cons c literal ih =>
    have hc := h c List.mem_cons_self
    have hrest := ih (fun d hd => h d (List.mem_cons_of_mem c hd)) (c :: earlier)
    simp only [List.foldlM_cons, step, hc]
    simpa using hrest

theorem foldlM_piece {piece : Piece} {text : List Char} (h : piece.Spelled text)
    (tokens : List Token) (earlier : List Piece) :
    text.foldlM step ⟨tokens, .string earlier⟩ = some ⟨tokens, .string (piece :: earlier)⟩ := by
  cases h with
  | plain hquote hslash hcontrol => simp [step, hquote, hslash, Nat.not_lt.mpr hcontrol]
  | @letter e c h =>
    have hu : e ≠ 'u' := by
      rintro rfl
      cases h
    simp [step, h, hu]
  | hex ha hb hc hd => simp [step, ha, hb, hc, hd]

theorem foldlM_pieces {pieces : List Piece} {body : List Char} (h : PiecesSpelled pieces body)
    (tokens : List Token) (earlier : List Piece) :
    body.foldlM step ⟨tokens, .string earlier⟩ =
      some ⟨tokens, .string (pieces.reverse ++ earlier)⟩ := by
  induction h generalizing earlier with
  | nil => rfl
  | cons hpiece _ ih =>
    rw [List.foldlM_append, foldlM_piece hpiece]
    simpa using ih (_ :: earlier)

/-- A lexeme takes a scan to where it could end with one more token. -/
theorem exists_foldlM_lexeme {token : Token} {lexeme : List Char} (h : token.Spelled lexeme)
    (tokens : List Token) :
    ∃ scanner, lexeme.foldlM step ⟨tokens, .between⟩ = some scanner ∧
      scanner.finish? = some (token :: tokens) ∧
      (token.showsEnd = true → scanner.mode = .between) := by
  cases h with
  | mark h =>
    refine ⟨⟨token :: tokens, .between⟩, ?_, rfl, fun _ => rfl⟩
    simp [step, begin_mark tokens h]
  | word h =>
    obtain ⟨hne, hletters, hend⟩ := word?_eq_some h
    obtain ⟨c, letters, rfl⟩ := List.exists_cons_of_ne_nil hne
    refine ⟨⟨tokens, .word (letters.reverse ++ [c])⟩, ?_, ?_, fun hshows => ?_⟩
    · rw [List.foldlM_cons]
      simp only [step, begin_letter tokens (hletters c List.mem_cons_self)]
      exact foldlM_letters (fun d hd => hletters d (List.mem_cons_of_mem c hd)) tokens [c]
    · simp [finish?, h]
    · rw [hend] at hshows
      cases hshows
  | @number c literal value h hstart hliteral =>
    refine ⟨⟨tokens, .number (literal.reverse ++ [c])⟩, ?_, ?_, fun hend => by cases hend⟩
    · rw [List.foldlM_cons]
      simp only [step, begin_number tokens hstart]
      exact foldlM_literal hliteral tokens [c]
    · simp [finish?, h]
  | @string pieces body h =>
    refine ⟨⟨_ :: tokens, .between⟩, ?_, rfl, fun _ => rfl⟩
    have hbody := foldlM_pieces h tokens []
    have hopen : step ⟨tokens, .between⟩ '"' = some ⟨tokens, .string []⟩ := rfl
    rw [List.foldlM_cons, hopen]
    change (body ++ ['"']).foldlM step ⟨tokens, .string []⟩ = _
    rw [List.foldlM_append, hbody]
    simp [step]

theorem exists_foldlM_spells {tokens : List Token} {text : List Char} (h : Spells tokens text)
    {scanner : Scanner} {earlier : List Token} (hscanner : scanner.finish? = some earlier)
    (htext : scanner.mode = .between ∨ Delimited text) :
    ∃ last, text.foldlM step scanner = some last ∧
      last.finish? = some (tokens.reverse ++ earlier) := by
  induction h generalizing scanner earlier with
  | nil => exact ⟨scanner, rfl, hscanner⟩
  | gap hgap _ ih =>
    rw [foldlM_step_of_finish? hscanner (List.cons_ne_nil _ _) htext, List.foldlM_cons]
    simp only [step, begin_gap earlier hgap]
    exact ih rfl (.inl rfl)
  | @token token tokens lexeme text hlexeme hend _ ih =>
    have hne : lexeme ++ text ≠ [] := List.append_ne_nil_of_left_ne_nil hlexeme.ne_nil text
    obtain ⟨next, hnext, hfinish, hbetween⟩ := exists_foldlM_lexeme hlexeme earlier
    obtain ⟨last, hlast, hall⟩ := ih hfinish (hend.imp_left hbetween)
    refine ⟨last, ?_, by simp [hall]⟩
    rw [foldlM_step_of_finish? hscanner hne htext, List.foldlM_append, hnext]
    exact hlast

end Scanner

theorem scan_of_spells {tokens : List Token} {text : List Char} (h : Spells tokens text) :
    Token.scan text = some tokens := by
  have hstart : Scanner.finish? ⟨[], .between⟩ = some [] := rfl
  obtain ⟨last, hlast, hfinish⟩ := Scanner.exists_foldlM_spells h hstart (.inl rfl)
  simp [Token.scan, hlast, hfinish]

end FarmScript.Json
