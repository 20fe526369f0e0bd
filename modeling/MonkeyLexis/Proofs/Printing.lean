import Mathlib.Data.List.Chain
import MonkeyLexis.Proofs.Concatenation
import MonkeyLexis.Proofs.Tokenization

/-!
# Printing and scanning

Tokens are printed by writing their texts one behind the other with blanks in between. Blanks may be
missing between two texts, and then the scanner finds the printed tokens again, each where it was
written, as long as the two do not fuse: two letters, two digits, and an equals sign right behind
`=` or `!` do. Where two texts do fuse, the scanner finds other tokens, so blanks are needed there
and nowhere else.
-/

namespace MonkeyLexis

/-- A token as it is printed, with the blanks before it. -/
structure PrintedItem where
  gap : List Byte
  kind : TokenKind
  bytes : List Byte
  blank : ∀ byte ∈ gap, byte.isBlank = true
  /-- The end of the input is not printed. -/
  notEof : kind ≠ .eof
  spelled : kind.Spells bytes

namespace PrintedItem

/-- What the token keeps of the bytes that it is printed with. -/
def literal (item : PrintedItem) : String :=
  if item.kind = .illegal then "" else Text.ofSevenBit item.bytes

/-- Whether the two items are read as something else where nothing stands between them. -/
def FusesWith (item next : PrintedItem) : Prop :=
  (∃ last ∈ item.bytes.getLast?, ∃ first ∈ next.bytes.head?,
    last.isLetter = true ∧ first.isLetter = true) ∨
  (∃ last ∈ item.bytes.getLast?, ∃ first ∈ next.bytes.head?,
    last.isDigit = true ∧ first.isDigit = true) ∨
  ((item.bytes = [Byte.equalsSign] ∨ item.bytes = [Byte.exclamationMark]) ∧
    next.bytes.head? = some Byte.equalsSign)

instance (item next : PrintedItem) : Decidable (item.FusesWith next) :=
  inferInstanceAs (Decidable (_ ∨ _ ∨ _))

/-- Whether blanks stand before `next` in case that the two items would fuse. -/
def IsApartFrom (item next : PrintedItem) : Prop :=
  next.gap = [] → ¬item.FusesWith next

instance : DecidableRel IsApartFrom :=
  fun _ _ => inferInstanceAs (Decidable (_ → _))

end PrintedItem

/-- Items in turn, and the blanks behind the last of them. -/
structure Printing where
  items : List PrintedItem
  trailing : List Byte
  blank : ∀ byte ∈ trailing, byte.isBlank = true

namespace Printing

/-- Whether blanks stand wherever two neighbours would fuse. -/
def IsApart (printing : Printing) : Prop :=
  printing.items.IsChain PrintedItem.IsApartFrom

instance (printing : Printing) : Decidable printing.IsApart :=
  inferInstanceAs (Decidable (List.IsChain _ _))

def text (printing : Printing) : List Byte :=
  (printing.items.flatMap fun item => item.gap ++ item.bytes) ++ printing.trailing

/-- The tokens of the items that are written behind `before`. -/
def tokensBehind (before : List Byte) : List PrintedItem → List Token
  | [] => []
  | item :: items =>
      let start := before ++ item.gap
      let stop := start ++ item.bytes
      { kind := item.kind
        literal := item.literal
        start := placeBehind start
        stop := placeBehind stop } :: tokensBehind stop items

/-- The tokens that were printed, at the places where they were written. -/
def tokens (printing : Printing) : List Token :=
  tokensBehind [] printing.items ++ [Token.endOfInput (placeBehind printing.text)]

end Printing

namespace Layout

/-- Whether the text is made of blanks and lexemes, be it cut where the grammar cuts it or not. -/
def IsWritten : Layout → Prop
  | blanks gap => ∀ byte ∈ gap, byte.isBlank = true
  | lexeme gap first rest =>
      (∀ byte ∈ gap, byte.isBlank = true) ∧ first.IsSpelled ∧ rest.IsWritten

theorem isProper_of_maximal {layout : Layout} (before : List Byte) (written : layout.IsWritten)
    (maximal : ∀ token ∈ layout.tokensFrom (placeBehind before),
      ∀ next, (before ++ layout.bytes)[token.stop.offset]? = some next →
        token.kind.fusesWith next = false) : layout.IsProper := by
  induction layout generalizing before with
  | blanks gap => exact written
  | lexeme gap first rest ih =>
      rcases written with ⟨blank, spelled, writtenRest⟩
      have sameText : before ++ (gap ++ (first.bytes ++ rest.bytes)) =
          before ++ gap ++ first.bytes ++ rest.bytes := by simp
      rw [tokensFrom_lexeme, passAll_placeBehind, passAll_placeBehind, bytes_lexeme, sameText,
        List.forall_mem_cons] at maximal
      rcases maximal with ⟨maximalFirst, maximalRest⟩
      refine ⟨blank, spelled, ?_, ih _ writtenRest maximalRest⟩
      intro next head
      apply (Lexeme.fusesWith_kind next first).symm.trans
      apply maximalFirst next
      have stop : (placeBehind (before ++ gap ++ first.bytes)).offset =
          (before ++ gap ++ first.bytes).length := rfl
      rw [Token.ofLexeme, stop, ← List.head?_drop, List.drop_left]
      exact head

/-- The scanner reads the lexemes of a layout exactly if no lexeme is made longer by what follows
it. -/
theorem tokensOf_eq_iff_isProper {layout : Layout} (written : layout.IsWritten) :
    tokensOf layout.bytes = layout.tokensFrom .origin ↔ layout.IsProper := by
  constructor
  · intro scanned
    rcases exists_isProper layout.bytes with ⟨other, proper, sameBytes⟩
    have tokenization := isTokenization proper
    rw [← tokensOf_of_isProper proper, sameBytes, scanned] at tokenization
    apply isProper_of_maximal [] written
    intro token member next found
    exact tokenization.maximal token.outline (List.mem_map_of_mem member) next found
  · exact tokensOf_of_isProper

end Layout

namespace PrintedItem

variable {item : PrintedItem} {lexeme : Lexeme}

theorem literal_eq (sameKind : lexeme.kind = item.kind) (sameBytes : lexeme.bytes = item.bytes) :
    lexeme.literal = item.literal := by
  unfold literal
  by_cases illegal : item.kind = .illegal
  · rw [if_pos illegal]
    rcases Lexeme.kind_eq_illegal_iff.mp (sameKind.trans illegal) with ⟨byte, rfl⟩
    rfl
  · rw [if_neg illegal, ← sameBytes]
    apply Lexeme.literal_eq
    rintro byte rfl
    exact illegal sameKind.symm

theorem bytes_ne_nil (item : PrintedItem) : item.bytes ≠ [] := by
  rcases Lexeme.exists_of_spells item.notEof item.spelled with ⟨lexeme, spelled, _, sameBytes⟩
  rw [← sameBytes]
  exact Lexeme.bytes_ne_nil spelled

/-- Items fuse exactly if the lexeme of the first is made longer by the text of the second. -/
theorem endsBefore_iff (spelled : lexeme.IsSpelled) (sameBytes : lexeme.bytes = item.bytes)
    (next : PrintedItem) (more : List Byte) :
    lexeme.EndsBefore (next.bytes ++ more) ↔ ¬item.FusesWith next := by
  rcases List.exists_cons_of_ne_nil next.bytes_ne_nil with ⟨first, others, split⟩
  have atEnd := List.getLast?_eq_some_getLast item.bytes_ne_nil
  have member : item.bytes.getLast item.bytes_ne_nil ∈ lexeme.bytes := by
    rw [sameBytes]
    exact List.getLast_mem _
  have isAssign : lexeme.kind = .symbol .assign ↔ item.bytes = [Byte.equalsSign] := by
    rw [Lexeme.kind_eq_symbol_iff spelled, sameBytes]
    rfl
  have isBang : lexeme.kind = .symbol .bang ↔ item.bytes = [Byte.exclamationMark] := by
    rw [Lexeme.kind_eq_symbol_iff spelled, sameBytes]
    rfl
  have fuses : lexeme.fusesWith first = true ↔ item.FusesWith next := by
    rw [lexeme.fusesWith_iff spelled member first, isAssign, isBang]
    simp [FusesWith, atEnd, split]
  rw [← fuses]
  simp [Lexeme.EndsBefore, split]

theorem endsBefore_items_iff (spelled : lexeme.IsSpelled) (sameBytes : lexeme.bytes = item.bytes)
    (items : List PrintedItem) {trailing : List Byte}
    (blank : ∀ byte ∈ trailing, byte.isBlank = true) :
    lexeme.EndsBefore ((items.flatMap fun next => next.gap ++ next.bytes) ++ trailing) ↔
      ∀ next ∈ items.head?, item.IsApartFrom next := by
  cases items with
  | nil =>
      refine iff_of_true ?_ (by simp)
      exact lexeme.endsBefore_of_isBlank fun byte head => blank byte (List.mem_of_mem_head? head)
  | cons next items =>
      rw [List.flatMap_cons, List.append_assoc, List.append_assoc, List.head?_cons]
      cases gap : next.gap with
      | nil =>
          rw [List.nil_append, endsBefore_iff spelled sameBytes]
          simp [IsApartFrom, gap]
      | cons byte others =>
          have notFused := Lexeme.fusesWith_of_isBlank (next.blank byte (by simp [gap])) lexeme
          simp [Lexeme.EndsBefore, IsApartFrom, gap, notFused]

end PrintedItem

namespace Printing

theorem exists_layout (items : List PrintedItem) {trailing : List Byte}
    (blank : ∀ byte ∈ trailing, byte.isBlank = true) :
    ∃ layout : Layout, layout.IsWritten ∧
      layout.bytes = (items.flatMap fun item => item.gap ++ item.bytes) ++ trailing ∧
      (layout.IsProper ↔ items.IsChain PrintedItem.IsApartFrom) ∧
      ∀ before, layout.lexemeTokens (placeBehind before) = tokensBehind before items := by
  -- Every printing is read as a layout; only whether the layout is proper depends on the blanks.
  induction items with
  | nil => exact ⟨.blanks trailing, blank, rfl, iff_of_true blank .nil, fun _ => rfl⟩
  | cons item items ih =>
      rcases ih with ⟨rest, written, sameText, properIff, sameTokens⟩
      rcases Lexeme.exists_of_spells item.notEof item.spelled with
        ⟨lexeme, spelled, sameKind, sameBytes⟩
      refine ⟨.lexeme item.gap lexeme rest, ⟨item.blank, spelled, written⟩, ?_, ?_, ?_⟩
      · simp [sameText, sameBytes]
      · rw [List.isChain_cons, ← properIff,
          ← PrintedItem.endsBefore_items_iff spelled sameBytes items blank, ← sameText]
        constructor
        · rintro ⟨_, _, ends, properRest⟩
          exact ⟨ends, properRest⟩
        · rintro ⟨ends, properRest⟩
          exact ⟨item.blank, spelled, ends, properRest⟩
      · intro before
        simp only [Layout.lexemeTokens, tokensBehind, passAll_placeBehind, sameBytes, sameTokens]
        rw [Token.ofLexeme, sameKind, PrintedItem.literal_eq sameKind sameBytes]

end Printing

/-- Scanning undoes printing exactly if blanks stand wherever two neighbours would fuse. -/
theorem tokensOf_text_iff (printing : Printing) :
    tokensOf printing.text = printing.tokens ↔ printing.IsApart := by
  rcases Printing.exists_layout printing.items printing.blank with
    ⟨layout, written, sameText, properIff, sameTokens⟩
  have sameText : layout.bytes = printing.text := sameText
  have tokens : layout.tokensFrom .origin = printing.tokens := by
    have lexemes : layout.lexemeTokens .origin = _ := sameTokens []
    rw [Layout.tokensFrom, lexemes, passAll_origin, sameText]
    rfl
  rw [← sameText, ← tokens, Layout.tokensOf_eq_iff_isProper written]
  exact properIff

/-- A symbol right behind what is printed before it. -/
def PrintedItem.ofSymbol (sign : Symbol) : PrintedItem where
  gap := []
  kind := .symbol sign
  bytes := Text.encode sign.spelling
  blank := List.forall_mem_nil _
  notEof := TokenKind.noConfusion
  spelled := rfl

/-- Six items with no more blanks than they need, and the end of a line behind them. -/
def Printing.sixItems : Printing where
  items :=
    [{ gap := []
       kind := .keyword .letWord
       bytes := Text.encode "let"
       blank := List.forall_mem_nil _
       notEof := TokenKind.noConfusion
       spelled := rfl },
      { gap := Text.encode " "
        kind := .ident
        bytes := Text.encode "x"
        blank := List.all_eq_true.mp (by decide)
        notEof := TokenKind.noConfusion
        spelled :=
          ⟨by decide, List.all_eq_true.mp (by decide), fun word => by cases word <;> decide⟩ },
      .ofSymbol .equal,
      .ofSymbol .assign,
      { gap := []
        kind := .int
        bytes := Text.encode "12"
        blank := List.forall_mem_nil _
        notEof := TokenKind.noConfusion
        spelled := ⟨by decide, List.all_eq_true.mp (by decide)⟩ },
      { gap := []
        kind := .illegal
        bytes := [0xC3]
        blank := List.forall_mem_nil _
        notEof := TokenKind.noConfusion
        spelled := ⟨0xC3, rfl, by decide⟩ }]
  trailing := Text.encode "\r\n"
  blank := List.all_eq_true.mp (by decide)

/-- There need not be a blank between `==` and `=`. Between `=` and `==` there has to be one. -/
theorem tokensOf_text_sixItems :
    let swapped : Printing :=
      { items := [.ofSymbol .assign, .ofSymbol .equal], trailing := [],
        blank := List.forall_mem_nil _ }
    Printing.sixItems.text = Text.encode "let x===12" ++ 0xC3 :: Text.encode "\r\n" ∧
      tokensOf Printing.sixItems.text = Printing.sixItems.tokens ∧
      tokensOf swapped.text ≠ swapped.tokens := by
  intro swapped
  have isApart : Printing.sixItems.IsApart := by decide
  have notApart : ¬swapped.IsApart := by decide
  refine ⟨by decide, (tokensOf_text_iff Printing.sixItems).mpr isApart, ?_⟩
  intro same
  exact notApart ((tokensOf_text_iff swapped).mp same)

end MonkeyLexis
