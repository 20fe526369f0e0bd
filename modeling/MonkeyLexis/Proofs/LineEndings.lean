import MonkeyLexis.Proofs.Legality

/-!
# Line endings

There are two ways to end a line: with a line feed, and with a carriage return before the line feed.
This file compares a source with the text in which every line is ended the longer way. A carriage
return is a blank, so it may go into any gap, and no lexeme loses or gains a byte. Each token stays
on its line and in its column, and its offsets grow by one for every line that has ended before it.

A column is counted from the start of the line and the new byte is the last one of a line but one.
This is why columns do not change, although nothing in the scanner knows of line endings of two
bytes.
-/

namespace MonkeyLexis

/-- The text with a carriage return before each line feed. -/
def withReturns (text : List Byte) : List Byte :=
  text.flatMap fun byte =>
    if byte = Byte.lineFeed then [Byte.carriageReturn, Byte.lineFeed] else [byte]

@[simp]
theorem withReturns_append (front back : List Byte) :
    withReturns (front ++ back) = withReturns front ++ withReturns back := by
  simp [withReturns]

@[simp]
theorem withReturns_lineFeed_cons (text : List Byte) :
    withReturns (Byte.lineFeed :: text) =
      Byte.carriageReturn :: Byte.lineFeed :: withReturns text := by
  simp [withReturns]

theorem withReturns_cons_of_ne {byte : Byte} (inLine : byte ≠ Byte.lineFeed) (text : List Byte) :
    withReturns (byte :: text) = byte :: withReturns text := by
  simp [withReturns, inLine]

theorem withReturns_of_not_mem {text : List Byte} (oneLine : Byte.lineFeed ∉ text) :
    withReturns text = text := by
  induction text with
  | nil => rfl
  | cons byte text ih =>
      simp only [List.mem_cons, not_or] at oneLine
      rw [withReturns_cons_of_ne (Ne.symm oneLine.1), ih oneLine.2]

theorem forall_mem_withReturns {property : Byte → Prop} {text : List Byte}
    (carriageReturn : property Byte.carriageReturn) (holds : ∀ byte ∈ text, property byte) :
    ∀ byte ∈ withReturns text, property byte := by
  intro byte member
  rcases List.mem_flatMap.mp member with ⟨original, inText, made⟩
  split at made
  · next lineFeed =>
      simp only [List.mem_cons, List.not_mem_nil, or_false] at made
      rcases made with rfl | rfl
      · exact carriageReturn
      · exact holds Byte.lineFeed (lineFeed ▸ inText)
  · simp only [List.mem_singleton] at made
    subst made
    exact holds byte inText

/-! ### Positions -/

namespace Position

/-- The same place once every line ahead of it is one byte longer. -/
def withReturns (position : Position) : Position :=
  { offset := position.offset + position.line
    lineStart := position.lineStart + position.line
    line := position.line
    column := position.column }

theorem pass_withReturns {byte : Byte} (inLine : byte ≠ Byte.lineFeed) (position : Position) :
    position.withReturns.pass byte = (position.pass byte).withReturns := by
  simp [pass, advance, withReturns, inLine, Nat.add_right_comm]

/-- Where the line ends, the carriage return is passed on the old line. -/
theorem pass_return_lineFeed (position : Position) :
    (position.withReturns.pass Byte.carriageReturn).pass Byte.lineFeed =
      (position.pass Byte.lineFeed).withReturns := by
  have inLine : Byte.carriageReturn ≠ Byte.lineFeed := by decide
  simp [pass, advance, withReturns, inLine]
  omega

theorem passAll_withReturns (position : Position) (text : List Byte) :
    position.withReturns.passAll (MonkeyLexis.withReturns text) =
      (position.passAll text).withReturns := by
  induction text generalizing position with
  | nil => rfl
  | cons byte text ih =>
      by_cases lineFeed : byte = Byte.lineFeed
      · subst lineFeed
        simp [pass_return_lineFeed, ih]
      · simp [withReturns_cons_of_ne lineFeed, pass_withReturns lineFeed, ih]

theorem passAll_withReturns_of_not_mem {text : List Byte} (oneLine : Byte.lineFeed ∉ text)
    (position : Position) :
    position.withReturns.passAll text = (position.passAll text).withReturns := by
  have passed := passAll_withReturns position text
  rwa [withReturns_of_not_mem oneLine] at passed

end Position

theorem placeBehind_withReturns (text : List Byte) :
    placeBehind (withReturns text) = (placeBehind text).withReturns := by
  have passed := Position.passAll_withReturns .origin text
  rw [passAll_origin] at passed
  rw [← passed, ← passAll_origin]
  rfl

/-! ### Tokens -/

def Token.withReturns (token : Token) : Token :=
  { token with start := token.start.withReturns, stop := token.stop.withReturns }

namespace Layout

def withReturns : Layout → Layout
  | blanks gap => blanks (MonkeyLexis.withReturns gap)
  | lexeme gap first rest => lexeme (MonkeyLexis.withReturns gap) first rest.withReturns

theorem bytes_withReturns {layout : Layout} (proper : layout.IsProper) :
    layout.withReturns.bytes = MonkeyLexis.withReturns layout.bytes := by
  induction layout with
  | blanks gap => rfl
  | lexeme gap first rest ih =>
      rcases proper with ⟨_, spelled, _, properRest⟩
      have oneLine := Lexeme.lineFeed_not_mem_bytes spelled
      simp [withReturns, ih properRest, withReturns_of_not_mem oneLine]

theorem isProper_withReturns {layout : Layout} (proper : layout.IsProper) :
    layout.withReturns.IsProper := by
  induction layout with
  | blanks gap => exact forall_mem_withReturns (by decide) proper
  | lexeme gap first rest ih =>
      rcases proper with ⟨blank, spelled, ends, properRest⟩
      refine ⟨forall_mem_withReturns (by decide) blank, spelled, ?_, ih properRest⟩
      rw [bytes_withReturns properRest]
      intro next head
      cases found : rest.bytes with
      | nil => simp [found, MonkeyLexis.withReturns] at head
      | cons byte bytes =>
          -- The next byte is the old one, unless a carriage return was put before it.
          by_cases lineFeed : byte = Byte.lineFeed
          · subst lineFeed
            simp only [found, withReturns_lineFeed_cons, List.head?_cons, Option.mem_def,
              Option.some.injEq] at head
            subst head
            exact Lexeme.fusesWith_of_isBlank (by decide) first
          · simp only [found, withReturns_cons_of_ne lineFeed, List.head?_cons, Option.mem_def,
              Option.some.injEq] at head
            subst head
            apply ends
            simp [found]

theorem tokensFrom_withReturns {layout : Layout} (proper : layout.IsProper) (place : Position) :
    layout.withReturns.tokensFrom place.withReturns =
      (layout.tokensFrom place).map Token.withReturns := by
  induction layout generalizing place with
  | blanks gap =>
      simp [withReturns, tokensFrom_blanks, Position.passAll_withReturns, Token.endOfInput,
        Token.withReturns]
  | lexeme gap first rest ih =>
      rcases proper with ⟨_, spelled, _, properRest⟩
      have oneLine := Lexeme.lineFeed_not_mem_bytes spelled
      simp [withReturns, tokensFrom_lexeme, Position.passAll_withReturns,
        Position.passAll_withReturns_of_not_mem oneLine, Token.ofLexeme, Token.withReturns,
        ih properRest]

end Layout

/-! ### Errors -/

/-- The error for an illegal byte tells its line and column, and those stay. -/
theorem IllegalCharacter.behind_withReturns (text : List Byte) (byte : Byte) :
    behind (withReturns text) byte = behind text byte := by
  simp [behind_eq, placeBehind_withReturns, Position.withReturns, Position.lineNumber,
    Position.columnNumber]

/-- Ending the lines in the longer way moves each token and the end of the input to the offset that
its line asks for and changes nothing else, and a source that is rejected is rejected with the same
error. -/
theorem tokensOf_withReturns (source : List Byte) :
    tokensOf (withReturns source) = (tokensOf source).map Token.withReturns ∧
      legalTokensOf (withReturns source) =
        (legalTokensOf source).map (List.map Token.withReturns) := by
  have sameTokens : tokensOf (withReturns source) = (tokensOf source).map Token.withReturns := by
    rcases Layout.exists_isProper source with ⟨layout, proper, rfl⟩
    have scanned := tokensOf_of_isProper (Layout.isProper_withReturns proper)
    rw [Layout.bytes_withReturns proper] at scanned
    rw [scanned, tokensOf_of_isProper proper]
    exact Layout.tokensFrom_withReturns proper .origin
  refine ⟨sameTokens, ?_⟩
  rcases legal_or_exists_split source with legal | ⟨front, byte, back, rfl, legal, illegal⟩
  · have stillLegal : ∀ byte ∈ withReturns source, byte.isLegal = true :=
      forall_mem_withReturns (by decide) legal
    rw [legalTokensOf_of_legal legal, legalTokensOf_of_legal stillLegal, sameTokens]
    rfl
  · have stillLegal : ∀ other ∈ withReturns front, other.isLegal = true :=
      forall_mem_withReturns (by decide) legal
    have inLine : byte ≠ Byte.lineFeed := by
      rintro rfl
      contradiction
    rw [legalTokensOf_of_illegal back legal illegal, withReturns_append,
      withReturns_cons_of_ne inLine, legalTokensOf_of_illegal _ stillLegal illegal,
      IllegalCharacter.behind_withReturns]
    rfl

-- A line that had a carriage return already gets a second one, and the word behind it moves by two.
example :
    (tokensOf (withReturns [97, 13, 10, 10, 32, 98])).map (·.start) =
      [{ offset := 0, lineStart := 0, line := 0, column := 0 },
        { offset := 7, lineStart := 6, line := 2, column := 1 },
        { offset := 8, lineStart := 6, line := 2, column := 2 }] := by
  decide +kernel

end MonkeyLexis
