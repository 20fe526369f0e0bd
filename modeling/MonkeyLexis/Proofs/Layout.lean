import MonkeyLexis.Proofs.Grammar
import MonkeyLexis.TokenList

/-!
# Layouts

A layout is source text that is already cut into blanks and lexemes. It is proper if its gaps are
blank, its lexemes are well spelled, and none of them is made longer by what follows it. Every
source has a proper layout, and the scanner finds it: the tokens of a source are those that can be
read off any proper layout of it.

Statements about all tokens of a source are therefore proved by induction over layouts, where the
scanner and its lookahead no longer occur.
-/

namespace MonkeyLexis

/-- Source text as blanks and lexemes in turn. -/
inductive Layout where
  | blanks (gap : List Byte)
  | lexeme (gap : List Byte) (first : Lexeme) (rest : Layout)

@[simp]
theorem Token.isEof_ofLexeme (lexeme : Lexeme) (start stop : Position) :
    (Token.ofLexeme lexeme start stop).isEof = false :=
  decide_eq_false lexeme.kind_ne_eof

@[simp]
theorem Token.isEof_endOfInput (place : Position) : (Token.endOfInput place).isEof = true := rfl

namespace Layout

def bytes : Layout → List Byte
  | blanks gap => gap
  | lexeme gap first rest => gap ++ (first.bytes ++ rest.bytes)

/-- Whether the text is cut where the grammar cuts it. -/
def IsProper : Layout → Prop
  | blanks gap => ∀ byte ∈ gap, byte.isBlank = true
  | lexeme gap first rest =>
      (∀ byte ∈ gap, byte.isBlank = true) ∧ first.IsSpelled ∧ first.EndsBefore rest.bytes ∧
        rest.IsProper

/-- The tokens of the lexemes, for text that starts at `place`. -/
def lexemeTokens (place : Position) : Layout → List Token
  | blanks _ => []
  | lexeme gap first rest =>
      let start := place.passAll gap
      let stop := start.passAll first.bytes
      Token.ofLexeme first start stop :: rest.lexemeTokens stop

/-- All tokens, for text that starts at `place` and ends the input. -/
def tokensFrom (place : Position) (layout : Layout) : List Token :=
  layout.lexemeTokens place ++ [Token.endOfInput (place.passAll layout.bytes)]

@[simp]
theorem bytes_blanks (gap : List Byte) : (blanks gap).bytes = gap := rfl

@[simp]
theorem bytes_lexeme (gap : List Byte) (first : Lexeme) (rest : Layout) :
    (lexeme gap first rest).bytes = gap ++ (first.bytes ++ rest.bytes) := rfl

@[simp]
theorem dropLast_tokensFrom (place : Position) (layout : Layout) :
    (layout.tokensFrom place).dropLast = layout.lexemeTokens place :=
  List.dropLast_concat

theorem tokensFrom_blanks (place : Position) (gap : List Byte) :
    (blanks gap).tokensFrom place = [Token.endOfInput (place.passAll gap)] := rfl

theorem tokensFrom_lexeme (place : Position) (gap : List Byte) (first : Lexeme) (rest : Layout) :
    (lexeme gap first rest).tokensFrom place =
      Token.ofLexeme first (place.passAll gap) ((place.passAll gap).passAll first.bytes) ::
        rest.tokensFrom ((place.passAll gap).passAll first.bytes) := by
  simp [tokensFrom, lexemeTokens]

theorem exists_lexeme_of_mem {layout : Layout} {place : Position} {token : Token}
    (proper : layout.IsProper) (member : token ∈ layout.lexemeTokens place) :
    ∃ before first after, layout.bytes = before ++ (first.bytes ++ after) ∧
      first.IsSpelled ∧ first.EndsBefore after ∧
      token = Token.ofLexeme first (place.passAll before)
        ((place.passAll before).passAll first.bytes) := by
  induction layout generalizing place with
  | blanks gap => contradiction
  | lexeme gap first rest ih =>
      rcases proper with ⟨blank, spelled, ends, properRest⟩
      rcases List.mem_cons.mp member with rfl | later
      · exact ⟨gap, first, rest.bytes, rfl, spelled, ends, rfl⟩
      · rcases ih properRest later with ⟨before, other, after, split, otherSpelled, otherEnds, made⟩
        refine ⟨gap ++ (first.bytes ++ before), other, after, ?_, otherSpelled, otherEnds, ?_⟩
        · simp [split]
        · simp [made]

end Layout

namespace Cursor

theorem skipBlanks_of_append {gap : List Byte} (rest : List Byte) (place : Position)
    (blank : ∀ byte ∈ gap, byte.isBlank = true)
    (ends : ∀ next ∈ rest.head?, next.isBlank = false) :
    skipBlanks { position := place, rest := gap ++ rest } =
      { position := place.passAll gap, rest } := by
  have taken := Lexeme.takeWhile_append_of_ends blank ends
  simp [skipBlanks, skip, taken]

theorem scan_of_blanks {gap : List Byte} (place : Position)
    (blank : ∀ byte ∈ gap, byte.isBlank = true) :
    scan { position := place, rest := gap } =
      { token := Token.endOfInput (place.passAll gap)
        events := [.scanned (Token.endOfInput (place.passAll gap))]
        next := { position := place.passAll gap, rest := [] } } := by
  have skipped := skipBlanks_of_append [] place blank (by simp)
  rw [List.append_nil] at skipped
  rw [scan_of_nil (by rw [skipped]), skipped]

theorem scan_of_lexeme {gap rest : List Byte} {first : Lexeme} (place : Position)
    (blank : ∀ byte ∈ gap, byte.isBlank = true) (spelled : first.IsSpelled)
    (ends : first.EndsBefore rest) :
    scan { position := place, rest := gap ++ (first.bytes ++ rest) } =
      let start := place.passAll gap
      let stop := start.passAll first.bytes
      let token := Token.ofLexeme first start stop
      { token, events := first.warnings start ++ [.scanned token],
        next := { position := stop, rest } } := by
  rcases List.exists_cons_of_ne_nil (Lexeme.bytes_ne_nil spelled) with ⟨byte, tail, split⟩
  have notBlank := Lexeme.not_isBlank_of_mem_bytes spelled byte (by simp [split])
  have skipped := skipBlanks_of_append (first.bytes ++ rest) place blank (by
    intro next head
    obtain rfl : byte = next := by simpa [split] using head
    exact notBlank)
  have found : Lexeme.atHead byte (tail ++ rest) = first := by
    apply Lexeme.atHead_of_isSpelled spelled ends
    rw [split, List.cons_append]
  have stands : (skipBlanks { position := place, rest := gap ++ (first.bytes ++ rest) }).rest =
      byte :: (tail ++ rest) := by
    rw [skipped, split, List.cons_append]
  rw [scan_of_cons stands, found, skipped]
  simp [skip]

theorem tokens_of_lexeme {gap rest : List Byte} {first : Lexeme} (place : Position)
    (blank : ∀ byte ∈ gap, byte.isBlank = true) (spelled : first.IsSpelled)
    (ends : first.EndsBefore rest) :
    (tokens { position := place, rest := gap ++ (first.bytes ++ rest) }).result =
      Token.ofLexeme first (place.passAll gap) ((place.passAll gap).passAll first.bytes) ::
        (tokens { position := (place.passAll gap).passAll first.bytes, rest }).result := by
  have scanned := scan_of_lexeme place blank spelled ends
  rw [tokens_of_not_isEof (by simp [scanned]), scanned]

/-- The scanner reads the tokens off any proper layout of the text before it. -/
theorem tokens_of_isProper {layout : Layout} (proper : layout.IsProper) (place : Position) :
    (tokens { position := place, rest := layout.bytes }).result = layout.tokensFrom place := by
  induction layout generalizing place with
  | blanks gap =>
      rw [tokens, Layout.bytes_blanks, scan_of_blanks place proper]
      rfl
  | lexeme gap first rest ih =>
      rcases proper with ⟨blank, spelled, ends, properRest⟩
      rw [Layout.bytes_lexeme, tokens_of_lexeme place blank spelled ends,
        Layout.tokensFrom_lexeme, ih properRest]

end Cursor

namespace Layout

theorem exists_isProper (text : List Byte) :
    ∃ layout : Layout, layout.IsProper ∧ layout.bytes = text := by
  have split := List.takeWhile_append_dropWhile (p := Byte.isBlank) (l := text)
  have blank : ∀ byte ∈ text.takeWhile Byte.isBlank, byte.isBlank = true :=
    fun byte taken => List.mem_takeWhile_imp taken
  cases found : text.dropWhile Byte.isBlank with
  | nil =>
      rw [found, List.append_nil] at split
      refine ⟨blanks text, ?_, rfl⟩
      rw [IsProper, ← split]
      exact blank
  | cons byte tail =>
      rcases Lexeme.bytes_atHead_isPrefix byte tail with ⟨rest, stands⟩
      have nonempty := List.length_pos_iff.mpr (Lexeme.bytes_atHead_ne_nil byte tail)
      have shorter : rest.length < text.length := by
        have sameLength := congrArg List.length split
        rw [found, ← stands, List.length_append, List.length_append] at sameLength
        omega
      rcases exists_isProper rest with ⟨layout, proper, same⟩
      have notBlank : byte.isBlank = false := by
        have stops := List.head?_dropWhile_not Byte.isBlank text
        simpa [found] using stops
      refine ⟨lexeme (text.takeWhile Byte.isBlank) (Lexeme.atHead byte tail) layout, ?_, ?_⟩
      · refine ⟨blank, Lexeme.isSpelled_atHead notBlank tail, ?_, proper⟩
        rw [same]
        exact Lexeme.endsBefore_of_atHead stands.symm
      · rw [bytes_lexeme, same, stands, ← found, split]
termination_by text.length

/-- The lexeme at the head of what follows a gap begins a proper layout of it. -/
theorem exists_isProper_atHead {gap : List Byte} {byte : Byte}
    (blank : ∀ other ∈ gap, other.isBlank = true) (notBlank : byte.isBlank = false)
    (tail : List Byte) :
    ∃ rest : Layout, (lexeme gap (Lexeme.atHead byte tail) rest).IsProper ∧
      (lexeme gap (Lexeme.atHead byte tail) rest).bytes = gap ++ byte :: tail := by
  rcases Lexeme.bytes_atHead_isPrefix byte tail with ⟨after, stands⟩
  rcases exists_isProper after with ⟨rest, proper, rfl⟩
  have ends := Lexeme.endsBefore_of_atHead stands.symm
  refine ⟨rest, ⟨blank, Lexeme.isSpelled_atHead notBlank tail, ends, proper⟩, ?_⟩
  rw [bytes_lexeme, stands]

end Layout

/-- The tokens of a source can be read off any proper layout of it. -/
theorem tokensOf_of_isProper {layout : Layout} (proper : layout.IsProper) :
    tokensOf layout.bytes = layout.tokensFrom .origin :=
  Cursor.tokens_of_isProper proper .origin

theorem tokensOf_ne_nil (source : List Byte) : tokensOf source ≠ [] := by
  rcases Layout.exists_isProper source with ⟨layout, proper, rfl⟩
  simp [tokensOf_of_isProper proper, Layout.tokensFrom]

end MonkeyLexis
