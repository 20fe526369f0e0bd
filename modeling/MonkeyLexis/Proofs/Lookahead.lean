import MonkeyLexis.Proofs.Concatenation

/-!
# One byte of lookahead

A scanner that has read only the front of a source can already tell some of its tokens: all those
behind which the front goes on. What follows the front has no influence on them, and the tokens that
it does decide end at the end of the front or later.

A lexeme that reaches up to the end of the front is among the undecided ones. It may grow, but it
never shrinks.
-/

namespace MonkeyLexis

def endedBefore (offset : Nat) (tokens : List Token) : List Token :=
  tokens.filter fun token => token.stop.offset < offset

/-- Whatever follows, the lexeme at the head of the input is at least as long as one that stands
there. -/
theorem Lexeme.length_le_atHead_append {lexeme : Lexeme} {byte : Byte} {tail : List Byte}
    (spelled : lexeme.IsSpelled) (split : lexeme.bytes = byte :: tail) (more : List Byte) :
    lexeme.bytes.length ≤ (atHead byte (tail ++ more)).bytes.length := by
  by_cases ends : lexeme.EndsBefore more
  · have found : atHead byte (tail ++ more) = lexeme := by
      apply atHead_of_isSpelled spelled ends
      simp [split]
    simp [found]
  · simp only [EndsBefore, not_forall, Bool.not_eq_false] at ends
    rcases ends with ⟨next, head, fuses⟩
    rcases List.head?_eq_some_iff.mp head with ⟨others, rfl⟩
    exact Nat.le_of_lt (length_lt_of_fusesWith spelled split fuses others)

namespace Layout

variable {layout front : Layout} {place : Position} {token : Token}

theorem offset_le_stop_of_mem (proper : layout.IsProper)
    (member : token ∈ layout.tokensFrom place) : place.offset ≤ token.stop.offset := by
  rcases exists_stretch_of_mem proper member with ⟨before, stretch, _, _, start, stop, _⟩
  simp only [stop, start, Position.offset_passAll]
  omega

/-- The tokens of the lexemes behind which the text goes on. -/
def settledTokens (place : Position) : Layout → List Token
  | blanks _ => []
  | lexeme gap first rest =>
      if rest.bytes = [] then
        []
      else
        let start := place.passAll gap
        let stop := start.passAll first.bytes
        Token.ofLexeme first start stop :: rest.settledTokens stop

theorem stop_lt_of_mem_settledTokens (member : token ∈ layout.settledTokens place) :
    token.stop.offset < place.offset + layout.bytes.length := by
  induction layout generalizing place with
  | blanks gap => simp [settledTokens] at member
  | lexeme gap first rest ih =>
      by_cases atEnd : rest.bytes = []
      · simp [settledTokens, atEnd] at member
      · have goesOn := List.length_pos_iff.mpr atEnd
        simp only [settledTokens, atEnd, if_false, List.mem_cons] at member
        simp only [bytes_lexeme, List.length_append]
        rcases member with rfl | later
        · simp only [Token.ofLexeme, Position.offset_passAll]
          omega
        · have stops := ih later
          simp only [Position.offset_passAll] at stops
          omega

/-- Whatever follows the text, its settled tokens come first, and the others end no earlier than the
text does. -/
theorem exists_tokens_append (proper : front.IsProper) (place : Position) (more : List Byte) :
    ∃ later, (Cursor.tokens { position := place, rest := front.bytes ++ more }).result =
        front.settledTokens place ++ later ∧
      ∀ token ∈ later, place.offset + front.bytes.length ≤ token.stop.offset := by
  induction front generalizing place with
  | blanks gap =>
      rcases exists_isProper more with ⟨back, properBack, rfl⟩
      have properWhole := isProper_append proper properBack (by simp [openEnd?])
      have scanned := Cursor.tokens_of_isProper properWhole place
      rw [bytes_append, tokensFrom_append] at scanned
      refine ⟨_, scanned, ?_⟩
      intro token member
      have stops := offset_le_stop_of_mem properBack member
      simpa [Position.offset_passAll] using stops
  | lexeme gap first rest ih =>
      rcases proper with ⟨blank, spelled, ends, properRest⟩
      by_cases atEnd : rest.bytes = []
      · rcases List.exists_cons_of_ne_nil (Lexeme.bytes_ne_nil spelled) with ⟨byte, tail, split⟩
        have notBlank := Lexeme.not_isBlank_of_mem_bytes spelled byte (by simp [split])
        have notShorter := Lexeme.length_le_atHead_append spelled split more
        rcases exists_isProper_atHead blank notBlank (tail ++ more) with
          ⟨others, properWhole, sameBytes⟩
        have scanned := Cursor.tokens_of_isProper properWhole place
        have whole : (lexeme gap first rest).bytes ++ more = gap ++ byte :: (tail ++ more) := by
          simp [atEnd, split]
        rw [sameBytes, tokensFrom_lexeme] at scanned
        refine ⟨_, by rw [whole, scanned, settledTokens, if_pos atEnd, List.nil_append], ?_⟩
        intro token member
        simp only [bytes_lexeme, atEnd, List.append_nil, List.length_append]
        rcases List.mem_cons.mp member with rfl | later
        · simp only [Token.ofLexeme, Position.offset_passAll]
          omega
        · have stops := offset_le_stop_of_mem properWhole.2.2.2 later
          simp only [Position.offset_passAll] at stops
          omega
      · have stillEnds := (Lexeme.endsBefore_append atEnd more).mpr ends
        rcases ih properRest ((place.passAll gap).passAll first.bytes) with
          ⟨later, scanned, behind⟩
        refine ⟨later, ?_, ?_⟩
        · rw [bytes_lexeme, List.append_assoc, List.append_assoc,
            Cursor.tokens_of_lexeme place blank spelled stillEnds, scanned]
          simp [settledTokens, atEnd]
        · intro token member
          have stops := behind token member
          simp only [Position.offset_passAll] at stops
          simp only [bytes_lexeme, List.length_append]
          omega

theorem exists_tokensOf_append (proper : front.IsProper) (more : List Byte) :
    ∃ later, tokensOf (front.bytes ++ more) = front.settledTokens .origin ++ later ∧
      endedBefore front.bytes.length (tokensOf (front.bytes ++ more)) =
        front.settledTokens .origin := by
  rcases exists_tokens_append proper .origin more with ⟨later, scanned, behind⟩
  refine ⟨later, scanned, ?_⟩
  have keepsSettled : ∀ token ∈ front.settledTokens .origin,
      token.stop.offset < front.bytes.length := by
    intro token member
    simpa [Position.origin] using stop_lt_of_mem_settledTokens member
  have dropsLater : ∀ token ∈ later, ¬token.stop.offset < front.bytes.length := by
    intro token member
    have stops := behind token member
    simp only [Position.origin] at stops
    omega
  have whole : tokensOf (front.bytes ++ more) = front.settledTokens .origin ++ later := scanned
  rw [whole, endedBefore, List.filter_append, List.filter_eq_self.mpr (by simpa using keepsSettled),
    List.filter_eq_nil_iff.mpr (by simpa using dropsLater), List.append_nil]

end Layout

/-- The tokens that end before a place in a source come first among its tokens, and what follows
that place has no influence on them. -/
theorem endedBefore_tokensOf_append (front more other : List Byte) :
    endedBefore front.length (tokensOf (front ++ more)) <+: tokensOf (front ++ more) ∧
      endedBefore front.length (tokensOf (front ++ more)) =
        endedBefore front.length (tokensOf (front ++ other)) := by
  rcases Layout.exists_isProper front with ⟨layout, proper, rfl⟩
  rcases Layout.exists_tokensOf_append proper more with ⟨later, scanned, settled⟩
  rcases Layout.exists_tokensOf_append proper other with ⟨_, _, otherSettled⟩
  constructor
  · rw [settled, scanned]
    exact List.prefix_append _ later
  · rw [settled, otherSettled]

-- A token that ends where the front does is not settled: here it may still become a longer symbol.
example :
    (tokensOf [97, 33, 61]).map (·.kind) = [.ident, .symbol .notEqual, .eof] ∧
      (tokensOf [97, 33, 97]).map (·.kind) = [.ident, .symbol .bang, .ident, .eof] ∧
      (endedBefore 2 (tokensOf [97, 33, 61])).map (·.kind) = [.ident] := by
  decide +kernel

end MonkeyLexis
