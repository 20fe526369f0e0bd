import Mathlib.Data.List.Basic
import Mathlib.Data.List.TFAE
import Mathlib.Tactic.TFAE
import MonkeyLexis.Proofs.Place

/-!
# Sources behind one another

When two sources are joined, the tokens of the whole are those of the parts, with the positions of
the second part moved behind the first, unless the last lexeme of the first part and the first
byte of the second fuse. Then, and only then, a token of the whole reaches across the cut.

A position on the first line of the second part continues the last line of the first part, so it
keeps the start of that line. A position on a later line keeps its column.
-/

namespace MonkeyLexis

namespace Position

/-- The place of `position` once its text stands behind `base`. -/
def behind (base position : Position) : Position :=
  if position.line = 0 then
    { offset := base.offset + position.offset
      lineStart := base.lineStart
      line := base.line
      column := (base.offset - base.lineStart) + position.column }
  else
    { offset := base.offset + position.offset
      lineStart := base.offset + position.lineStart
      line := base.line + position.line
      column := position.column }

@[simp]
theorem offset_behind (base position : Position) :
    (base.behind position).offset = base.offset + position.offset := by
  unfold behind
  split <;> rfl

theorem pass_behind (base position : Position) (byte : Byte) :
    (base.behind position).pass byte = base.behind (position.pass byte) := by
  by_cases isLineFeed : byte = Byte.lineFeed
  · by_cases firstLine : position.line = 0
    · simp [pass, behind, isLineFeed, firstLine, Nat.add_assoc]
    · simp [pass, behind, isLineFeed, firstLine, Nat.add_assoc]
  · by_cases firstLine : position.line = 0
    · simp [pass, behind, advance, isLineFeed, firstLine, Nat.add_assoc]
    · simp [pass, behind, advance, isLineFeed, firstLine, Nat.add_assoc]

theorem passAll_behind (base position : Position) (bytes : List Byte) :
    (base.behind position).passAll bytes = base.behind (position.passAll bytes) := by
  induction bytes generalizing position with
  | nil => rfl
  | cons byte bytes ih => rw [passAll_cons, passAll_cons, pass_behind, ih]

theorem behind_origin {source : List Byte} {base : Position} (lies : base.LiesIn source) :
    base.behind origin = base := by
  have sameColumn := lies.column_eq
  cases base
  simp_all [behind, origin]

end Position

def Token.behind (base : Position) (token : Token) : Token :=
  { token with start := base.behind token.start, stop := base.behind token.stop }

theorem Lexeme.endsBefore_append {lexeme : Lexeme} {rest : List Byte} (nonempty : rest ≠ [])
    (more : List Byte) : lexeme.EndsBefore (rest ++ more) ↔ lexeme.EndsBefore rest := by
  rcases List.exists_cons_of_ne_nil nonempty with ⟨byte, others, rfl⟩
  rfl

namespace Layout

theorem stop_le_of_mem {layout : Layout} {place : Position} {token : Token}
    (proper : layout.IsProper) (member : token ∈ layout.tokensFrom place) :
    token.stop.offset ≤ place.offset + layout.bytes.length := by
  rcases exists_stretch_of_mem proper member with ⟨before, stretch, after, split, start, stop, _⟩
  simp only [stop, start, Position.offset_passAll, split, List.length_append]
  omega

def append : Layout → Layout → Layout
  | blanks gap, blanks more => blanks (gap ++ more)
  | blanks gap, lexeme more first rest => lexeme (gap ++ more) first rest
  | lexeme gap first rest, back => lexeme gap first (rest.append back)

/-- The lexeme that reaches up to the end of the text. -/
def openEnd? : Layout → Option Lexeme
  | blanks _ => none
  | lexeme _ first rest => if rest.bytes = [] then some first else rest.openEnd?

theorem tokensFrom_behind (base place : Position) (layout : Layout) :
    layout.tokensFrom (base.behind place) =
      (layout.tokensFrom place).map (Token.behind base) := by
  induction layout generalizing place with
  | blanks gap =>
      simp [tokensFrom_blanks, Token.endOfInput, Token.behind, Position.passAll_behind]
  | lexeme gap first rest ih =>
      simp [tokensFrom_lexeme, Token.ofLexeme, Token.behind, Position.passAll_behind, ih]

@[simp]
theorem bytes_append (front back : Layout) :
    (front.append back).bytes = front.bytes ++ back.bytes := by
  induction front with
  | blanks gap => cases back <;> simp [append]
  | lexeme gap first rest ih => simp [append, ih]

theorem tokensFrom_append (place : Position) (front back : Layout) :
    (front.append back).tokensFrom place =
      front.lexemeTokens place ++ back.tokensFrom (place.passAll front.bytes) := by
  induction front generalizing place with
  | blanks gap =>
      cases back with
      | blanks more => simp [append, lexemeTokens, tokensFrom_blanks]
      | lexeme more first rest => simp [append, lexemeTokens, tokensFrom_lexeme]
  | lexeme gap first rest ih => simp [append, lexemeTokens, tokensFrom_lexeme, ih]

theorem eq_blanks_nil {layout : Layout} (proper : layout.IsProper)
    (empty : layout.bytes = []) : layout = blanks [] := by
  cases layout with
  | blanks gap => rw [← empty, bytes_blanks]
  | lexeme gap first rest =>
      have nonempty := Lexeme.bytes_ne_nil proper.2.1
      simp [nonempty] at empty

/-- Layouts behind one another are cut properly if the lexeme before the cut ends there. -/
theorem isProper_append {front back : Layout} (proper : front.IsProper)
    (properBack : back.IsProper)
    (ends : ∀ last ∈ front.openEnd?, last.EndsBefore back.bytes) :
    (front.append back).IsProper := by
  induction front with
  | blanks gap =>
      cases back with
      | blanks more =>
          intro byte member
          rcases List.mem_append.mp member with inGap | inMore
          · exact proper byte inGap
          · exact properBack byte inMore
      | lexeme more first rest =>
          rcases properBack with ⟨blank, others⟩
          refine ⟨?_, others⟩
          intro byte member
          rcases List.mem_append.mp member with inGap | inMore
          · exact proper byte inGap
          · exact blank byte inMore
  | lexeme gap first rest ih =>
      rcases proper with ⟨blank, spelled, endsFirst, properRest⟩
      by_cases atCut : rest.bytes = []
      · rcases eq_blanks_nil properRest atCut with rfl
        refine ⟨blank, spelled, ?_, ih properRest (by simp [openEnd?])⟩
        rw [bytes_append, bytes_blanks, List.nil_append]
        exact ends first rfl
      · rw [openEnd?, if_neg atCut] at ends
        refine ⟨blank, spelled, ?_, ih properRest ends⟩
        rw [bytes_append]
        exact (Lexeme.endsBefore_append atCut _).mpr endsFirst

end Layout

/-! ### What happens at the cut -/

namespace Lexeme

/-- A lexeme that fuses with what follows is shorter than the lexeme at the head of the input. -/
theorem length_lt_of_fusesWith {lexeme : Lexeme} {byte next : Byte} {tail : List Byte}
    (spelled : lexeme.IsSpelled) (split : lexeme.bytes = byte :: tail)
    (fuses : lexeme.fusesWith next = true) (more : List Byte) :
    lexeme.bytes.length < (atHead byte (tail ++ next :: more)).bytes.length := by
  rw [split]
  cases lexeme with
  | word letters =>
      obtain rfl : letters = byte :: tail := split
      have letter := spelled.2 byte List.mem_cons_self
      have others : ∀ other ∈ tail, other.isLetter = true :=
        fun other member => spelled.2 other (List.mem_cons_of_mem _ member)
      have goesOn : next.isLetter = true := fuses
      simp [atHead, letter, bytes, List.takeWhile_append_of_pos others, goesOn]
  | number digits =>
      obtain rfl : digits = byte :: tail := split
      have digit := spelled.2 byte List.mem_cons_self
      have others : ∀ other ∈ tail, other.isDigit = true :=
        fun other member => spelled.2 other (List.mem_cons_of_mem _ member)
      have goesOn : next.isDigit = true := fuses
      simp [atHead, Byte.not_isLetter_of_isDigit digit, digit, bytes,
        List.takeWhile_append_of_pos others, goesOn]
  | symbol sign =>
      cases sign with
      | assign =>
          rcases List.cons.inj split with ⟨rfl, rfl⟩
          rcases of_decide_eq_true fuses with rfl
          exact Nat.lt_succ_self 1
      | bang =>
          rcases List.cons.inj split with ⟨rfl, rfl⟩
          rcases of_decide_eq_true fuses with rfl
          exact Nat.lt_succ_self 1
      | _ => exact absurd fuses Bool.false_ne_true
  | illegal bad => exact absurd fuses Bool.false_ne_true

/-- Whether a lexeme fuses with the next byte can be seen from any of its bytes and its kind. -/
theorem fusesWith_iff {lexeme : Lexeme} {byte : Byte} (spelled : lexeme.IsSpelled)
    (member : byte ∈ lexeme.bytes) (next : Byte) :
    lexeme.fusesWith next = true ↔
      (byte.isLetter = true ∧ next.isLetter = true) ∨
      (byte.isDigit = true ∧ next.isDigit = true) ∨
      ((lexeme.kind = .symbol .assign ∨ lexeme.kind = .symbol .bang) ∧
        next = Byte.equalsSign) := by
  cases lexeme with
  | word letters =>
      have letter := spelled.2 byte member
      have notDigit : byte.isDigit = false := by
        by_contra digit
        have notLetter := Byte.not_isLetter_of_isDigit (by simpa using digit)
        rw [letter] at notLetter
        contradiction
      rcases kind_word letters with ident | ⟨found, keyword⟩
      · simp [fusesWith, letter, notDigit, ident]
      · simp [fusesWith, letter, notDigit, keyword]
  | number digits =>
      have digit := spelled.2 byte member
      simp [fusesWith, digit, Byte.not_isLetter_of_isDigit digit, kind]
  | symbol sign =>
      have isSign := sign.isSign_of_mem_bytes byte member
      rw [Byte.not_isLetter_of_isSign isSign, Byte.not_isDigit_of_isSign isSign]
      cases sign <;> simp [fusesWith, kind]
  | illegal bad =>
      rcases List.mem_singleton.mp member with rfl
      simp only [IsSpelled, Byte.isLegal, Bool.or_eq_false_iff] at spelled
      simp [fusesWith, spelled.1.1.2, spelled.1.2, kind]

end Lexeme

namespace Layout

/-- Where the last lexeme fuses with what follows, the whole is cut in another way, and a token of
the whole reaches across. -/
theorem exists_crossing {front : Layout} {last : Lexeme} {next : Byte} (more : List Byte)
    (place : Position) (proper : front.IsProper) (atCut : front.openEnd? = some last)
    (fuses : last.fusesWith next = true) :
    ∃ whole : Layout, whole.IsProper ∧ whole.bytes = front.bytes ++ next :: more ∧
      ∃ token ∈ whole.tokensFrom place, token.start.offset < place.offset + front.bytes.length ∧
        place.offset + front.bytes.length < token.stop.offset := by
  induction front generalizing place with
  | blanks gap => contradiction
  | lexeme gap first rest ih =>
      rcases proper with ⟨blank, spelled, endsFirst, properRest⟩
      by_cases empty : rest.bytes = []
      · rw [openEnd?, if_pos empty] at atCut
        rcases Option.some.inj atCut with rfl
        rcases List.exists_cons_of_ne_nil (Lexeme.bytes_ne_nil spelled) with ⟨byte, tail, split⟩
        have longer := Lexeme.length_lt_of_fusesWith spelled split fuses more
        have notBlank := Lexeme.not_isBlank_of_mem_bytes spelled byte (by simp [split])
        rcases exists_isProper_atHead blank notBlank (tail ++ next :: more) with
          ⟨others, properWhole, sameBytes⟩
        refine ⟨_, properWhole, ?_, _, List.mem_cons_self, ?_, ?_⟩
        · rw [sameBytes, bytes_lexeme, split, empty]
          simp
        · have nonempty := List.length_pos_iff.mpr (Lexeme.bytes_ne_nil spelled)
          simp only [Token.ofLexeme, Position.offset_passAll, bytes_lexeme, List.length_append]
          omega
        · simp only [Token.ofLexeme, Position.offset_passAll, bytes_lexeme, List.length_append,
            empty, List.length_nil]
          omega
      · rw [openEnd?, if_neg empty] at atCut
        rcases ih ((place.passAll gap).passAll first.bytes) properRest atCut with
          ⟨whole, properWhole, sameBytes, token, member, starts, stops⟩
        simp only [Position.offset_passAll] at starts stops
        refine ⟨.lexeme gap first whole, ⟨blank, spelled, ?_, properWhole⟩, ?_, token, ?_, ?_, ?_⟩
        · rw [sameBytes]
          exact (Lexeme.endsBefore_append empty _).mpr endsFirst
        · simp [sameBytes]
        · rw [tokensFrom_lexeme]
          exact List.mem_cons_of_mem _ member
        · simp only [bytes_lexeme, List.length_append]
          omega
        · simp only [bytes_lexeme, List.length_append]
          omega

/-- The last token is that of the lexeme which reaches up to the end, if there is one. -/
theorem getLast?_of_openEnd? {layout : Layout} {last : Lexeme} (place : Position)
    (proper : layout.IsProper) (found : layout.openEnd? = some last) :
    last.IsSpelled ∧ ∃ before, layout.bytes = before ++ last.bytes ∧
      (layout.lexemeTokens place).getLast? = some (Token.ofLexeme last (place.passAll before)
        ((place.passAll before).passAll last.bytes)) := by
  induction layout generalizing place with
  | blanks gap => contradiction
  | lexeme gap first rest ih =>
      rcases proper with ⟨_, spelled, _, properRest⟩
      by_cases empty : rest.bytes = []
      · rcases eq_blanks_nil properRest empty with rfl
        rcases Option.some.inj found with rfl
        exact ⟨spelled, gap, by simp, rfl⟩
      · rw [openEnd?, if_neg empty] at found
        rcases ih ((place.passAll gap).passAll first.bytes) properRest found with
          ⟨lastSpelled, before, split, lastToken⟩
        refine ⟨lastSpelled, gap ++ (first.bytes ++ before), by simp [split], ?_⟩
        simp [lexemeTokens, List.getLast?_cons, lastToken]

/-- If no lexeme reaches up to the end, a blank stands there and the last token ends before it. -/
theorem getLast?_of_openEnd?_eq_none {layout : Layout} (place : Position)
    (proper : layout.IsProper) (absent : layout.openEnd? = none) :
    (∀ byte ∈ layout.bytes.getLast?, byte.isBlank = true) ∧
      ∀ token ∈ (layout.lexemeTokens place).getLast?,
        token.stop.offset < place.offset + layout.bytes.length := by
  induction layout generalizing place with
  | blanks gap =>
      refine ⟨?_, by simp [lexemeTokens]⟩
      intro byte last
      exact proper byte (List.mem_of_getLast? last)
  | lexeme gap first rest ih =>
      rcases proper with ⟨_, _, _, properRest⟩
      by_cases empty : rest.bytes = []
      · rw [openEnd?, if_pos empty] at absent
        contradiction
      · rw [openEnd?, if_neg empty] at absent
        rcases ih ((place.passAll gap).passAll first.bytes) properRest absent with
          ⟨blankEnd, lastStops⟩
        have nonempty := List.length_pos_iff.mpr empty
        constructor
        · intro byte last
          apply blankEnd
          rw [bytes_lexeme, ← List.append_assoc] at last
          rwa [List.getLast?_append_of_ne_nil _ empty] at last
        · intro token last
          rw [lexemeTokens, List.getLast?_cons] at last
          cases found : (rest.lexemeTokens ((place.passAll gap).passAll first.bytes)).getLast? with
          | none =>
              simp only [found, Option.getD_none, Option.mem_def, Option.some.injEq] at last
              subst last
              simp only [Token.ofLexeme, Position.offset_passAll, bytes_lexeme, List.length_append]
              omega
          | some later =>
              simp only [found, Option.getD_some, Option.mem_def, Option.some.injEq] at last
              subst last
              have stops := lastStops later found
              simp only [Position.offset_passAll, bytes_lexeme, List.length_append] at stops ⊢
              omega

end Layout

/-- The place of the end of the input, as the last token of a source tells it. -/
def endOf (source : List Byte) : Position :=
  ((tokensOf source).getLast (tokensOf_ne_nil source)).start

/-- What stands on both sides of the cut between two sources becomes one lexeme: two letters, two
digits, or an equals sign and the token `=` or `!` right before it. -/
def Fuses (front back : List Byte) : Prop :=
  (∃ last ∈ front.getLast?, ∃ next ∈ back.head?, last.isLetter = true ∧ next.isLetter = true) ∨
  (∃ last ∈ front.getLast?, ∃ next ∈ back.head?, last.isDigit = true ∧ next.isDigit = true) ∨
  ((∃ token ∈ (tokensOf front).dropLast.getLast?,
      (token.kind = .symbol .assign ∨ token.kind = .symbol .bang) ∧
        token.stop.offset = front.length) ∧
    back.head? = some Byte.equalsSign)

namespace Layout

theorem endOf_bytes {layout : Layout} (proper : layout.IsProper) :
    endOf layout.bytes = Position.origin.passAll layout.bytes := by
  unfold endOf
  simp [tokensOf_of_isProper proper, tokensFrom, Token.endOfInput]

/-- Sources fuse exactly if the lexeme that reaches up to the cut fuses with the byte behind it. -/
theorem fuses_iff {front : Layout} (proper : front.IsProper) (back : List Byte) :
    Fuses front.bytes back ↔
      ∃ last ∈ front.openEnd?, ∃ next ∈ back.head?, last.fusesWith next = true := by
  have tokens : (tokensOf front.bytes).dropLast = front.lexemeTokens .origin := by
    rw [tokensOf_of_isProper proper, dropLast_tokensFrom]
  unfold Fuses
  rw [tokens]
  cases found : front.openEnd? with
  | none =>
      rcases getLast?_of_openEnd?_eq_none .origin proper found with ⟨blankEnd, lastStops⟩
      simp only [Option.not_mem_none, false_and, exists_false, iff_false]
      rintro (⟨last, atEnd, next, _, letter, _⟩ | ⟨last, atEnd, next, _, digit, _⟩ |
        ⟨⟨token, atEnd, _, touches⟩, _⟩)
      · have notBlank := Byte.not_isBlank_of_isLetter letter
        rw [blankEnd last atEnd] at notBlank
        contradiction
      · have notBlank := Byte.not_isBlank_of_isDigit digit
        rw [blankEnd last atEnd] at notBlank
        contradiction
      · have stops := lastStops token atEnd
        simp only [Position.origin] at stops
        omega
  | some lexeme =>
      rcases getLast?_of_openEnd? .origin proper found with ⟨spelled, before, split, lastToken⟩
      have nonempty := Lexeme.bytes_ne_nil spelled
      have sameLast : front.bytes.getLast? = lexeme.bytes.getLast? := by
        rw [split, List.getLast?_append_of_ne_nil _ nonempty]
      have touches : (Token.ofLexeme lexeme (Position.origin.passAll before)
          ((Position.origin.passAll before).passAll lexeme.bytes)).stop.offset =
            front.bytes.length := by
        simp [Token.ofLexeme, Position.offset_passAll, Position.origin, split]
      rw [sameLast, lastToken]
      constructor
      · rintro (⟨last, atEnd, next, head, letters⟩ | ⟨last, atEnd, next, head, digits⟩ |
          ⟨⟨token, atEnd, kind, _⟩, head⟩)
        · have member := List.mem_of_getLast? atEnd
          exact ⟨lexeme, rfl, next, head, (lexeme.fusesWith_iff spelled member next).mpr
            (Or.inl letters)⟩
        · have member := List.mem_of_getLast? atEnd
          exact ⟨lexeme, rfl, next, head, (lexeme.fusesWith_iff spelled member next).mpr
            (Or.inr (Or.inl digits))⟩
        · rcases Option.some.inj atEnd with rfl
          have member := List.getLast_mem nonempty
          exact ⟨lexeme, rfl, Byte.equalsSign, head,
            (lexeme.fusesWith_iff spelled member _).mpr (Or.inr (Or.inr ⟨kind, rfl⟩))⟩
      · rintro ⟨other, isLast, next, head, fuses⟩
        rcases Option.some.inj isLast with rfl
        have member := List.getLast_mem nonempty
        have atEnd := List.getLast?_eq_some_getLast nonempty
        rcases (lexeme.fusesWith_iff spelled member next).mp fuses with
          letters | digits | ⟨kind, rfl⟩
        · exact Or.inl ⟨_, atEnd, next, head, letters⟩
        · exact Or.inr (Or.inl ⟨_, atEnd, next, head, digits⟩)
        · exact Or.inr (Or.inr ⟨⟨_, rfl, kind, touches⟩, head⟩)

end Layout

/-- Where two sources are joined, three things mean the same: the tokens of the whole are those of
the parts, nothing fuses at the cut, and no token reaches across it. -/
theorem tokensOf_append_tfae (front back : List Byte) :
    (endOf front).offset = front.length ∧ (endOf front).LiesIn front ∧
    List.TFAE [
      tokensOf (front ++ back) =
        (tokensOf front).dropLast ++ (tokensOf back).map (Token.behind (endOf front)),
      ¬Fuses front back,
      ∀ token ∈ tokensOf (front ++ back),
        ¬(token.start.offset < front.length ∧ front.length < token.stop.offset)] := by
  rcases Layout.exists_isProper front with ⟨layout, proper, rfl⟩
  rcases Layout.exists_isProper back with ⟨other, otherProper, rfl⟩
  have lies := Position.LiesIn.passAll (Position.liesIn_origin layout.bytes)
    (List.append_nil layout.bytes).symm
  refine ⟨?_, by rwa [Layout.endOf_bytes proper], ?_⟩
  · rw [Layout.endOf_bytes proper, Position.offset_passAll]
    exact Nat.zero_add _
  tfae_have 1 → 3 := by
    intro joined token member
    rw [joined, tokensOf_of_isProper proper, Layout.dropLast_tokensFrom] at member
    rw [Layout.endOf_bytes proper] at member
    rintro ⟨starts, stops⟩
    rcases List.mem_append.mp member with ofFront | ofBack
    · have inFront := Layout.stop_le_of_mem proper (List.mem_append_left _ ofFront)
      simp only [Position.origin] at inFront
      omega
    · rcases List.mem_map.mp ofBack with ⟨moved, _, rfl⟩
      simp only [Token.behind, Position.offset_behind, Position.offset_passAll] at starts
      omega
  tfae_have 3 → 2 := by
    intro noneCrosses fuses
    rcases (Layout.fuses_iff proper _).mp fuses with ⟨last, atCut, next, head, fusesNext⟩
    rcases List.head?_eq_some_iff.mp head with ⟨more, split⟩
    rcases Layout.exists_crossing more .origin proper atCut fusesNext with
      ⟨whole, wholeProper, sameBytes, token, member, starts, stops⟩
    rw [← split] at sameBytes
    rw [← sameBytes, tokensOf_of_isProper wholeProper] at noneCrosses
    simp only [Position.origin, Nat.zero_add] at starts stops
    exact noneCrosses token member ⟨starts, stops⟩
  tfae_have 2 → 1 := by
    intro apart
    have ends : ∀ last ∈ layout.openEnd?, last.EndsBefore other.bytes := by
      intro last atCut next head
      by_contra fuses
      exact apart ((Layout.fuses_iff proper _).mpr
        ⟨last, atCut, next, head, by simpa using fuses⟩)
    have joined := Layout.isProper_append proper otherProper ends
    rw [← Layout.bytes_append, tokensOf_of_isProper joined, Layout.tokensFrom_append,
      tokensOf_of_isProper proper, tokensOf_of_isProper otherProper, Layout.endOf_bytes proper,
      ← Layout.tokensFrom_behind, Position.behind_origin lies, Layout.dropLast_tokensFrom]
  tfae_finish

end MonkeyLexis
