import MonkeyLexis.Proofs.Place

/-!
# Tokenizations

What it means that a list of tokens is a tokenization of a source, said of kinds, literals and
offsets alone: the tokens lie in the source one behind the other, what lies between them is blank,
each of them is spelled as its kind asks and reaches as far as it can, and the end of the input is
the last of them.

A source has exactly one tokenization, which is what the scanner answers. Lines and columns are no
part of it: those of the scanner are the ones that belong to the offsets.
-/

namespace MonkeyLexis

/-- What a token says of its source, apart from lines and columns. -/
@[ext]
structure Outline where
  kind : TokenKind
  literal : String
  start : Nat
  stop : Nat
deriving DecidableEq

def Token.outline (token : Token) : Outline :=
  { kind := token.kind, literal := token.literal,
    start := token.start.offset, stop := token.stop.offset }

namespace TokenKind

/-- Whether a token of the kind may be made of `text`. -/
def Spells (text : List Byte) : TokenKind → Prop
  | eof => text = []
  | illegal => ∃ byte, text = [byte] ∧ byte.isLegal = false
  | ident => text ≠ [] ∧ (∀ byte ∈ text, byte.isLetter = true) ∧
      ∀ word : Keyword, text ≠ Text.encode word.spelling
  | int => text ≠ [] ∧ ∀ byte ∈ text, byte.isDigit = true
  | symbol sign => text = Text.encode sign.spelling
  | keyword word => text = Text.encode word.spelling

/-- Whether `next` may not stand right behind a token of the kind. -/
def fusesWith (next : Byte) : TokenKind → Bool
  | ident | keyword _ => next.isLetter
  | int => next.isDigit
  | symbol .assign | symbol .bang => next = Byte.equalsSign
  | symbol _ | illegal | eof => false

end TokenKind

namespace Outline

def Covers (index : Nat) (outline : Outline) : Prop :=
  outline.start ≤ index ∧ index < outline.stop

def stretch (source : List Byte) (outline : Outline) : List Byte :=
  (source.drop outline.start).take (outline.stop - outline.start)

end Outline

def Outline.endOfInput (length : Nat) : Outline :=
  { kind := .eof, literal := "", start := length, stop := length }

def Lexeme.outline (before : Nat) (lexeme : Lexeme) : Outline :=
  { kind := lexeme.kind, literal := lexeme.literal,
    start := before, stop := before + lexeme.bytes.length }

structure IsTokenization (source : List Byte) (outlines : List Outline) : Prop where
  /-- The end of the input is the last token and no other. -/
  ends : ∃ front, (∀ outline ∈ front, outline.kind ≠ .eof) ∧
    outlines = front ++ [Outline.endOfInput source.length]
  /-- No token begins before the one ahead of it has ended. -/
  ordered : outlines.Pairwise fun earlier later => earlier.stop ≤ later.start
  /-- What lies in no token is blank. -/
  blank : ∀ index byte, source[index]? = some byte →
    (∀ outline ∈ outlines, ¬outline.Covers index) → byte.isBlank = true
  /-- Each token is made of what its kind asks. -/
  spelled : ∀ outline ∈ outlines, outline.kind.Spells (outline.stretch source)
  /-- No token could be longer. -/
  maximal : ∀ outline ∈ outlines, ∀ next, source[outline.stop]? = some next →
    outline.kind.fusesWith next = false
  /-- The literal is what the token is made of, except for an illegal byte. -/
  literal : ∀ outline ∈ outlines, Text.encode outline.literal =
    if outline.kind = .illegal then [] else outline.stretch source

/-! ### Lexemes and kinds -/

theorem Symbol.encode_spelling (symbol : Symbol) : Text.encode symbol.spelling = symbol.bytes := by
  cases symbol <;> decide +kernel

theorem Keyword.isLetter_of_mem_encode (word : Keyword) :
    Text.encode word.spelling ≠ [] ∧
      ∀ byte ∈ Text.encode word.spelling, byte.isLetter = true := by
  cases word <;> decide +kernel

namespace Lexeme

theorem kind_word_eq_keyword_iff {letters : List Byte}
    (inside : ∀ byte ∈ letters, byte.isLetter = true) {found : Keyword} :
    (word letters).kind = .keyword found ↔ letters = Text.encode found.spelling := by
  rw [kind, TokenKind.ofWord_eq_keyword_iff, Text.ofSevenBit_eq_iff]
  exact fun byte member => Byte.lt_of_isLetter (inside byte member)

theorem kind_word_eq_ident_iff {letters : List Byte}
    (inside : ∀ byte ∈ letters, byte.isLetter = true) :
    (word letters).kind = .ident ↔
      ∀ found : Keyword, letters ≠ Text.encode found.spelling := by
  rw [kind, TokenKind.ofWord_eq_ident_iff]
  apply forall_congr'
  intro found
  rw [Ne, Text.ofSevenBit_eq_iff]
  exact fun byte member => Byte.lt_of_isLetter (inside byte member)

@[simp]
theorem fusesWith_kind (next : Byte) (lexeme : Lexeme) :
    lexeme.kind.fusesWith next = lexeme.fusesWith next := by
  cases lexeme with
  | word letters =>
      rcases kind_word letters with ident | ⟨found, keyword⟩
      · rw [ident]
        rfl
      · rw [keyword]
        rfl
  | number digits => rfl
  | symbol sign => cases sign <;> rfl
  | illegal byte => rfl

theorem encode_literal {lexeme : Lexeme} (spelled : lexeme.IsSpelled) :
    Text.encode lexeme.literal = if lexeme.kind = .illegal then [] else lexeme.bytes := by
  cases lexeme with
  | word letters =>
      have notIllegal : (word letters).kind ≠ .illegal := by
        rcases kind_word letters with ident | ⟨found, keyword⟩
        · simp [ident]
        · simp [keyword]
      rw [if_neg notIllegal]
      exact Text.encode_ofSevenBit fun byte member => Byte.lt_of_isLetter (spelled.2 byte member)
  | number digits =>
      exact Text.encode_ofSevenBit fun byte member => Byte.lt_of_isDigit (spelled.2 byte member)
  | symbol sign => cases sign <;> decide +kernel
  | illegal byte => rfl

theorem spells_kind {lexeme : Lexeme} (spelled : lexeme.IsSpelled) :
    lexeme.kind.Spells lexeme.bytes := by
  cases lexeme with
  | word letters =>
      rcases spelled with ⟨nonempty, inside⟩
      rcases kind_word letters with ident | ⟨found, keyword⟩
      · rw [ident]
        exact ⟨nonempty, inside, (kind_word_eq_ident_iff inside).mp ident⟩
      · rw [keyword]
        exact (kind_word_eq_keyword_iff inside).mp keyword
  | number digits => exact spelled
  | symbol sign => exact sign.encode_spelling.symm
  | illegal byte => exact ⟨byte, rfl, spelled⟩

/-- Whatever is spelled as its kind asks is a lexeme of the kind. -/
theorem exists_of_spells {kind : TokenKind} {text : List Byte} (notEof : kind ≠ .eof)
    (spells : kind.Spells text) :
    ∃ lexeme : Lexeme, lexeme.IsSpelled ∧ lexeme.kind = kind ∧ lexeme.bytes = text := by
  cases kind with
  | eof => contradiction
  | illegal =>
      rcases spells with ⟨byte, rfl, notLegal⟩
      exact ⟨illegal byte, notLegal, rfl, rfl⟩
  | ident =>
      rcases spells with ⟨nonempty, inside, noKeyword⟩
      exact ⟨word text, ⟨nonempty, inside⟩, (kind_word_eq_ident_iff inside).mpr noKeyword, rfl⟩
  | int => exact ⟨number text, spells, rfl, rfl⟩
  | symbol sign => exact ⟨symbol sign, trivial, rfl, spells.trans sign.encode_spelling |>.symm⟩
  | keyword found =>
      rcases spells with rfl
      have spelled := found.isLetter_of_mem_encode
      exact ⟨word _, spelled, (kind_word_eq_keyword_iff spelled.2).mpr rfl, rfl⟩

theorem stretch_outline (before after : List Byte) (lexeme : Lexeme) :
    (lexeme.outline before.length).stretch (before ++ (lexeme.bytes ++ after)) = lexeme.bytes := by
  simp [Outline.stretch, outline]

end Lexeme

namespace Token

@[simp]
theorem outline_ofLexeme (lexeme : Lexeme) (start : Position) :
    (ofLexeme lexeme start (start.passAll lexeme.bytes)).outline =
      lexeme.outline start.offset := by
  simp [outline, ofLexeme, Lexeme.outline, Position.offset_passAll]

@[simp]
theorem outline_endOfInput (place : Position) :
    (endOfInput place).outline = Outline.endOfInput place.offset := rfl

end Token

/-! ### The scanner answers with a tokenization -/

namespace Layout

variable {layout : Layout}

theorem offset_le_start_of_mem {place : Position} {token : Token} (proper : layout.IsProper)
    (member : token ∈ layout.tokensFrom place) : place.offset ≤ token.start.offset := by
  rcases exists_stretch_of_mem proper member with ⟨before, _, _, _, start, _, _⟩
  rw [start, Position.offset_passAll]
  exact Nat.le_add_right _ _

theorem pairwise_tokensFrom (proper : layout.IsProper) (place : Position) :
    (layout.tokensFrom place).Pairwise
      fun earlier later => earlier.stop.offset ≤ later.start.offset := by
  induction layout generalizing place with
  | blanks gap => exact List.pairwise_singleton _ _
  | lexeme gap first rest ih =>
      rcases proper with ⟨_, _, _, properRest⟩
      rw [tokensFrom_lexeme]
      apply List.pairwise_cons.mpr
      refine ⟨?_, ih properRest _⟩
      intro token member
      exact offset_le_start_of_mem properRest member

/-- What lies in no token of a layout lies in one of its gaps. -/
theorem isBlank_of_uncovered {place : Position} {index : Nat} {byte : Byte}
    (proper : layout.IsProper) (found : layout.bytes[index]? = some byte)
    (uncovered : ∀ token ∈ layout.tokensFrom place,
      ¬token.outline.Covers (place.offset + index)) : byte.isBlank = true := by
  induction layout generalizing place index with
  | blanks gap => exact proper byte (List.mem_of_getElem? found)
  | lexeme gap first rest ih =>
      rcases proper with ⟨blank, _, _, properRest⟩
      rw [tokensFrom_lexeme] at uncovered
      rw [bytes_lexeme] at found
      have notInFirst := uncovered _ List.mem_cons_self
      simp only [Outline.Covers, Token.outline, Token.ofLexeme, Position.offset_passAll,
        not_and, not_lt] at notInFirst
      by_cases inGap : index < gap.length
      · rw [List.getElem?_append_left inGap] at found
        exact blank byte (List.mem_of_getElem? found)
      · have behind : gap.length + first.bytes.length ≤ index := by omega
        rw [List.getElem?_append_right (by omega), List.getElem?_append_right (by omega)] at found
        have uncoveredRest : ∀ token ∈ rest.tokensFrom ((place.passAll gap).passAll first.bytes),
            ¬token.outline.Covers (((place.passAll gap).passAll first.bytes).offset +
              (index - gap.length - first.bytes.length)) := by
          intro token member covered
          apply uncovered token (List.mem_cons_of_mem _ member)
          simp only [Position.offset_passAll] at covered
          have sameIndex : place.offset + gap.length + first.bytes.length +
              (index - gap.length - first.bytes.length) = place.offset + index := by omega
          rwa [sameIndex] at covered
        exact ih properRest found uncoveredRest

/-- An outline of a proper layout is that of one of its lexemes or of the end of the input. -/
theorem outline_cases {outline : Outline} (proper : layout.IsProper)
    (member : outline ∈ (layout.tokensFrom .origin).map Token.outline) :
    (∃ (before : List Byte) (first : Lexeme) (after : List Byte),
      layout.bytes = before ++ (first.bytes ++ after) ∧ first.IsSpelled ∧
        first.EndsBefore after ∧ outline = first.outline before.length) ∨
    outline = Outline.endOfInput layout.bytes.length := by
  rcases List.mem_map.mp member with ⟨token, made, rfl⟩
  rcases List.mem_append.mp made with ofLexeme | ofEnd
  · left
    rcases exists_lexeme_of_mem proper ofLexeme with
      ⟨before, first, after, split, spelled, ends, rfl⟩
    refine ⟨before, first, after, split, spelled, ends, ?_⟩
    simp [Position.offset_passAll, Position.origin]
  · right
    rcases List.mem_singleton.mp ofEnd with rfl
    simp [Position.offset_passAll, Position.origin]

/-- The tokens of a proper layout are a tokenization of its text. -/
theorem isTokenization (proper : layout.IsProper) :
    IsTokenization layout.bytes ((layout.tokensFrom .origin).map Token.outline) where
  ends := by
    refine ⟨(layout.lexemeTokens .origin).map Token.outline, ?_, ?_⟩
    · intro outline member
      rcases List.mem_map.mp member with ⟨token, ofLexeme, rfl⟩
      rcases exists_lexeme_of_mem proper ofLexeme with ⟨_, first, _, _, _, _, rfl⟩
      exact first.kind_ne_eof
    · simp [tokensFrom, Position.offset_passAll, Position.origin]
  ordered := List.pairwise_map.mpr (pairwise_tokensFrom proper .origin)
  blank := by
    intro index byte found uncovered
    have uncoveredTokens : ∀ token ∈ layout.tokensFrom .origin,
        ¬token.outline.Covers (Position.origin.offset + index) := by
      intro token member
      rw [show Position.origin.offset + index = index from Nat.zero_add index]
      exact uncovered _ (List.mem_map_of_mem member)
    exact isBlank_of_uncovered proper found uncoveredTokens
  spelled := by
    intro outline member
    rcases outline_cases proper member with ⟨before, first, after, split, spelled, _, rfl⟩ | rfl
    · rw [split, Lexeme.stretch_outline]
      exact Lexeme.spells_kind spelled
    · simp [Outline.endOfInput, Outline.stretch, TokenKind.Spells]
  maximal := by
    intro outline member next found
    rcases outline_cases proper member with ⟨before, first, after, split, _, ends, rfl⟩ | rfl
    · apply Eq.trans (Lexeme.fusesWith_kind next first)
      apply ends
      rw [split, ← List.append_assoc, ← List.head?_drop] at found
      simpa [Lexeme.outline] using found
    · rfl
  literal := by
    intro outline member
    rcases outline_cases proper member with ⟨before, first, after, split, spelled, _, rfl⟩ | rfl
    · rw [split, Lexeme.stretch_outline]
      exact Lexeme.encode_literal spelled
    · simp [Outline.endOfInput, Outline.stretch, Text.encode]

end Layout

/-! ### A source has no other tokenization -/

namespace IsTokenization

variable {source : List Byte} {outlines before after : List Outline} {outline : Outline}

theorem kind_ne_eof (tokenization : IsTokenization source outlines)
    (split : outlines = before ++ outline :: after) (more : after ≠ []) :
    outline.kind ≠ .eof := by
  rcases tokenization.ends with ⟨front, notEof, whole⟩
  apply notEof
  have sameFront : front = (before ++ outline :: after).dropLast := by
    rw [← split, whole, List.dropLast_concat]
  rw [sameFront, List.dropLast_append_cons, List.dropLast_cons_of_ne_nil more]
  simp

theorem eq_endOfInput (tokenization : IsTokenization source outlines)
    (split : outlines = before ++ [outline]) : outline = Outline.endOfInput source.length := by
  rcases tokenization.ends with ⟨front, _, whole⟩
  exact (List.append_inj_right' (split.symm.trans whole) rfl) |> List.singleton_inj.mp

theorem stop_le_length (tokenization : IsTokenization source outlines)
    (member : outline ∈ outlines) : outline.stop ≤ source.length := by
  rcases tokenization.ends with ⟨front, _, whole⟩
  have ordered := tokenization.ordered
  rw [whole] at member ordered
  rcases List.mem_append.mp member with inFront | last
  · exact (List.pairwise_append.mp ordered).2.2 outline inFront _ List.mem_cons_self
  · rcases List.mem_singleton.mp last with rfl
    exact Nat.le_refl _

theorem exists_lexeme (tokenization : IsTokenization source outlines)
    (member : outline ∈ outlines) (notEof : outline.kind ≠ .eof) :
    ∃ lexeme : Lexeme, lexeme.IsSpelled ∧ lexeme.bytes = outline.stretch source ∧
      outline = lexeme.outline outline.start := by
  rcases Lexeme.exists_of_spells notEof (tokenization.spelled outline member) with
    ⟨lexeme, spelled, sameKind, sameBytes⟩
  have sameLiteral : outline.literal = lexeme.literal := by
    apply Text.encode_injective
    rw [tokenization.literal outline member, Lexeme.encode_literal spelled, sameKind, sameBytes]
  have inside := tokenization.stop_le_length member
  have nonempty := List.length_pos_iff.mpr (Lexeme.bytes_ne_nil spelled)
  have sameLength := congrArg List.length sameBytes
  rw [Outline.stretch, List.length_take, List.length_drop] at sameLength
  have sameStop : outline.stop = outline.start + lexeme.bytes.length := by omega
  exact ⟨lexeme, spelled, sameBytes, Outline.ext sameKind.symm sameLiteral rfl sameStop⟩

/-- A byte behind the tokens `before` that no token ahead covers is blank. -/
theorem isBlank_of_between {reached index : Nat} {byte : Byte}
    (tokenization : IsTokenization source outlines) (split : outlines = before ++ after)
    (past : ∀ outline ∈ before, outline.stop ≤ reached) (behind : reached ≤ index)
    (uncovered : ∀ outline ∈ after, ¬outline.Covers index)
    (found : source[index]? = some byte) : byte.isBlank = true := by
  apply tokenization.blank index byte found
  intro outline member covered
  rw [split] at member
  rcases List.mem_append.mp member with earlier | later
  · have := past outline earlier
    have := covered.2
    omega
  · exact uncovered outline later covered

theorem take_append_drop_of_le {first second : Nat} (before : first ≤ second) :
    (source.drop first).take (second - first) ++ source.drop second = source.drop first := by
  have split := List.take_append_drop (second - first) (source.drop first)
  rwa [List.drop_drop, Nat.add_sub_of_le before] at split

/-- What is left of a tokenization behind the tokens `before` is read off a proper layout of what
is left of the source. -/
theorem exists_layout {reached : Nat} (tokenization : IsTokenization source outlines)
    (split : outlines = before ++ after) (nonempty : after ≠ [])
    (past : ∀ outline ∈ before, outline.stop ≤ reached)
    (ahead : ∀ outline ∈ after, reached ≤ outline.start) :
    ∃ layout : Layout, layout.IsProper ∧ layout.bytes = source.drop reached ∧
      ∀ place, place.offset = reached → (layout.tokensFrom place).map Token.outline = after := by
  induction after generalizing before reached with
  | nil => contradiction
  | cons outline after ih =>
      have reachedStart := ahead outline List.mem_cons_self
      by_cases last : after = []
      · subst last
        rcases tokenization.eq_endOfInput split with rfl
        refine ⟨.blanks (source.drop reached), ?_, rfl, ?_⟩
        · intro byte member
          rcases List.mem_iff_getElem?.mp member with ⟨index, found⟩
          rw [List.getElem?_drop] at found
          apply tokenization.isBlank_of_between split past (Nat.le_add_right _ _) _ found
          intro other listed covered
          rcases List.mem_singleton.mp listed with rfl
          have := covered.1
          have := covered.2
          simp only [Outline.endOfInput] at *
          omega
        · intro place same
          simp only [Outline.endOfInput] at reachedStart
          have sameEnd : reached + (source.length - reached) = source.length := by omega
          simp [Layout.tokensFrom_blanks, Position.offset_passAll, same, sameEnd]
      · have member : outline ∈ outlines := by simp [split]
        rcases tokenization.exists_lexeme member (tokenization.kind_ne_eof split last) with
          ⟨lexeme, spelled, sameBytes, isLexeme⟩
        have stop : outline.stop = outline.start + lexeme.bytes.length :=
          congrArg Outline.stop isLexeme
        have ordered := tokenization.ordered
        rw [split] at ordered
        have later : ∀ other ∈ after, outline.stop ≤ other.start :=
          (List.pairwise_cons.mp (List.pairwise_append.mp ordered).2.1).1
        have earlier : ∀ other ∈ before ++ [outline], other.stop ≤ outline.stop := by
          intro other listed
          rcases List.mem_append.mp listed with inBefore | isOutline
          · have := past other inBefore
            omega
          · rcases List.mem_singleton.mp isOutline with rfl
            exact Nat.le_refl _
        rcases ih (by simp [split]) last earlier later with ⟨layout, proper, sameRest, sameOutlines⟩
        -- What lies between the last token and this one becomes the gap before its lexeme.
        refine ⟨.lexeme ((source.drop reached).take (outline.start - reached)) lexeme layout,
          ⟨?_, spelled, ?_, proper⟩, ?_, ?_⟩
        · intro byte inGap
          rcases List.mem_iff_getElem?.mp inGap with ⟨index, found⟩
          rw [List.getElem?_take] at found
          split at found
          · next beforeStart =>
              rw [List.getElem?_drop] at found
              apply tokenization.isBlank_of_between split past (Nat.le_add_right _ _) _ found
              intro other listed covered
              have := covered.1
              rcases List.mem_cons.mp listed with rfl | isLater
              · omega
              · have := later other isLater
                omega
          · contradiction
        · intro next first
          rw [sameRest, List.head?_drop] at first
          have alone := tokenization.maximal outline member next first
          rw [isLexeme] at alone
          exact (Lexeme.fusesWith_kind next lexeme).symm.trans alone
        · rw [Layout.bytes_lexeme, sameRest, sameBytes, Outline.stretch,
            take_append_drop_of_le (by omega), take_append_drop_of_le reachedStart]
        · intro place same
          have inside := tokenization.stop_le_length member
          have start : (place.passAll
              ((source.drop reached).take (outline.start - reached))).offset = outline.start := by
            rw [Position.offset_passAll, List.length_take, List.length_drop, same]
            omega
          rw [Layout.tokensFrom_lexeme, List.map_cons, Token.outline_ofLexeme, start, ← isLexeme]
          congr 1
          apply sameOutlines
          rw [Position.offset_passAll, start, stop]

theorem eq_map_outline (tokenization : IsTokenization source outlines) :
    outlines = (tokensOf source).map Token.outline := by
  rcases tokenization.ends with ⟨front, _, whole⟩
  have nonempty : outlines ≠ [] := by simp [whole]
  have ahead : ∀ outline ∈ outlines, 0 ≤ outline.start := fun _ _ => Nat.zero_le _
  rcases tokenization.exists_layout (List.nil_append _).symm nonempty (by simp) ahead with
    ⟨layout, proper, sameBytes, sameOutlines⟩
  rw [List.drop_zero] at sameBytes
  rw [← sameBytes, tokensOf_of_isProper proper]
  exact (sameOutlines .origin rfl).symm

end IsTokenization

namespace Token

/-- In one source, tokens with the same outline have the same positions. -/
theorem eq_of_outline_eq {source : List Byte} {token other : Token}
    (lies : token.start.LiesIn source ∧ token.stop.LiesIn source)
    (otherLies : other.start.LiesIn source ∧ other.stop.LiesIn source)
    (same : token.outline = other.outline) : token = other := by
  have sameStart := lies.1.eq_of_offset_eq otherLies.1 (congrArg Outline.start same)
  have sameStop := lies.2.eq_of_offset_eq otherLies.2 (congrArg Outline.stop same)
  have sameKind : token.kind = other.kind := congrArg Outline.kind same
  have sameLiteral : token.literal = other.literal := congrArg Outline.literal same
  cases token
  cases other
  simp_all

theorem eq_of_map_outline_eq {source : List Byte} {tokens others : List Token}
    (lie : ∀ token ∈ tokens, token.start.LiesIn source ∧ token.stop.LiesIn source)
    (othersLie : ∀ token ∈ others, token.start.LiesIn source ∧ token.stop.LiesIn source)
    (same : tokens.map outline = others.map outline) : tokens = others := by
  induction tokens generalizing others with
  | nil => exact (List.map_eq_nil_iff.mp same.symm).symm
  | cons token tokens ih =>
      rcases List.map_eq_cons_iff.mp same.symm with ⟨other, rest, rfl, sameHead, sameTail⟩
      simp only [List.forall_mem_cons] at lie othersLie
      rw [eq_of_outline_eq lie.1 othersLie.1 sameHead.symm,
        ih lie.2 othersLie.2 sameTail.symm]

end Token

/-- The scanner answers with the one tokenization of its source, and the positions of its tokens
are those of their offsets. -/
theorem isTokenization_iff_tokensOf (source : List Byte) :
    (∀ outlines, IsTokenization source outlines ↔
      outlines = (tokensOf source).map Token.outline) ∧
    (∀ tokens, tokens = tokensOf source ↔
      IsTokenization source (tokens.map Token.outline) ∧
        ∀ token ∈ tokens, token.start.LiesIn source ∧ token.stop.LiesIn source) := by
  rcases Layout.exists_isProper source with ⟨layout, proper, rfl⟩
  have scanned := tokensOf_of_isProper proper
  have only : ∀ outlines, IsTokenization layout.bytes outlines ↔
      outlines = (tokensOf layout.bytes).map Token.outline := by
    intro outlines
    constructor
    · exact IsTokenization.eq_map_outline
    · rintro rfl
      rw [scanned]
      exact Layout.isTokenization proper
  have lie : ∀ token ∈ tokensOf layout.bytes,
      token.start.LiesIn layout.bytes ∧ token.stop.LiesIn layout.bytes := by
    rw [scanned]
    exact fun token => Layout.liesIn_of_mem proper
  refine ⟨only, ?_⟩
  intro tokens
  constructor
  · rintro rfl
    exact ⟨(only _).mpr rfl, lie⟩
  · rintro ⟨tokenization, tokensLie⟩
    exact Token.eq_of_map_outline_eq tokensLie lie ((only _).mp tokenization)

end MonkeyLexis
