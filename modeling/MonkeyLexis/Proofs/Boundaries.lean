import MonkeyLexis.Proofs.Concatenation
import MonkeyLexis.Proofs.InputLines
import MonkeyLexis.Proofs.Legality
import MonkeyLexis.Proofs.Tokenization

/-!
# Tokens and characters

The scanner reads bytes and knows nothing of characters, so it cuts a character of several bytes
into as many illegal tokens. Whoever has the source as text can still cut it at the tokens: only an
illegal token starts or stops within a character.

Two facts carry this. A byte of 7 bits is all of its character, so what stands before it and behind
it is text again. And no lexeme grows by a byte of a longer character, so the bytes of such a
character always stand between two tokens.
-/

namespace MonkeyLexis

namespace Text

@[simp]
theorem length_encode (text : String) : (encode text).length = text.utf8ByteSize := by
  rw [← List.size_toByteArray, toByteArray_encode, String.size_toByteArray]

theorem encode_append (front back : String) :
    encode (front ++ back) = encode front ++ encode back := by
  simp [encode]

theorem encode_ofList_cons (character : Char) (characters : List Char) :
    encode (String.ofList (character :: characters)) =
      String.utf8EncodeChar character ++ encode (String.ofList characters) := by
  simp [encode]

theorem utf8EncodeChar_ofUInt8 {byte : Byte} (sevenBit : byte < 128) :
    String.utf8EncodeChar (Char.ofUInt8 byte) = [byte] := by
  simpa [encode, ofSevenBit] using encode_ofSevenBit (List.forall_mem_singleton.mpr sevenBit)

/-! ### Where text can be cut -/

/-- Every byte of an encoding belongs to one character. -/
theorem exists_character_of_split {characters : List Char} {before after : List Byte} {byte : Byte}
    (split : encode (String.ofList characters) = before ++ byte :: after) :
    ∃ front character back left right, characters = front ++ character :: back ∧
      String.utf8EncodeChar character = left ++ byte :: right ∧
      before = encode (String.ofList front) ++ left ∧
      after = right ++ encode (String.ofList back) := by
  induction characters generalizing before with
  | nil => simp [encode] at split
  | cons first characters ih =>
      rw [encode_ofList_cons] at split
      rcases List.append_eq_append_iff.mp split with
        ⟨middle, rfl, others⟩ | ⟨middle, inFirst, others⟩
      · rcases ih others with ⟨front, character, back, left, right, rfl, inside, rfl, rfl⟩
        refine ⟨first :: front, character, back, left, right, rfl, inside, ?_, rfl⟩
        rw [encode_ofList_cons, List.append_assoc]
      · cases middle with
        | nil =>
            -- The first character ends right before the byte.
            have atNext : encode (String.ofList characters) = [] ++ byte :: after := others.symm
            rcases ih atNext with
              ⟨front, character, back, left, right, rfl, inside, atStart, rfl⟩
            refine ⟨first :: front, character, back, left, right, rfl, inside, ?_, rfl⟩
            rw [encode_ofList_cons, List.append_assoc, ← atStart, inFirst]
            simp
        | cons head middle =>
            rcases List.cons.inj others with ⟨rfl, rfl⟩
            exact ⟨[], first, characters, before, middle, rfl, inFirst, rfl, rfl⟩

/-- What stands before and behind a byte of 7 bits is text. -/
theorem exists_split_of_lt {characters : List Char} {before after : List Byte} {byte : Byte}
    (sevenBit : byte < 128)
    (split : encode (String.ofList characters) = before ++ byte :: after) :
    ∃ front back, characters = front ++ Char.ofUInt8 byte :: back ∧
      before = encode (String.ofList front) ∧ after = encode (String.ofList back) := by
  rcases exists_character_of_split split with
    ⟨front, character, back, left, right, rfl, inside, rfl, rfl⟩
  obtain rfl : character = Char.ofUInt8 byte := eq_ofUInt8_of_mem sevenBit (by simp [inside])
  rw [utf8EncodeChar_ofUInt8 sevenBit, List.singleton_eq_append_iff] at inside
  rcases inside with ⟨rfl, alone⟩ | ⟨_, impossible⟩
  · rcases List.cons.inj alone with ⟨_, rfl⟩
    exact ⟨front, back, rfl, List.append_nil _, rfl⟩
  · contradiction

/-- What stands behind bytes of 7 bits at the start of text is text. -/
theorem exists_append_of_sevenBit {characters : List Char} {bytes after : List Byte}
    (sevenBit : ∀ byte ∈ bytes, byte < 128)
    (split : encode (String.ofList characters) = bytes ++ after) :
    ∃ back, characters = bytes.map Char.ofUInt8 ++ back ∧ after = encode (String.ofList back) := by
  induction bytes generalizing characters with
  | nil => exact ⟨characters, rfl, split.symm⟩
  | cons byte bytes ih =>
      rw [List.forall_mem_cons] at sevenBit
      have atHead : encode (String.ofList characters) = [] ++ byte :: (bytes ++ after) := split
      rcases exists_split_of_lt sevenBit.1 atHead with
        ⟨front, others, rfl, atStart, isRest⟩
      obtain rfl : front = [] := by
        have noText : encode (String.ofList front) = encode "" := atStart.symm
        exact String.ofList_injective (encode_injective noText)
      rcases ih sevenBit.2 isRest.symm with ⟨back, rfl, isAfter⟩
      exact ⟨back, rfl, isAfter⟩

/-- Text is text before, within and behind a stretch of 7-bit bytes. -/
theorem exists_append_of_stretch {text : String} {before stretch after : List Byte}
    (nonempty : stretch ≠ []) (sevenBit : ∀ byte ∈ stretch, byte < 128)
    (split : encode text = before ++ (stretch ++ after)) :
    ∃ front back, text = front ++ (ofSevenBit stretch ++ back) ∧
      before = encode front ∧ after = encode back := by
  rcases List.exists_cons_of_ne_nil nonempty with ⟨byte, others, rfl⟩
  rw [List.forall_mem_cons] at sevenBit
  rw [← String.ofList_toList (s := text)] at split
  rcases exists_split_of_lt sevenBit.1 split with ⟨front, rest, isText, isBefore, isRest⟩
  rcases exists_append_of_sevenBit sevenBit.2 isRest.symm with ⟨back, rfl, isAfter⟩
  refine ⟨String.ofList front, String.ofList back, ?_, isBefore, isAfter⟩
  rw [← String.ofList_toList (s := text), isText]
  simp [ofSevenBit, String.append_assoc]

/-- A part of text can be cut out of it at its two ends. -/
theorem exists_slice {text front middle back : String} (split : text = front ++ (middle ++ back)) :
    ∃ (start stop : text.Pos) (inOrder : start ≤ stop),
      start.offset.byteIdx = front.utf8ByteSize ∧
        stop.offset.byteIdx = front.utf8ByteSize + middle.utf8ByteSize ∧
        (text.slice start stop inOrder).copy = middle := by
  have splitBehind : text = (front ++ middle) ++ back := split.trans String.append_assoc.symm
  let start : text.Pos :=
    ⟨front.rawEndPos, String.Pos.Raw.isValid_iff_exists_append.mpr ⟨front, _, split, rfl⟩⟩
  let stop : text.Pos :=
    ⟨(front ++ middle).rawEndPos,
      String.Pos.Raw.isValid_iff_exists_append.mpr ⟨_, back, splitBehind, rfl⟩⟩
  have cut : ∃ inOrder : start ≤ stop, (text.slice start stop inOrder).copy = middle :=
    String.copy_slice_eq_iff_splits.mpr ⟨front, back, ⟨split, rfl⟩, ⟨splitBehind, rfl⟩⟩
  rcases cut with ⟨inOrder, isMiddle⟩
  exact ⟨start, stop, inOrder, rfl, String.utf8ByteSize_append, isMiddle⟩

theorem toNat_lt_of_mem_ofSevenBit {bytes : List Byte} (sevenBit : ∀ byte ∈ bytes, byte < 128) :
    ∀ character ∈ (ofSevenBit bytes).toList, character.toNat < 128 := by
  intro character member
  rw [ofSevenBit, String.toList_ofList] at member
  rcases List.mem_map.mp member with ⟨byte, typed, rfl⟩
  exact UInt8.lt_iff_toNat_lt.mp (sevenBit byte typed)

end Text

/-! ### Bytes that are illegal in a row -/

namespace Byte

theorem lt_of_isLegal {byte : Byte} (legal : byte.isLegal = true) : byte < 128 := by
  have every : ∀ other : Byte, other.isLegal = true → other < 128 :=
    forall_of_forall_lt (by decide +kernel)
  exact every byte legal

/-- No byte of a character beyond 7 bits is legal. -/
theorem isLegal_of_mem_utf8EncodeChar {byte : Byte} {character : Char}
    (long : 128 ≤ character.toNat) (member : byte ∈ String.utf8EncodeChar character) :
    byte.isLegal = false := by
  have notSingle : character.utf8Size ≠ 1 := by
    intro single
    have small := UInt32.le_iff_toNat_le.mp (Char.utf8Size_eq_one_iff.mp single)
    rw [Char.toNat_val] at small
    exact absurd (Nat.le_trans long small) (by decide)
  by_contra legal
  have legal : byte.isLegal = true := by simpa using legal
  exact Text.not_lt_of_mem_utf8EncodeChar notSingle member (lt_of_isLegal legal)

end Byte

/-- No lexeme grows by an illegal byte. -/
theorem Lexeme.fusesWith_of_not_isLegal {byte : Byte} (notLegal : byte.isLegal = false)
    (lexeme : Lexeme) : lexeme.fusesWith byte = false := by
  by_contra fuses
  have fuses : lexeme.fusesWith byte = true := by simpa using fuses
  have legal : byte.isLegal = true := by
    cases lexeme with
    | word letters =>
        have letter : byte.isLetter = true := fuses
        simp [Byte.isLegal, letter]
    | number digits =>
        have digit : byte.isDigit = true := fuses
        simp [Byte.isLegal, digit]
    | symbol sign =>
        have equals : byte = Byte.equalsSign := by
          cases sign <;> first | exact of_decide_eq_true fuses | contradiction
        rw [equals]
        decide
    | illegal bad => contradiction
  rw [notLegal] at legal
  contradiction

/-- The tokens of `count` illegal bytes in a row, the first of which stands at `place`. -/
def Token.illegalRun (place : Position) (count : Nat) : List Token :=
  (List.range count).map fun index => illegalAt (place.advance index)

theorem Token.illegalRun_succ (place : Position) (count : Nat) :
    illegalRun place (count + 1) = illegalAt place :: illegalRun (place.advance 1) count := by
  simp [illegalRun, List.range_succ_eq_map, Nat.add_comm 1]

namespace Layout

/-- Illegal bytes in a row, and then `rest`. -/
def afterIllegal (run : List Byte) (rest : Layout) : Layout :=
  run.foldr (fun byte => lexeme [] (.illegal byte)) rest

variable {run : List Byte} {rest : Layout}

@[simp]
theorem bytes_afterIllegal (run : List Byte) (rest : Layout) :
    (rest.afterIllegal run).bytes = run ++ rest.bytes := by
  induction run with
  | nil => rfl
  | cons byte run ih => exact congrArg (byte :: ·) ih

theorem isProper_afterIllegal (notLegal : ∀ byte ∈ run, byte.isLegal = false)
    (proper : rest.IsProper) : (rest.afterIllegal run).IsProper := by
  induction run with
  | nil => exact proper
  | cons byte run ih =>
      rw [List.forall_mem_cons] at notLegal
      refine ⟨List.forall_mem_nil _, notLegal.1, ?_, ih notLegal.2⟩
      intro next _
      rfl

theorem tokensFrom_afterIllegal (notLegal : ∀ byte ∈ run, byte.isLegal = false)
    (place : Position) (rest : Layout) :
    (rest.afterIllegal run).tokensFrom place =
      Token.illegalRun place run.length ++ rest.tokensFrom (place.passAll run) := by
  induction run generalizing place with
  | nil => rfl
  | cons byte run ih =>
      rw [List.forall_mem_cons] at notLegal
      have spelled : (Lexeme.illegal byte).IsSpelled := notLegal.1
      have moved : place.passAll [byte] = place.advance 1 :=
        Position.passAll_eq_advance place (Lexeme.lineFeed_not_mem_bytes spelled)
      have later : place.passAll (byte :: run) = (place.advance 1).passAll run :=
        congrArg (Position.passAll · run) moved
      have first := tokensFrom_lexeme place [] (.illegal byte) (rest.afterIllegal run)
      rw [Position.passAll_nil, Lexeme.bytes, moved, ih notLegal.2, ← later] at first
      rw [List.length_cons, Token.illegalRun_succ]
      exact first

end Layout

/-- Illegal bytes in a row make one token each, and every other token stands before or behind
them. -/
theorem tokensOf_around_illegal (front back : List Byte) {run : List Byte} (nonempty : run ≠ [])
    (notLegal : ∀ byte ∈ run, byte.isLegal = false) :
    ∃ before after,
      tokensOf (front ++ (run ++ back)) =
        before ++ (Token.illegalRun (placeBehind front) run.length ++ after) ∧
      (∀ token ∈ before, token.stop.offset ≤ front.length) ∧
      ∀ token ∈ after, front.length + run.length ≤ token.start.offset := by
  rcases Layout.exists_isProper front with ⟨first, properFirst, rfl⟩
  rcases Layout.exists_isProper back with ⟨last, properLast, rfl⟩
  have properRun := Layout.isProper_afterIllegal notLegal properLast
  have ends : ∀ lexeme ∈ first.openEnd?, lexeme.EndsBefore (last.afterIllegal run).bytes := by
    intro lexeme _ next head
    apply lexeme.fusesWith_of_not_isLegal
    apply notLegal
    rw [Layout.bytes_afterIllegal, List.head?_append_of_ne_nil _ nonempty] at head
    exact List.mem_of_mem_head? head
  have scanned := tokensOf_of_isProper (Layout.isProper_append properFirst properRun ends)
  rw [Layout.bytes_append, Layout.bytes_afterIllegal, Layout.tokensFrom_append, passAll_origin,
    Layout.tokensFrom_afterIllegal notLegal] at scanned
  refine ⟨_, _, scanned, ?_, ?_⟩
  · intro token member
    have made : token ∈ first.tokensFrom .origin := List.mem_append_left _ member
    have stops := Layout.stop_le_of_mem properFirst made
    simpa [Position.origin] using stops
  · intro token member
    have starts := Layout.offset_le_start_of_mem properLast member
    simpa [Position.offset_passAll, placeBehind] using starts

theorem exists_slice_of_mem_tokensOf {text : String} {token : Token}
    (member : token ∈ tokensOf (Text.encode text)) (legal : token.kind ≠ .illegal) :
    ∃ (start stop : text.Pos) (inOrder : start ≤ stop),
      start.offset.byteIdx = token.start.offset ∧ stop.offset.byteIdx = token.stop.offset ∧
        (text.slice start stop inOrder).copy = token.literal ∧
        ∀ character ∈ token.literal.toList, character.toNat < 128 := by
  rcases Layout.exists_isProper (Text.encode text) with ⟨layout, proper, isLayout⟩
  rw [← isLayout, tokensOf_of_isProper proper] at member
  rcases List.mem_append.mp member with ofLexeme | ofEnd
  · rcases Layout.exists_lexeme_of_mem proper ofLexeme with
      ⟨before, lexeme, after, split, spelled, _, rfl⟩
    have notIllegal : ∀ byte, lexeme ≠ .illegal byte := by
      intro byte isIllegal
      exact legal (Lexeme.kind_eq_illegal_iff.mpr ⟨byte, isIllegal⟩)
    have sevenBit := Lexeme.lt_of_mem_bytes spelled notIllegal
    have isLiteral : lexeme.literal = Text.ofSevenBit lexeme.bytes :=
      Lexeme.literal_eq notIllegal
    have sameLength : (Text.ofSevenBit lexeme.bytes).utf8ByteSize = lexeme.bytes.length := by
      rw [← Text.length_encode, Text.encode_ofSevenBit sevenBit]
    rw [isLayout] at split
    rcases Text.exists_append_of_stretch (Lexeme.bytes_ne_nil spelled) sevenBit split with
      ⟨front, back, isText, rfl, _⟩
    rcases Text.exists_slice isText with ⟨start, stop, inOrder, atStart, atStop, isSlice⟩
    refine ⟨start, stop, inOrder, ?_, ?_, isSlice.trans isLiteral.symm, ?_⟩
    · simp [atStart, Token.ofLexeme, Position.offset_passAll, Position.origin]
    · simp [atStop, sameLength, Token.ofLexeme, Position.offset_passAll, Position.origin]
    · simpa only [Token.ofLexeme, isLiteral] using Text.toNat_lt_of_mem_ofSevenBit sevenBit
  · rcases List.mem_singleton.mp ofEnd with rfl
    have isText : text = text ++ ("" ++ "") := by simp
    rcases Text.exists_slice isText with ⟨start, stop, inOrder, atStart, atStop, isSlice⟩
    refine ⟨start, stop, inOrder, ?_, ?_, isSlice, ?_⟩
    · simp [atStart, isLayout, Token.endOfInput, Position.offset_passAll, Position.origin]
    · simp [atStop, isLayout, Token.endOfInput, Position.offset_passAll, Position.origin]
    · simp [Token.endOfInput]

/-- Text can be cut at both ends of every token but an illegal one, and what is cut out there is the
literal, in 7-bit characters. A longer character makes as many illegal tokens as it has bytes, and
no other token reaches into it. -/
theorem tokensOf_encode_at_characters (text : String) :
    (∀ token ∈ tokensOf (Text.encode text), token.kind ≠ .illegal →
      ∃ (start stop : text.Pos) (inOrder : start ≤ stop),
        start.offset.byteIdx = token.start.offset ∧ stop.offset.byteIdx = token.stop.offset ∧
          (text.slice start stop inOrder).copy = token.literal ∧
          ∀ character ∈ token.literal.toList, character.toNat < 128) ∧
    ∀ front character back, text = front ++ (String.singleton character ++ back) →
      128 ≤ character.toNat →
      ∃ before after,
        tokensOf (Text.encode text) =
          before ++
            (Token.illegalRun (placeBehind (Text.encode front)) character.utf8Size ++ after) ∧
        (∀ token ∈ before, token.stop.offset ≤ front.utf8ByteSize) ∧
        ∀ token ∈ after, front.utf8ByteSize + character.utf8Size ≤ token.start.offset := by
  refine ⟨fun token member legal => exists_slice_of_mem_tokensOf member legal, ?_⟩
  rintro front character back rfl long
  have nonempty : String.utf8EncodeChar character ≠ [] := by
    rw [← List.length_pos_iff, String.length_utf8EncodeChar]
    exact character.utf8Size_pos
  have notLegal : ∀ byte ∈ String.utf8EncodeChar character, Byte.isLegal byte = false :=
    fun byte member => Byte.isLegal_of_mem_utf8EncodeChar long member
  have encoded : Text.encode (String.singleton character) = String.utf8EncodeChar character := by
    simp [Text.encode]
  have around := tokensOf_around_illegal (Text.encode front) (Text.encode back) nonempty notLegal
  simpa only [Text.encode_append, encoded, Text.length_encode, String.length_utf8EncodeChar]
    using around

/-- A letter with an accent in front of a word. -/
theorem tokensOf_encode_at_accent :
    let text := "(é fn"
    let token : Token :=
      { kind := .keyword .fnWord, literal := "fn"
        start := Position.origin.advance 4, stop := Position.origin.advance 6 }
    token ∈ tokensOf (Text.encode text) ∧
      (∃ (start stop : text.Pos) (inOrder : start ≤ stop),
        start.offset.byteIdx = 4 ∧ stop.offset.byteIdx = 6 ∧
          (text.slice start stop inOrder).copy = "fn") ∧
      ∃ before after,
        tokensOf (Text.encode text) =
          before ++ (Token.illegalRun (Position.origin.advance 1) 2 ++ after) ∧
        (∀ token ∈ before, token.stop.offset ≤ 1) ∧ ∀ token ∈ after, 3 ≤ token.start.offset := by
  intro text token
  have member : token ∈ tokensOf (Text.encode text) := by decide +kernel
  rcases tokensOf_encode_at_characters text with ⟨cuts, illegal⟩
  rcases cuts token member (by decide) with ⟨start, stop, inOrder, atStart, atStop, isLiteral, _⟩
  exact ⟨member, ⟨start, stop, inOrder, atStart, atStop, isLiteral⟩,
    illegal "(" 'é' " fn" (by decide +kernel) (by decide)⟩

end MonkeyLexis
