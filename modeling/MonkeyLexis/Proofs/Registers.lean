import MonkeyLexis.Proofs.Layout
import MonkeyLexis.TokenStream

/-!
# The registers of a token stream

A token stream keeps eight registers up to date while it reads. This file says when they agree with
each other and with the source, what remains to be read then, and what the registers are after some
bytes were passed. Every reader of the stream passes exactly the bytes that it should and leaves
registers that agree. Main statement: the stream makes the token that a cursor at the same place
makes, and stands where that cursor then stands.

A stream passes several bytes by passing one after another, so all statements about readers are put
together from the one about a single byte, `TokenStream.passes_readByte`.
-/

namespace MonkeyLexis

namespace TokenStream

/-- The registers agree with each other and with the source. -/
structure IsSound (stream : TokenStream) : Prop where
  readPosition_eq : stream.readPosition = stream.position + 1
  position_le : stream.position ≤ stream.source.size
  current_eq : stream.current = stream.source[stream.position]?.getD 0
  lineStart_le : stream.lineStart ≤ stream.position

def rest (stream : TokenStream) : List Byte :=
  stream.source.toList.drop stream.position

def cursor (stream : TokenStream) : Cursor :=
  { position := stream.place, rest := stream.rest }

/-- The stream `next` has passed `bytes` since it was `stream`, and has done nothing else. -/
structure Passes (stream : TokenStream) (bytes : List Byte) (next : TokenStream) : Prop where
  sound : next.IsSound
  rest_eq : stream.rest = bytes ++ next.rest
  place_eq : next.place = stream.place.passAll bytes
  source_eq : next.source = stream.source
  tokenStart_eq : next.tokenStart = stream.tokenStart
  finished_eq : next.finished = stream.finished

variable {stream next last : TokenStream} {bytes more : List Byte}

theorem rest_eq_nil_iff : stream.rest = [] ↔ stream.isAtEnd = true := by
  simp [rest, isAtEnd]

theorem IsSound.rest_eq_cons (sound : stream.IsSound) (unread : ¬stream.isAtEnd) :
    stream.rest = stream.current :: stream.source.toList.drop (stream.position + 1) := by
  have inside : stream.position < stream.source.size := by
    simpa [isAtEnd] using unread
  have inBytes : stream.position < stream.source.toList.length := by simpa using inside
  have same : stream.current = stream.source.toList[stream.position] := by
    rw [sound.current_eq]
    simp [inside]
  rw [same, rest]
  exact List.drop_eq_getElem_cons inBytes

/-! ### Passing bytes -/

namespace Passes

theorem refl (sound : stream.IsSound) : stream.Passes [] stream :=
  ⟨sound, rfl, rfl, rfl, rfl, rfl⟩

theorem trans (first : stream.Passes bytes next) (second : next.Passes more last) :
    stream.Passes (bytes ++ more) last where
  sound := second.sound
  rest_eq := by rw [first.rest_eq, second.rest_eq, List.append_assoc]
  place_eq := by rw [second.place_eq, first.place_eq, Position.passAll_append]
  source_eq := second.source_eq.trans first.source_eq
  tokenStart_eq := second.tokenStart_eq.trans first.tokenStart_eq
  finished_eq := second.finished_eq.trans first.finished_eq

theorem position_eq (passes : stream.Passes bytes next) :
    next.position = stream.position + bytes.length := by
  have moved := congrArg Position.offset passes.place_eq
  rwa [Position.offset_passAll] at moved

end Passes

/-- Reading a byte that is there: the clamp at the end of the source has the same effect as a byte 0
behind it. -/
theorem readByte_eq (inStep : stream.readPosition = stream.position + 1)
    (unread : ¬stream.isAtEnd) :
    stream.readByte =
      { stream with
        current := stream.source[stream.position + 1]?.getD 0
        position := stream.position + 1
        readPosition := stream.position + 2 } := by
  have inside : stream.position < stream.source.size := by
    simpa [isAtEnd] using unread
  by_cases more : stream.position + 1 < stream.source.size
  · simp [readByte, inStep, more]
  · have atLast : stream.source.size = stream.position + 1 := by omega
    simp [readByte, inStep, atLast]

/-- The one place where a byte is passed, line feed or not. -/
theorem passes_readByte_noteLine (sound : stream.IsSound) (unread : ¬stream.isAtEnd) :
    stream.Passes [stream.current] stream.noteLine.readByte := by
  have inside : stream.position < stream.source.size := by
    simpa [isAtEnd] using unread
  have inLine := sound.lineStart_le
  have remaining := sound.rest_eq_cons unread
  by_cases lineFeed : stream.current = Byte.lineFeed
  · have noted : stream.noteLine =
        { stream with line := stream.line + 1, lineStart := stream.position + 1 } := by
      rw [noteLine, if_pos lineFeed, sound.readPosition_eq]
    have inStep : stream.noteLine.readPosition = stream.noteLine.position + 1 := by
      rw [noted]
      exact sound.readPosition_eq
    have unreadNoted : ¬stream.noteLine.isAtEnd := by simpa using unread
    rw [readByte_eq inStep unreadNoted, noted]
    refine ⟨⟨rfl, inside, rfl, Nat.le_refl _⟩, remaining, ?_, rfl, rfl, rfl⟩
    simp [place, Position.pass, lineFeed]
  · have unchanged : stream.noteLine = stream := if_neg lineFeed
    rw [unchanged, readByte_eq sound.readPosition_eq unread]
    refine ⟨⟨rfl, inside, rfl, Nat.le_succ_of_le inLine⟩, remaining, ?_, rfl, rfl, rfl⟩
    simp [place, Position.pass, lineFeed, Position.advance, Nat.sub_add_comm inLine]

theorem passes_readByte (sound : stream.IsSound) (unread : ¬stream.isAtEnd)
    (inLine : stream.current ≠ Byte.lineFeed) :
    stream.Passes [stream.current] stream.readByte := by
  have passes := passes_readByte_noteLine sound unread
  rwa [noteLine, if_neg inLine] at passes

theorem passes_skipRun (allowed : Byte → Bool) (noLineFeed : allowed Byte.lineFeed = false)
    (sound : stream.IsSound) :
    stream.Passes (stream.rest.takeWhile allowed) (stream.skipRun allowed) := by
  fun_induction skipRun allowed stream with
  | case1 stream atEnd =>
      rw [rest_eq_nil_iff.mpr atEnd]
      exact Passes.refl sound
  | case2 stream unread inRun ih =>
      have inLine : stream.current ≠ Byte.lineFeed := by
        intro lineFeed
        rw [lineFeed, noLineFeed] at inRun
        contradiction
      have first := passes_readByte sound unread inLine
      rw [first.rest_eq, List.singleton_append, List.takeWhile_cons_of_pos inRun]
      exact first.trans (ih first.sound)
  | case3 stream unread outside =>
      rw [sound.rest_eq_cons unread, List.takeWhile_cons_of_neg outside]
      exact Passes.refl sound

theorem passes_skipBlanks (sound : stream.IsSound) :
    stream.Passes (stream.rest.takeWhile Byte.isBlank) stream.skipBlanks := by
  fun_induction skipBlanks stream with
  | case1 stream atEnd =>
      rw [rest_eq_nil_iff.mpr atEnd]
      exact Passes.refl sound
  | case2 stream unread blank ih =>
      have first := passes_readByte_noteLine sound unread
      rw [first.rest_eq, List.singleton_append, List.takeWhile_cons_of_pos blank]
      exact first.trans (ih first.sound)
  | case3 stream unread ends =>
      rw [sound.rest_eq_cons unread, List.takeWhile_cons_of_neg ends]
      exact Passes.refl sound

theorem isSound_ofBytes (source : List Byte) : (ofBytes source).IsSound := by
  cases source with
  | nil => exact ⟨rfl, Nat.le_refl _, rfl, Nat.le_refl _⟩
  | cons byte source =>
      have read : ofBytes (byte :: source) =
          { source := (byte :: source).toArray, position := 0, readPosition := 1, current := byte,
            line := 0, lineStart := 0, tokenStart := .origin, finished := false } := by
        simp [ofBytes, readByte]
      rw [read]
      exact ⟨rfl, Nat.zero_le _, rfl, Nat.le_refl _⟩

theorem cursor_ofBytes (source : List Byte) : (ofBytes source).cursor = .start source := by
  cases source with
  | nil => rfl
  | cons byte source => simp [ofBytes, readByte, cursor, place, rest, Cursor.start, Position.origin]

/-! ### Making tokens -/

@[simp]
theorem rest_markStart (stream : TokenStream) : stream.markStart.rest = stream.rest := rfl

theorem IsSound.markStart (sound : stream.IsSound) : stream.markStart.IsSound :=
  ⟨sound.readPosition_eq, sound.position_le, sound.current_eq, sound.lineStart_le⟩

theorem IsSound.withFinished (sound : stream.IsSound) (finished : Bool) :
    ({ stream with finished } : TokenStream).IsSound :=
  ⟨sound.readPosition_eq, sound.position_le, sound.current_eq, sound.lineStart_le⟩

theorem tokenBytes_of_passes (marked : stream.tokenStart = stream.place)
    (passes : stream.Passes bytes next) : next.tokenBytes = bytes := by
  have start : next.tokenStart.offset = stream.position := by
    rw [passes.tokenStart_eq, marked]
    rfl
  have stop := passes.position_eq
  have inside := passes.sound.position_le
  have ordered : next.tokenStart.offset ≤ next.position := by omega
  have length : next.position - stream.position = bytes.length := by omega
  rw [tokenBytes, if_pos ⟨ordered, inside⟩, Array.toList_extract, List.extract_eq_take_drop, start,
    length, passes.source_eq]
  change stream.rest.take bytes.length = bytes
  rw [passes.rest_eq, List.take_left]

/-- The next token is about to be made, and it starts with the current byte. -/
structure IsReady (stream : TokenStream) : Prop where
  sound : stream.IsSound
  marked : stream.tokenStart = stream.place
  unread : ¬stream.isAtEnd
  notBlank : stream.current.isBlank = false

theorem IsReady.passes_readByte (ready : stream.IsReady) :
    stream.Passes [stream.current] stream.readByte := by
  have inLine : stream.current ≠ Byte.lineFeed := by
    intro lineFeed
    have notBlank := ready.notBlank
    rw [lineFeed] at notBlank
    contradiction
  exact TokenStream.passes_readByte ready.sound ready.unread inLine

/-- What is made of the input of a stream: the token of a lexeme that stands there and ends there,
and the stream behind it. -/
def Makes (stream : TokenStream) (lexeme : Lexeme) (made : Logged (Token × TokenStream)) : Prop :=
  lexeme.IsSpelled ∧ ∃ next, stream.Passes lexeme.bytes next ∧ lexeme.EndsBefore next.rest ∧
    made =
      let token := Token.ofLexeme lexeme stream.place next.place
      { events := lexeme.warnings stream.place ++ [.scanned token], result := (token, next) }

section Legal

variable {lexeme : Lexeme} (marked : stream.tokenStart = stream.place)
  (spelled : lexeme.IsSpelled) (legal : ∀ byte, lexeme ≠ .illegal byte)
  (passes : stream.Passes lexeme.bytes next)

include marked spelled legal passes

theorem tokenText_of_passes : next.tokenText = lexeme.literal := by
  have sevenBit := Lexeme.lt_of_mem_bytes spelled legal
  rw [tokenText, tokenBytes_of_passes marked passes, Text.decode?_of_sevenBit sevenBit,
    Lexeme.literal_eq legal]
  rfl

theorem makes_emit (ends : lexeme.EndsBefore next.rest) :
    stream.Makes lexeme (next.emit lexeme.kind next.tokenText) := by
  refine ⟨spelled, next, passes, ends, ?_⟩
  rw [tokenText_of_passes marked spelled legal passes, Lexeme.warnings_eq_nil legal, emit,
    passes.tokenStart_eq, marked]
  rfl

end Legal

theorem makes_scanWord (ready : stream.IsReady) (letter : stream.current.isLetter = true) :
    stream.Makes (.word (stream.rest.takeWhile Byte.isLetter)) stream.scanWord := by
  have passes := passes_skipRun Byte.isLetter (by decide) ready.sound
  have spelled : (Lexeme.word (stream.rest.takeWhile Byte.isLetter)).IsSpelled := by
    rw [ready.sound.rest_eq_cons ready.unread, List.takeWhile_cons_of_pos letter]
    exact ⟨List.cons_ne_nil _ _, Lexeme.forall_mem_run letter⟩
  have legal : ∀ byte, Lexeme.word (stream.rest.takeWhile Byte.isLetter) ≠ .illegal byte := by
    simp
  have made := makes_emit ready.marked spelled legal passes
    (Lexeme.ends_of_takeWhile_append passes.rest_eq)
  rwa [Lexeme.kind, ← Lexeme.literal_word,
    ← tokenText_of_passes ready.marked spelled legal passes] at made

theorem makes_scanNumber (ready : stream.IsReady) (digit : stream.current.isDigit = true) :
    stream.Makes (.number (stream.rest.takeWhile Byte.isDigit)) stream.scanNumber := by
  have passes := passes_skipRun Byte.isDigit (by decide) ready.sound
  have spelled : (Lexeme.number (stream.rest.takeWhile Byte.isDigit)).IsSpelled := by
    rw [ready.sound.rest_eq_cons ready.unread, List.takeWhile_cons_of_pos digit]
    exact ⟨List.cons_ne_nil _ _, Lexeme.forall_mem_run digit⟩
  exact makes_emit ready.marked spelled (by simp) passes
    (Lexeme.ends_of_takeWhile_append passes.rest_eq)

theorem makes_symbol {sign : Symbol} (marked : stream.tokenStart = stream.place)
    (passes : stream.Passes sign.bytes next) (ends : (Lexeme.symbol sign).EndsBefore next.rest) :
    stream.Makes (.symbol sign) (next.emit (.symbol sign) next.tokenText) :=
  makes_emit marked trivial (by simp) passes ends

theorem makes_scanSymbol {sign : Symbol} (ready : stream.IsReady)
    (found : Symbol.single? stream.current = some sign) :
    stream.Makes (.symbol sign) (stream.scanSymbol sign) := by
  have passes := ready.passes_readByte
  rw [← Symbol.bytes_of_single? found] at passes
  exact makes_symbol ready.marked passes fun next _ => Lexeme.fusesWith_of_single? found next

theorem IsSound.peekByte_eq (sound : stream.IsSound) (unread : ¬stream.isAtEnd) :
    stream.peekByte = stream.rest.tail.head?.getD 0 := by
  rw [peekByte, sound.readPosition_eq, sound.rest_eq_cons unread, List.tail_cons, List.head?_drop,
    Array.getElem?_toList]

/-- The two pairs of symbols, of which the longer one is the shorter one and an equals sign. -/
theorem exists_makes_scanPair (single longer : Symbol) (ready : stream.IsReady)
    (singleBytes : single.bytes = [stream.current])
    (longerBytes : longer.bytes = [stream.current, Byte.equalsSign])
    (fuses : ∀ next, (Lexeme.symbol single).fusesWith next = decide (next = Byte.equalsSign))
    (alone : ∀ next, (Lexeme.symbol longer).fusesWith next = false) :
    ∃ sign, stream.Makes (.symbol sign) (stream.scanPair single longer) := by
  have first := ready.passes_readByte
  have remaining : stream.rest.tail = stream.readByte.rest := by
    rw [first.rest_eq]
    rfl
  have ahead := ready.sound.peekByte_eq ready.unread
  rw [remaining] at ahead
  unfold scanPair
  split
  · next equals =>
      refine ⟨longer, makes_symbol ready.marked ?_ fun next _ => alone next⟩
      have seen : stream.peekByte ≠ 0 := by
        rw [equals]
        decide
      have unreadNext := not_isAtEnd_readByte seen
      have current : stream.readByte.current = Byte.equalsSign := by
        rw [← equals, ahead, first.sound.rest_eq_cons unreadNext]
        rfl
      have second := passes_readByte first.sound unreadNext (by simp [current]; decide)
      rw [current] at second
      rw [longerBytes]
      exact first.trans second
  · next other =>
      refine ⟨single, makes_symbol ready.marked (by rwa [singleBytes]) ?_⟩
      intro next head
      rw [fuses, decide_eq_false_iff_not]
      intro equals
      rw [ahead, Option.mem_def.mp head, equals] at other
      exact other rfl

theorem makes_scanIllegal (ready : stream.IsReady) (notLegal : stream.current.isLegal = false) :
    stream.Makes (.illegal stream.current) stream.scanIllegal := by
  have passes := ready.passes_readByte
  refine ⟨notLegal, stream.readByte, passes, fun next _ => rfl, ?_⟩
  rw [scanIllegal, emit, passes.tokenStart_eq, ready.marked]
  rfl

/-- Whatever the current byte is, a lexeme is found there. -/
theorem exists_makes_scanLexeme (ready : stream.IsReady) :
    ∃ lexeme, stream.Makes lexeme stream.scanLexeme := by
  unfold scanLexeme
  split
  · next equals =>
      rcases exists_makes_scanPair .assign .equal ready (by rw [equals]; rfl)
        (by rw [equals]; rfl) (fun _ => rfl) (fun _ => rfl) with ⟨sign, made⟩
      exact ⟨_, made⟩
  · next notEquals =>
      split
      · next exclamation =>
          rcases exists_makes_scanPair .bang .notEqual ready (by rw [exclamation]; rfl)
            (by rw [exclamation]; rfl) (fun _ => rfl) (fun _ => rfl) with ⟨sign, made⟩
          exact ⟨_, made⟩
      · next notExclamation =>
          split
          · next letter => exact ⟨_, makes_scanWord ready letter⟩
          · next notLetter =>
              split
              · next digit => exact ⟨_, makes_scanNumber ready digit⟩
              · next notDigit =>
                  split
                  · next sign found => exact ⟨_, makes_scanSymbol ready found⟩
                  · next absent =>
                      have notSign :=
                        Symbol.isSign_eq_false_of_single? absent notEquals notExclamation
                      have notLegal : stream.current.isLegal = false := by
                        simp [Byte.isLegal, ready.notBlank, notLetter, notDigit, notSign]
                      exact ⟨_, makes_scanIllegal ready notLegal⟩

/-! ### Scanning -/

/-- Behind the blanks, unless the end is reached, a lexeme starts. -/
theorem IsSound.isReady_markStart (sound : stream.IsSound) (unread : ¬stream.skipBlanks.isAtEnd) :
    stream.skipBlanks.markStart.IsReady := by
  have skipped := passes_skipBlanks sound
  refine ⟨skipped.sound.markStart, rfl, unread, ?_⟩
  apply Lexeme.ends_of_takeWhile_append skipped.rest_eq
  rw [skipped.sound.rest_eq_cons unread]
  rfl

/-- A stream that scans passes blanks and marks the start of the token there. Then the end of the
input is reached, or a lexeme is found. -/
theorem scan_cases (sound : stream.IsSound) :
    stream.Passes (stream.rest.takeWhile Byte.isBlank) stream.skipBlanks ∧
      ((stream.skipBlanks.isAtEnd = true ∧
          stream.scan = stream.skipBlanks.markStart.emit .eof "") ∨
        ∃ lexeme, stream.skipBlanks.markStart.Makes lexeme stream.scan) := by
  refine ⟨passes_skipBlanks sound, ?_⟩
  by_cases atEnd : stream.skipBlanks.isAtEnd
  · exact Or.inl ⟨atEnd, if_pos atEnd⟩
  · right
    have scanned : stream.scan = stream.skipBlanks.markStart.scanLexeme := if_neg atEnd
    rw [scanned]
    exact exists_makes_scanLexeme (sound.isReady_markStart atEnd)

/-- A stream scans as the cursor at its place does. -/
theorem scan_eq (sound : stream.IsSound) :
    ∃ next : TokenStream, next.IsSound ∧ next.cursor = stream.cursor.scan.next ∧
      next.source = stream.source ∧ next.finished = stream.finished ∧
      stream.scan =
        { events := stream.cursor.scan.events, result := (stream.cursor.scan.token, next) } := by
  rcases scan_cases sound with ⟨skipped, cases⟩
  have blank : ∀ byte ∈ stream.rest.takeWhile Byte.isBlank, byte.isBlank = true :=
    fun byte taken => List.mem_takeWhile_imp taken
  generalize stream.rest.takeWhile Byte.isBlank = gap at skipped blank
  have startPlace : stream.skipBlanks.markStart.place = stream.place.passAll gap :=
    skipped.place_eq
  rw [cursor]
  rcases cases with ⟨atEnd, ended⟩ | ⟨lexeme, spelled, next, passes, lexemeEnds, made⟩
  · have nothing : stream.skipBlanks.rest = [] := rest_eq_nil_iff.mpr atEnd
    have left : stream.rest = gap := by
      rw [skipped.rest_eq, nothing, List.append_nil]
    refine ⟨stream.skipBlanks.markStart, skipped.sound.markStart, ?_, skipped.source_eq,
      skipped.finished_eq, ?_⟩
    · rw [left, Cursor.scan_of_blanks stream.place blank, cursor, rest_markStart, nothing,
        startPlace]
    · rw [ended, left, Cursor.scan_of_blanks stream.place blank, ← startPlace]
      rfl
  · have left : stream.rest = gap ++ (lexeme.bytes ++ next.rest) := by
      rw [skipped.rest_eq, ← passes.rest_eq, rest_markStart]
    have scanned := Cursor.scan_of_lexeme stream.place blank spelled lexemeEnds
    rw [← left, ← startPlace] at scanned
    simp only [← passes.place_eq] at scanned
    refine ⟨next, passes.sound, ?_, passes.source_eq.trans skipped.source_eq,
      passes.finished_eq.trans skipped.finished_eq, ?_⟩
    · rw [scanned, cursor]
    · rw [made, scanned]

end TokenStream

end MonkeyLexis
