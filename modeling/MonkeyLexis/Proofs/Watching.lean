import MonkeyLexis.Proofs.Agreement

/-!
# Inside a scan

A scan of a token stream reads bytes, looks up its place and takes the text of a token, and between
any two of these operations the registers have values of their own. `Watched` is the scan with a
record of its operations, each with the stream on which it is performed. The record changes nothing:
without it, what is left is the scan itself.

Registers agree with the source behind every single byte that is read, and the text of a token is
only taken where there is one: a stretch of the source that is not empty and holds 7-bit characters.
Nothing is left out of the record, since it accounts for every byte between the positions before and
after the scan, and for the literal of the token.
-/

namespace MonkeyLexis

theorem TokenKind.ofWord_ne_illegal (word : String) : ofWord word ≠ illegal := by
  unfold ofWord
  split
  · simp
  · simp

namespace TokenStream

inductive Operation where
  | readByte
  | place
  | tokenText
deriving DecidableEq

/-- An operation and the stream on which it is performed. -/
structure Call where
  operation : Operation
  stream : TokenStream

/-- The offset of the byte that is read, if one is read. -/
def Call.readOffset? (call : Call) : Option Nat :=
  if call.operation = .readByte then some call.stream.position else none

/-- A result with the calls that were made on the way to it, in order. -/
structure Watched (Result : Type) where
  calls : List Call
  result : Result

namespace Watched

instance : Monad Watched where
  pure result := { calls := [], result }
  bind first continuation :=
    let second := continuation first.result
    { calls := first.calls ++ second.calls, result := second.result }

/-! ### Scanning under watch -/

def readByte (stream : TokenStream) : Watched TokenStream :=
  { calls := [{ operation := .readByte, stream }], result := stream.readByte }

def place (stream : TokenStream) : Watched Position :=
  { calls := [{ operation := .place, stream }], result := stream.place }

def tokenText (stream : TokenStream) : Watched String :=
  { calls := [{ operation := .tokenText, stream }], result := stream.tokenText }

def skipRun (allowed : Byte → Bool) (stream : TokenStream) : Watched TokenStream :=
  if _unread : stream.isAtEnd then
    pure stream
  else if allowed stream.current then do
    let _ ← readByte stream
    skipRun allowed stream.readByte
  else
    pure stream
termination_by stream.bytesLeft
decreasing_by exact bytesLeft_readByte_lt _unread

def skipBlanks (stream : TokenStream) : Watched TokenStream :=
  if _unread : stream.isAtEnd then
    pure stream
  else if stream.current.isBlank then do
    let _ ← readByte stream.noteLine
    skipBlanks stream.noteLine.readByte
  else
    pure stream
termination_by stream.bytesLeft
decreasing_by
  have noted : ¬stream.noteLine.isAtEnd := by simpa using _unread
  simpa using bytesLeft_readByte_lt noted

def markStart (stream : TokenStream) : Watched TokenStream := do
  let start ← place stream
  return { stream with tokenStart := start }

def emit (stream : TokenStream) (kind : TokenKind) (literal : String) :
    Watched (Logged (Token × TokenStream)) := do
  let stop ← place stream
  let token : Token := { kind, literal, start := stream.tokenStart, stop }
  return { events := [.scanned token], result := (token, stream) }

/-- A token of which the text tells the kind. -/
def emitText (stream : TokenStream) (kind : String → TokenKind) :
    Watched (Logged (Token × TokenStream)) := do
  let literal ← tokenText stream
  emit stream (kind literal) literal

def scanPair (stream : TokenStream) (single longer : Symbol) :
    Watched (Logged (Token × TokenStream)) :=
  if stream.peekByte = Byte.equalsSign then do
    let next ← readByte stream
    let behind ← readByte next
    emitText behind fun _ => .symbol longer
  else do
    let behind ← readByte stream
    emitText behind fun _ => .symbol single

def scanWord (stream : TokenStream) : Watched (Logged (Token × TokenStream)) := do
  let behind ← skipRun Byte.isLetter stream
  emitText behind .ofWord

def scanNumber (stream : TokenStream) : Watched (Logged (Token × TokenStream)) := do
  let behind ← skipRun Byte.isDigit stream
  emitText behind fun _ => .int

def scanSymbol (stream : TokenStream) (sign : Symbol) :
    Watched (Logged (Token × TokenStream)) := do
  let behind ← readByte stream
  emitText behind fun _ => .symbol sign

def scanIllegal (stream : TokenStream) : Watched (Logged (Token × TokenStream)) := do
  let behind ← readByte stream
  let made ← emit behind .illegal ""
  return made.after [.illegalByte stream.current stream.tokenStart]

def scanLexeme (stream : TokenStream) : Watched (Logged (Token × TokenStream)) :=
  if stream.current = Byte.equalsSign then
    scanPair stream .assign .equal
  else if stream.current = Byte.exclamationMark then
    scanPair stream .bang .notEqual
  else if stream.current.isLetter then
    scanWord stream
  else if stream.current.isDigit then
    scanNumber stream
  else
    match Symbol.single? stream.current with
    | some sign => scanSymbol stream sign
    | none => scanIllegal stream

def scan (stream : TokenStream) : Watched (Logged (Token × TokenStream)) := do
  let skipped ← skipBlanks stream
  let start ← markStart skipped
  if start.isAtEnd then emit start .eof "" else scanLexeme start

/-! ### Nothing is changed by the watch -/

section Result

variable {First Second : Type}

@[simp]
theorem result_pure (result : First) : (pure result : Watched First).result = result := rfl

@[simp]
theorem result_bind (first : Watched First) (continuation : First → Watched Second) :
    (first >>= continuation).result = (continuation first.result).result := rfl

@[simp]
theorem result_readByte (stream : TokenStream) : (readByte stream).result = stream.readByte := rfl

@[simp]
theorem result_skipRun (allowed : Byte → Bool) (stream : TokenStream) :
    (skipRun allowed stream).result = stream.skipRun allowed := by
  fun_induction TokenStream.skipRun allowed stream with
  | case1 stream atEnd => rw [skipRun, dif_pos atEnd, result_pure]
  | case2 stream unread inRun ih => rw [skipRun, dif_neg unread, if_pos inRun, result_bind, ih]
  | case3 stream unread outside => rw [skipRun, dif_neg unread, if_neg outside, result_pure]

@[simp]
theorem result_skipBlanks (stream : TokenStream) :
    (skipBlanks stream).result = stream.skipBlanks := by
  fun_induction TokenStream.skipBlanks stream with
  | case1 stream atEnd => rw [skipBlanks, dif_pos atEnd, result_pure]
  | case2 stream unread blank ih => rw [skipBlanks, dif_neg unread, if_pos blank, result_bind, ih]
  | case3 stream unread ends => rw [skipBlanks, dif_neg unread, if_neg ends, result_pure]

@[simp]
theorem result_markStart (stream : TokenStream) :
    (markStart stream).result = stream.markStart := rfl

@[simp]
theorem result_emitText (stream : TokenStream) (kind : String → TokenKind) :
    (emitText stream kind).result = stream.emit (kind stream.tokenText) stream.tokenText := rfl

theorem result_scanPair (stream : TokenStream) (single longer : Symbol) :
    (scanPair stream single longer).result = stream.scanPair single longer := by
  unfold scanPair TokenStream.scanPair
  split
  · rfl
  · rfl

theorem result_scanLexeme (stream : TokenStream) :
    (scanLexeme stream).result = stream.scanLexeme := by
  unfold scanLexeme TokenStream.scanLexeme
  split
  · exact result_scanPair stream .assign .equal
  split
  · exact result_scanPair stream .bang .notEqual
  split
  · rw [scanWord, result_bind, result_skipRun, result_emitText, TokenStream.scanWord]
  split
  · rw [scanNumber, result_bind, result_skipRun, result_emitText, TokenStream.scanNumber]
  cases Symbol.single? stream.current with
  | some sign => rfl
  | none => rfl

/-- Scanning under watch is scanning. -/
theorem result_scan (stream : TokenStream) : (scan stream).result = stream.scan := by
  rw [scan, result_bind, result_skipBlanks, result_bind, result_markStart, TokenStream.scan]
  split
  · rfl
  · exact result_scanLexeme _

end Result

end Watched

/-! ### What holds at each operation -/

end TokenStream

/-- The four numbers of a position. -/
def Position.counters (position : Position) : List Nat :=
  [position.offset, position.lineStart, position.line, position.column]

theorem counters_placeBehind_le (text : List Byte) :
    ∀ counter ∈ (placeBehind text).counters, counter ≤ text.length := by
  have line := line_le_lineStart_placeBehind text
  have lineStart := lastLineStart_le_length text
  simp only [Position.counters, placeBehind, List.forall_mem_cons] at line ⊢
  exact ⟨Nat.le_refl _, lineStart, Nat.le_trans line lineStart, Nat.sub_le _ _,
    List.forall_mem_nil _⟩

namespace TokenStream

/-- All numbers among the registers. -/
def counters (stream : TokenStream) : List Nat :=
  [stream.position, stream.readPosition, stream.line, stream.lineStart] ++
    stream.tokenStart.counters

/-- There is text between the start of the token and the position: a stretch of the source that is
not empty, of 7-bit characters, and text of its own. -/
structure HasText (stream : TokenStream) (source : List Byte) : Prop where
  start_lt : stream.tokenStart.offset < stream.position
  position_le : stream.position ≤ source.length
  tokenBytes_eq : stream.tokenBytes =
    (source.drop stream.tokenStart.offset).take (stream.position - stream.tokenStart.offset)
  sevenBit : ∀ byte ∈ stream.tokenBytes, byte < 128
  decoded : Text.decode? stream.tokenBytes = some stream.tokenText

/-- Whether an operation finds what it relies on. -/
structure Call.IsSafe (call : Call) (source : List Byte) : Prop where
  /-- No number has grown too large, not even between the note of a line and its last byte. -/
  counters_le : ∀ counter ∈ call.stream.counters, counter ≤ source.length + 1
  readByte : call.operation = .readByte → call.stream.readByte.Agrees source
  place : call.operation = .place → call.stream.Agrees source
  tokenText : call.operation = .tokenText →
    call.stream.Agrees source ∧ call.stream.HasText source

variable {stream next : TokenStream} {source bytes : List Byte}

theorem Agrees.counters_le (agrees : stream.Agrees source) :
    ∀ counter ∈ stream.counters, counter ≤ source.length + 1 := by
  have readPosition := agrees.readPosition_eq
  have line := agrees.line_le
  have lineStart := agrees.lineStart_le
  have position := agrees.position_le
  intro counter member
  rcases List.mem_append.mp member with own | ofStart
  · simp only [List.mem_cons, List.not_mem_nil, or_false] at own
    omega
  · rw [agrees.tokenStart_eq] at ofStart
    have inside := counters_placeBehind_le _ counter ofStart
    rw [List.length_take] at inside
    omega

/-- The next line is noted before its first byte is reached, which puts two numbers up by one. -/
theorem Agrees.counters_noteLine_le (agrees : stream.Agrees source) :
    ∀ counter ∈ stream.noteLine.counters, counter ≤ source.length + 1 := by
  have inStep := agrees.readPosition_eq
  have line := agrees.line_le
  have lineStart := agrees.lineStart_le
  have position := agrees.position_le
  unfold noteLine
  split
  · intro counter member
    rcases List.mem_append.mp member with own | ofStart
    · simp only [List.mem_cons, List.not_mem_nil, or_false] at own
      omega
    · exact agrees.counters_le counter (List.mem_append_right _ ofStart)
  · exact agrees.counters_le

theorem hasText_of_passes {lexeme : Lexeme} (agrees : stream.Agrees source)
    (marked : stream.tokenStart = stream.place) (spelled : lexeme.IsSpelled)
    (legal : ∀ byte, lexeme ≠ .illegal byte) (passes : stream.Passes lexeme.bytes next) :
    next.HasText source := by
  have taken := tokenBytes_of_passes marked passes
  have nonempty := List.length_pos_iff.mpr (Lexeme.bytes_ne_nil spelled)
  have moved := passes.position_eq
  have start : next.tokenStart.offset = stream.position := by
    rw [passes.tokenStart_eq, marked]
    rfl
  have sevenBit := Lexeme.lt_of_mem_bytes spelled legal
  refine ⟨by omega, (agrees.passes passes).position_le, ?_, ?_, ?_⟩
  · have length : next.position - stream.position = lexeme.bytes.length := by omega
    rw [taken, start, length, ← agrees.rest_eq, passes.rest_eq, List.take_left]
  · rwa [taken]
  · rw [tokenText, taken, Text.decode?_of_sevenBit sevenBit]
    rfl

/-! ### Every operation of a scan -/

theorem noteLine_eq (stream : TokenStream) : ∃ line lineStart,
    stream.noteLine = { stream with line, lineStart } := by
  unfold noteLine
  split
  · exact ⟨_, _, rfl⟩
  · exact ⟨_, _, rfl⟩

section Makes

variable {lexeme : Lexeme} {made : Logged (Token × TokenStream)}

theorem Makes.agrees (makes : stream.Makes lexeme made) (agrees : stream.Agrees source) :
    made.result.2.Agrees source := by
  rcases makes with ⟨_, next, passes, _, rfl⟩
  exact agrees.passes passes

theorem Makes.hasText (makes : stream.Makes lexeme made) (agrees : stream.Agrees source)
    (marked : stream.tokenStart = stream.place) (legal : made.result.1.kind ≠ .illegal) :
    made.result.2.HasText source := by
  rcases makes with ⟨spelled, next, passes, _, rfl⟩
  apply hasText_of_passes agrees marked spelled _ passes
  rintro byte rfl
  exact legal rfl

end Makes

namespace Watched

variable {First Second : Type} {before between after : Nat}

/-- All calls that were made are safe, and each byte between two offsets is read by one of them. -/
structure Tracks (watched : Watched First) (source : List Byte) (before after : Nat) : Prop where
  safe : ∀ call ∈ watched.calls, call.IsSafe source
  /-- The bytes are read in order, and none of them twice. -/
  reads : ∃ count, after = before + count ∧
    watched.calls.filterMap Call.readOffset? = List.range' before count

theorem tracks_pure (result : First) (offset : Nat) :
    (pure result : Watched First).Tracks source offset offset :=
  ⟨nofun, 0, rfl, rfl⟩

theorem Tracks.bind {first : Watched First} {continuation : First → Watched Second}
    (tracks : first.Tracks source before between)
    (later : (continuation first.result).Tracks source between after) :
    (first >>= continuation).Tracks source before after := by
  rcases tracks with ⟨safe, count, rfl, reads⟩
  rcases later with ⟨laterSafe, laterCount, rfl, laterReads⟩
  refine ⟨List.forall_mem_append.mpr ⟨safe, laterSafe⟩, count + laterCount, ?_, ?_⟩
  · exact Nat.add_assoc before count laterCount
  · calc
      (first.calls ++ (continuation first.result).calls).filterMap Call.readOffset?
        = List.range' before count ++ List.range' (before + count) laterCount := by
            rw [List.filterMap_append, reads, laterReads]
      _ = List.range' before (count + laterCount) := List.range'_append_1

theorem tracks_readByte (bounded : ∀ counter ∈ stream.counters, counter ≤ source.length + 1)
    (inStep : stream.readPosition = stream.position + 1) (unread : ¬stream.isAtEnd)
    (agrees : stream.readByte.Agrees source) :
    (readByte stream).Tracks source stream.position stream.readByte.position := by
  refine ⟨?_, 1, ?_, rfl⟩
  · rintro call (_ | ⟨_, ⟨⟩⟩)
    exact ⟨bounded, fun _ => agrees, nofun, nofun⟩
  · rw [readByte_eq inStep unread]

theorem tracks_place (agrees : stream.Agrees source) :
    (place stream).Tracks source stream.position stream.position := by
  refine ⟨?_, 0, rfl, rfl⟩
  rintro call (_ | ⟨_, ⟨⟩⟩)
  exact ⟨agrees.counters_le, nofun, fun _ => agrees, nofun⟩

theorem tracks_tokenText (agrees : stream.Agrees source) (hasText : stream.HasText source) :
    (tokenText stream).Tracks source stream.position stream.position := by
  refine ⟨?_, 0, rfl, rfl⟩
  rintro call (_ | ⟨_, ⟨⟩⟩)
  exact ⟨agrees.counters_le, nofun, nofun, fun _ => ⟨agrees, hasText⟩⟩

theorem tracks_skipRun {allowed : Byte → Bool} (noLineFeed : allowed Byte.lineFeed = false)
    (agrees : stream.Agrees source) :
    (skipRun allowed stream).Tracks source stream.position (stream.skipRun allowed).position := by
  fun_induction TokenStream.skipRun allowed stream with
  | case1 stream atEnd =>
      rw [skipRun, dif_pos atEnd]
      exact tracks_pure stream _
  | case2 stream unread inRun ih =>
      have inLine : stream.current ≠ Byte.lineFeed := by
        intro lineFeed
        rw [lineFeed, noLineFeed] at inRun
        contradiction
      have following := agrees.passes (passes_readByte agrees.isSound unread inLine)
      rw [skipRun, dif_neg unread, if_pos inRun]
      apply (tracks_readByte agrees.counters_le agrees.readPosition_eq unread following).bind
      exact ih following
  | case3 stream unread outside =>
      rw [skipRun, dif_neg unread, if_neg outside]
      exact tracks_pure stream _

theorem tracks_readByte_noteLine (agrees : stream.Agrees source) (unread : ¬stream.isAtEnd) :
    (readByte stream.noteLine).Tracks source stream.position
      stream.noteLine.readByte.position := by
  have following := agrees.passes (passes_readByte_noteLine agrees.isSound unread)
  have bounded := agrees.counters_noteLine_le
  rcases stream.noteLine_eq with ⟨line, lineStart, noted⟩
  rw [noted] at following bounded ⊢
  exact tracks_readByte bounded agrees.readPosition_eq unread following

theorem tracks_skipBlanks (agrees : stream.Agrees source) :
    (skipBlanks stream).Tracks source stream.position stream.skipBlanks.position := by
  fun_induction TokenStream.skipBlanks stream with
  | case1 stream atEnd =>
      rw [skipBlanks, dif_pos atEnd]
      exact tracks_pure stream _
  | case2 stream unread blank ih =>
      have following := agrees.passes (passes_readByte_noteLine agrees.isSound unread)
      rw [skipBlanks, dif_neg unread, if_pos blank]
      exact (tracks_readByte_noteLine agrees unread).bind (ih following)
  | case3 stream unread ends =>
      rw [skipBlanks, dif_neg unread, if_neg ends]
      exact tracks_pure stream _

theorem tracks_markStart (agrees : stream.Agrees source) :
    (markStart stream).Tracks source stream.position stream.position :=
  (tracks_place agrees).bind (tracks_pure _ _)

theorem tracks_emit (agrees : stream.Agrees source) (kind : TokenKind) (literal : String) :
    (emit stream kind literal).Tracks source stream.position stream.position :=
  (tracks_place agrees).bind (tracks_pure _ _)

theorem tracks_emitText (agrees : stream.Agrees source) (hasText : stream.HasText source)
    (kind : String → TokenKind) :
    (emitText stream kind).Tracks source stream.position stream.position :=
  (tracks_tokenText agrees hasText).bind (tracks_emit agrees _ _)

variable {lexeme : Lexeme}

theorem tracks_scanPair {single longer : Symbol} (agrees : stream.Agrees source)
    (ready : stream.IsReady) (makes : stream.Makes lexeme (stream.scanPair single longer)) :
    (scanPair stream single longer).Tracks source stream.position
      (stream.scanPair single longer).result.2.position := by
  have following := agrees.passes ready.passes_readByte
  have first := tracks_readByte agrees.counters_le agrees.readPosition_eq ready.unread following
  by_cases equals : stream.peekByte = Byte.equalsSign
  · rw [TokenStream.scanPair, if_pos equals] at makes ⊢
    have last := makes.agrees agrees
    have hasText := makes.hasText agrees ready.marked nofun
    have unread : ¬stream.readByte.isAtEnd := by
      apply not_isAtEnd_readByte
      rw [equals]
      decide
    rw [scanPair, if_pos equals]
    apply first.bind
    apply (tracks_readByte following.counters_le following.readPosition_eq unread last).bind
    exact tracks_emitText last hasText _
  · rw [TokenStream.scanPair, if_neg equals] at makes ⊢
    have hasText := makes.hasText agrees ready.marked nofun
    rw [scanPair, if_neg equals]
    exact first.bind (tracks_emitText following hasText _)

theorem tracks_scanWord (agrees : stream.Agrees source) (ready : stream.IsReady)
    (makes : stream.Makes lexeme stream.scanWord) :
    (scanWord stream).Tracks source stream.position stream.scanWord.result.2.position := by
  have notIllegal : stream.scanWord.result.1.kind ≠ .illegal := TokenKind.ofWord_ne_illegal _
  have last := makes.agrees agrees
  have hasText := makes.hasText agrees ready.marked notIllegal
  apply (tracks_skipRun (by decide) agrees).bind
  rw [result_skipRun]
  exact tracks_emitText last hasText _

theorem tracks_scanNumber (agrees : stream.Agrees source) (ready : stream.IsReady)
    (makes : stream.Makes lexeme stream.scanNumber) :
    (scanNumber stream).Tracks source stream.position stream.scanNumber.result.2.position := by
  have last := makes.agrees agrees
  have hasText := makes.hasText agrees ready.marked nofun
  apply (tracks_skipRun (by decide) agrees).bind
  rw [result_skipRun]
  exact tracks_emitText last hasText _

theorem tracks_scanSymbol {sign : Symbol} (agrees : stream.Agrees source) (ready : stream.IsReady)
    (makes : stream.Makes lexeme (stream.scanSymbol sign)) :
    (scanSymbol stream sign).Tracks source stream.position
      (stream.scanSymbol sign).result.2.position := by
  have last := makes.agrees agrees
  have hasText := makes.hasText agrees ready.marked nofun
  apply (tracks_readByte agrees.counters_le agrees.readPosition_eq ready.unread last).bind
  exact tracks_emitText last hasText _

theorem tracks_scanIllegal (agrees : stream.Agrees source) (ready : stream.IsReady) :
    (scanIllegal stream).Tracks source stream.position
      stream.scanIllegal.result.2.position := by
  have last := agrees.passes ready.passes_readByte
  apply (tracks_readByte agrees.counters_le agrees.readPosition_eq ready.unread last).bind
  exact (tracks_emit last _ _).bind (tracks_pure _ _)

theorem tracks_scanLexeme (agrees : stream.Agrees source) (ready : stream.IsReady) :
    (scanLexeme stream).Tracks source stream.position
      stream.scanLexeme.result.2.position := by
  rcases exists_makes_scanLexeme ready with ⟨lexeme, makes⟩
  unfold TokenStream.scanLexeme at makes ⊢
  unfold scanLexeme
  split at makes
  · next equals =>
      rw [if_pos equals, if_pos equals]
      exact tracks_scanPair agrees ready makes
  · next notEquals =>
      rw [if_neg notEquals, if_neg notEquals]
      split at makes
      · next exclamation =>
          rw [if_pos exclamation, if_pos exclamation]
          exact tracks_scanPair agrees ready makes
      · next notExclamation =>
          rw [if_neg notExclamation, if_neg notExclamation]
          split at makes
          · next letter =>
              rw [if_pos letter, if_pos letter]
              exact tracks_scanWord agrees ready makes
          · next notLetter =>
              rw [if_neg notLetter, if_neg notLetter]
              split at makes
              · next digit =>
                  rw [if_pos digit, if_pos digit]
                  exact tracks_scanNumber agrees ready makes
              · next notDigit =>
                  rw [if_neg notDigit, if_neg notDigit]
                  cases found : Symbol.single? stream.current with
                  | some sign =>
                      rw [found] at makes
                      exact tracks_scanSymbol agrees ready makes
                  | none => exact tracks_scanIllegal agrees ready

theorem tracks_scan (agrees : stream.Agrees source) :
    (scan stream).Tracks source stream.position stream.read.2.position := by
  have behindBlanks := agrees.passes (passes_skipBlanks agrees.isSound)
  apply (tracks_skipBlanks agrees).bind
  rw [result_skipBlanks]
  apply (tracks_markStart behindBlanks).bind
  rw [result_markStart, TokenStream.read, TokenStream.scan]
  split
  · exact tracks_emit behindBlanks.markStart .eof ""
  · next unread =>
      exact tracks_scanLexeme behindBlanks.markStart (agrees.isSound.isReady_markStart unread)

/-! ### The text of the token -/

/-- A literal that is not empty was taken by one of the calls. -/
def RecordsText (watched : Watched (Logged (Token × TokenStream))) : Prop :=
  let token := watched.result.result.1
  token.literal = "" ∨ ∃ call ∈ watched.calls,
    call.operation = .tokenText ∧ call.stream.tokenText = token.literal

theorem RecordsText.bind {first : Watched First}
    {continuation : First → Watched (Logged (Token × TokenStream))}
    (records : (continuation first.result).RecordsText) :
    (first >>= continuation).RecordsText := by
  rcases records with empty | ⟨call, member, taken⟩
  · exact Or.inl empty
  · exact Or.inr ⟨call, List.mem_append_right _ member, taken⟩

theorem recordsText_emitText (stream : TokenStream) (kind : String → TokenKind) :
    (emitText stream kind).RecordsText :=
  Or.inr ⟨_, List.mem_cons_self, rfl, rfl⟩

theorem recordsText_scanPair (stream : TokenStream) (single longer : Symbol) :
    (scanPair stream single longer).RecordsText := by
  unfold scanPair
  split
  · apply RecordsText.bind
    apply RecordsText.bind
    exact recordsText_emitText _ _
  · apply RecordsText.bind
    exact recordsText_emitText _ _

theorem recordsText_scanLexeme (stream : TokenStream) : (scanLexeme stream).RecordsText := by
  unfold scanLexeme scanWord scanNumber scanSymbol
  split
  · exact recordsText_scanPair stream .assign .equal
  split
  · exact recordsText_scanPair stream .bang .notEqual
  split
  · apply RecordsText.bind
    exact recordsText_emitText _ _
  split
  · apply RecordsText.bind
    exact recordsText_emitText _ _
  split
  · apply RecordsText.bind
    exact recordsText_emitText _ _
  · exact Or.inl rfl

theorem recordsText_scan (stream : TokenStream) : (scan stream).RecordsText := by
  apply RecordsText.bind
  apply RecordsText.bind
  split
  · exact Or.inl rfl
  · exact recordsText_scanLexeme _

end Watched

/-- The registers of a stream agree with the bytes of its source after any steps, and behind every
single byte that the next answer takes. Nothing is subtracted from a number that is smaller, no
number exceeds the length of the source by more than one, and wherever the text of a token is taken,
there is such a text. The record that tells so has all bytes and the literal of the answer. -/
theorem registers_after (source : List Byte) (steps : List Step) :
    let stream := (ofBytes source).after steps
    let watched := Watched.scan stream
    stream.Agrees source ∧
      (∀ counter ∈ stream.counters, counter ≤ source.length + 1) ∧
      watched.result = stream.scan ∧
      watched.calls.filterMap Call.readOffset? =
        List.range' stream.position (stream.read.2.position - stream.position) ∧
      watched.RecordsText ∧
      ∀ call ∈ watched.calls, call.IsSafe source := by
  intro stream watched
  have agrees : stream.Agrees source := (agrees_ofBytes source).after steps
  have tracks : watched.Tracks source stream.position stream.read.2.position :=
    Watched.tracks_scan agrees
  refine ⟨agrees, agrees.counters_le, Watched.result_scan stream, ?_,
    Watched.recordsText_scan stream, tracks.safe⟩
  rcases tracks.reads with ⟨count, moved, reads⟩
  rw [reads, moved, Nat.add_sub_cancel_left]

end TokenStream

end MonkeyLexis
