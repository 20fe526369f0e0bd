import MonkeyLexis.Cursor

/-!
# Token streams

Reading a source token by token. A stream holds the whole source and moves along it byte by byte;
what it knows of its place is kept up to date as it moves. A stream can be read in two ways, which
share the place. `read` always answers, with the end of the input again and again once it is
reached. `next?` answers with the end of the input once and with nothing from then on, no matter
how often `read` has answered with it. Main statement: `next?` answers only finitely often.
-/

namespace MonkeyLexis

structure TokenStream where
  source : Array Byte
  position : Nat
  readPosition : Nat
  /-- The current byte, and 0 behind the last one. -/
  current : Byte
  line : Nat
  lineStart : Nat
  tokenStart : Position
  /-- Whether `next?` has answered with the end of the input. -/
  finished : Bool
deriving DecidableEq

namespace TokenStream

/-! ## Moving along the source -/

/-- Reads one byte. Behind the last one the stream stays at the end of the source. -/
def readByte (stream : TokenStream) : TokenStream :=
  if inside : stream.readPosition < stream.source.size then
    { stream with
      current := stream.source[stream.readPosition]
      position := stream.readPosition
      readPosition := stream.readPosition + 1 }
  else
    { stream with
      current := 0
      position := stream.source.size
      readPosition := stream.source.size + 1 }

def peekByte (stream : TokenStream) : Byte :=
  stream.source[stream.readPosition]?.getD 0

/-- Whether no byte is left. The current byte does not tell, since 0 may stand in the source. -/
def isAtEnd (stream : TokenStream) : Bool :=
  stream.source.size ≤ stream.position

def ofBytes (source : List Byte) : TokenStream :=
  readByte
    { source := source.toArray
      position := 0
      readPosition := 0
      current := 0
      line := 0
      lineStart := 0
      tokenStart := .origin
      finished := false }

def ofText (text : String) : TokenStream :=
  ofBytes (Text.encode text)

/-- How many bytes of the source were read. -/
def offset (stream : TokenStream) : Nat := stream.position

def place (stream : TokenStream) : Position :=
  { offset := stream.position
    lineStart := stream.lineStart
    line := stream.line
    column := stream.position - stream.lineStart }

/-- If the current byte ends a line, the next line starts behind it. -/
def noteLine (stream : TokenStream) : TokenStream :=
  if stream.current = Byte.lineFeed then
    { stream with line := stream.line + 1, lineStart := stream.readPosition }
  else
    stream

/-- A bound on the bytes that can still be read. -/
def bytesLeft (stream : TokenStream) : Nat :=
  if stream.isAtEnd then 0 else stream.source.size - stream.readPosition + 1

@[simp]
theorem bytesLeft_noteLine (stream : TokenStream) :
    stream.noteLine.bytesLeft = stream.bytesLeft := by
  unfold noteLine
  split <;> rfl

@[simp]
theorem isAtEnd_noteLine (stream : TokenStream) : stream.noteLine.isAtEnd = stream.isAtEnd := by
  unfold noteLine
  split <;> rfl

theorem bytesLeft_readByte_lt {stream : TokenStream} (unread : ¬stream.isAtEnd) :
    stream.readByte.bytesLeft < stream.bytesLeft := by
  simp only [bytesLeft, if_neg unread]
  unfold readByte
  split
  · simp only [isAtEnd, decide_eq_true_eq]
    split <;> omega
  · simp [isAtEnd]

def skipRun (allowed : Byte → Bool) (stream : TokenStream) : TokenStream :=
  if _unread : stream.isAtEnd then
    stream
  else if allowed stream.current then
    stream.readByte.skipRun allowed
  else
    stream
termination_by stream.bytesLeft
decreasing_by exact bytesLeft_readByte_lt _unread

/-- Reads on over blanks, the only bytes among which a line may end. -/
def skipBlanks (stream : TokenStream) : TokenStream :=
  if _unread : stream.isAtEnd then
    stream
  else if stream.current.isBlank then
    stream.noteLine.readByte.skipBlanks
  else
    stream
termination_by stream.bytesLeft
decreasing_by
  have noted : ¬stream.noteLine.isAtEnd := by simpa using _unread
  simpa using bytesLeft_readByte_lt noted

/-! ## Making tokens -/

/-- The token that starts here is the next one to be made. -/
def markStart (stream : TokenStream) : TokenStream :=
  { stream with tokenStart := stream.place }

/-- The bytes from the start of the token up to here. Outside of the source there are none. -/
def tokenBytes (stream : TokenStream) : List Byte :=
  if stream.tokenStart.offset ≤ stream.position ∧ stream.position ≤ stream.source.size then
    (stream.source.extract stream.tokenStart.offset stream.position).toList
  else
    []

/-- The same as text. Bytes that are no text count as none. -/
def tokenText (stream : TokenStream) : String :=
  (Text.decode? stream.tokenBytes).getD ""

def emit (stream : TokenStream) (kind : TokenKind) (literal : String) :
    Logged (Token × TokenStream) :=
  let token : Token := { kind, literal, start := stream.tokenStart, stop := stream.place }
  { events := [.scanned token], result := (token, stream) }

/-- The current byte as a symbol, or the longer symbol that an equals sign makes of it. -/
def scanPair (stream : TokenStream) (single longer : Symbol) : Logged (Token × TokenStream) :=
  if stream.peekByte = Byte.equalsSign then
    let behind := stream.readByte.readByte
    behind.emit (.symbol longer) behind.tokenText
  else
    let behind := stream.readByte
    behind.emit (.symbol single) behind.tokenText

def scanWord (stream : TokenStream) : Logged (Token × TokenStream) :=
  let behind := stream.skipRun Byte.isLetter
  behind.emit (.ofWord behind.tokenText) behind.tokenText

def scanNumber (stream : TokenStream) : Logged (Token × TokenStream) :=
  let behind := stream.skipRun Byte.isDigit
  behind.emit .int behind.tokenText

def scanSymbol (stream : TokenStream) (sign : Symbol) : Logged (Token × TokenStream) :=
  let behind := stream.readByte
  behind.emit (.symbol sign) behind.tokenText

def scanIllegal (stream : TokenStream) : Logged (Token × TokenStream) :=
  let behind := stream.readByte
  (behind.emit .illegal "").after [.illegalByte stream.current stream.tokenStart]

def scanLexeme (stream : TokenStream) : Logged (Token × TokenStream) :=
  if stream.current = Byte.equalsSign then
    stream.scanPair .assign .equal
  else if stream.current = Byte.exclamationMark then
    stream.scanPair .bang .notEqual
  else if stream.current.isLetter then
    stream.scanWord
  else if stream.current.isDigit then
    stream.scanNumber
  else
    match Symbol.single? stream.current with
    | some sign => stream.scanSymbol sign
    | none => stream.scanIllegal

/-- The next token, which is the end of the input for ever once that is reached, with the events
reported on the way. -/
def scan (stream : TokenStream) : Logged (Token × TokenStream) :=
  let start := stream.skipBlanks.markStart
  if start.isAtEnd then start.emit .eof "" else start.scanLexeme

def read (stream : TokenStream) : Token × TokenStream :=
  stream.scan.result

/-- The next token, unless `next?` has answered with the end of the input before. -/
def next? (stream : TokenStream) : Option (Token × TokenStream) :=
  if stream.finished then
    none
  else
    let (token, next) := stream.read
    some (token, { next with finished := token.isEof })

/-! ## Reading to the end -/

@[simp]
theorem result_emit (stream : TokenStream) (kind : TokenKind) (literal : String) :
    (stream.emit kind literal).result.2 = stream := rfl

@[simp]
theorem isEof_emit (stream : TokenStream) (kind : TokenKind) (literal : String) :
    (stream.emit kind literal).result.1.isEof = decide (kind = .eof) := rfl

theorem bytesLeft_skipRun_le (allowed : Byte → Bool) (stream : TokenStream) :
    (stream.skipRun allowed).bytesLeft ≤ stream.bytesLeft := by
  fun_induction skipRun allowed stream with
  | case1 stream atEnd => exact Nat.le_refl _
  | case2 stream unread inRun ih =>
      exact Nat.le_trans ih (Nat.le_of_lt (bytesLeft_readByte_lt unread))
  | case3 stream unread outside => exact Nat.le_refl _

theorem bytesLeft_skipRun_lt {allowed : Byte → Bool} {stream : TokenStream}
    (unread : ¬stream.isAtEnd) (inRun : allowed stream.current = true) :
    (stream.skipRun allowed).bytesLeft < stream.bytesLeft := by
  rw [skipRun, dif_neg unread, if_pos inRun]
  exact Nat.lt_of_le_of_lt (bytesLeft_skipRun_le allowed _) (bytesLeft_readByte_lt unread)

theorem bytesLeft_skipBlanks_le (stream : TokenStream) :
    stream.skipBlanks.bytesLeft ≤ stream.bytesLeft := by
  fun_induction skipBlanks stream with
  | case1 stream atEnd => exact Nat.le_refl _
  | case2 stream unread blank ih =>
      have noted : ¬stream.noteLine.isAtEnd := by simpa using unread
      have moved := bytesLeft_readByte_lt noted
      rw [bytesLeft_noteLine] at moved
      exact Nat.le_trans ih (Nat.le_of_lt moved)
  | case3 stream unread ends => exact Nat.le_refl _

theorem not_isAtEnd_readByte {stream : TokenStream} (seen : stream.peekByte ≠ 0) :
    ¬stream.readByte.isAtEnd := by
  have inside : stream.readPosition < stream.source.size := by
    apply Nat.lt_of_not_le
    intro outside
    simp [peekByte, Array.getElem?_eq_none outside] at seen
  simp [readByte, inside, isAtEnd]

theorem bytesLeft_scanPair_lt {stream : TokenStream} (unread : ¬stream.isAtEnd)
    (single longer : Symbol) :
    (stream.scanPair single longer).result.2.bytesLeft < stream.bytesLeft := by
  have moved := bytesLeft_readByte_lt unread
  unfold scanPair
  split
  · next equals =>
      have seen : stream.peekByte ≠ 0 := by
        rw [equals]
        decide
      exact Nat.lt_trans (bytesLeft_readByte_lt (not_isAtEnd_readByte seen)) moved
  · exact moved

/-- Whatever a token is made of, at least one byte is read for it. -/
theorem bytesLeft_scanLexeme_lt {stream : TokenStream} (unread : ¬stream.isAtEnd) :
    stream.scanLexeme.result.2.bytesLeft < stream.bytesLeft := by
  unfold scanLexeme
  split
  · exact bytesLeft_scanPair_lt unread _ _
  split
  · exact bytesLeft_scanPair_lt unread _ _
  split
  · next letter => exact bytesLeft_skipRun_lt unread letter
  split
  · next digit => exact bytesLeft_skipRun_lt unread digit
  split
  · exact bytesLeft_readByte_lt unread
  · exact bytesLeft_readByte_lt unread

theorem bytesLeft_scan_lt {stream : TokenStream} (notEof : ¬stream.scan.result.1.isEof) :
    stream.scan.result.2.bytesLeft < stream.bytesLeft := by
  simp only [scan] at notEof ⊢
  split at notEof
  · simp at notEof
  · next unread =>
      rw [if_neg unread]
      exact Nat.lt_of_lt_of_le (bytesLeft_scanLexeme_lt unread) (bytesLeft_skipBlanks_le stream)

/-- A bound on the answers that `next?` has left. -/
def answersLeft (stream : TokenStream) : Nat :=
  if stream.finished then 0 else stream.bytesLeft + 1

theorem answersLeft_lt_of_next? {stream next : TokenStream} {token : Token}
    (answered : stream.next? = some (token, next)) : next.answersLeft < stream.answersLeft := by
  unfold next? at answered
  split at answered
  · contradiction
  · next unfinished =>
      simp only [Option.some.injEq, Prod.mk.injEq] at answered
      rcases answered with ⟨rfl, rfl⟩
      simp only [answersLeft, if_neg unfinished]
      by_cases ended : stream.read.1.isEof
      · simp [ended]
      · have shorter : stream.read.2.bytesLeft < stream.bytesLeft := bytesLeft_scan_lt ended
        rw [if_neg ended]
        exact Nat.succ_lt_succ shorter

/-- All answers that `next?` has left, and the stream behind them. -/
def drain (stream : TokenStream) : List Token × TokenStream :=
  match _answered : stream.next? with
  | none => ([], stream)
  | some (token, next) =>
      let (tokens, last) := next.drain
      (token :: tokens, last)
termination_by stream.answersLeft
decreasing_by exact answersLeft_lt_of_next? ‹_›

def countRest (stream : TokenStream) : Nat × TokenStream :=
  let (tokens, last) := stream.drain
  (tokens.length, last)

inductive Step where
  | read
  | next
  | drain
  | count
deriving DecidableEq

inductive Answer where
  | token (token : Token)
  | nothing
  | tokens (tokens : List Token)
  | count (count : Nat)
deriving DecidableEq

def perform (stream : TokenStream) : Step → Answer × TokenStream
  | .read =>
      let (token, next) := stream.read
      (.token token, next)
  | .next =>
      match stream.next? with
      | some (token, next) => (.token token, next)
      | none => (.nothing, stream)
  | .drain =>
      let (tokens, next) := stream.drain
      (.tokens tokens, next)
  | .count =>
      let (count, next) := stream.countRest
      (.count count, next)

/-- The answers to a sequence of steps, each with the offset that the stream then has. -/
def performAll (stream : TokenStream) : List Step → List (Answer × Nat)
  | [] => []
  | step :: steps =>
      let (answer, next) := stream.perform step
      (answer, next.offset) :: next.performAll steps

end TokenStream

end MonkeyLexis
