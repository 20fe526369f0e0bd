import MonkeyLexis.Proofs.Place
import MonkeyLexis.Proofs.Registers

/-!
# Registers and bytes

`TokenStream.IsSound` compares the registers of a token stream with each other. Here they are
compared with the bytes of the source: the line and the start of the line are those that the bytes
before the position give, and so are those of the start of the last token. A stream has these values
however it was read, since each reader passes bytes one after another and a new token starts at the
place where the stream then is.

The start of the line is noted before the byte that ends the line is passed. In between it lies
behind the position, so nothing is said of the registers there, only of those behind the byte.
-/

namespace MonkeyLexis

theorem line_le_lineStart_placeBehind (text : List Byte) :
    (placeBehind text).line ≤ (placeBehind text).lineStart := by
  induction text using List.reverseRecOn with
  | nil => exact Nat.le_refl _
  | append_singleton text byte ih =>
      have inside : (placeBehind text).lineStart ≤ (placeBehind text).offset :=
        lastLineStart_le_length text
      rw [placeBehind_concat, Position.pass]
      split
      · simp only
        omega
      · exact ih

namespace TokenStream

/-- The registers are those of the place that the stream has reached in `source`. -/
structure Agrees (stream : TokenStream) (source : List Byte) : Prop where
  source_eq : stream.source.toList = source
  readPosition_eq : stream.readPosition = stream.position + 1
  line_le : stream.line ≤ stream.lineStart
  lineStart_le : stream.lineStart ≤ stream.position
  position_le : stream.position ≤ source.length
  /-- The current byte, which is 0 behind the last one. -/
  current_eq : stream.current = source[stream.position]?.getD 0
  line_eq : stream.line = (source.take stream.position).count Byte.lineFeed
  lineStart_eq : stream.lineStart = lastLineStart (source.take stream.position)
  tokenStart_le : stream.tokenStart.offset ≤ stream.position
  tokenStart_eq : stream.tokenStart = placeBehind (source.take stream.tokenStart.offset)

variable {stream next : TokenStream} {source bytes : List Byte}

theorem agrees_of_place (sound : stream.IsSound)
    (place : stream.place = placeBehind (stream.source.toList.take stream.position))
    (started : stream.tokenStart.offset ≤ stream.position)
    (start : stream.tokenStart =
      placeBehind (stream.source.toList.take stream.tokenStart.offset)) :
    stream.Agrees stream.source.toList where
  source_eq := rfl
  readPosition_eq := sound.readPosition_eq
  line_le := by
    have line : stream.line = _ := congrArg Position.line place
    have lineStart : stream.lineStart = _ := congrArg Position.lineStart place
    rw [line, lineStart]
    exact line_le_lineStart_placeBehind _
  lineStart_le := sound.lineStart_le
  position_le := by simpa using sound.position_le
  current_eq := by simpa using sound.current_eq
  line_eq := congrArg Position.line place
  lineStart_eq := congrArg Position.lineStart place
  tokenStart_le := started
  tokenStart_eq := start

namespace Agrees

theorem isSound (agrees : stream.Agrees source) : stream.IsSound := by
  rcases agrees.source_eq with rfl
  exact
    { readPosition_eq := agrees.readPosition_eq
      position_le := by simpa using agrees.position_le
      current_eq := by simpa using agrees.current_eq
      lineStart_le := agrees.lineStart_le }

theorem place_eq (agrees : stream.Agrees source) :
    stream.place = placeBehind (source.take stream.position) := by
  have length : (source.take stream.position).length = stream.position :=
    List.length_take_of_le agrees.position_le
  simp only [place, placeBehind, length, ← agrees.line_eq, ← agrees.lineStart_eq]

theorem rest_eq (agrees : stream.Agrees source) : stream.rest = source.drop stream.position := by
  rw [rest, agrees.source_eq]

theorem passes (agrees : stream.Agrees source) (passes : stream.Passes bytes next) :
    next.Agrees source := by
  have position := passes.position_eq
  have taken : source.take next.position = source.take stream.position ++ bytes := by
    rw [position, List.take_add, ← agrees.rest_eq, passes.rest_eq, List.take_left]
  have sameSource : next.source.toList = source := by
    rw [passes.source_eq, agrees.source_eq]
  rw [← sameSource]
  apply agrees_of_place passes.sound
  · rw [sameSource, taken, ← passAll_placeBehind, ← agrees.place_eq]
    exact passes.place_eq
  · have started := agrees.tokenStart_le
    rw [passes.tokenStart_eq]
    omega
  · rw [sameSource, passes.tokenStart_eq]
    exact agrees.tokenStart_eq

theorem markStart (agrees : stream.Agrees source) : stream.markStart.Agrees source :=
  { agrees with
    tokenStart_le := Nat.le_refl _
    tokenStart_eq := agrees.place_eq }

theorem withFinished (agrees : stream.Agrees source) (finished : Bool) :
    ({ stream with finished } : TokenStream).Agrees source :=
  { agrees with }

end Agrees

theorem agrees_ofBytes (source : List Byte) : (ofBytes source).Agrees source := by
  cases source with
  | nil =>
      exact agrees_of_place (isSound_ofBytes []) rfl (Nat.le_refl _) rfl
  | cons byte source =>
      have read : ofBytes (byte :: source) =
          { source := (byte :: source).toArray, position := 0, readPosition := 1, current := byte,
            line := 0, lineStart := 0, tokenStart := .origin, finished := false } := by
        simp [ofBytes, readByte]
      have sound := isSound_ofBytes (byte :: source)
      rw [read] at sound ⊢
      exact agrees_of_place sound rfl (Nat.le_refl _) rfl

/-! ### Steps -/

namespace Agrees

theorem read (agrees : stream.Agrees source) : stream.read.2.Agrees source := by
  rcases scan_cases agrees.isSound with ⟨skipped, ⟨_, ended⟩ | ⟨lexeme, _, next, passes, _, made⟩⟩
  · rw [TokenStream.read, ended]
    exact (agrees.passes skipped).markStart
  · rw [TokenStream.read, made]
    exact (agrees.passes skipped).markStart.passes passes

theorem next? {token : Token} (agrees : stream.Agrees source)
    (answered : stream.next? = some (token, next)) : next.Agrees source := by
  unfold TokenStream.next? at answered
  split at answered
  · contradiction
  · simp only [Option.some.injEq, Prod.mk.injEq] at answered
    rcases answered with ⟨rfl, rfl⟩
    exact agrees.read.withFinished _

theorem drain (agrees : stream.Agrees source) : stream.drain.2.Agrees source := by
  fun_induction TokenStream.drain stream with
  | case1 stream ended => exact agrees
  | case2 stream token following answered tokens last drained ih =>
      rw [drained] at ih
      exact ih (agrees.next? answered)

theorem perform (agrees : stream.Agrees source) (step : Step) :
    (stream.perform step).2.Agrees source := by
  cases step with
  | read => exact agrees.read
  | next =>
      cases answered : stream.next? with
      | none => simpa [TokenStream.perform, answered] using agrees
      | some answer => simpa [TokenStream.perform, answered] using agrees.next? answered
  | drain => exact agrees.drain
  | count => exact agrees.drain

end Agrees

/-- The stream after a sequence of steps. -/
def after (stream : TokenStream) : List Step → TokenStream
  | [] => stream
  | step :: steps => (stream.perform step).2.after steps

theorem Agrees.after (agrees : stream.Agrees source) (steps : List Step) :
    (stream.after steps).Agrees source := by
  induction steps generalizing stream with
  | nil => exact agrees
  | cons step steps ih => exact ih (agrees.perform step)

end TokenStream

end MonkeyLexis
