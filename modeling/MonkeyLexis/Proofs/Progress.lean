import MonkeyLexis.Proofs.Agreement
import MonkeyLexis.Proofs.Reading

/-!
# How far a token stream gets

Every answer of a token stream but the end of the input takes a byte that is not blank, so there are
at most as many such answers as there are such bytes. A byte 0 is one of them, although the current
byte of a stream at the end is 0 as well.

Once a stream has answered with the end of the input it rests: it stands at the end of the source
and the start of the last token is where it stands. From there each answer is the same again. Only
the mark of `next?` may still change, and the answers of `read` do not depend on it.
-/

namespace MonkeyLexis

def nonBlankCount (bytes : List Byte) : Nat :=
  bytes.countP fun byte => !byte.isBlank

theorem nonBlankCount_eq_zero_iff {bytes : List Byte} :
    nonBlankCount bytes = 0 ↔ ∀ byte ∈ bytes, byte.isBlank = true := by
  simp [nonBlankCount]

theorem Lexeme.nonBlankCount_append {gap rest : List Byte} {lexeme : Lexeme}
    (blank : ∀ byte ∈ gap, byte.isBlank = true) (spelled : lexeme.IsSpelled) :
    nonBlankCount (gap ++ (lexeme.bytes ++ rest)) = lexeme.bytes.length + nonBlankCount rest := by
  have nothing : nonBlankCount gap = 0 := nonBlankCount_eq_zero_iff.mpr blank
  have all : nonBlankCount lexeme.bytes = lexeme.bytes.length := by
    apply List.countP_eq_length.mpr
    intro byte member
    simp [lexeme.not_isBlank_of_mem_bytes spelled byte member]
  unfold nonBlankCount at nothing all ⊢
  rw [List.countP_append, List.countP_append, nothing, all, Nat.zero_add]

namespace TokenStream

/-- The last answer was the end of the input, which was found here. -/
structure HasEnded (stream : TokenStream) : Prop where
  atEnd : stream.isAtEnd = true
  marked : stream.tokenStart = stream.place

variable {stream : TokenStream} {source : List Byte}

/-! ### At the end of the input -/

namespace HasEnded

theorem read (ended : stream.HasEnded) :
    stream.read = (Token.endOfInput stream.place, stream) := by
  have skipped : stream.skipBlanks = stream := by
    rw [skipBlanks, dif_pos ended.atEnd]
  have marked : stream.markStart = stream := by
    rw [markStart, ← ended.marked]
  have scanned : stream.scan = stream.emit .eof "" := by
    simp only [scan, skipped, marked, ended.atEnd, if_true]
  rw [TokenStream.read, scanned, emit, ended.marked]
  rfl

theorem withFinished (ended : stream.HasEnded) (finished : Bool) :
    ({ stream with finished } : TokenStream).HasEnded :=
  ⟨ended.atEnd, ended.marked⟩

theorem next? {token : Token} {following : TokenStream} (ended : stream.HasEnded)
    (answered : stream.next? = some (token, following)) :
    following = { stream with finished := true } := by
  unfold TokenStream.next? at answered
  rw [ended.read] at answered
  split at answered
  · contradiction
  · simp only [Option.some.injEq, Prod.mk.injEq] at answered
    exact answered.2.symm

theorem drain (ended : stream.HasEnded) :
    ∃ finished, stream.drain.2 = { stream with finished } := by
  fun_induction TokenStream.drain stream with
  | case1 stream nothing => exact ⟨stream.finished, rfl⟩
  | case2 stream token following answered tokens last drained ih =>
      rcases ended.next? answered with rfl
      rw [drained] at ih
      exact ih (ended.withFinished true)

theorem perform (ended : stream.HasEnded) (step : Step) :
    ∃ finished, (stream.perform step).2 = { stream with finished } := by
  cases step with
  | read =>
      refine ⟨stream.finished, ?_⟩
      simp [TokenStream.perform, ended.read]
  | next =>
      cases answered : stream.next? with
      | none => exact ⟨stream.finished, by simp [TokenStream.perform, answered]⟩
      | some answer =>
          refine ⟨true, ?_⟩
          simpa [TokenStream.perform, answered] using ended.next? answered
  | drain => exact ended.drain
  | count => exact ended.drain

/-- No steps move a stream that has ended, or change what it answers. -/
theorem after (ended : stream.HasEnded) (steps : List Step) :
    ∃ finished, stream.after steps = { stream with finished } := by
  induction steps generalizing stream with
  | nil => exact ⟨stream.finished, rfl⟩
  | cons step steps ih =>
      rcases ended.perform step with ⟨finished, performed⟩
      rw [TokenStream.after, performed]
      exact ih (ended.withFinished finished)

end HasEnded

/-! ### One answer -/

/-- The stream `next` has passed a gap and a lexeme behind it. -/
structure Takes (stream : TokenStream) (gap : List Byte) (lexeme : Lexeme)
    (next : TokenStream) : Prop where
  blank : ∀ byte ∈ gap, byte.isBlank = true
  spelled : lexeme.IsSpelled
  sound : next.IsSound
  rest_eq : stream.rest = gap ++ (lexeme.bytes ++ next.rest)
  position_eq : next.position = stream.position + gap.length + lexeme.bytes.length

/-- The answer is the end of the input, where only blanks are left, or it takes a lexeme off what is
left. -/
theorem IsSound.read_cases (sound : stream.IsSound) :
    ((∀ byte ∈ stream.rest, byte.isBlank = true) ∧ stream.read.2.HasEnded ∧
        stream.read.2.IsSound ∧ stream.read.1 = Token.endOfInput stream.read.2.place) ∨
      stream.read.1.isEof = false ∧ ∃ gap lexeme, stream.Takes gap lexeme stream.read.2 := by
  rcases scan_cases sound with ⟨skipped, ⟨atEnd, ended⟩ | ⟨lexeme, spelled, next, passes, _, made⟩⟩
  · left
    have nothing : stream.skipBlanks.rest = [] := rest_eq_nil_iff.mpr atEnd
    have left : stream.rest = stream.rest.takeWhile Byte.isBlank := by
      simpa [nothing] using skipped.rest_eq
    rw [read, ended]
    refine ⟨?_, ⟨atEnd, rfl⟩, skipped.sound.markStart, rfl⟩
    intro byte member
    rw [left] at member
    exact List.mem_takeWhile_imp member
  · right
    rw [read, made]
    refine ⟨Token.isEof_ofLexeme lexeme _ _, stream.rest.takeWhile Byte.isBlank, lexeme, ?_⟩
    exact
      { blank := fun byte taken => List.mem_takeWhile_imp taken
        spelled := spelled
        sound := passes.sound
        rest_eq := by rw [← passes.rest_eq, rest_markStart, ← skipped.rest_eq]
        position_eq := by
          have first := skipped.position_eq
          have second : next.position = stream.skipBlanks.position + lexeme.bytes.length :=
            passes.position_eq
          change next.position = _
          omega }

namespace Takes

variable {next : TokenStream} {gap : List Byte} {lexeme : Lexeme}

theorem nonBlankCount_lt (takes : stream.Takes gap lexeme next) :
    nonBlankCount next.rest < nonBlankCount stream.rest := by
  have nonempty := List.length_pos_iff.mpr (Lexeme.bytes_ne_nil takes.spelled)
  rw [takes.rest_eq, Lexeme.nonBlankCount_append takes.blank takes.spelled]
  omega

/-- The first byte of the lexeme is one that is passed and no blank. -/
theorem exists_nonBlank (takes : stream.Takes gap lexeme next) :
    ∃ index byte, stream.position ≤ index ∧ index < next.position ∧
      stream.source.toList[index]? = some byte ∧ byte.isBlank = false := by
  rcases List.exists_cons_of_ne_nil (Lexeme.bytes_ne_nil takes.spelled) with ⟨byte, tail, split⟩
  have length : lexeme.bytes.length = tail.length + 1 := by rw [split, List.length_cons]
  have moved := takes.position_eq
  refine ⟨stream.position + gap.length, byte, Nat.le_add_right _ _, by omega, ?_, ?_⟩
  · rw [← List.getElem?_drop]
    change stream.rest[gap.length]? = some byte
    rw [takes.rest_eq, split]
    simp
  · apply lexeme.not_isBlank_of_mem_bytes takes.spelled
    rw [split]
    exact List.mem_cons_self

end Takes

theorem IsSound.isEof_read_iff (sound : stream.IsSound) :
    stream.read.1.isEof = true ↔ nonBlankCount stream.rest = 0 := by
  rcases sound.read_cases with ⟨blank, _, _, answer⟩ | ⟨going, gap, lexeme, takes⟩
  · rw [answer]
    exact iff_of_true rfl (nonBlankCount_eq_zero_iff.mpr blank)
  · have fewer := takes.nonBlankCount_lt
    rw [going]
    refine iff_of_false Bool.false_ne_true ?_
    omega

/-! ### All answers -/

/-- There are as many answers before the end of the input as there are tokens, and each of them
takes a byte that is no blank. -/
theorem IsSound.exists_count (sound : stream.IsSound) :
    ∃ count ≤ nonBlankCount stream.rest, ∀ calls,
      (stream.after (List.replicate calls .read)).read.1.isEof = true ↔ count ≤ calls := by
  induction left : nonBlankCount stream.rest using Nat.strongRecOn generalizing stream with
  | ind total ih =>
      rcases sound.read_cases with ⟨_, ended, _, answer⟩ | ⟨going, gap, lexeme, takes⟩
      · refine ⟨0, Nat.zero_le _, fun calls => iff_of_true ?_ (Nat.zero_le _)⟩
        cases calls with
        | zero =>
            change stream.read.1.isEof = true
            rw [answer]
            rfl
        | succ calls =>
            rcases ended.after (List.replicate calls .read) with ⟨finished, same⟩
            change (stream.read.2.after (List.replicate calls .read)).read.1.isEof = true
            rw [same, (ended.withFinished finished).read]
            rfl
      · have fewer := takes.nonBlankCount_lt
        rw [left] at fewer
        rcases ih _ fewer takes.sound rfl with ⟨count, few, later⟩
        refine ⟨count + 1, by omega, ?_⟩
        intro calls
        cases calls with
        | zero =>
            change stream.read.1.isEof = true ↔ count + 1 ≤ 0
            rw [going]
            simp
        | succ calls =>
            rw [Nat.succ_le_succ_iff]
            exact later calls

theorem drain_of_finished (finished : stream.finished = true) : stream.drain = ([], stream) := by
  have nothing : stream.next? = none := if_pos finished
  rw [drain]
  split
  · rfl
  · next answered =>
      rw [nothing] at answered
      contradiction

theorem IsSound.length_drain_le (sound : stream.IsSound) :
    stream.drain.1.length ≤ 1 + nonBlankCount stream.rest := by
  fun_induction TokenStream.drain stream with
  | case1 stream nothing => exact Nat.zero_le _
  | case2 stream token following answered tokens last drained ih =>
      unfold next? at answered
      split at answered
      · contradiction
      · simp only [Option.some.injEq, Prod.mk.injEq] at answered
        rcases answered with ⟨rfl, rfl⟩
        rcases sound.read_cases with ⟨_, _, _, answer⟩ | ⟨_, gap, lexeme, takes⟩
        · have finished : stream.read.1.isEof = true := by
            rw [answer]
            rfl
          rw [drain_of_finished finished] at drained
          rw [← (Prod.mk.inj drained).1]
          simp
        · have fewer := takes.nonBlankCount_lt
          have few := ih (takes.sound.withFinished _)
          rw [drained] at few
          change tokens.length ≤ 1 + nonBlankCount stream.read.2.rest at few
          simp only [List.length_cons]
          omega

/-- Draining a fresh stream finds the tokens of its source. -/
theorem drain_ofBytes (source : List Byte) : (ofBytes source).drain.1 = tokensOf source :=
  ((matches_ofBytes source).drain (isClosed_tokensOf source)).1

theorem length_tokensOf_le (source : List Byte) :
    (tokensOf source).length ≤ 1 + nonBlankCount source := by
  have few := (isSound_ofBytes source).length_drain_le
  have all : (ofBytes source).rest = source := congrArg Cursor.rest (cursor_ofBytes source)
  rwa [drain_ofBytes, all] at few

/-- How a stream comes to the end of its input, whatever steps it has taken. Each answer of `read`
but the end of the input moves it over a byte that is no blank, and the end of the input is the
answer exactly if no such byte is left, so not where a byte 0 is. It is reached after at most as
many answers as there are such bytes, and from then on `read` answers the same for ever and no step
changes more of the stream than the mark of `next?`. -/
theorem progress_after (source : List Byte) (steps : List Step) :
    let stream := (ofBytes source).after steps
    let left := nonBlankCount (source.drop stream.position)
    (stream.read.1.isEof = false →
      stream.position < stream.read.2.position ∧ stream.read.2.position ≤ source.length ∧
        ∃ index byte, stream.position ≤ index ∧ index < stream.read.2.position ∧
          source[index]? = some byte ∧ byte.isBlank = false) ∧
    (stream.read.1.isEof = true ↔ left = 0) ∧
    (0 ∈ source.drop stream.position → stream.read.1.isEof = false) ∧
    (stream.read.1.isEof = true → stream.read.2.position = source.length ∧
      ∀ more, let later := stream.read.2.after more
        later.read = (stream.read.1, later) ∧
          later = { stream.read.2 with finished := later.finished }) ∧
    (∃ count ≤ left, ∀ calls,
      (stream.after (List.replicate calls .read)).read.1.isEof = true ↔ count ≤ calls) ∧
    stream.drain.1.length ≤ 1 + left ∧
    (tokensOf source).length ≤ 1 + nonBlankCount source := by
  intro stream left
  have agrees : stream.Agrees source := (agrees_ofBytes source).after steps
  have sound := agrees.isSound
  have sameLeft : nonBlankCount stream.rest = left := congrArg nonBlankCount agrees.rest_eq
  have atEnd := sound.isEof_read_iff
  rw [sameLeft] at atEnd
  refine ⟨?_, atEnd, ?_, ?_, ?_, ?_, ?_⟩
  · intro going
    rcases sound.read_cases with ⟨_, _, _, answer⟩ | ⟨_, gap, lexeme, takes⟩
    · rw [answer] at going
      contradiction
    · have nonBlank := takes.exists_nonBlank
      rw [agrees.source_eq] at nonBlank
      have nonempty := List.length_pos_iff.mpr (Lexeme.bytes_ne_nil takes.spelled)
      have moved := takes.position_eq
      exact ⟨by omega, agrees.read.position_le, nonBlank⟩
  · intro zeroByte
    rw [Bool.eq_false_iff, Ne, atEnd, nonBlankCount_eq_zero_iff]
    intro blank
    exact absurd (blank 0 zeroByte) (by decide)
  · intro isEof
    rcases sound.read_cases with ⟨_, ended, _, answer⟩ | ⟨going, _⟩
    · refine ⟨Nat.le_antisymm agrees.read.position_le ?_, ?_⟩
      · have reached := ended.atEnd
        have sameSource := congrArg List.length agrees.read.source_eq
        simp only [isAtEnd, decide_eq_true_eq] at reached
        rwa [← sameSource, Array.length_toList]
      · intro more later
        rcases ended.after more with ⟨finished, same⟩
        have same : later = { stream.read.2 with finished } := same
        refine ⟨?_, by rw [same]⟩
        rw [same, (ended.withFinished finished).read, answer]
        rfl
    · rw [going] at isEof
      contradiction
  · rw [← sameLeft]
    exact sound.exists_count
  · rw [← sameLeft]
    exact sound.length_drain_le
  · exact length_tokensOf_le source

end TokenStream

end MonkeyLexis
