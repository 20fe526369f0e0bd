import MonkeyLexis.Proofs.Registers
import MonkeyLexis.TokenList

/-!
# Reading a source and reading its tokens

A token stream finds the tokens of its source while it is read. This file compares it with a reader
of the finished token list, which has no more than an index into the list and a mark for having
answered with the end of the input. Whatever steps are taken, and in whatever order, the two answer
the same, and the offset of the stream is where the last token that was produced has ended.

The tokens that the stream would still find are those from the index on. A step preserves this, so
a sequence of steps does. At the end of the input the stream finds the same token again while the
index stays at the last token of the list.
-/

namespace MonkeyLexis

structure ListReader (tokens : List Token) where
  index : Fin tokens.length
  /-- Whether `next?` has answered with the end of the input. -/
  finished : Bool
  produced : List Token

namespace ListReader

variable {tokens : List Token}

def start (source : List Byte) : ListReader (tokensOf source) :=
  { index := ⟨0, List.length_pos_iff.mpr (tokensOf_ne_nil source)⟩
    finished := false
    produced := [] }

/-- Where the last token that was produced has ended. -/
def offset (reader : ListReader tokens) : Nat :=
  match reader.produced.getLast? with
  | some token => token.stop.offset
  | none => 0

def lastIndex (reader : ListReader tokens) : Fin tokens.length :=
  ⟨tokens.length - 1, Nat.sub_one_lt_of_lt reader.index.isLt⟩

/-- The next index, but never one behind the last token. -/
def nextIndex (reader : ListReader tokens) : Fin tokens.length :=
  ⟨min (reader.index + 1) (tokens.length - 1),
    Nat.lt_of_le_of_lt (Nat.min_le_right _ _) reader.lastIndex.isLt⟩

def read (reader : ListReader tokens) : Token × ListReader tokens :=
  let token := tokens[reader.index]
  (token, { reader with index := reader.nextIndex, produced := reader.produced ++ [token] })

def next? (reader : ListReader tokens) : Option (Token × ListReader tokens) :=
  if reader.finished then
    none
  else
    let (token, next) := reader.read
    some (token, { next with finished := token.isEof })

def drain (reader : ListReader tokens) : List Token × ListReader tokens :=
  let rest := if reader.finished then [] else tokens.drop reader.index
  (rest, { index := reader.lastIndex, finished := true, produced := reader.produced ++ rest })

def perform (reader : ListReader tokens) : TokenStream.Step → TokenStream.Answer × ListReader tokens
  | .read =>
      let (token, next) := reader.read
      (.token token, next)
  | .next =>
      match reader.next? with
      | some (token, next) => (.token token, next)
      | none => (.nothing, reader)
  | .drain =>
      let (rest, next) := reader.drain
      (.tokens rest, next)
  | .count =>
      let (rest, next) := reader.drain
      (.count rest.length, next)

/-- The answers to a sequence of steps, each with the offset that the reader then has. -/
def performAll (reader : ListReader tokens) :
    List TokenStream.Step → List (TokenStream.Answer × Nat)
  | [] => []
  | step :: steps =>
      let (answer, next) := reader.perform step
      (answer, next.offset) :: next.performAll steps

end ListReader

/-- The end of the input is the last of the tokens and no other. -/
def IsClosed (tokens : List Token) : Prop :=
  ∀ index : Fin tokens.length, tokens[index].isEof = true ↔ index + 1 = tokens.length

theorem isClosed_tokensOf (source : List Byte) : IsClosed (tokensOf source) := by
  rcases Layout.exists_isProper source with ⟨layout, proper, rfl⟩
  rw [tokensOf_of_isProper proper, Layout.tokensFrom]
  rintro ⟨index, inside⟩
  simp only [List.length_append, List.length_singleton] at inside ⊢
  rcases Nat.lt_succ_iff_lt_or_eq.mp inside with before | rfl
  · have member := List.getElem_mem before
    rcases Layout.exists_lexeme_of_mem proper member with ⟨_, lexeme, _, _, _, _, made⟩
    have notEof : (layout.lexemeTokens .origin)[index].isEof = false := by
      rw [made]
      exact Token.isEof_ofLexeme lexeme _ _
    simp only [Fin.getElem_fin, List.getElem_append_left before, notEof]
    simp
    omega
  · simp

namespace Cursor

theorem stop_scan (cursor : Cursor) : cursor.scan.token.stop = cursor.scan.next.position := by
  cases found : cursor.skipBlanks.rest with
  | nil =>
      rw [scan_of_nil found]
      rfl
  | cons byte rest =>
      rw [scan_of_cons found]
      rfl

theorem head?_tokens (cursor : Cursor) :
    cursor.tokens.result.head? = some cursor.scan.token := by
  by_cases ended : cursor.scan.token.isEof = true
  · rw [tokens_of_isEof ended]
    rfl
  · rw [tokens_of_not_isEof ended]
    rfl

/-- At the end of the input the same token is found for ever. -/
theorem tokens_next_of_isEof {cursor : Cursor} (ended : cursor.scan.token.isEof = true) :
    cursor.scan.next.tokens.result = [cursor.scan.token] := by
  cases found : cursor.skipBlanks.rest with
  | nil =>
      have stays : cursor.skipBlanks = { position := cursor.skipBlanks.position, rest := [] } := by
        rw [← found]
      have scanned := scan_of_nil found
      have again : cursor.scan.next.scan.token = cursor.scan.token := by
        rw [scanned, stays, scan_of_blanks _ (by simp)]
        rfl
      rw [tokens_of_isEof (by rw [again, ended]), again]
  | cons byte rest =>
      rw [scan_of_cons found] at ended
      simp at ended

end Cursor

namespace ListReader

variable {tokens : List Token} {reader : ListReader tokens}

@[simp]
theorem offset_read (reader : ListReader tokens) :
    reader.read.2.offset = reader.read.1.stop.offset := by
  simp [read, offset]

theorem nextIndex_of_isEof (closed : IsClosed tokens)
    (ended : tokens[reader.index].isEof = true) : reader.nextIndex = reader.index := by
  have atLast := (closed reader.index).mp ended
  apply Fin.ext
  simp only [nextIndex]
  omega

theorem nextIndex_of_not_isEof (closed : IsClosed tokens)
    (going : ¬tokens[reader.index].isEof = true) :
    (reader.nextIndex : Nat) = reader.index + 1 := by
  have inside := reader.index.isLt
  have notLast : (reader.index : Nat) + 1 ≠ tokens.length := fun atLast =>
    going ((closed reader.index).mpr atLast)
  simp only [nextIndex]
  omega

theorem drop_index (reader : ListReader tokens) :
    tokens.drop reader.index = tokens[reader.index] :: tokens.drop (reader.index + 1) :=
  List.drop_eq_getElem_cons reader.index.isLt

/-- Draining a list is answering with `next?` for as long as that answers. -/
theorem drain_of_next? {next : ListReader tokens} {token : Token} (closed : IsClosed tokens)
    (answered : reader.next? = some (token, next)) :
    reader.drain = (token :: next.drain.1, next.drain.2) := by
  unfold next? at answered
  split at answered
  · contradiction
  · next unfinished =>
      simp only [read, Option.some.injEq, Prod.mk.injEq] at answered
      rcases answered with ⟨rfl, rfl⟩
      have others : (if tokens[reader.index].isEof then [] else tokens.drop reader.nextIndex) =
          tokens.drop (reader.index + 1) := by
        split
        · next ended =>
            have atLast := (closed reader.index).mp ended
            rw [atLast, List.drop_length]
        · next going => rw [nextIndex_of_not_isEof closed going]
      simp only [drain, if_neg unfinished, others, drop_index, List.append_assoc]
      rfl

end ListReader

namespace TokenStream

/-- The stream and the reader have come equally far. -/
structure Matches (stream : TokenStream) {tokens : List Token} (reader : ListReader tokens) :
    Prop where
  sound : stream.IsSound
  left_eq : stream.cursor.tokens.result = tokens.drop reader.index
  finished_eq : stream.finished = reader.finished
  offset_eq : stream.offset = reader.offset
  atLast : reader.finished = true → reader.index + 1 = tokens.length

theorem matches_ofBytes (source : List Byte) : (ofBytes source).Matches (.start source) where
  sound := isSound_ofBytes source
  left_eq := by
    rw [cursor_ofBytes]
    rfl
  finished_eq := by
    unfold ofBytes readByte
    split <;> rfl
  offset_eq := congrArg (fun cursor => cursor.position.offset) (cursor_ofBytes source)
  atLast := by
    intro impossible
    contradiction

namespace Matches

variable {stream : TokenStream} {tokens : List Token} {reader : ListReader tokens}

theorem read (same : stream.Matches reader) (closed : IsClosed tokens) :
    stream.read.1 = reader.read.1 ∧ stream.read.2.Matches reader.read.2 ∧
      (reader.read.1.isEof = true → reader.read.2.index + 1 = tokens.length) := by
  rcases scan_eq same.sound with ⟨next, sound, cursor, _, finished, scanned⟩
  have made : stream.read = (stream.cursor.scan.token, next) := by
    rw [TokenStream.read, scanned]
  have found : stream.cursor.scan.token = tokens[reader.index] := by
    have first := congrArg List.head? same.left_eq
    rw [Cursor.head?_tokens, reader.drop_index, List.head?_cons] at first
    exact Option.some.inj first
  have left : next.cursor.tokens.result = tokens.drop reader.nextIndex := by
    rw [cursor]
    by_cases ended : stream.cursor.scan.token.isEof = true
    · have stays := ListReader.nextIndex_of_isEof closed (by rwa [← found])
      rw [stays, ← same.left_eq, Cursor.tokens_of_isEof ended, Cursor.tokens_next_of_isEof ended]
    · have before := same.left_eq
      rw [Cursor.tokens_of_not_isEof ended, reader.drop_index] at before
      rw [ListReader.nextIndex_of_not_isEof closed (by rwa [← found])]
      exact (List.cons.inj before).2
  have atLast : tokens[reader.index].isEof = true → reader.nextIndex + 1 = tokens.length := by
    intro ended
    rw [ListReader.nextIndex_of_isEof closed ended]
    exact (closed reader.index).mp ended
  rw [made]
  refine ⟨found, ⟨sound, left, finished.trans same.finished_eq, ?_, ?_⟩, atLast⟩
  · rw [ListReader.offset_read]
    change next.cursor.position.offset = tokens[reader.index].stop.offset
    rw [cursor, ← Cursor.stop_scan, found]
  · intro done
    exact atLast ((closed reader.index).mpr (same.atLast done))

theorem next? (same : stream.Matches reader) (closed : IsClosed tokens) :
    (stream.next? = none ∧ reader.next? = none ∧ reader.finished = true) ∨
      ∃ token following readerFollowing, stream.next? = some (token, following) ∧
        reader.next? = some (token, readerFollowing) ∧ following.Matches readerFollowing := by
  by_cases done : reader.finished = true
  · left
    have streamDone : stream.finished = true := same.finished_eq.trans done
    refine ⟨?_, ?_, done⟩
    · rw [TokenStream.next?, if_pos streamDone]
    · rw [ListReader.next?, if_pos done]
  · right
    have streamGoing : ¬stream.finished = true := by rwa [same.finished_eq]
    rcases same.read closed with ⟨token, following, atLast⟩
    refine ⟨stream.read.1, { stream.read.2 with finished := stream.read.1.isEof },
      { reader.read.2 with finished := reader.read.1.isEof }, ?_, ?_, ?_⟩
    · rw [TokenStream.next?, if_neg streamGoing]
    · rw [ListReader.next?, if_neg done, token]
    · exact ⟨following.sound.withFinished _, following.left_eq, congrArg Token.isEof token,
        following.offset_eq, atLast⟩

theorem drain (same : stream.Matches reader) (closed : IsClosed tokens) :
    stream.drain.1 = reader.drain.1 ∧ stream.drain.2.Matches reader.drain.2 := by
  fun_induction TokenStream.drain stream generalizing reader with
  | case1 stream ended =>
      rcases same.next? closed with ⟨_, _, done⟩ | ⟨token, following, _, answered, _⟩
      · have atLast := same.atLast done
        have sameIndex : reader.lastIndex = reader.index := by
          apply Fin.ext
          simp only [ListReader.lastIndex]
          omega
        have drained : reader.drain = ([], reader) := by
          simp only [ListReader.drain, if_pos done, List.append_nil, sameIndex]
          rw [← done]
        rw [drained]
        exact ⟨rfl, same⟩
      · rw [ended] at answered
        contradiction
  | case2 stream token following answered rest last drained ih =>
      rcases same.next? closed with
        ⟨ended, _⟩ | ⟨_, _, readerFollowing, found, readerFound, matched⟩
      · rw [ended] at answered
        contradiction
      · rw [answered, Option.some.injEq, Prod.mk.injEq] at found
        rcases found with ⟨rfl, rfl⟩
        rcases ih matched with ⟨sameRest, sameLast⟩
        rw [drained] at sameRest sameLast
        rw [ListReader.drain_of_next? closed readerFound]
        exact ⟨congrArg (List.cons token) sameRest, sameLast⟩

/-- One step: the same answer, and equally far afterwards. -/
theorem perform (same : stream.Matches reader) (closed : IsClosed tokens) (step : Step) :
    (stream.perform step).1 = (reader.perform step).1 ∧
      (stream.perform step).2.Matches (reader.perform step).2 := by
  cases step with
  | read =>
      rcases same.read closed with ⟨token, following, _⟩
      exact ⟨congrArg Answer.token token, following⟩
  | next =>
      rcases same.next? closed with
        ⟨nothing, readerNothing, _⟩ | ⟨token, _, _, found, readerFound, following⟩
      · rw [TokenStream.perform, ListReader.perform, nothing, readerNothing]
        exact ⟨rfl, same⟩
      · rw [TokenStream.perform, ListReader.perform, found, readerFound]
        exact ⟨rfl, following⟩
  | drain =>
      rcases same.drain closed with ⟨rest, following⟩
      exact ⟨congrArg Answer.tokens rest, following⟩
  | count =>
      rcases same.drain closed with ⟨rest, following⟩
      have length := congrArg List.length rest
      exact ⟨congrArg Answer.count length, following⟩

/-- A run: the same answers at the same offsets. -/
theorem performAll (same : stream.Matches reader) (closed : IsClosed tokens) (steps : List Step) :
    stream.performAll steps = reader.performAll steps := by
  induction steps generalizing stream reader with
  | nil => rfl
  | cons step steps ih =>
      rcases same.perform closed step with ⟨answer, following⟩
      simp only [TokenStream.performAll, ListReader.performAll, answer, following.offset_eq,
        ih following]

end Matches

/-- Reading a source step by step is reading the list of its tokens, which the end of the input
closes: no sequence of steps tells the two apart, be it by an answer or by the offset. -/
theorem performAll_ofBytes (source : List Byte) :
    IsClosed (tokensOf source) ∧ (ofBytes source).offset = 0 ∧
      ∀ steps : List Step,
        (ofBytes source).performAll steps = (ListReader.start source).performAll steps := by
  have closed := isClosed_tokensOf source
  have same := matches_ofBytes source
  exact ⟨closed, same.offset_eq, fun steps => same.performAll closed steps⟩

-- An end of the input that `read` has answered with is still answered once by `next?`.
example :
    let word : Token :=
      { kind := .ident, literal := "a", start := .origin, stop := Position.origin.advance 1 }
    let last := Token.endOfInput (Position.origin.advance 1)
    (ofBytes [97]).performAll [.read, .read, .next, .next, .count] =
      [(.token word, 1), (.token last, 1), (.token last, 1), (.nothing, 1), (.count 0, 1)] := by
  decide +kernel

end TokenStream

end MonkeyLexis
