import MonkeyLexis.Event
import MonkeyLexis.Lexeme

/-!
# Cursors

A cursor is a place in source text together with the bytes behind it. `Cursor.scan` makes one
token: it skips blanks, takes the lexeme that the input then begins with, and hands on the cursor
behind it. Where no lexeme is left it makes the token for the end of the input and stays. Main
statement: a token other than that one makes the rest of the input shorter.
-/

namespace MonkeyLexis

/-- The token for the end of the input, made at `place`. -/
def Token.endOfInput (place : Position) : Token :=
  { kind := .eof, literal := "", start := place, stop := place }

def Token.ofLexeme (lexeme : Lexeme) (start stop : Position) : Token :=
  { kind := lexeme.kind, literal := lexeme.literal, start, stop }

/-- What is reported of a lexeme before its token: an illegal byte with the place where it is. -/
def Lexeme.warnings (lexeme : Lexeme) (place : Position) : List Event :=
  match lexeme with
  | illegal byte => [.illegalByte byte place]
  | _ => []

theorem Lexeme.warnings_eq_nil {lexeme : Lexeme} (legal : ∀ byte, lexeme ≠ .illegal byte)
    (place : Position) : lexeme.warnings place = [] := by
  cases lexeme with
  | illegal byte => exact absurd rfl (legal byte)
  | _ => rfl

/-- A place in source text and the bytes from there on. -/
structure Cursor where
  position : Position
  rest : List Byte
deriving DecidableEq

/-- One token, what was reported while it was made, and the cursor behind it. -/
structure Scan where
  token : Token
  events : List Event
  next : Cursor
deriving DecidableEq

namespace Cursor

def start (source : List Byte) : Cursor :=
  { position := .origin, rest := source }

/-- The cursor `count` bytes further on, or at the end of the input if that is nearer. -/
def skip (cursor : Cursor) (count : Nat) : Cursor :=
  { position := cursor.position.passAll (cursor.rest.take count), rest := cursor.rest.drop count }

/-- The cursor at the next byte that is not a blank. -/
def skipBlanks (cursor : Cursor) : Cursor :=
  cursor.skip (cursor.rest.takeWhile Byte.isBlank).length

def scan (cursor : Cursor) : Scan :=
  let cursor := cursor.skipBlanks
  match cursor.rest with
  | [] =>
      let token := Token.endOfInput cursor.position
      { token, events := [.scanned token], next := cursor }
  | byte :: rest =>
      let lexeme := Lexeme.atHead byte rest
      let next := cursor.skip lexeme.bytes.length
      let token := Token.ofLexeme lexeme cursor.position next.position
      { token, events := lexeme.warnings cursor.position ++ [.scanned token], next }

@[simp]
theorem rest_skip (cursor : Cursor) (count : Nat) :
    (cursor.skip count).rest = cursor.rest.drop count := rfl

@[simp]
theorem rest_skipBlanks (cursor : Cursor) :
    cursor.skipBlanks.rest = cursor.rest.dropWhile Byte.isBlank := by
  have split := List.takeWhile_append_dropWhile (p := Byte.isBlank) (l := cursor.rest)
  calc
    cursor.rest.drop (cursor.rest.takeWhile Byte.isBlank).length
      = (cursor.rest.takeWhile Byte.isBlank ++ cursor.rest.dropWhile Byte.isBlank).drop
          (cursor.rest.takeWhile Byte.isBlank).length := by rw [split]
    _ = cursor.rest.dropWhile Byte.isBlank := List.drop_left

theorem scan_of_nil {cursor : Cursor} (atEnd : cursor.skipBlanks.rest = []) :
    cursor.scan =
      { token := Token.endOfInput cursor.skipBlanks.position
        events := [.scanned (Token.endOfInput cursor.skipBlanks.position)]
        next := cursor.skipBlanks } := by
  unfold scan
  simp only [atEnd]

theorem scan_of_cons {cursor : Cursor} {byte : Byte} {rest : List Byte}
    (found : cursor.skipBlanks.rest = byte :: rest) :
    cursor.scan =
      let lexeme := Lexeme.atHead byte rest
      let place := cursor.skipBlanks.position
      let next := cursor.skipBlanks.skip lexeme.bytes.length
      let token := Token.ofLexeme lexeme place next.position
      { token, events := lexeme.warnings place ++ [.scanned token], next } := by
  unfold scan
  simp only [found]

/-- Every token but the one for the end of the input makes the rest of the input shorter. -/
theorem length_rest_next_lt {cursor : Cursor} (notEof : ¬cursor.scan.token.isEof) :
    cursor.scan.next.rest.length < cursor.rest.length := by
  cases found : cursor.skipBlanks.rest with
  | nil =>
      rw [scan_of_nil found] at notEof
      exact absurd rfl notEof
  | cons byte rest =>
      have nonempty := List.length_pos_iff.mpr (Lexeme.bytes_atHead_ne_nil byte rest)
      have notLonger : cursor.skipBlanks.rest.length ≤ cursor.rest.length := by
        rw [rest_skipBlanks]
        exact (List.dropWhile_suffix _).length_le
      rw [found, List.length_cons] at notLonger
      rw [scan_of_cons found]
      simp only [rest_skip, found, List.length_drop, List.length_cons]
      omega

end Cursor

end MonkeyLexis
