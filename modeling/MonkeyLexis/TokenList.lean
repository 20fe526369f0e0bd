import MonkeyLexis.Cursor

/-!
# Token lists

All tokens of a source, up to and including the one for the end of the input. `tokensOf` never
fails: an illegal byte is a token among the others. `legalTokensOf` stops at the first illegal
token and answers with its error. `scanAll` and `scanLegal` are the same with the events that are
reported on the way.
-/

namespace MonkeyLexis

namespace Cursor

/-- The tokens from the cursor to the end of the input. -/
def tokens (cursor : Cursor) : Logged (List Token) :=
  let scan := cursor.scan
  if scan.token.isEof then
    { events := scan.events, result := [scan.token] }
  else
    (scan.next.tokens.map (scan.token :: ·)).after scan.events
termination_by cursor.rest.length
decreasing_by exact length_rest_next_lt ‹_›

theorem tokens_of_isEof {cursor : Cursor} (ended : cursor.scan.token.isEof = true) :
    cursor.tokens.result = [cursor.scan.token] := by
  rw [tokens]
  simp [ended]

theorem tokens_of_not_isEof {cursor : Cursor} (going : ¬cursor.scan.token.isEof = true) :
    cursor.tokens.result = cursor.scan.token :: cursor.scan.next.tokens.result := by
  rw [tokens]
  simp [going]

/-- The tokens from the cursor to the end of the input, if none of them is illegal in `source`. -/
def legalTokens (source : List Byte) (cursor : Cursor) :
    Logged (Except IllegalCharacter (List Token)) :=
  let scan := cursor.scan
  match scan.token.illegalCharacter? source with
  | some error => { events := scan.events, result := .error error }
  | none =>
      if scan.token.isEof then
        { events := scan.events, result := .ok [scan.token] }
      else
        ((scan.next.legalTokens source).map (·.map (scan.token :: ·))).after scan.events
termination_by cursor.rest.length
decreasing_by exact length_rest_next_lt ‹_›

end Cursor

/-- All tokens of `source`, with the events reported on the way. -/
def scanAll (source : List Byte) : Logged (List Token) :=
  (Cursor.start source).tokens

/-- All tokens of `source`, or its first illegal character, with the events reported on the way. -/
def scanLegal (source : List Byte) : Logged (Except IllegalCharacter (List Token)) :=
  (Cursor.start source).legalTokens source

def tokensOf (source : List Byte) : List Token :=
  (scanAll source).result

def legalTokensOf (source : List Byte) : Except IllegalCharacter (List Token) :=
  (scanLegal source).result

end MonkeyLexis
