import MonkeyLexis.IllegalCharacter
import MonkeyLexis.Position
import MonkeyLexis.Token.Kind

/-!
# Tokens

A token is a kind, the source text that it was made from, and where that text starts and stops.
The marks `illegal` and `eof` carry no text.
-/

namespace MonkeyLexis

/-- A piece of source text with its kind. -/
structure Token where
  kind : TokenKind
  /-- The source text, empty for the marks. -/
  literal : String
  start : Position
  stop : Position
deriving DecidableEq

namespace Token

/-- Whether the token marks the end of the input. -/
def isEof (token : Token) : Bool := token.kind = .eof

/-- Whether the token marks a byte that begins no lexeme. -/
def isIllegal (token : Token) : Bool := token.kind = .illegal

/-- The error for an illegal token: the byte of `source` at which the token starts. There is none
for a token of another kind, or if the token starts outside `source`. -/
def illegalCharacter? (token : Token) (source : List Byte) : Option IllegalCharacter :=
  if token.isIllegal then
    source[token.start.offset]?.map fun byte =>
      { byte, line := token.start.lineNumber, column := token.start.columnNumber }
  else
    none

end Token

end MonkeyLexis
