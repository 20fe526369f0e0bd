import MonkeyLexis.Text.Quoted
import MonkeyLexis.Token.Basic

/-!
# Tokens as text

A token is printed as the name of its kind and, in parentheses, its literal in double quotes. The
end of the input is left out where tokens are listed.
-/

namespace MonkeyLexis

namespace Token

def display (token : Token) : String :=
  token.kind.name ++ "(" ++ Text.quote token.literal ++ ")"

/-- The lines that list `tokens`, without the end of the input. -/
def displayAll (tokens : List Token) : List String :=
  (tokens.filter fun token => !token.isEof).map display

end Token

end MonkeyLexis
