import MonkeyLexis.IllegalPolicy

/-!
# Listings

The listing of a source has one line for each of its tokens, without the end of the input. A
source that is rejected has none: no line is written for the tokens before its first illegal
character.
-/

namespace MonkeyLexis

/-- The lines that list the tokens of `source`. -/
def listing (source : List Byte) (policy : IllegalPolicy) :
    Except IllegalCharacter (List String) :=
  (policy.scan source).result.map Token.displayAll

end MonkeyLexis
