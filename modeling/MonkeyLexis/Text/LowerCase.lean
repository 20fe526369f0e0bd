import MonkeyLexis.Unicode.Cased
import MonkeyLexis.Unicode.CaseIgnorable
import MonkeyLexis.Unicode.LowerCase

/-!
# Lower case of text

Every character is mapped on its own, except for the Greek capital sigma: at the end of a word it
becomes the final form of the letter.
-/

namespace MonkeyLexis.Text

/-- Whether the first of `characters` that casing does not overlook has a case. -/
def startsCased (characters : List Char) : Bool :=
  match characters.dropWhile Unicode.isCaseIgnorable with
  | [] => false
  | character :: _ => Unicode.isCased character

/-- The lower case of `after`, where the characters before it are `before`, the nearest first. -/
def lowerCaseFrom (before : List Char) : List Char → List Char
  | [] => []
  | character :: after =>
      let lower :=
        if character = 'Σ' then
          if startsCased before && !startsCased after then ['ς'] else ['σ']
        else
          Unicode.lowerCase character
      lower ++ lowerCaseFrom (character :: before) after

def lowerCase (characters : List Char) : List Char :=
  lowerCaseFrom [] characters

end MonkeyLexis.Text
