import MonkeyLexis.Unicode.WhiteSpace

/-!
# White space around text

Trimming and the first word of a text, with white space of any script.
-/

namespace MonkeyLexis.Text

/-- The characters of a text without the white space at both ends. -/
def trimCharacters (characters : List Char) : List Char :=
  ((characters.dropWhile Unicode.isWhiteSpace).reverse.dropWhile Unicode.isWhiteSpace).reverse

/-- The text without the white space at both ends. -/
def trim (text : String) : String :=
  String.ofList (trimCharacters text.toList)

/-- The first run of characters that are not white space, empty if there is none. -/
def firstWord (characters : List Char) : List Char :=
  (characters.dropWhile Unicode.isWhiteSpace).takeWhile fun character =>
    !Unicode.isWhiteSpace character

end MonkeyLexis.Text
