import MonkeyLexis.Unicode.CodePointSet

/-!
# White space

The characters that separate words in text of any script: the property `White_Space`. It has more
members than the four blanks of the lexical grammar.
-/

namespace MonkeyLexis.Unicode

/-- The code points with the property `White_Space`. -/
def whiteSpace : CodePointSet :=
  [(9, 0xD), (0x20, 0x20), (0x85, 0x85), (0xA0, 0xA0), (0x1680, 0x1680), (0x2000, 0x200A),
   (0x2028, 0x2029), (0x202F, 0x202F), (0x205F, 0x205F), (0x3000, 0x3000)]

def isWhiteSpace (character : Char) : Bool :=
  whiteSpace.contains character

end MonkeyLexis.Unicode
