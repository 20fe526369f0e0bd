import MonkeyLexis.Unicode.GraphemeExtend
import MonkeyLexis.Unicode.Unprintable

/-!
# Quoted text

Text between double quotes on one line. A character is written as itself where it can be told from
its neighbours, and as an escape otherwise: the double quote, the backslash and four controls have
short escapes, and all else that is not printable, or would be drawn onto the character before it,
is written by its code point.
-/

namespace MonkeyLexis.Text

/-- How `character` is written between double quotes. -/
def quoteCharacter (character : Char) : List Char :=
  match character with
  | '"' => ['\\', '"']
  | '\\' => ['\\', '\\']
  | '\n' => ['\\', 'n']
  | '\r' => ['\\', 'r']
  | '\t' => ['\\', 't']
  | '\x00' => ['\\', '0']
  | character =>
      if Unicode.isPrintable character && !Unicode.isGraphemeExtend character then
        [character]
      else
        ['\\', 'u', '{'] ++ Nat.toDigits 16 character.toNat ++ ['}']

def quote (text : String) : String :=
  String.ofList ('"' :: (text.toList.flatMap quoteCharacter ++ ['"']))

end MonkeyLexis.Text
