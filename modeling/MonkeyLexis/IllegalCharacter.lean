import MonkeyLexis.Text.ByteEscape

/-!
# Illegal characters

The one error of the lexical grammar: a byte that begins no lexeme.
-/

namespace MonkeyLexis

/-- A byte that begins no lexeme, with its line and column counted from one. -/
structure IllegalCharacter where
  byte : Byte
  line : Nat
  column : Nat
deriving DecidableEq

namespace IllegalCharacter

def message (error : IllegalCharacter) : String :=
  "Illegal character '" ++ String.ofList (Text.escapeByte error.byte) ++ "' at line "
    ++ toString error.line ++ ", column " ++ toString error.column

/-- The error written out field by field, for diagnostics. -/
def description (error : IllegalCharacter) : String :=
  "IllegalCharacter \x7b byte: " ++ toString error.byte.toNat ++ ", line: " ++ toString error.line
    ++ ", column: " ++ toString error.column ++ " \x7d"

end IllegalCharacter

end MonkeyLexis
