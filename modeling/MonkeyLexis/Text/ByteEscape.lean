import MonkeyLexis.Byte

/-!
# Escaped bytes

A byte as it is shown in a message: a printable 7-bit character stands for itself, apart from the
quotes and the backslash, and every other byte is written as an escape. Tab, carriage return, line
feed, the quotes and the backslash have short escapes, and the others show two hexadecimal digits.
-/

namespace MonkeyLexis.Text

/-- The two hexadecimal digits of a byte. -/
def hexPair (byte : Byte) : List Char :=
  [Nat.digitChar (byte.toNat / 16), Nat.digitChar (byte.toNat % 16)]

/-- How `byte` is shown in a message. -/
def escapeByte (byte : Byte) : List Char :=
  match Char.ofUInt8 byte with
  | '\t' => ['\\', 't']
  | '\n' => ['\\', 'n']
  | '\r' => ['\\', 'r']
  | '\'' => ['\\', '\'']
  | '"' => ['\\', '"']
  | '\\' => ['\\', '\\']
  | character =>
      if 0x20 ≤ byte ∧ byte < 0x7F then [character] else ['\\', 'x'] ++ hexPair byte

end MonkeyLexis.Text
