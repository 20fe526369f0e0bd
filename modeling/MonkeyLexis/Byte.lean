/-!
# Bytes of source text

Source text is a list of bytes and need not be text in any encoding. This file names the classes of
bytes that the lexical grammar speaks of: blanks, letters and digits. All three are classes of 7-bit
characters, so no byte of a longer character belongs to one of them.
-/

namespace MonkeyLexis

abbrev Byte := UInt8

namespace Byte

def lineFeed : Byte := 10

/-- The byte that may stand before a line feed at the end of a line. -/
def carriageReturn : Byte := 13

/-- The byte that is a symbol, and that makes a longer one of `=` and of `!`. -/
def equalsSign : Byte := '='.toUInt8

/-- The other byte that begins a longer symbol. -/
def exclamationMark : Byte := '!'.toUInt8

/-- Space, tab, carriage return and line feed separate lexemes and belong to none. -/
def isBlank (byte : Byte) : Bool := (Char.ofUInt8 byte).isWhitespace

/-- The letters `a` to `z` and `A` to `Z` make words. -/
def isLetter (byte : Byte) : Bool := (Char.ofUInt8 byte).isAlpha

/-- The digits `0` to `9` make numbers. -/
def isDigit (byte : Byte) : Bool := (Char.ofUInt8 byte).isDigit

/-- What can be tested of a byte holds of every byte once it holds of the 256 numbers. -/
theorem forall_of_forall_lt {property : Byte → Prop}
    (holds : ∀ number < 256, property (UInt8.ofNat number)) (byte : Byte) : property byte := by
  simpa using holds byte.toNat byte.toNat_lt

theorem isBlank_iff (byte : Byte) :
    byte.isBlank = true ↔ byte = 32 ∨ byte = 9 ∨ byte = carriageReturn ∨ byte = lineFeed := by
  revert byte
  exact forall_of_forall_lt (by decide +kernel)

theorem isLetter_iff (byte : Byte) :
    byte.isLetter = true ↔ (65 ≤ byte ∧ byte ≤ 90) ∨ (97 ≤ byte ∧ byte ≤ 122) := by
  revert byte
  exact forall_of_forall_lt (by decide +kernel)

theorem isDigit_iff (byte : Byte) : byte.isDigit = true ↔ 48 ≤ byte ∧ byte ≤ 57 := by
  revert byte
  exact forall_of_forall_lt (by decide +kernel)

theorem not_isBlank_of_isLetter {byte : Byte} (letter : byte.isLetter = true) :
    byte.isBlank = false := by
  have every : ∀ other : Byte, other.isLetter = true → other.isBlank = false :=
    forall_of_forall_lt (by decide +kernel)
  exact every byte letter

theorem not_isBlank_of_isDigit {byte : Byte} (digit : byte.isDigit = true) :
    byte.isBlank = false := by
  have every : ∀ other : Byte, other.isDigit = true → other.isBlank = false :=
    forall_of_forall_lt (by decide +kernel)
  exact every byte digit

theorem not_isLetter_of_isDigit {byte : Byte} (digit : byte.isDigit = true) :
    byte.isLetter = false := by
  have every : ∀ other : Byte, other.isDigit = true → other.isLetter = false :=
    forall_of_forall_lt (by decide +kernel)
  exact every byte digit

theorem lt_of_isLetter {byte : Byte} (letter : byte.isLetter = true) : byte < 128 := by
  rcases byte.isLetter_iff.mp letter with capital | small
  · exact UInt8.lt_of_le_of_lt capital.2 (by decide)
  · exact UInt8.lt_of_le_of_lt small.2 (by decide)

theorem lt_of_isDigit {byte : Byte} (digit : byte.isDigit = true) : byte < 128 :=
  UInt8.lt_of_le_of_lt (byte.isDigit_iff.mp digit).2 (by decide)

end Byte

end MonkeyLexis
