import MonkeyLexis.Text.Utf8
import MonkeyLexis.Token.Kind

/-!
# Lexemes

The lexical grammar. The first byte of the input decides what its first lexeme is: a letter begins
the longest run of letters, a digit the longest run of digits, and otherwise the lexeme is the
longest symbol that the input begins with. If there is none, the byte is illegal and a lexeme by
itself. Main statements: a lexeme at the head of the input is not empty, and it is a prefix of the
input.
-/

namespace MonkeyLexis

/-- What source text is made of, between its blanks. -/
inductive Lexeme where
  | word (letters : List Byte)
  | number (digits : List Byte)
  | symbol (sign : Symbol)
  | illegal (byte : Byte)
deriving DecidableEq

namespace Lexeme

def bytes : Lexeme → List Byte
  | word letters => letters
  | number digits => digits
  | symbol sign => sign.bytes
  | illegal byte => [byte]

def kind : Lexeme → TokenKind
  | word letters => .ofWord (Text.ofSevenBit letters)
  | number _ => .int
  | symbol sign => .symbol sign
  | illegal _ => .illegal

/-- The text that a token keeps of a lexeme: all of it, but nothing of an illegal byte. -/
def literal : Lexeme → String
  | illegal _ => ""
  | lexeme => Text.ofSevenBit lexeme.bytes

/-- The lexeme at the head of the input `byte :: rest`, where `byte` is not a blank. -/
def atHead (byte : Byte) (rest : List Byte) : Lexeme :=
  if byte.isLetter then
    word (byte :: rest.takeWhile Byte.isLetter)
  else if byte.isDigit then
    number (byte :: rest.takeWhile Byte.isDigit)
  else
    match Symbol.atHead? (byte :: rest) with
    | some sign => symbol sign
    | none => illegal byte

/-- A word makes an identifier or a keyword. -/
theorem kind_word (letters : List Byte) :
    (word letters).kind = .ident ∨ ∃ found, (word letters).kind = .keyword found := by
  simp only [kind, TokenKind.ofWord]
  split
  · next found _ => exact Or.inr ⟨found, rfl⟩
  · exact Or.inl rfl

theorem literal_word (letters : List Byte) :
    (word letters).literal = Text.ofSevenBit letters := rfl

/-- A token keeps all of a lexeme that is no illegal byte. -/
theorem literal_eq {lexeme : Lexeme} (legal : ∀ byte, lexeme ≠ illegal byte) :
    lexeme.literal = Text.ofSevenBit lexeme.bytes := by
  cases lexeme with
  | illegal byte => exact absurd rfl (legal byte)
  | _ => rfl

theorem kind_ne_eof (lexeme : Lexeme) : lexeme.kind ≠ .eof := by
  cases lexeme with
  | word letters => exact TokenKind.ofWord_ne_eof _
  | number digits => simp [kind]
  | symbol sign => simp [kind]
  | illegal byte => simp [kind]

theorem kind_eq_illegal_iff {lexeme : Lexeme} :
    lexeme.kind = .illegal ↔ ∃ byte, lexeme = illegal byte := by
  cases lexeme with
  | word letters => rcases kind_word letters with ident | ⟨found, keyword⟩ <;> simp [*]
  | number digits => simp [kind]
  | symbol sign => simp [kind]
  | illegal byte => simp [kind]

theorem bytes_atHead_ne_nil (byte : Byte) (rest : List Byte) : (atHead byte rest).bytes ≠ [] := by
  unfold atHead
  split
  · simp [bytes]
  split
  · simp [bytes]
  split
  · exact Symbol.bytes_ne_nil _
  · simp [bytes]

theorem bytes_atHead_isPrefix (byte : Byte) (rest : List Byte) :
    (atHead byte rest).bytes <+: byte :: rest := by
  unfold atHead
  split
  · simpa [bytes] using List.takeWhile_prefix _
  split
  · simpa [bytes] using List.takeWhile_prefix _
  split
  · next found => exact Symbol.isPrefix_of_atHead? found
  · simp [bytes]

end Lexeme

end MonkeyLexis
