import MonkeyLexis.Byte

/-!
# Symbols

Operators and punctuation. Two symbols begin with another symbol, `==` with `=` and `!=` with `!`,
so the order in which symbols are tried matters: `Symbol.atHead?` tries the longer ones first.
-/

namespace MonkeyLexis

inductive Symbol where
  | assign
  | plus
  | minus
  | bang
  | asterisk
  | slash
  | less
  | greater
  | equal
  | notEqual
  | comma
  | semicolon
  | leftParen
  | rightParen
  | leftBrace
  | rightBrace
deriving DecidableEq

namespace Symbol

/-- All symbols, those of two bytes before those of one. -/
def longestFirst : List Symbol :=
  [equal, notEqual, assign, plus, minus, bang, asterisk, slash, less, greater, comma, semicolon,
    leftParen, rightParen, leftBrace, rightBrace]

def characters : Symbol → List Char
  | assign => ['=']
  | plus => ['+']
  | minus => ['-']
  | bang => ['!']
  | asterisk => ['*']
  | slash => ['/']
  | less => ['<']
  | greater => ['>']
  | equal => ['=', '=']
  | notEqual => ['!', '=']
  | comma => [',']
  | semicolon => [';']
  | leftParen => ['(']
  | rightParen => [')']
  | leftBrace => ['{']
  | rightBrace => ['}']

def spelling (symbol : Symbol) : String := String.ofList symbol.characters

def bytes (symbol : Symbol) : List Byte := symbol.characters.map Char.toUInt8

/-- The name of a symbol as an identifier, for diagnostics. -/
def label : Symbol → String
  | assign => "Assign"
  | plus => "Plus"
  | minus => "Minus"
  | bang => "Bang"
  | asterisk => "Asterisk"
  | slash => "Slash"
  | less => "Lt"
  | greater => "Gt"
  | equal => "Eq"
  | notEqual => "NotEq"
  | comma => "Comma"
  | semicolon => "Semicolon"
  | leftParen => "LParen"
  | rightParen => "RParen"
  | leftBrace => "LBrace"
  | rightBrace => "RBrace"

/-- The symbol that `byte` is, if it is one of those that no byte makes longer. -/
def single? (byte : Byte) : Option Symbol :=
  match Char.ofUInt8 byte with
  | '+' => some plus
  | '-' => some minus
  | '*' => some asterisk
  | '/' => some slash
  | '<' => some less
  | '>' => some greater
  | ',' => some comma
  | ';' => some semicolon
  | '(' => some leftParen
  | ')' => some rightParen
  | '{' => some leftBrace
  | '}' => some rightBrace
  | _ => none

/-- The longest symbol that `input` begins with. -/
def atHead? (input : List Byte) : Option Symbol :=
  longestFirst.find? fun symbol => symbol.bytes.isPrefixOf input

@[simp]
theorem mem_longestFirst (symbol : Symbol) : symbol ∈ longestFirst := by
  cases symbol <;> simp [longestFirst]

theorem characters_injective {left right : Symbol} (same : left.characters = right.characters) :
    left = right := by
  cases left <;> cases right <;> first | rfl | simp [characters] at same

@[simp]
theorem spelling_inj {left right : Symbol} : left.spelling = right.spelling ↔ left = right :=
  ⟨fun same => characters_injective (String.ofList_injective same), fun same => same ▸ rfl⟩

theorem bytes_ne_nil (symbol : Symbol) : symbol.bytes ≠ [] := by
  cases symbol <;> simp [bytes, characters]

/-- A symbol that is found stands at the head of the input. -/
theorem isPrefix_of_atHead? {input : List Byte} {symbol : Symbol}
    (found : atHead? input = some symbol) : symbol.bytes <+: input := by
  have stands := List.find?_some found
  exact List.isPrefixOf_iff_prefix.mp stands

end Symbol

end MonkeyLexis
