import MonkeyLexis.Token.Keyword
import MonkeyLexis.Token.Symbol

/-!
# Kinds of tokens

A kind is one of the symbols or keywords, a class of words or numbers, or one of two marks:
`illegal` for a byte that begins no lexeme and `eof` for the end of the input. Main statement:
kinds have different names.
-/

namespace MonkeyLexis

inductive TokenKind where
  | eof
  | illegal
  | ident
  | int
  | symbol (sign : Symbol)
  | keyword (word : Keyword)
deriving DecidableEq

namespace TokenKind

def all : List TokenKind :=
  [eof, illegal, ident, int] ++ Symbol.longestFirst.map symbol ++ Keyword.all.map keyword

/-- The name under which a kind is printed: a symbol by its spelling, all else in capitals. -/
def name : TokenKind → String
  | eof => "EOF"
  | illegal => "ILLEGAL"
  | ident => "IDENT"
  | int => "INT"
  | symbol sign => sign.spelling
  | keyword word => word.name

/-- The name of a kind as an identifier, for diagnostics. -/
def label : TokenKind → String
  | eof => "Eof"
  | illegal => "Illegal"
  | ident => "Ident"
  | int => "Int"
  | symbol sign => sign.label
  | keyword word => word.label

def ofLabel? (label : String) : Option TokenKind :=
  all.find? fun kind => kind.label = label

/-- The kind of a word: a keyword in exactly its spelling, else an identifier. -/
def ofWord (word : String) : TokenKind :=
  match Keyword.ofSpelling? word with
  | some found => keyword found
  | none => ident

@[simp]
theorem mem_all (kind : TokenKind) : kind ∈ all := by
  cases kind <;> simp [all]

theorem ofWord_ne_eof (word : String) : ofWord word ≠ eof := by
  unfold ofWord
  split <;> simp

theorem ofWord_eq_keyword_iff {text : String} {word : Keyword} :
    ofWord text = keyword word ↔ text = word.spelling := by
  rw [← Keyword.ofSpelling?_eq_some_iff, ofWord]
  split
  · next found same => simp [same]
  · next absent => simp [absent]

theorem ofWord_eq_ident_iff {text : String} :
    ofWord text = ident ↔ ∀ word : Keyword, text ≠ word.spelling := by
  simp only [Ne, ← Keyword.ofSpelling?_eq_some_iff, ofWord]
  split
  · next found same => simp [same]
  · next absent => simp [absent]

theorem name_injective {left right : TokenKind} (same : left.name = right.name) : left = right := by
  have distinct : ∀ first ∈ all, ∀ second ∈ all, first.name = second.name → first = second := by
    decide +kernel
  exact distinct left (mem_all left) right (mem_all right) same

end TokenKind

end MonkeyLexis
