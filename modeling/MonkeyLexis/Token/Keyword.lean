/-!
# Keywords

The seven reserved words of the language. A word is a keyword only in exactly this spelling, so
`lets` and `Let` are ordinary identifiers.
-/

namespace MonkeyLexis

inductive Keyword where
  | fnWord
  | letWord
  | trueWord
  | falseWord
  | ifWord
  | elseWord
  | returnWord
deriving DecidableEq

namespace Keyword

def all : List Keyword := [fnWord, letWord, trueWord, falseWord, ifWord, elseWord, returnWord]

def letters : Keyword → List Char
  | fnWord => ['f', 'n']
  | letWord => ['l', 'e', 't']
  | trueWord => ['t', 'r', 'u', 'e']
  | falseWord => ['f', 'a', 'l', 's', 'e']
  | ifWord => ['i', 'f']
  | elseWord => ['e', 'l', 's', 'e']
  | returnWord => ['r', 'e', 't', 'u', 'r', 'n']

def spelling (keyword : Keyword) : String := String.ofList keyword.letters

/-- The capitals under which a reserved word is printed. -/
def name : Keyword → String
  | fnWord => "FUNCTION"
  | letWord => "LET"
  | trueWord => "TRUE"
  | falseWord => "FALSE"
  | ifWord => "IF"
  | elseWord => "ELSE"
  | returnWord => "RETURN"

/-- The same name as an identifier, for diagnostics. -/
def label : Keyword → String
  | fnWord => "Function"
  | letWord => "Let"
  | trueWord => "True"
  | falseWord => "False"
  | ifWord => "If"
  | elseWord => "Else"
  | returnWord => "Return"

/-- The reserved word that is written as `word`, if any is. -/
def ofSpelling? (word : String) : Option Keyword :=
  all.find? fun keyword => keyword.spelling = word

@[simp]
theorem mem_all (keyword : Keyword) : keyword ∈ all := by
  cases keyword <;> simp [all]

theorem letters_injective {left right : Keyword} (same : left.letters = right.letters) :
    left = right := by
  cases left <;> cases right <;> first | rfl | simp [letters] at same

@[simp]
theorem spelling_inj {left right : Keyword} : left.spelling = right.spelling ↔ left = right :=
  ⟨fun same => letters_injective (String.ofList_injective same), fun same => same ▸ rfl⟩

/-- A word is recognised exactly in the spelling of the keyword. -/
theorem ofSpelling?_eq_some_iff {word : String} {keyword : Keyword} :
    ofSpelling? word = some keyword ↔ word = keyword.spelling := by
  constructor
  · intro found
    have spelled := List.find?_some found
    exact (of_decide_eq_true spelled).symm
  · rintro rfl
    cases keyword <;> simp [ofSpelling?, all]

end Keyword

end MonkeyLexis
