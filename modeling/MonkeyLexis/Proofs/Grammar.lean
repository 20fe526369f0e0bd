import Mathlib.Data.List.TakeWhile
import MonkeyLexis.Lexeme

/-!
# The lexical grammar, declaratively

This file says which bytes each sort of lexeme is made of and which byte right behind a lexeme
makes a longer one, without reference to the way in which the head of the input is read. The
lexeme at the head of the input is then the one lexeme that the input begins with, that is well
spelled, and that what follows does not make longer.

Only three sorts of lexemes grow: words, numbers, and the two symbols `=` and `!`, which an equals
sign turns into `==` and `!=`.
-/

namespace MonkeyLexis

namespace Byte

def isSign (byte : Byte) : Bool :=
  Char.ofUInt8 byte ∈ ['=', '!', '+', '-', '*', '/', '<', '>', ',', ';', '(', ')', '{', '}']

/-- The bytes that source text may hold: blanks, and those that a lexeme may begin with. -/
def isLegal (byte : Byte) : Bool :=
  byte.isBlank || byte.isLetter || byte.isDigit || byte.isSign

theorem not_isLetter_of_isSign {byte : Byte} (sign : byte.isSign = true) :
    byte.isLetter = false := by
  have every : ∀ other : Byte, other.isSign = true → other.isLetter = false :=
    forall_of_forall_lt (by decide +kernel)
  exact every byte sign

theorem not_isDigit_of_isSign {byte : Byte} (sign : byte.isSign = true) :
    byte.isDigit = false := by
  have every : ∀ other : Byte, other.isSign = true → other.isDigit = false :=
    forall_of_forall_lt (by decide +kernel)
  exact every byte sign

theorem not_isBlank_of_isSign {byte : Byte} (sign : byte.isSign = true) :
    byte.isBlank = false := by
  have every : ∀ other : Byte, other.isSign = true → other.isBlank = false :=
    forall_of_forall_lt (by decide +kernel)
  exact every byte sign

theorem lt_of_isSign {byte : Byte} (sign : byte.isSign = true) : byte < 128 := by
  have every : ∀ other : Byte, other.isSign = true → other < 128 :=
    forall_of_forall_lt (by decide +kernel)
  exact every byte sign

end Byte

namespace Symbol

theorem isSign_of_mem_bytes (symbol : Symbol) : ∀ byte ∈ symbol.bytes, byte.isSign = true := by
  cases symbol <;> decide +kernel

theorem exists_bytes_eq_of_isSign {byte : Byte} (sign : byte.isSign = true) :
    ∃ symbol ∈ longestFirst, symbol.bytes = [byte] := by
  have every : ∀ other : Byte, other.isSign = true →
      ∃ symbol ∈ longestFirst, symbol.bytes = [other] :=
    Byte.forall_of_forall_lt (by decide +kernel)
  exact every byte sign

theorem bytes_of_single? {byte : Byte} {symbol : Symbol} (found : single? byte = some symbol) :
    symbol.bytes = [byte] := by
  have every : ∀ other : Byte, ∀ symbol ∈ single? other, symbol.bytes = [other] :=
    Byte.forall_of_forall_lt (by decide +kernel)
  exact every byte symbol found

/-- The symbols that `single?` does not find begin with one of two bytes. -/
theorem isSign_eq_false_of_single? {byte : Byte} (absent : single? byte = none)
    (notEquals : byte ≠ Byte.equalsSign) (notExclamation : byte ≠ Byte.exclamationMark) :
    byte.isSign = false := by
  have every : ∀ other : Byte, single? other = none → other ≠ Byte.equalsSign →
      other ≠ Byte.exclamationMark → other.isSign = false :=
    Byte.forall_of_forall_lt (by decide +kernel)
  exact every byte absent notEquals notExclamation

/-- No symbol stands at the head of the input exactly if its first byte begins none. -/
theorem atHead?_eq_none_iff {byte : Byte} {rest : List Byte} :
    atHead? (byte :: rest) = none ↔ byte.isSign = false := by
  constructor
  · intro absent
    by_contra notFalse
    have sign : byte.isSign = true := by simpa using notFalse
    rcases exists_bytes_eq_of_isSign sign with ⟨symbol, listed, single⟩
    have refused := List.find?_eq_none.mp absent symbol listed
    simp [single] at refused
  · intro notSign
    apply List.find?_eq_none.mpr
    intro symbol _ stands
    rcases List.exists_cons_of_ne_nil symbol.bytes_ne_nil with ⟨first, others, split⟩
    have sign := symbol.isSign_of_mem_bytes first (by simp [split])
    simp only [split, List.isPrefixOf_cons_cons, Bool.and_eq_true, beq_iff_eq] at stands
    rw [stands.1, notSign] at sign
    contradiction

end Symbol

namespace Lexeme

def IsSpelled : Lexeme → Prop
  | word letters => letters ≠ [] ∧ ∀ byte ∈ letters, byte.isLetter = true
  | number digits => digits ≠ [] ∧ ∀ byte ∈ digits, byte.isDigit = true
  | symbol _ => True
  | illegal byte => byte.isLegal = false

/-- Whether `next` right behind a lexeme makes a longer lexeme. -/
def fusesWith (next : Byte) : Lexeme → Bool
  | word _ => next.isLetter
  | number _ => next.isDigit
  | symbol .assign | symbol .bang => next = Byte.equalsSign
  | symbol _ | illegal _ => false

def EndsBefore (rest : List Byte) (lexeme : Lexeme) : Prop :=
  ∀ next ∈ rest.head?, lexeme.fusesWith next = false

theorem bytes_ne_nil {lexeme : Lexeme} (spelled : lexeme.IsSpelled) : lexeme.bytes ≠ [] := by
  cases lexeme with
  | word letters => exact spelled.1
  | number digits => exact spelled.1
  | symbol sign => exact sign.bytes_ne_nil
  | illegal byte => simp [bytes]

theorem not_isBlank_of_mem_bytes {lexeme : Lexeme} (spelled : lexeme.IsSpelled) :
    ∀ byte ∈ lexeme.bytes, byte.isBlank = false := by
  intro byte member
  cases lexeme with
  | word letters => exact Byte.not_isBlank_of_isLetter (spelled.2 byte member)
  | number digits => exact Byte.not_isBlank_of_isDigit (spelled.2 byte member)
  | symbol sign => exact Byte.not_isBlank_of_isSign (sign.isSign_of_mem_bytes byte member)
  | illegal bad =>
      rcases List.mem_singleton.mp member with rfl
      simp only [IsSpelled, Byte.isLegal, Bool.or_eq_false_iff] at spelled
      exact spelled.1.1.1

theorem lt_of_mem_bytes {lexeme : Lexeme} (spelled : lexeme.IsSpelled)
    (legal : ∀ byte, lexeme ≠ illegal byte) : ∀ byte ∈ lexeme.bytes, byte < 128 := by
  intro byte member
  cases lexeme with
  | word letters => exact Byte.lt_of_isLetter (spelled.2 byte member)
  | number digits => exact Byte.lt_of_isDigit (spelled.2 byte member)
  | symbol sign => exact Byte.lt_of_isSign (sign.isSign_of_mem_bytes byte member)
  | illegal bad => exact absurd rfl (legal bad)

theorem fusesWith_of_isBlank {byte : Byte} (blank : byte.isBlank = true) (lexeme : Lexeme) :
    lexeme.fusesWith byte = false := by
  by_contra fuses
  have fuses : lexeme.fusesWith byte = true := by simpa using fuses
  cases lexeme with
  | word letters =>
      have notBlank := Byte.not_isBlank_of_isLetter fuses
      rw [blank] at notBlank
      contradiction
  | number digits =>
      have notBlank := Byte.not_isBlank_of_isDigit fuses
      rw [blank] at notBlank
      contradiction
  | symbol sign =>
      have equals : byte = Byte.equalsSign := by
        cases sign <;> first | exact of_decide_eq_true fuses | contradiction
      rw [equals] at blank
      contradiction
  | illegal bad => exact absurd fuses Bool.false_ne_true

theorem endsBefore_of_isBlank {rest : List Byte} (lexeme : Lexeme)
    (blank : ∀ next ∈ rest.head?, next.isBlank = true) : lexeme.EndsBefore rest := by
  intro next head
  exact fusesWith_of_isBlank (blank next head) lexeme

theorem fusesWith_of_single? {byte : Byte} {sign : Symbol}
    (found : Symbol.single? byte = some sign) (next : Byte) :
    (symbol sign).fusesWith next = false := by
  have bytes := Symbol.bytes_of_single? found
  cases sign with
  | assign =>
      rcases List.singleton_inj.mp bytes with rfl
      contradiction
  | bang =>
      rcases List.singleton_inj.mp bytes with rfl
      contradiction
  | _ => rfl

/-- A symbol is found at the head of the input where no equals sign makes it a longer one. -/
theorem symbolAtHead_append {sign : Symbol} {rest : List Byte}
    (ends : (symbol sign).EndsBefore rest) : Symbol.atHead? (sign.bytes ++ rest) = some sign := by
  cases rest with
  | nil => cases sign <;> rfl
  | cons next rest =>
      have alone := ends next rfl
      have refused : ∀ first, next ≠ Byte.equalsSign →
          ¬[first, Byte.equalsSign].isPrefixOf (first :: next :: rest) := by
        intro first differs stands
        simp only [List.isPrefixOf_cons_cons, Bool.and_eq_true, beq_iff_eq] at stands
        exact differs stands.2.1.symm
      cases sign with
      | assign =>
          have notEqual : ¬Symbol.equal.bytes.isPrefixOf (Symbol.assign.bytes ++ next :: rest) :=
            refused _ (of_decide_eq_false alone)
          unfold Symbol.atHead? Symbol.longestFirst
          rw [List.find?_cons, eq_false_of_ne_true notEqual]
          rfl
      | bang =>
          have notNotEqual :
              ¬Symbol.notEqual.bytes.isPrefixOf (Symbol.bang.bytes ++ next :: rest) :=
            refused _ (of_decide_eq_false alone)
          have notEqual : ¬Symbol.equal.bytes.isPrefixOf (Symbol.bang.bytes ++ next :: rest) :=
            Bool.false_ne_true
          unfold Symbol.atHead? Symbol.longestFirst
          rw [List.find?_cons, eq_false_of_ne_true notEqual, List.find?_cons,
            eq_false_of_ne_true notNotEqual]
          rfl
      | _ => rfl

/-- A run of bytes of one class is all that is taken of it, if the class does not go on. -/
theorem takeWhile_append_of_ends {allowed : Byte → Bool} {run rest : List Byte}
    (inside : ∀ byte ∈ run, allowed byte = true)
    (ends : ∀ next ∈ rest.head?, allowed next = false) :
    (run ++ rest).takeWhile allowed = run := by
  rw [List.takeWhile_append_of_pos inside]
  cases rest with
  | nil => simp
  | cons next rest => simp [ends next rfl]

theorem forall_mem_run {allowed : Byte → Bool} {first : Byte} {rest : List Byte}
    (head : allowed first = true) :
    ∀ byte ∈ first :: rest.takeWhile allowed, allowed byte = true := by
  intro byte member
  rcases List.mem_cons.mp member with rfl | taken
  · exact head
  · exact List.mem_takeWhile_imp taken

/-- What follows all that is taken of a class does not begin with a byte of the class. -/
theorem ends_of_takeWhile_append {allowed : Byte → Bool} {bytes rest : List Byte}
    (split : bytes = bytes.takeWhile allowed ++ rest) :
    ∀ next ∈ rest.head?, allowed next = false := by
  have dropped : rest = bytes.dropWhile allowed := by
    have whole : bytes.takeWhile allowed ++ rest =
        bytes.takeWhile allowed ++ bytes.dropWhile allowed := by
      rw [List.takeWhile_append_dropWhile, ← split]
    exact List.append_cancel_left whole
  intro next first
  have stops := List.head?_dropWhile_not allowed bytes
  rw [← dropped, Option.mem_def.mp first] at stops
  simpa using stops

/-- A well spelled lexeme is found where it stands, if what follows does not make it longer. -/
theorem atHead_of_isSpelled {lexeme : Lexeme} {byte : Byte} {tail rest : List Byte}
    (spelled : lexeme.IsSpelled) (ends : lexeme.EndsBefore rest)
    (stands : byte :: tail = lexeme.bytes ++ rest) : atHead byte tail = lexeme := by
  cases lexeme with
  | word letters =>
      rcases spelled with ⟨nonempty, inside⟩
      cases letters with
      | nil => contradiction
      | cons first others =>
          rcases List.cons.inj stands with ⟨rfl, rfl⟩
          have letter := inside byte List.mem_cons_self
          have run := takeWhile_append_of_ends
            (fun other member => inside other (List.mem_cons_of_mem _ member)) ends
          simp only [atHead, letter, if_true]
          exact congrArg (fun taken => word (byte :: taken)) run
  | number digits =>
      rcases spelled with ⟨nonempty, inside⟩
      cases digits with
      | nil => contradiction
      | cons first others =>
          rcases List.cons.inj stands with ⟨rfl, rfl⟩
          have digit := inside byte List.mem_cons_self
          have run := takeWhile_append_of_ends
            (fun other member => inside other (List.mem_cons_of_mem _ member)) ends
          simp only [atHead, Byte.not_isLetter_of_isDigit digit, digit, if_true]
          exact congrArg (fun taken => number (byte :: taken)) run
  | symbol sign =>
      have found := symbolAtHead_append ends
      rcases List.exists_cons_of_ne_nil sign.bytes_ne_nil with ⟨first, others, split⟩
      have sameHead : byte = first := by
        simp only [bytes, split, List.cons_append, List.cons.injEq] at stands
        exact stands.1
      have isSign : byte.isSign = true :=
        sign.isSign_of_mem_bytes byte (by simp [split, sameHead])
      have notLetter := Byte.not_isLetter_of_isSign isSign
      have notDigit := Byte.not_isDigit_of_isSign isSign
      simp only [bytes] at stands
      simp [atHead, notLetter, notDigit, stands, found]
  | illegal bad =>
      rcases List.cons.inj stands with ⟨rfl, rfl⟩
      simp only [IsSpelled, Byte.isLegal, Bool.or_eq_false_iff] at spelled
      rcases spelled with ⟨⟨⟨_, notLetter⟩, notDigit⟩, notSign⟩
      have absent : Symbol.atHead? (byte :: tail) = none := Symbol.atHead?_eq_none_iff.mpr notSign
      simp [atHead, notLetter, notDigit, absent]

theorem isSpelled_atHead {byte : Byte} (notBlank : byte.isBlank = false) (rest : List Byte) :
    (atHead byte rest).IsSpelled := by
  unfold atHead
  split
  · next letter => exact ⟨List.cons_ne_nil _ _, forall_mem_run letter⟩
  · next notLetter =>
      split
      · next digit => exact ⟨List.cons_ne_nil _ _, forall_mem_run digit⟩
      · next notDigit =>
          split
          · trivial
          · next absent =>
              have notSign := Symbol.atHead?_eq_none_iff.mp absent
              simp [IsSpelled, Byte.isLegal, notBlank, notLetter, notDigit, notSign]

/-- What follows the lexeme at the head of the input does not make it longer. -/
theorem endsBefore_of_atHead {byte : Byte} {tail rest : List Byte}
    (stands : byte :: tail = (atHead byte tail).bytes ++ rest) :
    (atHead byte tail).EndsBefore rest := by
  unfold atHead at stands ⊢
  split at stands
  · next letter =>
      rw [if_pos letter]
      have split : tail = tail.takeWhile Byte.isLetter ++ rest := by
        simpa [bytes] using stands
      exact ends_of_takeWhile_append split
  · next notLetter =>
      rw [if_neg notLetter]
      split at stands
      · next digit =>
          rw [if_pos digit]
          have split : tail = tail.takeWhile Byte.isDigit ++ rest := by
            simpa [bytes] using stands
          exact ends_of_takeWhile_append split
      · next notDigit =>
          rw [if_neg notDigit]
          split at stands
          · next sign found =>
              -- Had an equals sign followed, the longer symbol would have been found.
              intro next first
              by_contra fuses
              have fuses : (symbol sign).fusesWith next = true := by simpa using fuses
              rcases List.head?_eq_some_iff.mp first with ⟨others, rfl⟩
              rw [stands] at found
              cases sign with
              | assign =>
                  rcases of_decide_eq_true fuses with rfl
                  have longer : Symbol.atHead? (Symbol.assign.bytes ++ Byte.equalsSign :: others) =
                      some .equal := rfl
                  rw [bytes, longer] at found
                  contradiction
              | bang =>
                  rcases of_decide_eq_true fuses with rfl
                  have longer : Symbol.atHead? (Symbol.bang.bytes ++ Byte.equalsSign :: others) =
                      some .notEqual := rfl
                  rw [bytes, longer] at found
                  contradiction
              | _ => exact absurd fuses Bool.false_ne_true
          · intro next _
            rfl

theorem eq_of_bytes_eq {lexeme other : Lexeme} (spelled : lexeme.IsSpelled)
    (otherSpelled : other.IsSpelled) (same : lexeme.bytes = other.bytes) : lexeme = other := by
  rcases List.exists_cons_of_ne_nil (bytes_ne_nil spelled) with ⟨byte, tail, split⟩
  have alone : ∀ any : Lexeme, any.EndsBefore [] := by simp [EndsBefore]
  have found : atHead byte tail = lexeme :=
    atHead_of_isSpelled spelled (alone lexeme) (by simp [split])
  have otherFound : atHead byte tail = other :=
    atHead_of_isSpelled otherSpelled (alone other) (by simp [← same, split])
  exact found.symm.trans otherFound

theorem kind_eq_symbol_iff {lexeme : Lexeme} (spelled : lexeme.IsSpelled) {sign : Symbol} :
    lexeme.kind = .symbol sign ↔ lexeme.bytes = sign.bytes := by
  constructor
  · intro isSymbol
    cases lexeme with
    | word letters =>
        rcases kind_word letters with ident | ⟨found, keyword⟩
        · rw [ident] at isSymbol
          contradiction
        · rw [keyword] at isSymbol
          contradiction
    | number digits => contradiction
    | symbol other =>
        rcases TokenKind.symbol.inj isSymbol with rfl
        rfl
    | illegal byte => contradiction
  · intro sameBytes
    have isSymbol : lexeme = symbol sign := eq_of_bytes_eq spelled trivial sameBytes
    rw [isSymbol]
    rfl

end Lexeme

end MonkeyLexis
