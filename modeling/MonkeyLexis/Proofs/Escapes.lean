import Mathlib.Logic.Function.Basic
import MonkeyLexis.Text.ByteEscape
import MonkeyLexis.Text.Quoted

/-!
# Texts that tell where they end

What is printed can be read back if each of its parts tells where it ends, whatever follows. A part
does so if it has a fixed width, or if it is closed by a mark that does not stand within it. Numbers
are closed by a mark that is no digit, since different numbers have different digits. A text with
escapes needs no mark: the character behind a backslash says which escape it is.

Two of the texts that are printed here have escapes, quoted literals and the bytes in messages. Both
follow one rule, `Escaping`, with their own tables, and what can be read back is shown for the rule.
-/

namespace MonkeyLexis.Text

/-! ### Self-delimiting texts -/

section SelfDelimiting

variable {Item : Type} {write : Item → List Char}

/-- Whether the text of an item can be told from all that may follow it. -/
def IsSelfDelimiting (write : Item → List Char) : Prop :=
  ∀ first second rest others, write first ++ rest = write second ++ others →
    first = second ∧ rest = others

theorem isSelfDelimiting_of_length {width : Nat} (injective : Function.Injective write)
    (fixed : ∀ item, (write item).length = width) : IsSelfDelimiting write := by
  intro first second rest others same
  have sameLength : (write first).length = (write second).length :=
    (fixed first).trans (fixed second).symm
  rcases List.append_inj same sameLength with ⟨sameText, sameRest⟩
  exact ⟨injective sameText, sameRest⟩

theorem isSelfDelimiting_of_mark {mark : Char} (injective : Function.Injective write)
    (absent : ∀ item, mark ∉ write item) :
    IsSelfDelimiting fun item => write item ++ [mark] := by
  intro first second rest others same
  have before : ∀ item tail, (write item ++ [mark] ++ tail).takeWhile (· != mark) = write item := by
    intro item tail
    have inside : ∀ character ∈ write item, (character != mark) = true := by
      intro character member
      apply bne_iff_ne.mpr
      rintro rfl
      exact absent item member
    rw [List.append_assoc, List.takeWhile_append_of_pos inside]
    simp
  have sameText : write first = write second := by
    rw [← before first rest, same, before]
  rcases injective sameText with rfl
  exact ⟨rfl, List.append_cancel_left same⟩

/-- The items can be told from their texts one behind another. -/
theorem IsSelfDelimiting.flatMap_injective (selfDelimiting : IsSelfDelimiting write)
    (nonempty : ∀ item, write item ≠ []) :
    Function.Injective fun items : List Item => items.flatMap write := by
  intro items
  induction items with
  | nil =>
      intro others same
      cases others with
      | nil => rfl
      | cons second others => exact absurd same.symm (by simp [nonempty second])
  | cons first items ih =>
      intro others same
      cases others with
      | nil => exact absurd same (by simp [nonempty first])
      | cons second others =>
          simp only [List.flatMap_cons] at same
          rcases selfDelimiting _ _ _ _ same with ⟨rfl, sameRest⟩
          rw [ih sameRest]

end SelfDelimiting

/-! ### Digits -/

theorem digitChar_inj {first second : Nat} (small : first < 16) (alsoSmall : second < 16)
    (same : first.digitChar = second.digitChar) : first = second := by
  have distinct : ∀ left < 16, ∀ right < 16, left.digitChar = right.digitChar → left = right := by
    decide
  exact distinct first small second alsoSmall same

theorem toDigits_append_singleton_ne {base number : Nat} {last other : Char} :
    Nat.toDigits base number ++ [last] ≠ [other] := by
  simp [List.append_eq_singleton_iff, Nat.toDigits_ne_nil]

/-- Different numbers have different digits. -/
theorem toDigits_injective {base : Nat} (large : 1 < base) (small : base ≤ 16) :
    Function.Injective (Nat.toDigits base) := by
  have lastDigit : ∀ number, number % base < 16 :=
    fun number => Nat.lt_of_lt_of_le (Nat.mod_lt number (by omega)) small
  intro first
  induction first using Nat.strongRecOn with
  | ind first ih =>
      intro second same
      rw [Nat.toDigits_eq_if large, Nat.toDigits_eq_if large (n := second)] at same
      split at same
      case isTrue single =>
        split at same
        case isTrue otherSingle =>
          exact digitChar_inj (by omega) (by omega) (List.singleton_inj.mp same)
        case isFalse => exact absurd same.symm toDigits_append_singleton_ne
      case isFalse several =>
        split at same
        case isTrue => exact absurd same toDigits_append_singleton_ne
        case isFalse =>
          rcases List.append_inj' same rfl with ⟨sameHigher, sameLast⟩
          have higher : first / base = second / base :=
            ih (first / base) (Nat.div_lt_self (by omega) large) sameHigher
          have last : first % base = second % base :=
            digitChar_inj (lastDigit first) (lastDigit second) (List.singleton_inj.mp sameLast)
          rw [← Nat.div_add_mod first base, higher, last, Nat.div_add_mod]

theorem exists_digit_of_mem_toDigits {base number : Nat} {character : Char} (large : 1 < base)
    (member : character ∈ Nat.toDigits base number) :
    ∃ digit < base, character = digit.digitChar := by
  induction number using Nat.strongRecOn with
  | ind number ih =>
      rw [Nat.toDigits_eq_if large] at member
      split at member
      · next single => exact ⟨number, single, List.mem_singleton.mp member⟩
      · next several =>
          rcases List.mem_append.mp member with higher | last
          · exact ih (number / base) (Nat.div_lt_self (by omega) large) higher
          · exact ⟨number % base, Nat.mod_lt _ (by omega), List.mem_singleton.mp last⟩

/-- A number in front of a mark that is no digit tells where it ends. -/
theorem isSelfDelimiting_toDigits {base : Nat} {mark : Char} (large : 1 < base) (small : base ≤ 16)
    (noDigit : ∀ digit < 16, digit.digitChar ≠ mark) :
    IsSelfDelimiting fun number => Nat.toDigits base number ++ [mark] := by
  apply isSelfDelimiting_of_mark (toDigits_injective large small)
  intro number member
  rcases exists_digit_of_mem_toDigits large member with ⟨digit, below, rfl⟩
  exact noDigit digit (Nat.lt_of_lt_of_le below small) rfl

/-! ### Escapes -/

/-- A way of writing items in which a backslash opens every escape. An escape is one sign for the
items that have a short one, and a mark with a body for the others. -/
structure Escaping (Item : Type) where
  plain : Item → Char
  short : List (Item × Char)
  mark : Char
  body : Item → List Char
  plain_injective : Function.Injective plain
  short_injective : ∀ pair ∈ short, ∀ other ∈ short, pair.2 = other.2 → pair.1 = other.1
  mark_not_short : ∀ pair ∈ short, pair.2 ≠ mark
  body_isSelfDelimiting : IsSelfDelimiting body

namespace Escaping

variable {Item : Type} {escaping : Escaping Item}

/-- The texts that stand for an item. -/
inductive Writes (escaping : Escaping Item) (item : Item) : List Char → Prop where
  | plain (notBackslash : escaping.plain item ≠ '\\') : Writes escaping item [escaping.plain item]
  | short {sign : Char} (listed : (item, sign) ∈ escaping.short) :
      Writes escaping item ['\\', sign]
  | long : Writes escaping item ('\\' :: escaping.mark :: escaping.body item)

theorem Writes.ne_nil {item : Item} {text : List Char} (written : escaping.Writes item text) :
    text ≠ [] := by
  cases written <;> simp

theorem Writes.eq_of_append {first second : Item} {text otherText rest others : List Char}
    (written : escaping.Writes first text) (otherWritten : escaping.Writes second otherText)
    (same : text ++ rest = otherText ++ others) : first = second ∧ rest = others := by
  -- The first character tells a plain item from an escape, and the second one escape from another.
  cases written with
  | plain notBackslash =>
      cases otherWritten with
      | plain _ =>
          rcases List.cons.inj same with ⟨sameHead, sameRest⟩
          exact ⟨escaping.plain_injective sameHead, sameRest⟩
      | short _ => exact absurd (List.cons.inj same).1 notBackslash
      | long => exact absurd (List.cons.inj same).1 notBackslash
  | @short sign listed =>
      cases otherWritten with
      | plain notBackslash => exact absurd (List.cons.inj same).1.symm notBackslash
      | @short otherSign otherListed =>
          rcases List.cons.inj (List.cons.inj same).2 with ⟨sameSign, sameRest⟩
          exact ⟨escaping.short_injective _ listed _ otherListed sameSign, sameRest⟩
      | long =>
          have sameMark := (List.cons.inj (List.cons.inj same).2).1
          exact absurd sameMark (escaping.mark_not_short _ listed)
  | long =>
      cases otherWritten with
      | plain notBackslash => exact absurd (List.cons.inj same).1.symm notBackslash
      | short otherListed =>
          have sameMark := (List.cons.inj (List.cons.inj same).2).1
          exact absurd sameMark.symm (escaping.mark_not_short _ otherListed)
      | long =>
          have sameBody := (List.cons.inj (List.cons.inj same).2).2
          exact escaping.body_isSelfDelimiting _ _ _ _ sameBody

/-- Whoever follows the rule writes texts that tell where they end. -/
theorem isSelfDelimiting {write : Item → List Char}
    (writes : ∀ item, escaping.Writes item (write item)) : IsSelfDelimiting write :=
  fun first second _ _ same => (writes first).eq_of_append (writes second) same

end Escaping

/-! ### The escapes of quoted text -/

/-- A character by its code point, as it stands in an escape. -/
def codePointBody (character : Char) : List Char :=
  '{' :: Nat.toDigits 16 character.toNat ++ ['}']

theorem isSelfDelimiting_codePointBody : IsSelfDelimiting codePointBody := by
  intro first second rest others same
  have digits : IsSelfDelimiting fun number => Nat.toDigits 16 number ++ ['}'] :=
    isSelfDelimiting_toDigits (by decide) (by decide) (by decide)
  rcases digits _ _ _ _ (List.cons.inj same).2 with ⟨sameNumber, sameRest⟩
  exact ⟨Char.toNat_inj.mp sameNumber, sameRest⟩

/-- How a character is written between double quotes. -/
def quoteEscaping : Escaping Char where
  plain := id
  short := [('"', '"'), ('\\', '\\'), ('\n', 'n'), ('\r', 'r'), ('\t', 't'), ('\x00', '0')]
  mark := 'u'
  body := codePointBody
  plain_injective := Function.injective_id
  short_injective := by decide
  mark_not_short := by decide
  body_isSelfDelimiting := isSelfDelimiting_codePointBody

theorem writes_quoteCharacter (character : Char) :
    quoteEscaping.Writes character (quoteCharacter character) := by
  unfold quoteCharacter
  split
  case h_7 =>
    split
    · exact .plain ‹_›
    · exact .long
  all_goals exact .short (by decide)

theorem quoteCharacters_injective :
    Function.Injective fun characters : List Char => characters.flatMap quoteCharacter := by
  have selfDelimiting := Escaping.isSelfDelimiting writes_quoteCharacter
  exact selfDelimiting.flatMap_injective fun character => (writes_quoteCharacter character).ne_nil

/-! ### The escapes of a message -/

theorem toUInt8_ofUInt8 (byte : Byte) : (Char.ofUInt8 byte).toUInt8 = byte :=
  UInt8.toUInt8_toUInt32 byte

theorem length_hexPair (byte : Byte) : (hexPair byte).length = 2 := rfl

theorem hexPair_injective : Function.Injective hexPair := by
  intro first second same
  have firstBound := first.toNat_lt
  have secondBound := second.toNat_lt
  rcases List.cons.inj same with ⟨sameHigh, sameTail⟩
  have high : first.toNat / 16 = second.toNat / 16 :=
    digitChar_inj (by omega) (by omega) sameHigh
  have low : first.toNat % 16 = second.toNat % 16 :=
    digitChar_inj (by omega) (by omega) (List.singleton_inj.mp sameTail)
  apply UInt8.toNat_inj.mp
  omega

/-- How a byte is shown in a message. -/
def messageEscaping : Escaping Byte where
  plain := Char.ofUInt8
  short := [(9, 't'), (10, 'n'), (13, 'r'), (39, '\''), (34, '"'), (92, '\\')]
  mark := 'x'
  body := hexPair
  plain_injective := Function.LeftInverse.injective toUInt8_ofUInt8
  short_injective := by decide
  mark_not_short := by decide
  body_isSelfDelimiting := isSelfDelimiting_of_length hexPair_injective length_hexPair

theorem writes_escapeByte (byte : Byte) : messageEscaping.Writes byte (escapeByte byte) := by
  unfold escapeByte
  split
  case h_7 =>
    split
    · exact .plain ‹_›
    · exact .long
  all_goals
    next found =>
      rw [← toUInt8_ofUInt8 byte, found]
      exact .short (by decide)

theorem isSelfDelimiting_escapeByte : IsSelfDelimiting escapeByte :=
  Escaping.isSelfDelimiting writes_escapeByte

/-! ### What an escape leaves to be seen -/

/-- Whether a character is a printable 7-bit one. -/
def isGraphic (character : Char) : Bool :=
  0x20 ≤ character.toNat && character.toNat < 0x7F

theorem isPrintable_of_isGraphic {character : Char} (graphic : isGraphic character = true) :
    Unicode.isPrintable character = true := by
  rcases Bool.and_eq_true_iff.mp graphic with ⟨notControl, sevenBit⟩
  unfold Unicode.isPrintable
  rw [if_pos (of_decide_eq_true sevenBit)]
  exact notControl

theorem isGraphic_of_mem_toDigits {base number : Nat} {character : Char} (large : 1 < base)
    (small : base ≤ 16) (member : character ∈ Nat.toDigits base number) :
    isGraphic character = true := by
  have every : ∀ digit < 16, isGraphic digit.digitChar = true := by decide
  rcases exists_digit_of_mem_toDigits large member with ⟨digit, below, rfl⟩
  exact every digit (Nat.lt_of_lt_of_le below small)

theorem isGraphic_of_mem_escapeByte (byte : Byte) :
    ∀ character ∈ escapeByte byte, isGraphic character = true := by
  have every : ∀ other, (escapeByte other).all isGraphic = true :=
    Byte.forall_of_forall_lt (by decide +kernel)
  exact List.all_eq_true.mp (every byte)

theorem isGraphic_of_mem_codePoint (number : Nat) :
    ∀ character ∈ ['\\', 'u', '{'] ++ Nat.toDigits 16 number ++ ['}'],
      isGraphic character = true := by
  simp only [List.forall_mem_append]
  refine ⟨⟨List.all_eq_true.mp (by decide), ?_⟩, List.all_eq_true.mp (by decide)⟩
  intro character digit
  exact isGraphic_of_mem_toDigits (by decide) (by decide) digit

theorem isPrintable_of_mem_quoteCharacter (character : Char) :
    ∀ written ∈ quoteCharacter character, Unicode.isPrintable written = true := by
  unfold quoteCharacter
  split
  case h_7 =>
    split
    case isTrue shown =>
      exact List.forall_mem_singleton.mpr (Bool.and_eq_true_iff.mp shown).1
    case isFalse =>
      intro written member
      apply isPrintable_of_isGraphic
      exact isGraphic_of_mem_codePoint _ written member
  all_goals exact List.all_eq_true.mp (by decide)

/-! ### What needs no escape -/

theorem isGraphemeExtend_of_isGraphic {character : Char} (graphic : isGraphic character = true) :
    Unicode.isGraphemeExtend character = false := by
  have beyond : Unicode.graphemeExtend.all (fun range => 0x7F ≤ range.1) = true := by
    decide +kernel
  have sevenBit := of_decide_eq_true (Bool.and_eq_true_iff.mp graphic).2
  apply List.any_eq_false.mpr
  intro range member inside
  have first := of_decide_eq_true (List.all_eq_true.mp beyond range member)
  have reached := of_decide_eq_true (Bool.and_eq_true_iff.mp inside).1
  omega

theorem quoteCharacter_of_isGraphic {character : Char} (graphic : isGraphic character = true)
    (notQuote : character ≠ '"') (notBackslash : character ≠ '\\') :
    quoteCharacter character = [character] := by
  unfold quoteCharacter
  split
  case h_1 => contradiction
  case h_2 => contradiction
  case h_7 =>
    rw [isPrintable_of_isGraphic graphic, isGraphemeExtend_of_isGraphic graphic]
    rfl
  all_goals exact absurd graphic (by decide)

end MonkeyLexis.Text
