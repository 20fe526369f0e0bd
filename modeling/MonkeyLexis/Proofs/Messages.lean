import MonkeyLexis.Proofs.Escapes
import MonkeyLexis.Proofs.Subjects

/-!
# Messages that name their error

The message for an illegal character shows a byte and two numbers. From the message the error can
be had back, although the byte may be one of the characters that surround it: the escaped byte, and
the digits in front of the comma, tell where they end.

A command line that refuses code writes this message and nothing more. What it writes to standard
error thus tells which byte was refused and in which line and column, whatever the files, the input
and the other arguments.
-/

namespace MonkeyLexis

namespace IllegalCharacter

/-- A message, cut behind each part that depends on the error. -/
theorem toList_message (error : IllegalCharacter) :
    error.message.toList =
      "Illegal character '".toList ++ (Text.escapeByte error.byte ++ ("' at line ".toList ++
        (Nat.toDigits 10 error.line ++ [','] ++ (" column ".toList ++
          Nat.toDigits 10 error.column)))) := by
  have comma : ", column ".toList = [','] ++ " column ".toList := by decide
  unfold message
  simp only [String.toList_append, String.toList_ofList, Nat.toString_eq_ofList_toDigits,
    List.append_assoc, comma]

theorem message_injective : Function.Injective message := by
  intro first second same
  have number : Text.IsSelfDelimiting fun line => Nat.toDigits 10 line ++ [','] :=
    Text.isSelfDelimiting_toDigits (by decide) (by decide) (by decide)
  have sameCharacters := congrArg String.toList same
  rw [toList_message, toList_message] at sameCharacters
  have sameBehindQuote := List.append_cancel_left sameCharacters
  rcases Text.isSelfDelimiting_escapeByte _ _ _ _ sameBehindQuote with ⟨sameByte, sameBehindByte⟩
  have sameNumbers := List.append_cancel_left sameBehindByte
  rcases number _ _ _ _ sameNumbers with ⟨sameLine, sameBehindLine⟩
  have sameDigits := List.append_cancel_left sameBehindLine
  have sameColumn := Text.toDigits_injective (by decide) (by decide) sameDigits
  cases first
  cases second
  exact congr (congrArg₂ mk sameByte sameLine) sameColumn

/-- A message is one line of printable 7-bit characters. -/
theorem isGraphic_of_mem_message (error : IllegalCharacter) :
    ∀ character ∈ error.message.toList, Text.isGraphic character = true := by
  have digits : ∀ number, ∀ character ∈ Nat.toDigits 10 number,
      Text.isGraphic character = true := by
    intro number character member
    exact Text.isGraphic_of_mem_toDigits (by decide) (by decide) member
  rw [toList_message]
  simp only [List.forall_mem_append]
  refine ⟨?_, Text.isGraphic_of_mem_escapeByte error.byte, ?_, ⟨digits error.line, ?_⟩, ?_,
    digits error.column⟩
  all_goals exact List.all_eq_true.mp (by decide)

end IllegalCharacter

namespace CommandLine

/-- A command line refuses the code that it names, for its first illegal character. -/
inductive RefusesCode (arguments : List String) : IllegalCharacter → Prop where
  | intro {source : String} {interactive : Bool} {front back : List Byte} {byte : Byte}
      (asks : Request.ofArguments arguments = .list (.code source) .reject interactive)
      (split : Text.encode source = front ++ byte :: back)
      (legal : ∀ other ∈ front, other.isLegal = true) (illegal : byte.isLegal = false) :
      RefusesCode arguments (.behind front byte)

theorem RefusesCode.run_eq {arguments : List String} {error : IllegalCharacter}
    (refuses : RefusesCode arguments error) (files : FileSystem) (input : List Byte) :
    run arguments files input = .failure error.message := by
  rcases refuses with ⟨asks, split, legal, illegal⟩
  have fails : Subject.Fails files .reject _ _ := .illegalInCode rfl split legal illegal
  rcases Subject.listing_of_fails fails with ⟨error, notListed, sameMessage⟩
  rw [run, asks, Request.opening, notListed, ← sameMessage]
  rfl

theorem RefusesCode.stderr_eq_iff {arguments others : List String} {first second : IllegalCharacter}
    (refuses : RefusesCode arguments first) (alsoRefuses : RefusesCode others second)
    (files otherFiles : FileSystem) (input otherInput : List Byte) :
    (run arguments files input).output.stderr =
      (run others otherFiles otherInput).output.stderr ↔ first = second := by
  rw [refuses.run_eq, alsoRefuses.run_eq]
  constructor
  · intro same
    have sameLine : "Error: " ++ first.message ++ "\n" = "Error: " ++ second.message ++ "\n" := same
    simp only [← String.toList_inj, String.toList_append] at sameLine
    have sameMessage := List.append_cancel_left (List.append_cancel_right sameLine)
    exact IllegalCharacter.message_injective (String.toList_injective sameMessage)
  · rintro rfl
    rfl

/-- Code is refused where it fails to be listed. -/
theorem exists_refusesCode_iff {arguments : List String} {source : String}
    (asks : Request.ofArguments arguments = .list (.code source) .reject false)
    (files : FileSystem) (input : List Byte) :
    (∃ error, RefusesCode arguments error) ↔ (run arguments files input).status = .failure := by
  constructor
  · rintro ⟨error, refuses⟩
    rw [refuses.run_eq]
    rfl
  · intro failed
    rcases legal_or_exists_split (Text.encode source) with
      legal | ⟨front, byte, back, split, legal, illegal⟩
    · have listed : (run arguments files input).status = .success := by
        rw [run, asks, Request.opening, Subject.listing, listing_reject_of_legal legal]
        rfl
      rw [listed] at failed
      contradiction
    · exact ⟨_, .intro asks split legal illegal⟩

/-- The message for an illegal character names it. Two command lines whose code is refused write the
same to standard error only if the same byte is refused in the same line and column. -/
theorem messages_tell_errors :
    (∀ first second : IllegalCharacter, first.message = second.message ↔ first = second) ∧
    (∀ error : IllegalCharacter,
      ∀ character ∈ error.message.toList, Text.isGraphic character = true) ∧
    (∀ source files input, (∃ error, RefusesCode ["-e", source, "--strict"] error) ↔
      (run ["-e", source, "--strict"] files input).status = .failure) ∧
    ∀ arguments others first second,
      RefusesCode arguments first → RefusesCode others second →
      ∀ files otherFiles input otherInput,
        (run arguments files input).output.stderr =
          (run others otherFiles otherInput).output.stderr ↔ first = second := by
  refine ⟨?_, ?_, ?_, ?_⟩
  · intro first second
    exact IllegalCharacter.message_injective.eq_iff
  · exact IllegalCharacter.isGraphic_of_mem_message
  · intro source files input
    have asks : Request.ofArguments ["-e", source, "--strict"] =
        .list (.code source) .reject false := rfl
    exact exists_refusesCode_iff asks files input
  · intro arguments others first second refuses alsoRefuses files otherFiles input otherInput
    exact refuses.stderr_eq_iff alsoRefuses files otherFiles input otherInput

/-- A quote between quotes, at one place behind different lines and in front of different text. -/
theorem messages_tell_single_quotes :
    let files : FileSystem := fun _ => .missing
    let ran := run ["-e", "a\n'", "--strict"] files []
    ran.output.stderr = "Error: Illegal character '\\'' at line 2, column 1\n" ∧
      ran.output.stderr = (run ["--strict", "-i", "--eval", "\n'\""] files [47]).output.stderr := by
  intro files ran
  have refuses : RefusesCode ["-e", "a\n'", "--strict"] (.behind [97, 10] 39) :=
    .intro rfl rfl (List.all_eq_true.mp (by decide)) (by decide)
  have alsoRefuses : RefusesCode ["--strict", "-i", "--eval", "\n'\""] (.behind [10] 39) :=
    .intro rfl rfl (List.all_eq_true.mp (by decide)) (by decide)
  rcases messages_tell_errors with ⟨_, _, _, tells⟩
  exact ⟨by decide +kernel, (tells _ _ _ _ refuses alsoRefuses _ _ _ _).mpr (by decide)⟩

end CommandLine

end MonkeyLexis
