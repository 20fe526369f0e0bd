import MonkeyLexis.Proofs.Boundaries
import MonkeyLexis.Proofs.Subjects
import MonkeyLexis.Proofs.Turns

/-!
# Replies to single lines

A session and a command line with the option for code read the same text in different ways. The
session first takes white space of any script off both ends to see whether the line is blank or a
command; the scanner knows four blanks and gets the line as it was typed. Still no line with
something in it is passed over in silence: each blank of the scanner is white space, so a line of
which something is left has a byte that the scanner does not skip, and for that byte there is a
token or an error.
-/

namespace MonkeyLexis

namespace Output

theorem text_ne_empty {written : String} (something : written ≠ "") : text written ≠ empty :=
  fun same => something (congrArg stdout same)

theorem error_ne_empty (message : String) : error message ≠ empty := by
  intro same
  have written : "Error: " ++ message ++ "\n" = "" := congrArg stderr same
  simp at written

theorem lines_ne_empty {lines : List String} (something : lines ≠ []) :
    Output.lines lines ≠ empty := by
  cases lines with
  | nil => contradiction
  | cons line lines =>
      apply text_ne_empty
      simp

end Output

/-! ### Blank text -/

theorem Token.displayAll_eq_nil_iff {source : List Byte} :
    displayAll (tokensOf source) = [] ↔ ∀ byte ∈ source, byte.isBlank = true := by
  constructor
  · intro nothing
    rcases Layout.exists_isProper source with ⟨layout, proper, rfl⟩
    cases layout with
    | blanks gap => exact proper
    | lexeme gap first rest =>
        rw [tokensOf_of_isProper proper, Layout.tokensFrom_lexeme] at nothing
        simp [displayAll] at nothing
  · exact displayAll_of_blanks

namespace Text

/-- Each blank of the lexical grammar is white space. -/
theorem isWhiteSpace_of_isBlank {byte : Byte} (blank : byte.isBlank = true) :
    Unicode.isWhiteSpace (Char.ofUInt8 byte) = true := by
  rcases byte.isBlank_iff.mp blank with rfl | rfl | rfl | rfl <;> decide

theorem isWhiteSpace_of_utf8EncodeChar {character : Char}
    (blank : ∀ byte ∈ String.utf8EncodeChar character, Byte.isBlank byte = true) :
    Unicode.isWhiteSpace character = true := by
  rcases List.exists_mem_of_ne_nil _ String.utf8EncodeChar_ne_nil with ⟨byte, member⟩
  have sevenBit := Byte.lt_of_isLegal (Byte.isLegal_of_isBlank (blank byte member))
  rw [eq_ofUInt8_of_mem sevenBit member]
  exact isWhiteSpace_of_isBlank (blank byte member)

theorem trim_of_whiteSpace {text : String}
    (white : ∀ character ∈ text.toList, Unicode.isWhiteSpace character = true) :
    trim text = "" := by
  have nothing := trimCharacters_append [] white
  rw [List.nil_append] at nothing
  rw [trim, nothing]
  rfl

/-- Where trimming leaves something, there is a byte that is no blank. -/
theorem not_forall_isBlank_of_trim_ne {text : String} (something : trim text ≠ "") :
    ¬∀ byte ∈ encode text, byte.isBlank = true := by
  intro blank
  apply something
  apply trim_of_whiteSpace
  intro character typed
  apply isWhiteSpace_of_utf8EncodeChar
  intro byte encoded
  exact blank byte (List.mem_flatMap.mpr ⟨character, typed, encoded⟩)

theorem displayAll_ne_nil_of_trim_ne {text : String} (something : trim text ≠ "") :
    Token.displayAll (tokensOf (encode text)) ≠ [] := by
  rw [Ne, Token.displayAll_eq_nil_iff]
  exact not_forall_isBlank_of_trim_ne something

end Text

theorem IllegalCharacter.behind_of_oneLine {front : List Byte} (oneLine : Byte.lineFeed ∉ front)
    (byte : Byte) : behind front byte = { byte, line := 1, column := front.length + 1 } := by
  simp [behind, List.count_eq_zero.mpr oneLine, lastLineStart_of_not_mem oneLine, Nat.add_comm 1]

namespace Session

/-! ### Lines of source text -/

/-- What is written for source text in one line: its tokens, or the first character that is
refused, with its column in the line. -/
theorem sourceOutput_cases (policy : IllegalPolicy) {text : String} (oneLine : '\n' ∉ text.toList) :
    sourceOutput policy text = .lines (Token.displayAll (tokensOf (Text.encode text))) ∨
      policy = .reject ∧ ∃ front byte back, Text.encode text = front ++ byte :: back ∧
        (∀ other ∈ front, other.isLegal = true) ∧ byte.isLegal = false ∧
        sourceOutput policy text =
          .error ({ byte, line := 1, column := front.length + 1 } : IllegalCharacter).message := by
  rcases listing_cases (Text.encode text) policy with
    ⟨listed, _⟩ | ⟨refused, front, byte, back, split, legal, illegal, rejected⟩
  · left
    rw [sourceOutput, listed]
  · refine Or.inr ⟨refused, front, byte, back, split, legal, illegal, ?_⟩
    have noLineFeed : Byte.lineFeed ∉ front := by
      have absent := Text.lineFeed_not_mem_encode oneLine
      rw [String.ofList_toList, split] at absent
      exact fun member => absent (List.mem_append_left _ member)
    rw [sourceOutput, rejected, IllegalCharacter.behind_of_oneLine noLineFeed]

theorem sourceOutput_ne_empty (policy : IllegalPolicy) {text : String}
    (something : Text.trim text ≠ "") : sourceOutput policy text ≠ .empty := by
  unfold sourceOutput
  rcases listing_cases (Text.encode text) policy with
    ⟨listed, _⟩ | ⟨_, _, _, _, _, _, _, rejected⟩
  · rw [listed]
    exact Output.lines_ne_empty (Text.displayAll_ne_nil_of_trim_ne something)
  · rw [rejected]
    exact Output.error_ne_empty _

theorem Entry.ofLine_of_source {text : String} (something : Text.trim text ≠ "")
    (noWord : Text.trim text ∉ ["exit", "quit"])
    (noCommand : (Text.trim text).toList.head? ≠ some '/') : ofLine text = .source text := by
  have ordinary : IsOrdinary text :=
    { notExit := fun isExit => noWord (by simp [isExit])
      notQuit := fun isQuit => noWord (by simp [isQuit])
      noCommand := noCommand
      blank := fun empty => absurd empty something }
  rw [ofLine_of_isOrdinary ordinary rfl, if_neg something]

/-! ### Silence -/

theorem Command.output_ne_empty {asked : Command} (stays : asked.reply.ending? = none) :
    asked.reply.output ≠ .empty := by
  cases asked with
  | help => exact Output.text_ne_empty (by decide)
  | clear => exact Output.text_ne_empty (by decide)
  | leave => contradiction
  | unknown name => exact Output.lines_ne_empty (List.cons_ne_nil _ _)

theorem Entry.ofLine_cases (text : String) :
    ofLine text = .leave ∨ (ofLine text = .blank ∧ Text.trim text = "") ∨
      Text.trim text ≠ "" ∧
        ((∃ asked, ofLine text = .command asked) ∨ ofLine text = .source text) := by
  by_cases word : Text.trim text ∈ ["exit", "quit"]
  · left
    rw [ofLine, if_pos (by simpa using word)]
  right
  by_cases empty : Text.trim text = ""
  · left
    exact ⟨by simp [ofLine, empty], empty⟩
  right
  refine ⟨empty, ?_⟩
  by_cases slash : (Text.trim text).toList.head? = some '/'
  · left
    rcases List.head?_eq_some_iff.mp slash with ⟨rest, split⟩
    refine ⟨.ofCharacters rest, ?_⟩
    rw [ofLine, if_neg (by simpa using word), split]
    rfl
  · right
    exact ofLine_of_source empty word slash

/-- A session that goes on has nothing to say to blank lines, and something to all others. -/
theorem Entry.output_eq_empty_iff {policy : IllegalPolicy} {text : String}
    (stays : ((ofLine text).reply policy).ending? = none) :
    ((ofLine text).reply policy).output = .empty ↔ Text.trim text = "" := by
  rcases ofLine_cases text with leave | ⟨blank, empty⟩ | ⟨something, ⟨asked, command⟩ | source⟩
  · rw [leave] at stays
    contradiction
  · rw [blank]
    exact iff_of_true rfl empty
  · rw [command] at stays ⊢
    exact iff_of_false (Command.output_ne_empty stays) something
  · rw [source]
    exact iff_of_false (sourceOutput_ne_empty policy something) something

end Session

namespace CommandLine

/-- The options with which a command line asks for the policy. -/
def policyOptions : IllegalPolicy → List String
  | .report => []
  | .reject => ["--strict"]

theorem ofArguments_code (policy : IllegalPolicy) (source : String) :
    Request.ofArguments (policyOptions policy ++ ["-e", source]) =
      .list (.code source) policy false := by
  cases policy with
  | report => rfl
  | reject => rfl

/-- A command line with code writes what a session writes for that line of source text. -/
theorem output_run_code (policy : IllegalPolicy) (source : String) (files : FileSystem)
    (input : List Byte) :
    (run (policyOptions policy ++ ["-e", source]) files input).output =
      Session.sourceOutput policy source := by
  rw [run, ofArguments_code, Request.opening, Subject.listing, Session.sourceOutput]
  cases listing (Text.encode source) policy with
  | error error => rfl
  | ok lines => rfl

end CommandLine

namespace Session

/-- The reply to a line is silent exactly if the line is blank. What is written for source text in a
line is what a command line with that text as code writes: at least one token, or an error with its
column in the line as it was typed. -/
theorem reply_to_one_line (policy : IllegalPolicy) {text : String} (oneLine : '\n' ∉ text.toList) :
    let reply := (Entry.ofLine text).reply policy
    (∀ line : InputLine, line.text? = some text →
      line.reply policy = reply ∧
        (reply.ending? = none → ∀ lines,
          converse policy (line :: lines) = (converse policy lines).after reply.output)) ∧
    (reply.ending? = none →
      (reply.output = { stdout := "", stderr := "" } ↔ Text.trim text = "")) ∧
    (Text.trim text ≠ "" → Text.trim text ∉ ["exit", "quit"] →
      (Text.trim text).toList.head? ≠ some '/' →
      reply.ending? = none ∧
      (∀ files input,
        (CommandLine.run (CommandLine.policyOptions policy ++ ["-e", text]) files input).output =
          reply.output) ∧
      let source := Text.encode text
      let lines := ((tokensOf source).filter fun token => !token.isEof).map Token.display
      lines ≠ [] ∧
      (reply.output = { stdout := String.join (lines.map fun line => line ++ "\n"), stderr := "" } ∨
        policy = .reject ∧ ∃ front byte back, source = front ++ byte :: back ∧
          (∀ other ∈ front, other.isLegal = true) ∧ byte.isLegal = false ∧
          let error : IllegalCharacter := { byte, line := 1, column := front.length + 1 }
          reply.output = { stdout := "", stderr := "Error: " ++ error.message ++ "\n" })) := by
  intro reply
  refine ⟨?_, Entry.output_eq_empty_iff, ?_⟩
  · intro line read
    have sameReply : line.reply policy = reply := congrArg (replyTo policy) read
    refine ⟨sameReply, fun stays lines => ?_⟩
    have goesOn : GoesOn (some text) := (ending?_replyTo_eq_none_iff policy).mp stays
    rw [converse, List.map_cons, read]
    exact converseOver_cons_of_goesOn policy goesOn _
  · intro something noWord noCommand
    have isSource : reply = .continuing (sourceOutput policy text) := by
      simp only [reply, Entry.ofLine_of_source something noWord noCommand]
      rfl
    rw [isSource]
    refine ⟨rfl, CommandLine.output_run_code policy text, ?_, sourceOutput_cases policy oneLine⟩
    exact Text.displayAll_ne_nil_of_trim_ne something

/-- White space that is no blank of the grammar: it is refused where something else stands in its
line, behind two blanks that count for the column, and passed over where nothing does. -/
theorem reply_to_no_break_space :
    let text := "  =\u00a0"
    let reply := (Entry.ofLine text).reply .reject
    (CommandLine.run ["--strict", "-e", text] (fun _ => .missing) []).output = reply.output ∧
      reply.output = .error "Illegal character '\\xc2' at line 1, column 4" ∧
      ((Entry.ofLine "\u00a0").reply .reject).output = .empty := by
  intro text reply
  have oneLine : '\n' ∉ text.toList := by decide
  rcases reply_to_one_line .reject oneLine with ⟨_, _, likeCode⟩
  rcases likeCode (by decide +kernel) (by decide +kernel) (by decide +kernel) with
    ⟨_, sameOutput, _⟩
  have alone : '\n' ∉ "\u00a0".toList := by decide
  rcases reply_to_one_line .reject alone with ⟨_, silent, _⟩
  refine ⟨sameOutput _ _, by decide +kernel, ?_⟩
  exact (silent (by decide +kernel)).mpr (by decide +kernel)

end Session

end MonkeyLexis
