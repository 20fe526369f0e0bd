import MonkeyLexis.CommandLine.Program
import MonkeyLexis.Proofs.InputLines

/-!
# Sessions and files

A session scans each line for itself, and before it does, it sorts out lines that are blank, leave
the session or give a command. A file is scanned as one piece. What both list is the same text, as
long as no line of it is taken for anything but source text: where the lines are cut, which
carriage returns are dropped and how often the scanner starts anew cannot be seen in a listing. This
holds however the lines are read, so it is shown for all readers.
-/

namespace MonkeyLexis

namespace Output

@[simp]
theorem empty_append (output : Output) : empty ++ output = output :=
  congrArg₂ mk String.empty_append String.empty_append

theorem append_assoc (first second third : Output) :
    first ++ second ++ third = first ++ (second ++ third) :=
  congrArg₂ mk String.append_assoc String.append_assoc

@[simp]
theorem lines_nil : lines [] = empty := rfl

theorem lines_append (front back : List String) :
    lines (front ++ back) = lines front ++ lines back := by
  rw [lines, List.map_append, String.join_append]
  rfl

end Output

namespace Outcome

@[simp]
theorem after_empty (outcome : Outcome) : outcome.after .empty = outcome := by
  rw [after, Output.empty_append]

theorem after_after (outcome : Outcome) (first second : Output) :
    (outcome.after second).after first = outcome.after (first ++ second) := by
  rw [after, after, after, Output.append_assoc]

end Outcome

/-! ### Listings -/

namespace Token

theorem displayAll_append (front back : List Token) :
    displayAll (front ++ back) = displayAll front ++ displayAll back := by
  simp [displayAll]

/-- Where the tokens stand is not displayed. -/
theorem displayAll_map_behind (base : Position) (tokens : List Token) :
    displayAll (tokens.map (behind base)) = displayAll tokens := by
  rw [displayAll, List.filter_map, List.map_map]
  rfl

@[simp]
theorem displayAll_endOfInput (place : Position) : displayAll [endOfInput place] = [] := rfl

theorem displayAll_dropLast_tokensOf (source : List Byte) :
    displayAll (tokensOf source).dropLast = displayAll (tokensOf source) := by
  have whole := congrArg displayAll (tokensOf_eq_concat source)
  rw [displayAll_append, displayAll_endOfInput, List.append_nil] at whole
  exact whole.symm

/-- A line lists the same by itself as it does with more lines behind it. -/
theorem displayAll_line_append {line : List Byte} (oneLine : Byte.lineFeed ∉ line)
    (rest : List Byte) :
    displayAll (tokensOf (line ++ Byte.lineFeed :: rest)) =
      displayAll (tokensOf line) ++ displayAll (tokensOf rest) := by
  rw [tokensOf_line_append oneLine, displayAll_append, displayAll_dropLast_tokensOf,
    displayAll_map_behind]

theorem displayAll_append_blanks (source : List Byte) {gap : List Byte}
    (blank : ∀ byte ∈ gap, byte.isBlank = true) :
    displayAll (tokensOf (source ++ gap)) = displayAll (tokensOf source) := by
  rcases Layout.exists_isProper source with ⟨layout, proper, rfl⟩
  have properGap : (Layout.blanks gap).IsProper := blank
  have ends : ∀ last ∈ layout.openEnd?, last.EndsBefore gap := by
    intro last _
    exact last.endsBefore_of_isBlank fun next head => blank next (List.mem_of_mem_head? head)
  have scanned := tokensOf_of_isProper (Layout.isProper_append proper properGap ends)
  rw [Layout.bytes_append, Layout.bytes_blanks, Layout.tokensFrom_append,
    Layout.tokensFrom_blanks] at scanned
  rw [scanned, displayAll_append, displayAll_endOfInput, tokensOf_of_isProper proper,
    Layout.tokensFrom, displayAll_append, displayAll_endOfInput]

theorem displayAll_of_blanks {source : List Byte}
    (blank : ∀ byte ∈ source, byte.isBlank = true) : displayAll (tokensOf source) = [] := by
  have proper : (Layout.blanks source).IsProper := blank
  have scanned := tokensOf_of_isProper proper
  rw [Layout.bytes_blanks, Layout.tokensFrom_blanks] at scanned
  rw [scanned, displayAll_endOfInput]

end Token

theorem listing_report (source : List Byte) :
    listing source .report = .ok (Token.displayAll (tokensOf source)) := by
  rw [listing, IllegalPolicy.result_scan_report]
  rfl

/-- The blanks of the grammar that may stand within a line. -/
def lineBlanks : List Char := [' ', '\t', '\r']

/-- What is written for the tokens of a text. -/
def outputOf (characters : List Char) : Output :=
  .lines (Token.displayAll (tokensOf (Text.encode (String.ofList characters))))

theorem isBlank_of_mem_encode {characters : List Char} (blank : characters ⊆ lineBlanks) :
    ∀ byte ∈ Text.encode (String.ofList characters), byte.isBlank = true := by
  have every : (lineBlanks.flatMap String.utf8EncodeChar).all Byte.isBlank = true := by
    decide
  intro byte member
  rcases List.mem_flatMap.mp member with ⟨character, typed, encoded⟩
  rw [String.toList_ofList] at typed
  exact List.all_eq_true.mp every byte (List.mem_flatMap.mpr ⟨character, blank typed, encoded⟩)

theorem outputOf_append_blanks (shown : List Char) {ending : List Char}
    (blank : ending ⊆ lineBlanks) : outputOf (shown ++ ending) = outputOf shown := by
  rw [outputOf, Text.encode_ofList_append,
    Token.displayAll_append_blanks _ (isBlank_of_mem_encode blank)]
  rfl

theorem outputOf_of_blanks {characters : List Char} (blank : characters ⊆ lineBlanks) :
    outputOf characters = .empty := by
  rw [outputOf, Token.displayAll_of_blanks (isBlank_of_mem_encode blank), Output.lines_nil]

theorem outputOf_line_append {line : List Char} (oneLine : '\n' ∉ line) (rest : List Char) :
    outputOf (line ++ '\n' :: rest) = outputOf line ++ outputOf rest := by
  rw [outputOf, Text.encode_ofList_line,
    Token.displayAll_line_append (Text.lineFeed_not_mem_encode oneLine), Output.lines_append]
  rfl

/-! ### Replies -/

namespace Session

/-- Whether a session takes a line for source text, or for nothing where the scanner finds nothing
in it either. White space that is no blank of the grammar makes a difference only in a line without
anything else. -/
structure IsOrdinary (line : String) : Prop where
  notExit : Text.trim line ≠ "exit"
  notQuit : Text.trim line ≠ "quit"
  noCommand : (Text.trim line).toList.head? ≠ some '/'
  blank : Text.trim line = "" → line.toList ⊆ lineBlanks

instance (line : String) : Decidable (IsOrdinary line) :=
  decidable_of_iff
    (Text.trim line ≠ "exit" ∧ Text.trim line ≠ "quit" ∧
      (Text.trim line).toList.head? ≠ some '/' ∧
      (Text.trim line = "" → line.toList ⊆ lineBlanks))
    ⟨fun ⟨notExit, notQuit, noCommand, blank⟩ => ⟨notExit, notQuit, noCommand, blank⟩,
      fun ordinary =>
        ⟨ordinary.notExit, ordinary.notQuit, ordinary.noCommand, ordinary.blank⟩⟩

theorem Entry.ofLine_of_isOrdinary {line shown : String} (ordinary : IsOrdinary line)
    (sameTrim : Text.trim shown = Text.trim line) :
    ofLine shown = if Text.trim line = "" then .blank else .source shown := by
  have stays : ¬(Text.trim line = "exit" || Text.trim line = "quit") = true := by
    simp [ordinary.notExit, ordinary.notQuit]
  rw [ofLine, sameTrim, if_neg stays]
  cases characters : (Text.trim line).toList with
  | nil => rw [if_pos (String.toList_eq_nil_iff.mp characters)]
  | cons first rest =>
      have notEmpty : Text.trim line ≠ "" := by
        intro empty
        simp [empty] at characters
      have noSlash : first ≠ '/' := by
        rintro rfl
        exact ordinary.noCommand (by simp [characters])
      rw [if_neg notEmpty]
      split
      · next isNil => exact absurd isNil (List.cons_ne_nil first rest)
      · next slash => exact absurd (List.cons.inj slash).1 noSlash
      · rfl

section

variable {read : InputLine → Option String} (reader : InputLine.IsReader read)

include reader

/-- In reply to an ordinary line a session lists its tokens. -/
theorem replyTo_of_isOrdinary {line : List Char} (ordinary : IsOrdinary (String.ofList line))
    (noBackspace : Text.backspace ∉ line) (ended : Bool) :
    replyTo .report (read { bytes := Text.encode (String.ofList line), ended }) =
      .continuing (outputOf line) := by
  rcases InputLine.exists_content line ended with ⟨shown, ending, rfl, isEnding, content⟩
  have blank : ending ⊆ lineBlanks := by
    rcases isEnding with rfl | rfl <;> simp [lineBlanks]
  have white : ∀ character ∈ ending, Unicode.isWhiteSpace character = true := by
    rcases isEnding with rfl | rfl
    · simp
    · exact List.forall_mem_singleton.mpr (by decide)
  have sameTrim :
      Text.trim (String.ofList shown) = Text.trim (String.ofList (shown ++ ending)) := by
    simp only [Text.trim, String.toList_ofList, Text.trimCharacters_append shown white]
  have absent : Text.backspace ∉ (String.ofList shown).toList := by
    rw [String.toList_ofList]
    exact fun typed => noBackspace (List.mem_append_left _ typed)
  rw [reader.eq_some content absent, replyTo]
  simp only [Entry.ofLine_of_isOrdinary ordinary sameTrim]
  by_cases empty : Text.trim (String.ofList (shown ++ ending)) = ""
  · have allBlank := ordinary.blank empty
    rw [String.toList_ofList] at allBlank
    rw [if_pos empty, outputOf_of_blanks allBlank]
    rfl
  · rw [if_neg empty, outputOf_append_blanks shown blank, Entry.reply, sourceOutput,
      listing_report]
    rfl

theorem converseOver_cons_of_isOrdinary {line : List Char}
    (ordinary : IsOrdinary (String.ofList line)) (noBackspace : Text.backspace ∉ line)
    (ended : Bool) (readings : List (Option String)) :
    converseOver .report
        (read { bytes := Text.encode (String.ofList line), ended } :: readings) =
      (converseOver .report readings).after (outputOf line) := by
  rw [converseOver, replyTo_of_isOrdinary reader ordinary noBackspace ended]
  rfl

/-- Over ordinary lines a session lists their tokens and then says goodbye. -/
theorem converseOver_of_isOrdinary (characters : List Char)
    (noBackspace : Text.backspace ∉ characters)
    (ordinary : ∀ line ∈ characters.splitOn '\n', IsOrdinary (String.ofList line)) :
    converseOver .report
        ((InputLine.split (Text.encode (String.ofList characters))).map read) =
      endOfInput.after (outputOf characters) := by
  induction characters using induction_on_lines '\n' with
  | lastLine line oneLine =>
      rw [List.splitOn_eq_singleton oneLine, List.forall_mem_singleton] at ordinary
      rw [InputLine.split_of_oneLine (Text.lineFeed_not_mem_encode oneLine)]
      -- Behind a last line feed the session reads no line, while the text still has an empty one.
      by_cases empty : Text.encode (String.ofList line) = []
      · rw [if_pos empty, outputOf, empty, Token.displayAll_of_blanks (by simp), Output.lines_nil,
          Outcome.after_empty]
        rfl
      · rw [if_neg empty, List.map_singleton,
          converseOver_cons_of_isOrdinary reader ordinary noBackspace]
        rfl
  | moreLines line rest oneLine ih =>
      rw [List.splitOn_append_cons_self_of_not_mem oneLine, List.forall_mem_cons] at ordinary
      rw [List.mem_append, List.mem_cons, not_or, not_or] at noBackspace
      rw [Text.encode_ofList_line,
        InputLine.split_line_append (Text.lineFeed_not_mem_encode oneLine), List.map_cons,
        converseOver_cons_of_isOrdinary reader ordinary.1 noBackspace.1,
        ih noBackspace.2.2 ordinary.2, Outcome.after_after, outputOf_line_append oneLine]

theorem runWith_of_isOrdinary (text : String) (noBackspace : Text.backspace ∉ text.toList)
    (ordinary : ∀ line ∈ text.toList.splitOn '\n', IsOrdinary (String.ofList line)) :
    runWith read .report (Text.encode text) =
      endOfInput.after (greeting ++ outputOf text.toList) := by
  have converses := converseOver_of_isOrdinary reader text.toList noBackspace ordinary
  rw [String.ofList_toList] at converses
  rw [runWith, converses, Outcome.after_after]

end

end Session

namespace CommandLine

/-- A session that reads a text of ordinary lines writes what is written for a file with that text,
between its greeting and its farewell. -/
theorem run_session_of_isOrdinary {sessionArguments fileArguments : List String} {path : String}
    {files : FileSystem} (text : String) (input : List Byte)
    (opensSession : Request.ofArguments sessionArguments = .session .report)
    (listsFile : Request.ofArguments fileArguments = .list (.file path) .report false)
    (found : files path = .contents (Text.encode text))
    (noBackspace : Text.backspace ∉ text.toList)
    (ordinary : ∀ line ∈ text.toList.splitOn '\n', Session.IsOrdinary (String.ofList line)) :
    let listed := run fileArguments files input
    listed.status = .success ∧ listed.output.stderr = "" ∧
      run sessionArguments files (Text.encode text) =
        .success (.text (Session.greeting.stdout ++ listed.output.stdout ++ "\nGoodbye!\n")) := by
  have lists : run fileArguments files input = .success (outputOf text.toList) := by
    rw [run, listsFile, Request.opening, Subject.listing, found]
    simp only [listing_report]
    rw [outputOf, String.ofList_toList]
    rfl
  refine ⟨by rw [lists]; rfl, by rw [lists]; rfl, ?_⟩
  rw [run, opensSession, Request.opening, Opening.outcome, Outcome.after_empty, Session.run,
    Session.runWith_of_isOrdinary Session.InputLine.isReader_text? text noBackspace ordinary, lists]
  rfl

/-- Both sorts of line ends, a blank line, another script and a last line that is not ended. -/
theorem run_session_of_four_lines :
    let text := "let\r\n \t\r\né /x=\n=="
    let files : FileSystem := fun _ => .contents (Text.encode text)
    let listed := run ["x.monkey"] files []
    listed.output.stdout =
        "LET(\"let\")\nILLEGAL(\"\")\nILLEGAL(\"\")\n/(\"/\")\nIDENT(\"x\")\n" ++
          "=(\"=\")\n==(\"==\")\n" ∧
      run [] files (Text.encode text) =
        .success (.text (Session.greeting.stdout ++ listed.output.stdout ++ "\nGoodbye!\n")) := by
  intro text files listed
  have opensSession : Request.ofArguments [] = .session .report := rfl
  have listsFile : Request.ofArguments ["x.monkey"] = .list (.file "x.monkey") .report false := rfl
  have found : files "x.monkey" = .contents (Text.encode text) := rfl
  have written := run_session_of_isOrdinary text [] opensSession listsFile found
    (by decide +kernel) (by decide +kernel)
  exact ⟨by decide +kernel, written.2.2⟩

end CommandLine

end MonkeyLexis
