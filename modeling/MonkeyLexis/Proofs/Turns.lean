import MonkeyLexis.Proofs.Dialogue

/-!
# The turns of a session

A session takes its lines in turn. Behind a line that is text and does not ask to leave it goes on
as if that line had not been typed: what was written stays written, and nothing else of the line is
kept. Every other line ends it, and then no byte behind that line has an influence on anything.

Whether a line ends the session has nothing to do with the policy for illegal characters. A rejected
line gets a message and is over.

All of this is shown for sessions with any reader of lines, since a turn depends on nothing but what
was read. Only which lines are text takes something to be known of the reader.
-/

namespace MonkeyLexis

namespace Output

def concat (outputs : List Output) : Output :=
  { stdout := String.join (outputs.map (·.stdout))
    stderr := String.join (outputs.map (·.stderr)) }

@[simp]
theorem append_empty (output : Output) : output ++ empty = output :=
  congrArg₂ mk String.append_empty String.append_empty

@[simp]
theorem concat_nil : concat [] = empty := rfl

@[simp]
theorem concat_cons (output : Output) (outputs : List Output) :
    concat (output :: outputs) = output ++ concat outputs := by
  simp only [concat, List.map_cons, String.join_cons]
  rfl

end Output

namespace Session

/-- Whether a text asks to leave, be it by a word or by a command with that word as its name. -/
def AsksToLeave (text : String) : Prop :=
  Text.trim text ∈ ["exit", "quit"] ∨
    (Text.trim text).toList.head? = some '/' ∧
      String.ofList (Text.lowerCase (Text.firstWord (Text.trim text).toList.tail)) ∈
        ["exit", "quit"]

instance (text : String) : Decidable (AsksToLeave text) :=
  inferInstanceAs (Decidable (_ ∨ _))

/-! ### Which lines end a session -/

theorem Command.ending?_reply_ofName (name : String) :
    (ofName name).reply.ending? = if name ∈ ["exit", "quit"] then some .success else none := by
  unfold ofName
  split
  · next help =>
      subst help
      rfl
  split
  · next clear =>
      subst clear
      rfl
  split
  · next leave =>
      have named : name ∈ ["exit", "quit"] := by simpa using leave
      rw [if_pos named]
      rfl
  · next stays =>
      have unnamed : name ∉ ["exit", "quit"] := by simpa using stays
      rw [if_neg unnamed]
      rfl

theorem Entry.ending?_reply_ofLine (policy : IllegalPolicy) (text : String) :
    ((ofLine text).reply policy).ending? =
      if AsksToLeave text then some .success else none := by
  unfold ofLine
  simp only
  split
  · next leave =>
      have asks : AsksToLeave text := Or.inl (by simpa using leave)
      rw [if_pos asks]
      rfl
  · next noWord =>
      have noWord : Text.trim text ∉ ["exit", "quit"] := by simpa using noWord
      split
      · next empty =>
          have stays : ¬AsksToLeave text := by simp [AsksToLeave, noWord, empty]
          rw [if_neg stays]
          rfl
      · next characters slash =>
          apply Eq.trans (Command.ending?_reply_ofName _)
          simp [AsksToLeave, noWord, slash]
      · next noSlash =>
          have stays : ¬AsksToLeave text := by
            rintro (word | ⟨slash, _⟩)
            · exact noWord word
            · rcases List.head?_eq_some_iff.mp slash with ⟨characters, split⟩
              exact noSlash characters split
          rw [if_neg stays]
          rfl

/-- Whether a session goes on behind a line in which this was read. -/
def GoesOn (reading : Option String) : Prop :=
  ∃ text, reading = some text ∧ ¬AsksToLeave text

theorem ending?_replyTo_eq_none_iff (policy : IllegalPolicy) {reading : Option String} :
    (replyTo policy reading).ending? = none ↔ GoesOn reading := by
  unfold GoesOn
  cases reading with
  | none => simp [replyTo, notTextReply, Reply.ending]
  | some text => simp [replyTo, Entry.ending?_reply_ofLine]

instance (reading : Option String) : Decidable (GoesOn reading) :=
  decidable_of_iff _ (ending?_replyTo_eq_none_iff .report)

theorem exists_ending_of_not_goesOn (policy : IllegalPolicy) {reading : Option String}
    (ends : ¬GoesOn reading) : ∃ status, (replyTo policy reading).ending? = some status := by
  apply Option.ne_none_iff_exists'.mp
  intro noEnding
  exact ends ((ending?_replyTo_eq_none_iff policy).mp noEnding)

/-- A line fails the session exactly if nothing can be read in it. -/
theorem ending?_replyTo_eq_failure_iff (policy : IllegalPolicy) {reading : Option String} :
    (replyTo policy reading).ending? = some .failure ↔ reading = none := by
  cases reading with
  | none => simp [replyTo, notTextReply, Reply.ending]
  | some text => simp [replyTo, Entry.ending?_reply_ofLine]

/-- Whether what was read is taken for source text and turned down. -/
def TurnsDown (policy : IllegalPolicy) (reading : Option String) (error : IllegalCharacter) :
    Prop :=
  ∃ text, reading = some text ∧ Entry.ofLine text = .source text ∧
    listing (Text.encode text) policy = .error error

theorem replyTo_of_turnsDown {policy : IllegalPolicy} {reading : Option String}
    {error : IllegalCharacter} (turnsDown : TurnsDown policy reading error) :
    replyTo policy reading = .continuing (.error error.message) := by
  rcases turnsDown with ⟨text, rfl, isSource, turnedDown⟩
  simp [replyTo, isSource, Entry.reply, sourceOutput, turnedDown]

namespace InputLine

/-- A line with a line feed behind it. -/
def complete (bytes : List Byte) : InputLine := { bytes, ended := true }

theorem split_complete_append {line : List Byte} (oneLine : Byte.lineFeed ∉ line)
    (rest : List Byte) : split (line ++ Byte.lineFeed :: rest) = complete line :: split rest :=
  split_line_append oneLine rest

/-- Whether the session goes on behind the line. -/
def Stays (line : InputLine) : Prop := GoesOn line.text?

instance (line : InputLine) : Decidable line.Stays :=
  inferInstanceAs (Decidable (GoesOn _))

/-- Whether a line is read as source text and the policy turns it down. -/
def IsRejected (policy : IllegalPolicy) (line : InputLine) (error : IllegalCharacter) : Prop :=
  TurnsDown policy line.text? error

end InputLine

/-! ### One turn after another -/

theorem converseOver_cons_of_goesOn (policy : IllegalPolicy) {reading : Option String}
    (goesOn : GoesOn reading) (readings : List (Option String)) :
    converseOver policy (reading :: readings) =
      (converseOver policy readings).after (replyTo policy reading).output := by
  simp [converseOver, (ending?_replyTo_eq_none_iff policy).mpr goesOn]

theorem converseOver_cons_of_ending {policy : IllegalPolicy} {reading : Option String}
    {status : ExitStatus} (ending : (replyTo policy reading).ending? = some status)
    (readings : List (Option String)) :
    converseOver policy (reading :: readings) =
      { output := (replyTo policy reading).output, status } := by
  simp [converseOver, ending]

theorem converseOver_append (policy : IllegalPolicy) {readings : List (Option String)}
    (goOn : ∀ reading ∈ readings, GoesOn reading) (more : List (Option String)) :
    converseOver policy (readings ++ more) =
      (converseOver policy more).after
        (.concat (readings.map fun reading => (replyTo policy reading).output)) := by
  induction readings with
  | nil => simp
  | cons reading readings ih =>
      simp only [List.forall_mem_cons] at goOn
      simp [converseOver_cons_of_goesOn policy goOn.1, ih goOn.2, Outcome.after_after]

theorem exists_of_status_converseOver {policy : IllegalPolicy} {readings : List (Option String)}
    (failed : (converseOver policy readings).status = .failure) :
    ∃ before after, readings = before ++ none :: after ∧
      ∀ earlier ∈ before, GoesOn earlier := by
  induction readings with
  | nil => contradiction
  | cons first readings ih =>
      by_cases goesOn : GoesOn first
      · rw [converseOver_cons_of_goesOn policy goesOn] at failed
        rcases ih failed with ⟨before, after, rfl, goOn⟩
        exact ⟨first :: before, after, rfl, List.forall_mem_cons.mpr ⟨goesOn, goOn⟩⟩
      · rcases exists_ending_of_not_goesOn policy goesOn with ⟨status, ending⟩
        rw [converseOver_cons_of_ending ending] at failed
        rcases failed with rfl
        rcases (ending?_replyTo_eq_failure_iff policy).mp ending with rfl
        exact ⟨[], readings, rfl, List.forall_mem_nil _⟩

theorem status_converseOver_eq_failure_iff {policy : IllegalPolicy}
    {readings : List (Option String)} :
    (converseOver policy readings).status = .failure ↔
      ∃ before after, readings = before ++ none :: after ∧
        ∀ earlier ∈ before, GoesOn earlier := by
  constructor
  · exact exists_of_status_converseOver
  · rintro ⟨before, after, rfl, goOn⟩
    have ending := (ending?_replyTo_eq_failure_iff policy).mpr rfl
    rw [converseOver_append policy goOn, converseOver_cons_of_ending ending]
    rfl

/-! ### Whole sessions -/

/-- What a session writes in its turn to a line with a line feed behind it. -/
def turnWith (read : InputLine → Option String) (policy : IllegalPolicy) (line : List Byte) :
    Output :=
  (replyTo policy (read (.complete line))).output

def turn (policy : IllegalPolicy) (line : List Byte) : Output :=
  turnWith InputLine.text? policy line

def typed (lines : List (List Byte)) : List Byte :=
  lines.flatMap fun line => line ++ [Byte.lineFeed]

theorem split_typed_append {lines : List (List Byte)}
    (oneLine : ∀ line ∈ lines, Byte.lineFeed ∉ line) (rest : List Byte) :
    InputLine.split (typed lines ++ rest) =
      lines.map InputLine.complete ++ InputLine.split rest := by
  induction lines with
  | nil => rfl
  | cons line lines ih =>
      simp only [List.forall_mem_cons] at oneLine
      have behind := InputLine.split_complete_append oneLine.1 (typed lines ++ rest)
      simp only [typed, List.flatMap_cons, List.append_assoc, List.cons_append, List.nil_append]
        at behind ⊢
      rw [behind]
      exact congrArg (InputLine.complete line :: ·) (ih oneLine.2)

theorem code_eq_one_iff {status : ExitStatus} : status.code = 1 ↔ status = .failure := by
  cases status <;> simp [ExitStatus.code]

@[simp]
theorem stderr_greeting : greeting.stderr = "" := rfl

section

variable (read : InputLine → Option String) (policy : IllegalPolicy) {lines : List (List Byte)}
  (oneLine : ∀ line ∈ lines, Byte.lineFeed ∉ line)
  (goOn : ∀ line ∈ lines, GoesOn (read (.complete line)))

include oneLine goOn

theorem runWith_typed_append (rest : List Byte) :
    runWith read policy (typed lines ++ rest) =
      (converseOver policy ((InputLine.split rest).map read)).after
        (greeting ++ .concat (lines.map (turnWith read policy))) := by
  have goOnBehind : ∀ reading ∈ (lines.map InputLine.complete).map read, GoesOn reading := by
    rw [List.map_map]
    exact List.forall_mem_map.mpr goOn
  rw [runWith, split_typed_append oneLine, List.map_append, converseOver_append policy goOnBehind,
    Outcome.after_after, List.map_map, List.map_map]
  rfl

/-- What a session writes behind lines like these is what it writes without them. -/
theorem exists_own_runWith_typed_append (rest : List Byte) :
    let written := Output.concat (lines.map (turnWith read policy))
    ∃ own,
      (runWith read policy rest).output.stdout = greeting.stdout ++ own ∧
        runWith read policy (typed lines ++ rest) =
          { output :=
              { stdout := greeting.stdout ++ (written.stdout ++ own)
                stderr := written.stderr ++ (runWith read policy rest).output.stderr }
            status := (runWith read policy rest).status } := by
  intro written
  refine ⟨(converseOver policy ((InputLine.split rest).map read)).output.stdout, rfl, ?_⟩
  apply (runWith_typed_append read policy oneLine goOn rest).trans
  apply congrArg₂ Outcome.mk
  · apply congrArg₂ Output.mk
    · exact String.append_assoc
    · simp [runWith, Outcome.after, written]
  · rfl

theorem runWith_typed_append_line {line : List Byte} (oneMore : Byte.lineFeed ∉ line)
    (goesOn : GoesOn (read (.complete line))) (rest : List Byte) :
    runWith read policy (typed lines ++ (line ++ Byte.lineFeed :: rest)) =
      (converseOver policy ((InputLine.split rest).map read)).after
        (greeting ++ .concat (lines.map (turnWith read policy)) ++ turnWith read policy line) := by
  rw [runWith_typed_append read policy oneLine goOn, InputLine.split_complete_append oneMore,
    List.map_cons, converseOver_cons_of_goesOn policy goesOn, Outcome.after_after]
  rfl

/-- Of a line that is turned down nothing is left but its message. -/
theorem runWith_typed_append_turnedDown {line : List Byte} {error : IllegalCharacter}
    (oneMore : Byte.lineFeed ∉ line) (turnsDown : TurnsDown policy (read (.complete line)) error)
    (rest : List Byte) :
    runWith read policy (typed lines ++ (line ++ Byte.lineFeed :: rest)) =
      { output :=
          { stdout := (runWith read policy (typed lines ++ rest)).output.stdout
            stderr :=
              (Output.concat (lines.map (turnWith read policy))).stderr ++
                ("Error: " ++ error.message ++ "\n") ++ (runWith read policy rest).output.stderr }
        status := (runWith read policy (typed lines ++ rest)).status } := by
  have reply := replyTo_of_turnsDown turnsDown
  have goesOn := (ending?_replyTo_eq_none_iff policy).mp (congrArg Reply.ending? reply)
  have message : turnWith read policy line = .error error.message := congrArg Reply.output reply
  rw [runWith_typed_append_line read policy oneLine goOn oneMore goesOn,
    runWith_typed_append read policy oneLine goOn, message]
  apply congrArg₂ Outcome.mk
  · apply congrArg₂ Output.mk
    · simp [Outcome.after, Output.error]
    · simp [runWith, Outcome.after, Output.error, String.append_assoc]
  · rfl

/-- No byte behind a line that ends the session has an influence on it. -/
theorem runWith_typed_append_last {last : List Byte} (oneLast : Byte.lineFeed ∉ last)
    {status : ExitStatus}
    (ending : (replyTo policy (read (.complete last))).ending? = some status) (rest : List Byte) :
    runWith read policy (typed lines ++ (last ++ Byte.lineFeed :: rest)) =
      { output :=
          greeting ++ .concat (lines.map (turnWith read policy)) ++ turnWith read policy last
        status } := by
  rw [runWith_typed_append read policy oneLine goOn, InputLine.split_complete_append oneLast,
    List.map_cons, converseOver_cons_of_ending ending]
  rfl

theorem runWith_typed_append_ended (reader : InputLine.IsReader read) {last : List Byte}
    (oneLast : Byte.lineFeed ∉ last) (ends : ¬GoesOn (read (.complete last)))
    (rest other : List Byte) :
    let ended := runWith read policy (typed lines ++ (last ++ Byte.lineFeed :: rest))
    ended = runWith read policy (typed lines ++ (last ++ Byte.lineFeed :: other)) ∧
      (ended.status.code = 1 ↔ Text.decode? last = none) := by
  intro ended
  rcases exists_ending_of_not_goesOn policy ends with ⟨status, ending⟩
  have stops := runWith_typed_append_last read policy oneLine goOn oneLast ending
  have isEnded : ended.status = status := congrArg Outcome.status (stops rest)
  have notText : read (.complete last) = none ↔ Text.decode? last = none :=
    reader.eq_none_iff (.complete last)
  refine ⟨(stops rest).trans (stops other).symm, ?_⟩
  rw [isEnded, code_eq_one_iff, ← notText, ← ending?_replyTo_eq_failure_iff policy, ending,
    Option.some_inj]

end

theorem runWith_line (read : InputLine → Option String) (policy : IllegalPolicy)
    {line : List Byte} (oneLine : Byte.lineFeed ∉ line) (goesOn : GoesOn (read (.complete line))) :
    runWith read policy (line ++ [Byte.lineFeed]) =
      .success (greeting ++ turnWith read policy line ++ .text "\nGoodbye!\n") := by
  have alone := runWith_typed_append_line read policy (List.forall_mem_nil _)
    (List.forall_mem_nil _) oneLine goesOn []
  simp only [List.map_nil, Output.concat_nil, Output.append_empty] at alone
  exact alone

/-- The exit status is 1 exactly if the session gets to a line that is not text. -/
theorem code_runWith_eq_one_iff {read : InputLine → Option String}
    (reader : InputLine.IsReader read) (policy : IllegalPolicy) (input : List Byte) :
    (runWith read policy input).status.code = 1 ↔
      ∃ before line after, InputLine.split input = before ++ line :: after ∧
        (∀ earlier ∈ before, GoesOn (read earlier)) ∧ Text.decode? line.bytes = none := by
  apply code_eq_one_iff.trans
  apply status_converseOver_eq_failure_iff.trans
  constructor
  · rintro ⟨before, after, readings, goOn⟩
    rcases List.map_eq_append_iff.mp readings with ⟨earlier, later, split, rfl, behind⟩
    rcases List.map_eq_cons_iff.mp behind with ⟨line, lines, rfl, notRead, rfl⟩
    refine ⟨earlier, line, lines, split, List.forall_mem_map.mp goOn, ?_⟩
    exact (reader.eq_none_iff line).mp notRead
  · rintro ⟨before, line, after, split, goOn, notText⟩
    refine ⟨before.map read, after.map read, ?_, List.forall_mem_map.mpr goOn⟩
    rw [split, List.map_append, List.map_cons, (reader.eq_none_iff line).mpr notText]

/-- A session keeps nothing of a line that it has replied to, and a line that ends it is the last
one that it reads. Its exit status is 1 exactly if it gets to a line that is not text. -/
theorem run_turn_by_turn (policy : IllegalPolicy) {lines : List (List Byte)}
    (oneLine : ∀ line ∈ lines, Byte.lineFeed ∉ line)
    (stay : ∀ line ∈ lines, (InputLine.complete line).Stays) :
    let written := Output.concat (lines.map (turn policy))
    (∀ rest, ∃ own,
      (run policy rest).output.stdout = greeting.stdout ++ own ∧
        run policy (typed lines ++ rest) =
          { output :=
              { stdout := greeting.stdout ++ (written.stdout ++ own)
                stderr := written.stderr ++ (run policy rest).output.stderr }
            status := (run policy rest).status }) ∧
    (∀ line ∈ lines,
      run policy (line ++ [Byte.lineFeed]) =
        .success (greeting ++ turn policy line ++ .text "\nGoodbye!\n")) ∧
    (∀ line error, Byte.lineFeed ∉ line → (InputLine.complete line).IsRejected policy error →
      ∀ rest,
        run policy (typed lines ++ (line ++ Byte.lineFeed :: rest)) =
          { output :=
              { stdout := (run policy (typed lines ++ rest)).output.stdout
                stderr :=
                  written.stderr ++ ("Error: " ++ error.message ++ "\n") ++
                    (run policy rest).output.stderr }
            status := (run policy (typed lines ++ rest)).status }) ∧
    (∀ last, Byte.lineFeed ∉ last → ¬(InputLine.complete last).Stays → ∀ rest other,
      let ended := run policy (typed lines ++ (last ++ Byte.lineFeed :: rest))
      ended = run policy (typed lines ++ (last ++ Byte.lineFeed :: other)) ∧
        (ended.status.code = 1 ↔ Text.decode? last = none)) ∧
    (∀ input, (run policy input).status.code = 1 ↔
      ∃ before line after, InputLine.split input = before ++ line :: after ∧
        (∀ earlier ∈ before, earlier.Stays) ∧ Text.decode? line.bytes = none) := by
  intro written
  have reader := InputLine.isReader_text?
  refine ⟨?_, ?_, ?_, ?_, ?_⟩
  · exact exists_own_runWith_typed_append InputLine.text? policy oneLine stay
  · intro line member
    exact runWith_line InputLine.text? policy (oneLine line member) (stay line member)
  · intro line error oneMore rejected
    exact runWith_typed_append_turnedDown InputLine.text? policy oneLine stay oneMore rejected
  · intro last oneLast ends
    exact runWith_typed_append_ended InputLine.text? policy oneLine stay reader oneLast ends
  · exact code_runWith_eq_one_iff reader policy

/-- A carriage return, a command, a blank line and a rejected one before a command to leave. -/
theorem run_of_five_lines :
    let lines := ["let x\r", "/Help me", " ", "a @"].map Text.encode
    let last := Text.encode "/Quit "
    (∀ line ∈ lines, Byte.lineFeed ∉ line ∧ (InputLine.complete line).Stays) ∧
      ¬(InputLine.complete last).Stays ∧
      ∀ rest,
        run .reject (typed lines ++ (last ++ Byte.lineFeed :: rest)) =
          .success
            { stdout :=
                greeting.stdout ++ "LET(\"let\")\nIDENT(\"x\")\n" ++ commandHelp
              stderr := "Error: Illegal character '@' at line 1, column 3\n" } ∧
          (run .reject (typed lines ++ rest)).status = (run .reject rest).status := by
  intro lines last
  have oneLine : ∀ line ∈ lines, Byte.lineFeed ∉ line := by decide +kernel
  have stay : ∀ line ∈ lines, (InputLine.complete line).Stays := by decide +kernel
  have ends : ¬(InputLine.complete last).Stays := by decide +kernel
  rcases run_turn_by_turn .reject oneLine stay with ⟨goesOn, _, _, stops, _⟩
  refine ⟨fun line member => ⟨oneLine line member, stay line member⟩, ends, ?_⟩
  intro rest
  rcases goesOn rest with ⟨own, _, further⟩
  have nothingBehind := (stops last (by decide +kernel) ends rest []).1
  constructor
  · apply nothingBehind.trans
    decide +kernel
  · rw [further]

end Session

end MonkeyLexis
