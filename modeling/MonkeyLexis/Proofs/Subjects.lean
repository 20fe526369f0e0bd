import MonkeyLexis.Proofs.Display
import MonkeyLexis.Proofs.Requests

/-!
# Listing what a command line names

A command line may name code or a file, and then all is listed or nothing. The listing fails where
the file is not there or cannot be read, and where illegal characters are refused and there is one.
A run that fails so writes one message. It does not write the lines for what stands before the
character, and it does not go on to a session.

The scanner itself stops at the illegal character, so the tokens before it exist. They are dropped
together with the result that is an error, before anything is written.
-/

namespace MonkeyLexis

/-! ### Listings -/

theorem listing_reject_of_legal {source : List Byte}
    (legal : ∀ byte ∈ source, byte.isLegal = true) :
    listing source .reject = .ok (Token.displayAll (tokensOf source)) := by
  rw [listing, IllegalPolicy.result_scan_reject, legalTokensOf_of_legal legal]
  rfl

theorem listing_reject_of_illegal {front : List Byte} {byte : Byte} (back : List Byte)
    (legal : ∀ other ∈ front, other.isLegal = true) (illegal : byte.isLegal = false) :
    listing (front ++ byte :: back) .reject = .error (.behind front byte) := by
  rw [listing, IllegalPolicy.result_scan_reject, legalTokensOf_of_illegal back legal illegal]
  rfl

/-- All tokens are listed, or else an illegal character is refused. -/
theorem listing_cases (source : List Byte) (policy : IllegalPolicy) :
    (listing source policy = .ok (Token.displayAll (tokensOf source)) ∧
        (policy = .reject → ∀ byte ∈ source, byte.isLegal = true)) ∨
      policy = .reject ∧ ∃ front byte back, source = front ++ byte :: back ∧
        (∀ other ∈ front, other.isLegal = true) ∧ byte.isLegal = false ∧
        listing source policy = .error (.behind front byte) := by
  cases policy with
  | report => exact Or.inl ⟨listing_report source, nofun⟩
  | reject =>
      rcases legal_or_exists_split source with legal | ⟨front, byte, back, rfl, legal, illegal⟩
      · exact Or.inl ⟨listing_reject_of_legal legal, fun _ => legal⟩
      · refine Or.inr ⟨rfl, front, byte, back, rfl, legal, illegal, ?_⟩
        exact listing_reject_of_illegal back legal illegal

namespace CommandLine

namespace Subject

/-- The bytes that the subject stands for, if they can be had. -/
def source? (files : FileSystem) : Subject → Option (List Byte)
  | code source => some (Text.encode source)
  | file path =>
      match files path with
      | .contents bytes => some bytes
      | .missing | .unreadable _ => none

/-- Why a subject is not listed, with the message that tells so. -/
inductive Fails (files : FileSystem) (policy : IllegalPolicy) : Subject → String → Prop where
  | missing {path : String} (absent : files path = .missing) :
      Fails files policy (.file path) ("File not found: " ++ path)
  | unreadable {path reason : String} (found : files path = .unreadable reason) :
      Fails files policy (.file path) ("Failed to read file: " ++ reason)
  | illegalInCode {source : String} {front back : List Byte} {byte : Byte}
      (refused : policy = .reject) (split : Text.encode source = front ++ byte :: back)
      (legal : ∀ other ∈ front, other.isLegal = true) (illegal : byte.isLegal = false) :
      Fails files policy (.code source) (IllegalCharacter.behind front byte).message
  | illegalInFile {path : String} {front back : List Byte} {byte : Byte}
      (refused : policy = .reject) (found : files path = .contents (front ++ byte :: back))
      (legal : ∀ other ∈ front, other.isLegal = true) (illegal : byte.isLegal = false) :
      Fails files policy (.file path)
        ("Error in " ++ path ++ ": " ++ (IllegalCharacter.behind front byte).message)

variable {subject : Subject} {files : FileSystem} {policy : IllegalPolicy}

theorem listing_of_fails {message : String} (fails : subject.Fails files policy message) :
    ∃ error : SubjectError, subject.listing files policy = .error error ∧
      error.message = message := by
  cases fails with
  | @missing path absent => exact ⟨.missing path, by simp [listing, absent], rfl⟩
  | @unreadable path reason found => exact ⟨.unreadable reason, by simp [listing, found], rfl⟩
  | @illegalInCode source front back byte refused split legal illegal =>
      refine ⟨.illegalInCode (.behind front byte), ?_, rfl⟩
      rw [listing, refused, split, listing_reject_of_illegal back legal illegal]
      rfl
  | @illegalInFile path front back byte refused found legal illegal =>
      refine ⟨.illegalInFile path (.behind front byte), ?_, rfl⟩
      simp only [listing, refused, found, listing_reject_of_illegal back legal illegal]
      rfl

/-- A subject is listed whole, or there is a reason why not. -/
theorem listing_or_fails (subject : Subject) (files : FileSystem) (policy : IllegalPolicy) :
    (∃ source, subject.source? files = some source ∧
        (policy = .reject → ∀ byte ∈ source, byte.isLegal = true) ∧
        subject.listing files policy = .ok (Token.displayAll (tokensOf source))) ∨
      ∃ message, subject.Fails files policy message := by
  cases subject with
  | code source =>
      rcases listing_cases (Text.encode source) policy with
        ⟨listed, legal⟩ | ⟨refused, front, byte, back, split, legal, illegal, _⟩
      · exact Or.inl ⟨_, rfl, legal, by simp [listing, listed, Except.mapError]⟩
      · exact Or.inr ⟨_, .illegalInCode refused split legal illegal⟩
  | file path =>
      cases found : files path with
      | missing => exact Or.inr ⟨_, .missing found⟩
      | unreadable reason => exact Or.inr ⟨_, .unreadable found⟩
      | contents bytes =>
          rcases listing_cases bytes policy with
            ⟨listed, legal⟩ | ⟨refused, front, byte, back, rfl, legal, illegal, _⟩
          · refine Or.inl ⟨bytes, ?_, legal, ?_⟩
            · simp [source?, found]
            · simp [listing, found, listed, Except.mapError]
          · exact Or.inr ⟨_, .illegalInFile refused found legal illegal⟩

/-- What has to be wrong for a subject not to be listed. -/
theorem exists_fails_iff :
    (∃ message, subject.Fails files policy message) ↔
      subject.source? files = none ∨
        policy = .reject ∧ ∃ source, subject.source? files = some source ∧
          ∃ byte ∈ source, byte.isLegal = false := by
  constructor
  · rintro ⟨message, fails⟩
    cases fails with
    | missing absent => exact Or.inl (by simp [source?, absent])
    | unreadable found => exact Or.inl (by simp [source?, found])
    | illegalInCode refused split legal illegal =>
        exact Or.inr ⟨refused, _, rfl, _, by simp [split], illegal⟩
    | @illegalInFile path front back byte refused found legal illegal =>
        refine Or.inr ⟨refused, front ++ byte :: back, ?_, byte, ?_, illegal⟩
        · simp [source?, found]
        · exact List.mem_append_cons_self
  · intro wrong
    rcases listing_or_fails subject files policy with ⟨source, isSource, legal, _⟩ | fails
    · rcases wrong with nothing | ⟨refused, other, isOther, byte, member, illegal⟩
      · rw [isSource] at nothing
        contradiction
      · rcases Option.some.inj (isSource.symm.trans isOther) with rfl
        rw [legal refused byte member] at illegal
        contradiction
    · exact fails

end Subject

namespace Request

/-- The settings of a command line that names something to be listed. -/
theorem exists_settings_of_list {arguments : List String} {subject : Subject}
    {policy : IllegalPolicy} {interactive : Bool}
    (asks : ofArguments arguments = .list subject policy interactive) :
    ∃ front before ending, arguments = front ++ ending ∧ Item.AreSettings front before ∧
      BeginsWithFile ending ∧
      (Settings.collect {} before).request ending.head? = .list subject policy interactive := by
  rcases Item.exists_decision (Item.isCut_ofArguments arguments) with
    ⟨front, before, rest, rfl, settings, decided⟩
  rcases decided with rfl | ⟨item, written, tail, rfl, isWritten, notSetting, isLast⟩
  · rw [ofArguments_append_ending settings beginsWithFile_nil] at asks
    exact ⟨front, before, [], rfl, settings, beginsWithFile_nil, asks⟩
  · cases item with
    | file path =>
        rcases isWritten with ⟨rfl, noDash⟩
        have file : BeginsWithFile ([path] ++ tail) := beginsWithFile_cons.mpr noDash
        rw [ofArguments_append_ending settings file] at asks
        exact ⟨front, before, [path] ++ tail, rfl, settings, file, asks⟩
    | strict => contradiction
    | interactive => contradiction
    | code source => contradiction
    | _ =>
        rw [ofArguments_append_written settings isWritten isLast] at asks
        contradiction

end Request

/-- What the settings and the file behind them say of a listing. -/
theorem Settings.request_eq_list_iff {settings : Settings} {path? : Option String}
    {subject : Subject} {policy : IllegalPolicy} {interactive : Bool} :
    settings.request path? = .list subject policy interactive ↔
      (settings.code?.map .code).or (path?.map .file) = some subject ∧
        settings.policy = policy ∧ settings.interactive = interactive := by
  rcases settings with ⟨_, _, code?⟩
  cases code? with
  | some source => simp [request]
  | none =>
      cases path? with
      | some path => simp [request]
      | none => simp [request]

/-- A command line that names something to be listed gets all of its tokens or one message. The
message is all that is written, whatever stands before the fault, and no session follows. -/
theorem list_all_or_nothing {arguments : List String} {subject : Subject}
    {policy : IllegalPolicy} {interactive : Bool}
    (asks : Request.ofArguments arguments = .list subject policy interactive)
    (files : FileSystem) :
    (∃ front before ending, arguments = front ++ ending ∧ Item.AreSettings front before ∧
      BeginsWithFile ending ∧
      ((lastCode? before).map .code).or (ending.head?.map .file) = some subject ∧
      (policy = .reject ↔ .strict ∈ before) ∧ (interactive = true ↔ .interactive ∈ before)) ∧
    ((∃ message, subject.Fails files policy message) ↔
      subject.source? files = none ∨
        policy = .reject ∧ ∃ source, subject.source? files = some source ∧
          ∃ byte ∈ source, byte.isLegal = false) ∧
    (∀ message, subject.Fails files policy message →
      let failed : Outcome :=
        { output := { stdout := "", stderr := "Error: " ++ message ++ "\n" }, status := .failure }
      (Request.ofArguments arguments).opening files = .finished failed ∧
        ∀ input, run arguments files input = failed) ∧
    ((¬∃ message, subject.Fails files policy message) →
      ∃ source, subject.source? files = some source ∧
        let lines := ((tokensOf source).filter fun token => !token.isEof).map Token.display
        let listed : Output :=
          { stdout := String.join (lines.map fun line => line ++ "\n"), stderr := "" }
        (∀ line ∈ lines, '\n' ∉ line.toList) ∧
        (Request.ofArguments arguments).opening files =
          (if interactive then .session listed policy
            else .finished { output := listed, status := .success }) ∧
        ∀ input,
          (∃ more, (run arguments files input).output.stdout = listed.stdout ++ more) ∧
          (interactive = false →
            run arguments files input = { output := listed, status := .success })) := by
  refine ⟨?_, Subject.exists_fails_iff, ?_, ?_⟩
  · rcases Request.exists_settings_of_list asks with
      ⟨front, before, ending, split, settings, file, isRequest⟩
    rcases Settings.request_eq_list_iff.mp isRequest with ⟨named, isPolicy, isInteractive⟩
    refine ⟨front, before, ending, split, settings, file, ?_, ?_, ?_⟩
    · simpa [Settings.collect] using named
    · simp [← isPolicy, Settings.collect]
    · simp [← isInteractive, Settings.collect]
  · intro message fails failed
    rcases Subject.listing_of_fails fails with ⟨error, notListed, rfl⟩
    have finished : (Request.ofArguments arguments).opening files = .finished failed := by
      simp only [asks, Request.opening, notListed]
      rfl
    exact ⟨finished, fun input => congrArg (Opening.outcome input) finished⟩
  · intro noFault
    rcases Subject.listing_or_fails subject files policy with
      ⟨source, isSource, _, isListed⟩ | fails
    · refine ⟨source, isSource, ?_⟩
      intro lines listed
      have opening : (Request.ofArguments arguments).opening files =
          if interactive then .session listed policy
            else .finished { output := listed, status := .success } := by
        simp only [asks, Request.opening, isListed]
        rfl
      refine ⟨?_, opening, ?_⟩
      · exact List.forall_mem_map.mpr fun token _ => token.lineFeed_not_mem_display
      · intro input
        rw [run, opening]
        cases interactive with
        | false => exact ⟨⟨"", String.append_empty.symm⟩, fun _ => rfl⟩
        | true =>
            refine ⟨⟨_, rfl⟩, ?_⟩
            intro impossible
            contradiction
    · exact absurd fails noFault

/-- A file whose second line is rejected, and code that is listed with the same character in it. -/
theorem list_nothing_of_second_line :
    let files : FileSystem := fun _ => .contents [61, 10, 64]
    run ["--strict", "-i", "x.monkey"] files [47] =
        { output :=
            { stdout := ""
              stderr := "Error: Error in x.monkey: Illegal character '@' at line 2, column 1\n" }
          status := .failure } ∧
      run ["-e", "=", "--eval", "== @", "x.monkey"] files [47] =
        { output := { stdout := "==(\"==\")\nILLEGAL(\"\")\n", stderr := "" }
          status := .success } := by
  intro files
  constructor
  · have asks : Request.ofArguments ["--strict", "-i", "x.monkey"] =
        .list (.file "x.monkey") .reject true := rfl
    have legal : ∀ other ∈ [(61 : Byte), 10], other.isLegal = true :=
      List.all_eq_true.mp (by decide)
    have fault : (Subject.file "x.monkey").Fails files .reject
        ("Error in x.monkey: " ++ (IllegalCharacter.behind [61, 10] 64).message) :=
      .illegalInFile rfl rfl legal (by decide)
    rcases list_all_or_nothing asks files with ⟨_, _, fails, _⟩
    exact ((fails _ fault).2 [47]).trans (by decide +kernel)
  · have asks : Request.ofArguments ["-e", "=", "--eval", "== @", "x.monkey"] =
        .list (.code "== @") .report false := rfl
    rcases list_all_or_nothing asks files with ⟨_, faults, _, succeeds⟩
    have noFault : ¬∃ message, (Subject.code "== @").Fails files .report message := by
      rw [faults]
      simp [Subject.source?]
    rcases succeeds noFault with ⟨source, isSource, _, _, ran⟩
    rcases Option.some.inj isSource with rfl
    exact ((ran [47]).2 rfl).trans (by decide +kernel)

end CommandLine

end MonkeyLexis
