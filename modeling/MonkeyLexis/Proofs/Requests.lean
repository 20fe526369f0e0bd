import Mathlib.Data.List.Basic
import MonkeyLexis.CommandLine.Program

/-!
# Which arguments matter

Arguments are cut into items from left to right. An item is one argument, except that the option for
code takes the next one along, even if that looks like an option. The first item that is no setting
decides, and nothing behind it is looked at.

Of the settings in front of that item little is kept: whether illegal characters are refused,
whether a session is asked for, and the code that was given last. All else about them, such as their
order and how often they are given, makes no difference.
-/

namespace MonkeyLexis.CommandLine

namespace Item

/-- The arguments that are options. -/
def optionNames : List String :=
  ["-h", "--help", "-v", "--version", "-e", "--eval", "-i", "--interactive", "--strict"]

/-- Whether the item is written as `arguments`. -/
def IsWrittenAs (arguments : List String) : Item → Prop
  | help => arguments = ["-h"] ∨ arguments = ["--help"]
  | version => arguments = ["-v"] ∨ arguments = ["--version"]
  | strict => arguments = ["--strict"]
  | interactive => arguments = ["-i"] ∨ arguments = ["--interactive"]
  | code source => arguments = ["-e", source] ∨ arguments = ["--eval", source]
  | missingCode => arguments = ["-e"] ∨ arguments = ["--eval"]
  | unknown option =>
      arguments = [option] ∧ option.toList.head? = some '-' ∧ option ∉ optionNames
  | file path => arguments = [path] ∧ path.toList.head? ≠ some '-'

/-- Whether more items count behind the item. -/
def isSetting : Item → Bool
  | strict | interactive | code _ => true
  | help | version | missingCode | unknown _ | file _ => false

/-- The code that the item gives. -/
def code? : Item → Option String
  | code source => some source
  | _ => none

/-- Arguments and the items that they are cut into. Without an argument behind it the option for
code is an item of its own, which is then the last one. -/
inductive IsCut : List String → List Item → Prop where
  | nil : IsCut [] []
  | cons {item : Item} {written rest : List String} {items : List Item}
      (isWritten : item.IsWrittenAs written) (isLast : item = missingCode → rest = [])
      (cut : IsCut rest items) : IsCut (written ++ rest) (item :: items)

/-- Arguments that are cut into settings, so that none of them decides. -/
structure AreSettings (arguments : List String) (items : List Item) : Prop where
  cut : IsCut arguments items
  all : ∀ item ∈ items, item.isSetting = true

/-- Whether the item decides when it is `written` in front of `tail`. -/
structure Decides (item : Item) (written tail : List String) : Prop where
  isWritten : item.IsWrittenAs written
  notSetting : item.isSetting = false
  isLast : item = missingCode → tail = []

theorem ne_missingCode_of_isSetting {item : Item} (setting : item.isSetting = true) :
    item ≠ missingCode := by
  rintro rfl
  contradiction

theorem ofArgument?_of_not_mem {argument : String} (unnamed : argument ∉ optionNames) :
    ofArgument? argument =
      some (if argument.toList.head? = some '-' then unknown argument else file argument) := by
  unfold ofArgument?
  split
  case h_10 =>
    cases argument.toList with
    | nil => rfl
    | cons first others =>
        by_cases dash : first = '-'
        · simp [dash]
        · simp [dash]
  all_goals exact absurd (by decide) unnamed

/-- Each name of an option is an item by itself, or it is one of the option for code. -/
theorem ofArgument?_of_mem {argument : String} (named : argument ∈ optionNames) :
    (∃ item, ofArgument? argument = some item ∧ item.IsWrittenAs [argument] ∧ item ≠ missingCode) ∨
      ofArgument? argument = none ∧ (argument = "-e" ∨ argument = "--eval") := by
  simp only [optionNames, List.mem_cons, List.not_mem_nil, or_false] at named
  rcases named with rfl | rfl | rfl | rfl | rfl | rfl | rfl | rfl | rfl
  · exact Or.inl ⟨help, rfl, Or.inl rfl, by simp⟩
  · exact Or.inl ⟨help, rfl, Or.inr rfl, by simp⟩
  · exact Or.inl ⟨version, rfl, Or.inl rfl, by simp⟩
  · exact Or.inl ⟨version, rfl, Or.inr rfl, by simp⟩
  · exact Or.inr ⟨rfl, Or.inl rfl⟩
  · exact Or.inr ⟨rfl, Or.inr rfl⟩
  · exact Or.inl ⟨interactive, rfl, Or.inl rfl, by simp⟩
  · exact Or.inl ⟨interactive, rfl, Or.inr rfl, by simp⟩
  · exact Or.inl ⟨strict, rfl, rfl, by simp⟩

/-! ### Cutting arguments into items -/

theorem ofArguments_append_of_isWrittenAs {item : Item} {written rest : List String}
    (isWritten : item.IsWrittenAs written) (isLast : item = missingCode → rest = []) :
    ofArguments (written ++ rest) = item :: ofArguments rest := by
  cases item with
  | help => rcases isWritten with rfl | rfl <;> rfl
  | version => rcases isWritten with rfl | rfl <;> rfl
  | strict =>
      rcases isWritten with rfl
      rfl
  | interactive => rcases isWritten with rfl | rfl <;> rfl
  | code source => rcases isWritten with rfl | rfl <;> rfl
  | missingCode =>
      rcases isLast rfl with rfl
      rcases isWritten with rfl | rfl <;> rfl
  | unknown option =>
      rcases isWritten with ⟨rfl, dash, unnamed⟩
      have found := ofArgument?_of_not_mem unnamed
      rw [if_pos dash] at found
      simp [ofArguments, found]
  | file path =>
      rcases isWritten with ⟨rfl, noDash⟩
      have unnamed : path ∉ optionNames := by
        intro named
        have dashes : ∀ name ∈ optionNames, name.toList.head? = some '-' := by decide
        exact noDash (dashes path named)
      have found := ofArgument?_of_not_mem unnamed
      rw [if_neg noDash] at found
      simp [ofArguments, found]

theorem isWrittenAs_of_ofArgument? {argument : String} {item : Item}
    (found : ofArgument? argument = some item) :
    item.IsWrittenAs [argument] ∧ item ≠ missingCode := by
  by_cases named : argument ∈ optionNames
  · rcases ofArgument?_of_mem named with ⟨other, isOther, written⟩ | ⟨nothing, _⟩
    · rcases Option.some.inj (found.symm.trans isOther) with rfl
      exact written
    · rw [found] at nothing
      contradiction
  · rw [ofArgument?_of_not_mem named, Option.some_inj] at found
    subst found
    split
    · next dash => exact ⟨⟨rfl, dash, named⟩, by simp⟩
    · next noDash => exact ⟨⟨rfl, noDash⟩, by simp⟩

theorem eq_of_ofArgument?_eq_none {argument : String} (nothing : ofArgument? argument = none) :
    argument = "-e" ∨ argument = "--eval" := by
  by_cases named : argument ∈ optionNames
  · rcases ofArgument?_of_mem named with ⟨other, isOther, _⟩ | ⟨_, isName⟩
    · rw [nothing] at isOther
      contradiction
    · exact isName
  · rw [ofArgument?_of_not_mem named] at nothing
    contradiction

theorem isCut_ofArguments (arguments : List String) : IsCut arguments (ofArguments arguments) := by
  fun_induction ofArguments arguments with
  | case1 => exact .nil
  | case2 argument rest item found ih =>
      rcases isWrittenAs_of_ofArgument? found with ⟨isWritten, notLast⟩
      exact .cons isWritten (fun isLast => absurd isLast notLast) ih
  | case3 argument source rest nothing ih =>
      have isWritten : (code source).IsWrittenAs [argument, source] := by
        simpa [IsWrittenAs] using eq_of_ofArgument?_eq_none nothing
      exact .cons isWritten nofun ih
  | case4 argument nothing =>
      have isWritten : missingCode.IsWrittenAs [argument] := by
        simpa [IsWrittenAs] using eq_of_ofArgument?_eq_none nothing
      exact .cons isWritten (fun _ => rfl) .nil

/-- Arguments are cut into items in one way only. -/
theorem isCut_iff {arguments : List String} {items : List Item} :
    IsCut arguments items ↔ items = ofArguments arguments := by
  constructor
  · intro cut
    induction cut with
    | nil => rfl
    | cons isWritten isLast _ ih =>
        rw [ofArguments_append_of_isWrittenAs isWritten isLast, ih]
  · rintro rfl
    exact isCut_ofArguments arguments

theorem AreSettings.nil : AreSettings [] [] := ⟨.nil, List.forall_mem_nil _⟩

theorem AreSettings.cons {item : Item} {written rest : List String} {items : List Item}
    (isWritten : item.IsWrittenAs written) (setting : item.isSetting = true)
    (settings : AreSettings rest items) : AreSettings (written ++ rest) (item :: items) where
  cut := .cons isWritten
    (fun isLast => absurd isLast (ne_missingCode_of_isSetting setting)) settings.cut
  all := List.forall_mem_cons.mpr ⟨setting, settings.all⟩

theorem ofArguments_append {front : List String} {before : List Item}
    (settings : AreSettings front before) (rest : List String) :
    ofArguments (front ++ rest) = before ++ ofArguments rest := by
  rcases settings with ⟨cut, all⟩
  induction cut with
  | nil => rfl
  | cons isWritten _ _ ih =>
      rw [List.forall_mem_cons] at all
      have notLast := ne_missingCode_of_isSetting all.1
      rw [List.append_assoc,
        ofArguments_append_of_isWrittenAs isWritten fun isLast => absurd isLast notLast,
        ih all.2, List.cons_append]

/-- Settings come first, and behind them there is nothing or an item that decides. -/
theorem exists_decision {arguments : List String} {items : List Item}
    (cut : IsCut arguments items) :
    ∃ front before rest, arguments = front ++ rest ∧ AreSettings front before ∧
      (rest = [] ∨ ∃ (item : Item) (written tail : List String), rest = written ++ tail ∧
        item.Decides written tail) := by
  induction cut with
  | nil => exact ⟨[], [], [], rfl, .nil, Or.inl rfl⟩
  | @cons item written tail _ isWritten isLast _ ih =>
      by_cases setting : item.isSetting = true
      · rcases ih with ⟨front, before, rest, rfl, settings, decided⟩
        exact ⟨written ++ front, item :: before, rest, (List.append_assoc _ _ _).symm,
          settings.cons isWritten setting, decided⟩
      · have notSetting : item.isSetting = false := by simpa using setting
        refine ⟨[], [], written ++ tail, rfl, .nil, Or.inr ?_⟩
        exact ⟨item, written, tail, rfl, isWritten, notSetting, isLast⟩

end Item

/-! ### What is kept of the settings -/

/-- The code that is given last among `items`. -/
def lastCode? (items : List Item) : Option String :=
  (items.filterMap Item.code?).getLast?

/-- The settings when `items` have changed them. -/
def Settings.collect (settings : Settings) (items : List Item) : Settings where
  policy := if .strict ∈ items then .reject else settings.policy
  interactive := settings.interactive || decide (.interactive ∈ items)
  code? := (lastCode? items).or settings.code?

theorem Request.ofItems_append (settings : Settings) {before : List Item}
    (areSettings : ∀ item ∈ before, item.isSetting = true) (rest : List Item) :
    ofItems settings (before ++ rest) = ofItems (settings.collect before) rest := by
  induction before generalizing settings with
  | nil => simp [Settings.collect, lastCode?]
  | cons item before ih =>
      rw [List.forall_mem_cons] at areSettings
      cases item with
      | strict =>
          rw [List.cons_append, ofItems, ih _ areSettings.2]
          simp [Settings.collect, lastCode?, Item.code?]
      | interactive =>
          rw [List.cons_append, ofItems, ih _ areSettings.2]
          simp [Settings.collect, lastCode?, Item.code?]
      | code source =>
          rw [List.cons_append, ofItems, ih _ areSettings.2]
          simp [Settings.collect, lastCode?, Item.code?, List.getLast?_cons]
      | _ => exact absurd areSettings.1 Bool.false_ne_true

/-- The outcome of a run that an item decides by itself. -/
def Item.answer? : Item → Option Outcome
  | help => some (.success (.text usage))
  | version => some (.success (.lines ["Monkey " ++ MonkeyLexis.version]))
  | missingCode => some (.failure "-e requires an argument")
  | unknown option => some (.failure ("Unknown option: " ++ option))
  | strict | interactive | code _ | file _ => none

/-- Two command lines between which no difference can be seen: they ask for the same file, do the
same before they read standard input, read it or leave it alone, and have the same outcome. -/
structure Alike (arguments other : List String) : Prop where
  path?_eq : (Request.ofArguments arguments).path? = (Request.ofArguments other).path?
  opening_eq : ∀ files,
    (Request.ofArguments arguments).opening files = (Request.ofArguments other).opening files
  run_eq : ∀ files input, run arguments files input = run other files input

theorem Alike.trans {arguments other third : List String} (first : Alike arguments other)
    (second : Alike other third) : Alike arguments third where
  path?_eq := first.path?_eq.trans second.path?_eq
  opening_eq files := (first.opening_eq files).trans (second.opening_eq files)
  run_eq files input := (first.run_eq files input).trans (second.run_eq files input)

theorem alike_of_request_eq {arguments other : List String}
    (same : Request.ofArguments arguments = Request.ofArguments other) : Alike arguments other where
  path?_eq := congrArg Request.path? same
  opening_eq files := congrArg (Request.opening files) same
  run_eq files input := congrArg (fun request => (request.opening files).outcome input) same

/-- Whether arguments behind the settings are none at all or begin with a file. -/
def BeginsWithFile (ending : List String) : Prop :=
  ∀ path ∈ ending.head?, path.toList.head? ≠ some '-'

@[simp]
theorem beginsWithFile_nil : BeginsWithFile [] := nofun

@[simp]
theorem beginsWithFile_cons {path : String} {rest : List String} :
    BeginsWithFile (path :: rest) ↔ path.toList.head? ≠ some '-' := by
  simp [BeginsWithFile]

section

variable {front : List String} {before : List Item} (settings : Item.AreSettings front before)

include settings

theorem Request.ofArguments_append (rest : List String) :
    ofArguments (front ++ rest) =
      ofItems (Settings.collect {} before) (Item.ofArguments rest) := by
  rw [ofArguments, Item.ofArguments_append settings, ofItems_append _ settings.all]

theorem Request.ofArguments_append_written {item : Item} {written rest : List String}
    (isWritten : item.IsWrittenAs written) (isLast : item = .missingCode → rest = []) :
    ofArguments (front ++ (written ++ rest)) =
      ofItems (Settings.collect {} before) (item :: Item.ofArguments rest) := by
  rw [ofArguments_append settings, Item.ofArguments_append_of_isWrittenAs isWritten isLast]

/-- Without an item that decides otherwise, the request is that of the settings. -/
theorem Request.ofArguments_append_ending {ending : List String} (file : BeginsWithFile ending) :
    ofArguments (front ++ ending) = (Settings.collect {} before).request ending.head? := by
  cases ending with
  | nil => exact ofArguments_append settings []
  | cons path rest =>
      have isWritten : (Item.file path).IsWrittenAs [path] := ⟨rfl, beginsWithFile_cons.mp file⟩
      exact ofArguments_append_written settings isWritten nofun

/-- Nothing behind the item that decides is looked at. -/
theorem alike_of_decides {item : Item} {written rest : List String}
    (decides : item.Decides written rest) (goesOn : item ≠ .missingCode) (other : List String) :
    Alike (front ++ (written ++ rest)) (front ++ (written ++ other)) := by
  rcases decides with ⟨isWritten, notSetting, isLast⟩
  apply alike_of_request_eq
  rw [Request.ofArguments_append_written settings isWritten isLast,
    Request.ofArguments_append_written settings isWritten fun isLast => absurd isLast goesOn]
  cases item with
  | missingCode => contradiction
  | strict => contradiction
  | interactive => contradiction
  | code source => contradiction
  | _ => rfl

/-- Where an item decides by itself, neither a file nor standard input is looked at. -/
theorem opening_of_answer? {item : Item} {written rest : List String} {outcome : Outcome}
    (decides : item.Decides written rest) (answer : item.answer? = some outcome) :
    (Request.ofArguments (front ++ (written ++ rest))).path? = none ∧
      ∀ files, (Request.ofArguments (front ++ (written ++ rest))).opening files =
        .finished outcome := by
  rw [Request.ofArguments_append_written settings decides.isWritten decides.isLast]
  cases item with
  | strict => contradiction
  | interactive => contradiction
  | code source => contradiction
  | file path => contradiction
  | _ =>
      rcases Option.some.inj answer with rfl
      exact ⟨rfl, fun _ => rfl⟩

end

theorem Settings.collect_congr (settings : Settings) {before other : List Item}
    (strict : .strict ∈ before ↔ .strict ∈ other)
    (interactive : .interactive ∈ before ↔ .interactive ∈ other)
    (code : lastCode? before = lastCode? other) :
    settings.collect before = settings.collect other := by
  simp only [collect, strict, interactive, code]

section

variable {front otherFront : List String} {before other : List Item}
  (settings : Item.AreSettings front before)

include settings

/-- Settings that agree in what is kept of them have the same effect. -/
theorem alike_of_settings (otherSettings : Item.AreSettings otherFront other)
    (strict : .strict ∈ before ↔ .strict ∈ other)
    (interactive : .interactive ∈ before ↔ .interactive ∈ other)
    (code : lastCode? before = lastCode? other) (ending : List String) :
    Alike (front ++ ending) (otherFront ++ ending) := by
  apply alike_of_request_eq
  rw [Request.ofArguments_append settings, Settings.collect_congr {} strict interactive code,
    Request.ofArguments_append otherSettings]

/-- The order of settings counts among those for code only. -/
theorem alike_of_perm (otherCut : Item.IsCut otherFront other) (perm : before.Perm other)
    (codes : before.filterMap Item.code? = other.filterMap Item.code?) (ending : List String) :
    Alike (front ++ ending) (otherFront ++ ending) := by
  have otherSettings : Item.AreSettings otherFront other :=
    { cut := otherCut
      all := fun item member => settings.all item (perm.mem_iff.mpr member) }
  apply alike_of_settings settings otherSettings
  · exact perm.mem_iff
  · exact perm.mem_iff
  · exact congrArg List.getLast? codes

/-- A flag has no more effect if it is given again. -/
theorem alike_of_repeated {flag : Item} (isFlag : flag ∈ [Item.strict, .interactive])
    (given : flag ∈ before) {first last : List Item} (split : before = first ++ last)
    (otherCut : Item.IsCut otherFront (first ++ flag :: last)) (ending : List String) :
    Alike (front ++ ending) (otherFront ++ ending) := by
  have sameMembers : ∀ item, item ∈ before ↔ item ∈ first ++ flag :: last := by
    intro item
    have again : item = flag → item ∈ first ++ last := fun same => same ▸ split ▸ given
    simp only [split, List.mem_append, List.mem_cons] at again ⊢
    tauto
  have noCode : flag.code? = none := by
    rcases List.mem_pair.mp isFlag with rfl | rfl <;> rfl
  have otherSettings : Item.AreSettings otherFront (first ++ flag :: last) :=
    { cut := otherCut
      all := fun item member => settings.all item ((sameMembers item).mpr member) }
  apply alike_of_settings settings otherSettings
  · exact sameMembers _
  · exact sameMembers _
  · simp [lastCode?, split, noCode]

theorem Request.ofArguments_of_code {source : String} (code : lastCode? before = some source)
    {ending : List String} (file : BeginsWithFile ending) :
    ofArguments (front ++ ending) =
      .list (.code source) (if .strict ∈ before then .reject else .report)
        (decide (.interactive ∈ before)) := by
  rw [ofArguments_append_ending settings file]
  simp [Settings.collect, Settings.request, code]

/-- Where code is given, a file makes no difference. -/
theorem alike_of_code {source : String} (code : lastCode? before = some source)
    {ending otherEnding : List String} (file : BeginsWithFile ending)
    (otherFile : BeginsWithFile otherEnding) :
    Alike (front ++ ending) (front ++ otherEnding) := by
  apply alike_of_request_eq
  rw [Request.ofArguments_of_code settings code file,
    Request.ofArguments_of_code settings code otherFile]

/-- Wherever illegal characters are refused, they are in the code and in the session behind it. -/
theorem opening_of_strict {source : String} (code : lastCode? before = some source)
    {ending : List String} (file : BeginsWithFile ending) (strict : .strict ∈ before)
    (files : FileSystem) :
    (Request.ofArguments (front ++ ending)).opening files =
      match listing (Text.encode source) .reject with
      | .error error => .finished (.failure error.message)
      | .ok lines =>
          if .interactive ∈ before then .session (.lines lines) .reject
          else .finished (.success (.lines lines)) := by
  rw [Request.ofArguments_of_code settings code file, if_pos strict, Request.opening,
    Subject.listing]
  cases listing (Text.encode source) .reject with
  | error error => rfl
  | ok lines => simp [Except.mapError]

end

/-- Every argument list is cut into items in one way: settings, and then nothing or an item that
decides. Behind that item nothing counts, and where it gives the answer by itself, nothing before it
does either. Otherwise the settings count as a whole: whether the flags are among them and which
code is the last. -/
theorem alike_by_items {front : List String} {before : List Item}
    (settings : Item.AreSettings front before) :
    (∀ arguments,
      (∀ items, Item.IsCut arguments items ↔ items = Item.ofArguments arguments) ∧
      ∃ first items rest, arguments = first ++ rest ∧ Item.AreSettings first items ∧
        (rest = [] ∨ ∃ (item : Item) (written tail : List String), rest = written ++ tail ∧
          item.Decides written tail)) ∧
    (∀ (item : Item) (written rest : List String), item.Decides written rest →
      let arguments := front ++ (written ++ rest)
      (item ≠ .missingCode → ∀ other, Alike arguments (front ++ (written ++ other))) ∧
      ∀ outcome, item.answer? = some outcome →
        (Request.ofArguments arguments).path? = none ∧
        ∀ files, (Request.ofArguments arguments).opening files = .finished outcome ∧
          ∀ input, run arguments files input = outcome) ∧
    ∀ ending, BeginsWithFile ending →
      let arguments := front ++ ending
      Request.ofArguments arguments =
        Settings.request
          { policy := if .strict ∈ before then .reject else .report
            interactive := decide (.interactive ∈ before)
            code? := lastCode? before } ending.head? ∧
      (∀ otherFront other, Item.AreSettings otherFront other →
        (.strict ∈ before ↔ .strict ∈ other) → (.interactive ∈ before ↔ .interactive ∈ other) →
        lastCode? before = lastCode? other → Alike arguments (otherFront ++ ending)) ∧
      (∀ otherFront other, Item.IsCut otherFront other → before.Perm other →
        before.filterMap Item.code? = other.filterMap Item.code? →
        Alike arguments (otherFront ++ ending)) ∧
      (∀ flag ∈ [Item.strict, .interactive], flag ∈ before →
        ∀ first last otherFront, before = first ++ last →
          Item.IsCut otherFront (first ++ flag :: last) →
          Alike arguments (otherFront ++ ending)) ∧
      ∀ source, lastCode? before = some source →
        (Request.ofArguments arguments).path? = none ∧
        (∀ otherEnding, BeginsWithFile otherEnding → Alike arguments (front ++ otherEnding)) ∧
        (.strict ∈ before → ∀ files,
          (Request.ofArguments arguments).opening files =
            match listing (Text.encode source) .reject with
            | .error error => .finished (.failure error.message)
            | .ok lines =>
                if .interactive ∈ before then .session (.lines lines) .reject
                else .finished (.success (.lines lines))) := by
  refine ⟨?_, ?_, ?_⟩
  · intro arguments
    exact ⟨fun items => Item.isCut_iff, Item.exists_decision (Item.isCut_ofArguments arguments)⟩
  · intro item written rest decides arguments
    refine ⟨fun goesOn other => alike_of_decides settings decides goesOn other, ?_⟩
    intro outcome answer
    rcases opening_of_answer? settings decides answer with ⟨noPath, finished⟩
    refine ⟨noPath, fun files => ⟨finished files, fun input => ?_⟩⟩
    exact congrArg (Opening.outcome input) (finished files)
  · intro ending file arguments
    refine ⟨?_, ?_, ?_, ?_, ?_⟩
    · apply (Request.ofArguments_append_ending settings file).trans
      simp [Settings.collect]
    · intro otherFront other otherSettings strict interactive code
      exact alike_of_settings settings otherSettings strict interactive code ending
    · intro otherFront other otherCut perm codes
      exact alike_of_perm settings otherCut perm codes ending
    · intro flag isFlag given first last otherFront split otherCut
      exact alike_of_repeated settings isFlag given split otherCut ending
    · intro source code
      refine ⟨?_, ?_, ?_⟩
      · exact congrArg Request.path? (Request.ofArguments_of_code settings code file)
      · intro otherEnding otherFile
        exact alike_of_code settings code file otherFile
      · intro strict files
        exact opening_of_strict settings code file strict files

/-- An option as code, a flag behind it, and a file that does not count, against the same with the
flag in front and twice. -/
theorem alike_of_late_flag :
    Alike ["-e", "let", "--eval", "-v", "--strict", "x.monkey", "--help"]
      ["--strict", "-e", "let", "--strict", "-e", "-v"] := by
  have settings : Item.AreSettings ["-e", "let", "--eval", "-v", "--strict"]
      [.code "let", .code "-v", .strict] := ⟨Item.isCut_iff.mpr rfl, by decide⟩
  have otherSettings : Item.AreSettings ["--strict", "-e", "let", "--strict", "-e", "-v"]
      [.strict, .code "let", .strict, .code "-v"] := ⟨Item.isCut_iff.mpr rfl, by decide⟩
  have file : BeginsWithFile ["x.monkey", "--help"] := beginsWithFile_cons.mpr (by decide)
  rcases alike_by_items settings with ⟨_, _, undecided⟩
  rcases undecided ["x.monkey", "--help"] file with ⟨_, _, _, _, byCode⟩
  rcases byCode "-v" rfl with ⟨_, withoutFile, _⟩
  rcases undecided [] beginsWithFile_nil with ⟨_, bySettings, _⟩
  apply Alike.trans (withoutFile [] beginsWithFile_nil)
  exact bySettings _ _ otherSettings (by decide) (by decide) rfl

end MonkeyLexis.CommandLine
