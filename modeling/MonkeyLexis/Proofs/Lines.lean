import Mathlib.Algebra.GroupWithZero.Nat
import Mathlib.Data.List.Basic
import MonkeyLexis.Proofs.Concatenation
import MonkeyLexis.Proofs.Legality

/-!
# Line by line

No lexeme holds a line feed or grows by one, so a source can be cut at its line feeds and scanned
line by line. The tokens of the whole are those of the lines, each moved to the offset and to the
number of its line, and the whole is rejected with the error of the first line that is rejected.

Statements about the lines of a source are proved by `induction_on_lines`: what holds of a text
without a line feed and is kept when a line is put in front holds of every source.
-/

namespace MonkeyLexis

/-- What holds of every single line, and of lines once it holds of those behind the first one, holds
of every text. -/
@[elab_as_elim]
theorem induction_on_lines {Letter : Type} [DecidableEq Letter] (lineEnd : Letter)
    {motive : List Letter → Prop} (text : List Letter)
    (lastLine : ∀ line, lineEnd ∉ line → motive line)
    (moreLines : ∀ line rest, lineEnd ∉ line → motive rest →
      motive (line ++ lineEnd :: rest)) : motive text := by
  by_cases ended : lineEnd ∈ text
  · rcases List.eq_append_cons_of_mem ended with ⟨line, rest, rfl, oneLine⟩
    exact moreLines line rest oneLine (induction_on_lines lineEnd rest lastLine moreLines)
  · exact lastLine text ended
termination_by text.length

theorem lineFeed_not_mem_of_mem_splitOn {source line : List Byte}
    (member : line ∈ source.splitOn Byte.lineFeed) : Byte.lineFeed ∉ line := by
  induction source using induction_on_lines Byte.lineFeed with
  | lastLine only oneLine =>
      rw [List.splitOn_eq_singleton oneLine, List.mem_singleton] at member
      rwa [member]
  | moreLines first rest oneLine ih =>
      rw [List.splitOn_append_cons_self_of_not_mem oneLine, List.mem_cons] at member
      rcases member with rfl | later
      · exact oneLine
      · exact ih later

/-! ### Places on lines -/

theorem lastLineStart_append_cons (front back : List Byte) :
    lastLineStart (front ++ Byte.lineFeed :: back) = front.length + 1 + lastLineStart back := by
  have moved : back.findIdxs (fun byte => byte = Byte.lineFeed) (front.length + 1) =
      (back.findIdxs fun byte => byte = Byte.lineFeed).map (· + (front.length + 1)) :=
    List.findIdxs_start
  simp only [lastLineStart, List.findIdxs_append, List.findIdxs_cons, decide_true, if_true,
    Nat.zero_add, moved, List.getLast?_append, List.getLast?_cons, List.getLast?_map]
  cases (back.findIdxs fun byte => byte = Byte.lineFeed).getLast? with
  | none => simp
  | some index => simp [Nat.add_comm, Nat.add_left_comm]

theorem placeBehind_of_oneLine {line : List Byte} (oneLine : Byte.lineFeed ∉ line) :
    placeBehind line =
      { offset := line.length, lineStart := 0, line := 0, column := line.length } := by
  simp [placeBehind, lastLineStart_of_not_mem oneLine, List.count_eq_zero.mpr oneLine]

namespace Position

/-- The place on the line that starts at offset `start` and has the given number, for a position in
the text of the line. -/
def onLine (start number : Nat) (position : Position) : Position :=
  { offset := start + position.offset, lineStart := start, line := number,
    column := position.column }

/-- Where the line behind `line` starts. -/
def startBehind (line : List Byte) : Position :=
  { offset := line.length + 1, lineStart := line.length + 1, line := 1, column := 0 }

theorem passAll_line {line : List Byte} (oneLine : Byte.lineFeed ∉ line) :
    (origin.passAll line).passAll [Byte.lineFeed] = startBehind line := by
  rw [passAll_eq_advance _ oneLine]
  simp [pass, advance, origin, startBehind]

@[simp]
theorem startBehind_behind_origin (line : List Byte) :
    (startBehind line).behind origin = startBehind line := by
  simp [behind, startBehind, origin]

theorem behind_onLine {start number : Nat} (firstLine : number = 0 → start = 0)
    (line : List Byte) (position : Position) :
    (startBehind line).behind (position.onLine start number) =
      position.onLine (line.length + 1 + start) (number + 1) := by
  by_cases zero : number = 0
  · simp [behind, onLine, startBehind, zero, firstLine zero]
  · simp [behind, onLine, startBehind, zero, Nat.add_assoc, Nat.add_comm number]

theorem LiesIn.firstLine {line : List Byte} {position : Position} (lies : position.LiesIn line)
    (oneLine : Byte.lineFeed ∉ line) : position.lineStart = 0 ∧ position.line = 0 := by
  constructor
  · rcases lies.behind_lineFeed with atStart | lineFeed
    · exact atStart
    · exact absurd (List.mem_of_getElem? lineFeed) oneLine
  · rw [lies.line_eq, List.count_eq_zero]
    exact fun taken => oneLine (List.mem_of_mem_take taken)

theorem onLine_zero {position : Position}
    (firstLine : position.lineStart = 0 ∧ position.line = 0) : position.onLine 0 0 = position := by
  cases position
  simp_all [onLine]

end Position

def Token.onLine (start number : Nat) (token : Token) : Token :=
  { token with start := token.start.onLine start number, stop := token.stop.onLine start number }

/-- The offset at which the line with the given number starts, counted from zero. -/
def offsetOfLine (lines : List (List Byte)) (number : Nat) : Nat :=
  ((lines.take number).map fun line => line.length + 1).sum

@[simp]
theorem offsetOfLine_cons_succ (line : List Byte) (lines : List (List Byte)) (number : Nat) :
    offsetOfLine (line :: lines) (number + 1) = line.length + 1 + offsetOfLine lines number := by
  simp [offsetOfLine]

/-! ### Tokens on lines -/

/-- The tokens of a line and of what follows it, each for itself, are those of the whole. -/
theorem tokensOf_line_append {line : List Byte} (oneLine : Byte.lineFeed ∉ line)
    (rest : List Byte) :
    tokensOf (line ++ Byte.lineFeed :: rest) =
      (tokensOf line).dropLast ++
        (tokensOf rest).map (Token.behind (Position.startBehind line)) := by
  rcases Layout.exists_isProper line with ⟨front, proper, rfl⟩
  rcases Layout.exists_isProper rest with ⟨back, properBack, rfl⟩
  have blank : (Layout.blanks [Byte.lineFeed]).IsProper := by
    intro byte member
    rcases List.mem_singleton.mp member with rfl
    decide
  have behindLine : ((Layout.blanks [Byte.lineFeed]).append back).IsProper :=
    Layout.isProper_append blank properBack (by simp [Layout.openEnd?])
  have ends : ∀ last ∈ front.openEnd?,
      last.EndsBefore ((Layout.blanks [Byte.lineFeed]).append back).bytes := by
    intro last _
    apply last.endsBefore_of_isBlank
    intro next head
    rw [Layout.bytes_append, Layout.bytes_blanks, List.singleton_append, List.head?_cons] at head
    rw [← Option.some.inj head]
    decide
  have scanned := tokensOf_of_isProper (Layout.isProper_append proper behindLine ends)
  rw [Layout.bytes_append, Layout.bytes_append, Layout.bytes_blanks, List.singleton_append,
    Layout.tokensFrom_append, Layout.tokensFrom_append, Layout.bytes_blanks,
    Position.passAll_line oneLine] at scanned
  rw [scanned, tokensOf_of_isProper proper, tokensOf_of_isProper properBack,
    Layout.dropLast_tokensFrom, ← Layout.tokensFrom_behind, Position.startBehind_behind_origin]
  rfl

theorem firstLine_of_mem {line : List Byte} {token : Token} (oneLine : Byte.lineFeed ∉ line)
    (member : token ∈ tokensOf line) :
    (token.start.lineStart = 0 ∧ token.start.line = 0) ∧
      token.stop.lineStart = 0 ∧ token.stop.line = 0 := by
  rcases Layout.exists_isProper line with ⟨layout, proper, rfl⟩
  rw [tokensOf_of_isProper proper] at member
  rcases Layout.liesIn_of_mem proper member with ⟨startLies, stopLies⟩
  exact ⟨startLies.firstLine oneLine, stopLies.firstLine oneLine⟩

theorem map_onLine_zero {line : List Byte} (oneLine : Byte.lineFeed ∉ line) :
    (tokensOf line).dropLast.map (Token.onLine 0 0) = (tokensOf line).dropLast := by
  rw [← List.map_id (tokensOf line).dropLast, List.map_map]
  apply List.map_congr_left
  intro token member
  rcases firstLine_of_mem oneLine (List.dropLast_subset _ member) with ⟨start, stop⟩
  rw [Function.comp_apply, id, Token.onLine, Position.onLine_zero start, Position.onLine_zero stop]

theorem Token.behind_onLine {start number : Nat} (firstLine : number = 0 → start = 0)
    (line : List Byte) (token : Token) :
    (token.onLine start number).behind (Position.startBehind line) =
      token.onLine (line.length + 1 + start) (number + 1) := by
  rw [behind, onLine, Position.behind_onLine firstLine, Position.behind_onLine firstLine]
  rfl

/-- The tokens of the line with the given number among `lines`, at their places in the whole. The
end of the input is left out. -/
def tokensOnLine (lines : List (List Byte)) (number : Nat) (line : List Byte) : List Token :=
  (tokensOf line).dropLast.map (Token.onLine (offsetOfLine lines number) number)

theorem tokensOnLine_zero {line : List Byte} (oneLine : Byte.lineFeed ∉ line)
    (lines : List (List Byte)) : tokensOnLine lines 0 line = (tokensOf line).dropLast :=
  map_onLine_zero oneLine

theorem tokensOnLine_cons_succ (line : List Byte) (lines : List (List Byte)) (number : Nat)
    (other : List Byte) :
    tokensOnLine (line :: lines) (number + 1) other =
      (tokensOnLine lines number other).map (Token.behind (Position.startBehind line)) := by
  have firstLine : number = 0 → offsetOfLine lines number = 0 := by
    rintro rfl
    rfl
  rw [tokensOnLine, tokensOnLine, List.map_map, offsetOfLine_cons_succ]
  apply List.map_congr_left
  intro token _
  exact (Token.behind_onLine firstLine line token).symm

/-- All tokens but the end of the input are those of the lines. -/
theorem dropLast_tokensOf (source : List Byte) :
    (tokensOf source).dropLast =
      ((source.splitOn Byte.lineFeed).mapIdx
        (tokensOnLine (source.splitOn Byte.lineFeed))).flatten := by
  induction source using induction_on_lines Byte.lineFeed with
  | lastLine line oneLine =>
      rw [List.splitOn_eq_singleton oneLine, List.mapIdx_singleton, tokensOnLine_zero oneLine,
        List.flatten_singleton]
  | moreLines line rest oneLine ih =>
      have nonempty : (tokensOf rest).map (Token.behind (Position.startBehind line)) ≠ [] := by
        simpa using tokensOf_ne_nil rest
      have moved : ((rest.splitOn Byte.lineFeed).mapIdx
            (tokensOnLine (rest.splitOn Byte.lineFeed))).map
              (List.map (Token.behind (Position.startBehind line))) =
          (rest.splitOn Byte.lineFeed).mapIdx fun number =>
            tokensOnLine (line :: rest.splitOn Byte.lineFeed) (number + 1) := by
        apply List.ext_getElem?
        intro number
        rw [List.getElem?_map, List.getElem?_mapIdx, List.getElem?_mapIdx, Option.map_map]
        congr 1
        funext other
        exact (tokensOnLine_cons_succ line _ number other).symm
      rw [List.splitOn_append_cons_self_of_not_mem oneLine, tokensOf_line_append oneLine,
        List.dropLast_append_of_ne_nil nonempty, ← List.map_dropLast, ih, List.map_flatten, moved,
        List.mapIdx_cons, List.flatten_cons, tokensOnLine_zero oneLine]

theorem placeBehind_append_cons (front back : List Byte) :
    placeBehind (front ++ Byte.lineFeed :: back) =
      { offset := front.length + 1 + back.length
        lineStart := front.length + 1 + lastLineStart back
        line := front.count Byte.lineFeed + 1 + back.count Byte.lineFeed
        column := back.length - lastLineStart back } := by
  have inside := lastLineStart_le_length back
  have column : (front ++ Byte.lineFeed :: back).length -
      (front.length + 1 + lastLineStart back) = back.length - lastLineStart back := by
    rw [List.length_append, List.length_cons]
    omega
  rw [placeBehind, lastLineStart_append_cons, column]
  simp [Nat.add_assoc, Nat.add_comm 1]

/-- A source ends where its last line does. -/
theorem placeBehind_eq_onLine (source : List Byte) :
    let lines := source.splitOn Byte.lineFeed
    let last := lines.getLast (List.splitOn_ne_nil Byte.lineFeed source)
    placeBehind source =
      { offset := source.length
        lineStart := offsetOfLine lines (lines.length - 1)
        line := lines.length - 1
        column := last.length } := by
  induction source using induction_on_lines Byte.lineFeed with
  | lastLine line oneLine =>
      simp only [List.splitOn_eq_singleton oneLine]
      exact placeBehind_of_oneLine oneLine
  | moreLines line rest oneLine ih =>
      have nonempty := List.splitOn_ne_nil Byte.lineFeed rest
      rcases Nat.exists_eq_add_one.mpr (List.length_pos_iff.mpr nonempty) with ⟨number, count⟩
      simp only [count, Nat.add_sub_cancel] at ih
      simp only [List.splitOn_append_cons_self_of_not_mem oneLine, List.getLast_cons nonempty,
        List.length_cons, count, Nat.add_sub_cancel, offsetOfLine_cons_succ]
      have lineStart : lastLineStart rest = _ := congrArg Position.lineStart ih
      have line : rest.count Byte.lineFeed = number := congrArg Position.line ih
      have column : rest.length - lastLineStart rest = _ := congrArg Position.column ih
      rw [placeBehind_append_cons, column, lineStart, line, List.count_eq_zero.mpr oneLine]
      simp [Nat.add_assoc, Nat.add_comm 1]

/-! ### Errors on lines -/

theorem IllegalCharacter.behind_line {line : List Byte} (oneLine : Byte.lineFeed ∉ line)
    (text : List Byte) (byte : Byte) :
    behind (line ++ Byte.lineFeed :: text) byte =
      { behind text byte with line := (behind text byte).line + 1 } := by
  have column : 1 + (line ++ Byte.lineFeed :: text).length -
      (line.length + 1 + lastLineStart text) = 1 + text.length - lastLineStart text := by
    rw [List.length_append, List.length_cons]
    omega
  rw [behind, behind, lastLineStart_append_cons, column]
  simp [List.count_eq_zero.mpr oneLine, Nat.add_assoc]

theorem legalTokensOf_isOk_iff {source : List Byte} :
    (∃ tokens, legalTokensOf source = .ok tokens) ↔ ∀ byte ∈ source, byte.isLegal = true := by
  constructor
  · rintro ⟨tokens, accepted⟩
    rcases legal_or_exists_split source with legal | ⟨front, byte, back, rfl, legal, illegal⟩
    · exact legal
    · rw [legalTokensOf_of_illegal back legal illegal] at accepted
      contradiction
  · exact fun legal => ⟨_, legalTokensOf_of_legal legal⟩

theorem exists_behind_of_error {source : List Byte} {error : IllegalCharacter}
    (rejected : legalTokensOf source = .error error) :
    ∃ front byte back, source = front ++ byte :: back ∧
      (∀ other ∈ front, other.isLegal = true) ∧ byte.isLegal = false ∧
      error = .behind front byte := by
  rcases legal_or_exists_split source with legal | ⟨front, byte, back, rfl, legal, illegal⟩
  · rw [legalTokensOf_of_legal legal] at rejected
    contradiction
  · rw [legalTokensOf_of_illegal back legal illegal] at rejected
    exact ⟨front, byte, back, rfl, legal, illegal, (Except.error.inj rejected).symm⟩

theorem legalTokensOf_append_of_error {line : List Byte} {error : IllegalCharacter}
    (rejected : legalTokensOf line = .error error) (rest : List Byte) :
    legalTokensOf (line ++ rest) = .error error := by
  rcases exists_behind_of_error rejected with ⟨front, byte, back, rfl, legal, illegal, rfl⟩
  rw [List.append_assoc, List.cons_append]
  exact legalTokensOf_of_illegal (back ++ rest) legal illegal

/-- Behind a line that is accepted, what is rejected is rejected with the next line number. -/
theorem legalTokensOf_line_append {line rest : List Byte} {error : IllegalCharacter}
    (oneLine : Byte.lineFeed ∉ line) (accepted : ∀ byte ∈ line, byte.isLegal = true)
    (rejected : legalTokensOf rest = .error error) :
    legalTokensOf (line ++ Byte.lineFeed :: rest) =
      .error { error with line := error.line + 1 } := by
  rcases exists_behind_of_error rejected with ⟨front, byte, back, rfl, legal, illegal, rfl⟩
  have accepts : ∀ other ∈ line ++ Byte.lineFeed :: front, other.isLegal = true := by
    intro other member
    rcases List.mem_append.mp member with inLine | behindLine
    · exact accepted other inLine
    · rcases List.mem_cons.mp behindLine with rfl | inFront
      · rfl
      · exact legal other inFront
  rw [← IllegalCharacter.behind_line oneLine, ← legalTokensOf_of_illegal back accepts illegal]
  simp

theorem forall_isLegal_iff_lines (source : List Byte) :
    (∀ byte ∈ source, byte.isLegal = true) ↔
      ∀ line ∈ source.splitOn Byte.lineFeed, ∀ byte ∈ line, byte.isLegal = true := by
  induction source using induction_on_lines Byte.lineFeed with
  | lastLine line oneLine => simp [List.splitOn_eq_singleton oneLine]
  | moreLines line rest oneLine ih =>
      have lineFeed : Byte.lineFeed.isLegal = true := rfl
      rw [List.splitOn_append_cons_self_of_not_mem oneLine, List.forall_mem_append,
        List.forall_mem_cons, List.forall_mem_cons, ih]
      simp [lineFeed]

theorem line_of_error {line : List Byte} {error : IllegalCharacter}
    (oneLine : Byte.lineFeed ∉ line) (rejected : legalTokensOf line = .error error) :
    { error with line := 1 } = error := by
  rcases exists_behind_of_error rejected with ⟨front, byte, back, rfl, _, _, rfl⟩
  have noLineFeed : front.count Byte.lineFeed = 0 :=
    List.count_eq_zero.mpr fun member => oneLine (List.mem_append_left _ member)
  rw [IllegalCharacter.behind, noLineFeed]

/-- The error of the first line that is rejected is that of the whole, but for the line number. -/
theorem legalTokensOf_of_rejected_line (source : List Byte) {number : Nat} {line : List Byte}
    {error : IllegalCharacter} (found : (source.splitOn Byte.lineFeed)[number]? = some line)
    (accepted : ∀ earlier ∈ (source.splitOn Byte.lineFeed).take number,
      ∀ byte ∈ earlier, byte.isLegal = true)
    (rejected : legalTokensOf line = .error error) :
    legalTokensOf source = .error { error with line := number + 1 } := by
  induction source using induction_on_lines Byte.lineFeed generalizing number with
  | lastLine only oneLine =>
      rw [List.splitOn_eq_singleton oneLine, List.getElem?_singleton] at found
      split at found
      · next first =>
          rcases Option.some.inj found with rfl
          rw [first, line_of_error oneLine rejected]
          exact rejected
      · contradiction
  | moreLines first rest oneLine ih =>
      rw [List.splitOn_append_cons_self_of_not_mem oneLine] at found accepted
      cases number with
      | zero =>
          rcases Option.some.inj found with rfl
          rw [line_of_error oneLine rejected]
          exact legalTokensOf_append_of_error rejected _
      | succ number =>
          rw [List.take_succ_cons, List.forall_mem_cons] at accepted
          exact legalTokensOf_line_append oneLine accepted.1 (ih found accepted.2)

theorem tokensOf_eq_concat (source : List Byte) :
    tokensOf source = (tokensOf source).dropLast ++ [Token.endOfInput (placeBehind source)] := by
  rcases Layout.exists_isProper source with ⟨layout, proper, rfl⟩
  rw [tokensOf_of_isProper proper, Layout.dropLast_tokensFrom, ← passAll_origin]
  rfl

/-- Scanning a source as one piece is scanning it line by line. -/
theorem tokensOf_by_lines (source : List Byte) :
    let lines := source.splitOn Byte.lineFeed
    let last := lines.getLast (List.splitOn_ne_nil Byte.lineFeed source)
    (∀ line ∈ lines, ∀ token ∈ tokensOf line,
      (token.start.lineStart = 0 ∧ token.start.line = 0) ∧
        token.stop.lineStart = 0 ∧ token.stop.line = 0) ∧
    tokensOf source =
      (lines.mapIdx fun number line =>
        (tokensOf line).dropLast.map (Token.onLine (offsetOfLine lines number) number)).flatten ++
      [Token.endOfInput
        { offset := source.length
          lineStart := offsetOfLine lines (lines.length - 1)
          line := lines.length - 1
          column := last.length }] ∧
    ((∃ tokens, legalTokensOf source = .ok tokens) ↔
      ∀ line ∈ lines, ∃ tokens, legalTokensOf line = .ok tokens) ∧
    ∀ number line error, lines[number]? = some line →
      (∀ earlier ∈ lines.take number, ∃ tokens, legalTokensOf earlier = .ok tokens) →
      legalTokensOf line = .error error →
      legalTokensOf source = .error { error with line := number + 1 } := by
  intro lines last
  refine ⟨?_, ?_, ?_, ?_⟩
  · intro line member token made
    exact firstLine_of_mem (lineFeed_not_mem_of_mem_splitOn member) made
  · rw [tokensOf_eq_concat, dropLast_tokensOf, placeBehind_eq_onLine]
    rfl
  · simp only [legalTokensOf_isOk_iff]
    exact forall_isLegal_iff_lines source
  · intro number line error found accepted rejected
    simp only [legalTokensOf_isOk_iff] at accepted
    exact legalTokensOf_of_rejected_line source found accepted rejected

/-- Two accepted lines, one of them with a carriage return, and two rejected ones behind them. -/
theorem legalTokensOf_four_lines :
    legalTokensOf [61, 10, 61, 13, 10, 32, 64, 10, 35] =
      .error { byte := 64, line := 3, column := 2 } := by
  have cut : [61, 10, 61, 13, 10, 32, 64, 10, 35].splitOn Byte.lineFeed =
      [[61], [61, 13], [32, 64], [35]] := by decide +kernel
  have legal : [[(61 : Byte)], [61, 13]].flatten.all Byte.isLegal = true := by decide
  have accepted : ∀ earlier ∈ [[(61 : Byte)], [61, 13]],
      ∃ tokens, legalTokensOf earlier = .ok tokens := by
    intro earlier listed
    rw [legalTokensOf_isOk_iff]
    intro byte member
    exact List.all_eq_true.mp legal byte (List.mem_flatten_of_mem listed member)
  have rejected : legalTokensOf [32, 64] = .error { byte := 64, line := 1, column := 2 } := by
    decide +kernel
  have byLines := (tokensOf_by_lines [61, 10, 61, 13, 10, 32, 64, 10, 35]).2.2.2
  simp only [cut] at byLines
  exact byLines 2 _ _ rfl accepted rejected

end MonkeyLexis
