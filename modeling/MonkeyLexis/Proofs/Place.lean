import Mathlib.Data.List.Count
import Mathlib.Data.List.Induction
import MonkeyLexis.Proofs.Layout

/-!
# Places computed from the bytes

The scanner moves a position over one byte after another. Here a position is compared with the
bytes of the source alone: how many line feeds lie before its offset, where the last of them is,
and how far behind it the position stands. These numbers leave no choice, so a position that lies
in a source is determined by its offset.

A token is made of a stretch of the source without blanks. No line feed lies in it, and its two
positions are therefore on one line.
-/

namespace MonkeyLexis

namespace Position

/-- The line, the start of the line and the column of a position are those of its offset in
`source`: its line starts at the start of the source or right behind a line feed, and there is no
line feed from there up to the position. -/
structure LiesIn (source : List Byte) (position : Position) : Prop where
  offset_le : position.offset ≤ source.length
  line_eq : position.line = (source.take position.offset).count Byte.lineFeed
  lineStart_le : position.lineStart ≤ position.offset
  behind_lineFeed :
    position.lineStart = 0 ∨ source[position.lineStart - 1]? = some Byte.lineFeed
  no_lineFeed : ∀ index, position.lineStart ≤ index → index < position.offset →
    source[index]? ≠ some Byte.lineFeed
  column_eq : position.column = position.offset - position.lineStart

theorem liesIn_origin (source : List Byte) : origin.LiesIn source where
  offset_le := Nat.zero_le _
  line_eq := by simp [origin]
  lineStart_le := Nat.le_refl _
  behind_lineFeed := Or.inl rfl
  no_lineFeed := by
    intro index _ impossible
    simp [origin] at impossible
  column_eq := rfl

namespace LiesIn

variable {source : List Byte} {position other : Position}

theorem pass {byte : Byte} (lies : position.LiesIn source)
    (next : source[position.offset]? = some byte) : (position.pass byte).LiesIn source := by
  rcases List.getElem?_eq_some_iff.mp next with ⟨inside, same⟩
  have counted : (source.take (position.offset + 1)).count Byte.lineFeed =
      position.line + [byte].count Byte.lineFeed := by
    rw [List.take_add_one, next, List.count_append, lies.line_eq]
    rfl
  by_cases isLineFeed : byte = Byte.lineFeed
  · subst isLineFeed
    have moved : position.pass Byte.lineFeed =
        { offset := position.offset + 1, lineStart := position.offset + 1,
          line := position.line + 1, column := 0 } := if_pos rfl
    rw [moved]
    refine ⟨inside, ?_, Nat.le_refl _, Or.inr next, ?_, ?_⟩
    · simpa using counted.symm
    · intro index behind before
      simp only at behind before
      omega
    · simp
  · have moved : position.pass byte = position.advance 1 := if_neg isLineFeed
    rw [moved]
    refine ⟨inside, ?_, ?_, lies.behind_lineFeed, ?_, ?_⟩
    · simp only [advance, counted]
      simp [isLineFeed]
    · have := lies.lineStart_le
      simp only [advance]
      omega
    · intro index behind before
      simp only [advance] at behind before
      rcases Nat.lt_succ_iff_lt_or_eq.mp before with earlier | rfl
      · exact lies.no_lineFeed index behind earlier
      · rw [next]
        simpa using isLineFeed
    · have := lies.lineStart_le
      have := lies.column_eq
      simp only [advance]
      omega

theorem passAll {bytes rest : List Byte} (lies : position.LiesIn source)
    (behind : source.drop position.offset = bytes ++ rest) :
    (position.passAll bytes).LiesIn source := by
  induction bytes generalizing position with
  | nil => exact lies
  | cons byte bytes ih =>
      have next : source[position.offset]? = some byte := by
        rw [← List.head?_drop, behind]
        rfl
      apply ih (lies.pass next)
      rw [offset_pass, ← List.drop_drop, behind]
      rfl

theorem lineStart_le_of_offset_eq (lies : position.LiesIn source) (otherLies : other.LiesIn source)
    (same : position.offset = other.offset) : position.lineStart ≤ other.lineStart := by
  by_contra later
  have inLine := lies.lineStart_le
  rcases lies.behind_lineFeed with atStart | lineFeed
  · omega
  · exact otherLies.no_lineFeed (position.lineStart - 1) (by omega) (by omega) lineFeed

theorem lineStart_ne_of_carriageReturn {index : Nat} (lies : position.LiesIn source)
    (found : source[index]? = some Byte.carriageReturn) : position.lineStart ≠ index + 1 := by
  intro starts
  rcases lies.behind_lineFeed with atStart | lineFeed
  · omega
  · rw [starts, Nat.add_sub_cancel, found] at lineFeed
    contradiction

/-- A position that lies in a source is determined by its offset. -/
theorem eq_of_offset_eq (lies : position.LiesIn source) (otherLies : other.LiesIn source)
    (same : position.offset = other.offset) : position = other := by
  have sameStart : position.lineStart = other.lineStart :=
    Nat.le_antisymm (lies.lineStart_le_of_offset_eq otherLies same)
      (otherLies.lineStart_le_of_offset_eq lies same.symm)
  have sameLine : position.line = other.line := by
    rw [lies.line_eq, otherLies.line_eq, same]
  have sameColumn : position.column = other.column := by
    rw [lies.column_eq, otherLies.column_eq, same, sameStart]
  cases position
  cases other
  simp_all

end LiesIn

end Position

/-! ### The place behind a text -/

/-- The offset right behind the last line feed of `text`, or its start if there is none. -/
def lastLineStart (text : List Byte) : Nat :=
  match (text.findIdxs fun byte => byte = Byte.lineFeed).getLast? with
  | some index => index + 1
  | none => 0

/-- The place where `text` ends, if it stands at the start of a source. -/
def placeBehind (text : List Byte) : Position :=
  { offset := text.length
    lineStart := lastLineStart text
    line := text.count Byte.lineFeed
    column := text.length - lastLineStart text }

theorem lastLineStart_le_length (text : List Byte) : lastLineStart text ≤ text.length := by
  unfold lastLineStart
  split
  · next index last =>
      have inside := List.lt_add_of_mem_findIdxs index (List.mem_of_getLast? last)
      omega
  · exact Nat.zero_le _

theorem lastLineStart_of_not_mem {text : List Byte} (oneLine : Byte.lineFeed ∉ text) :
    lastLineStart text = 0 := by
  have nowhere : text.findIdxs (fun byte => byte = Byte.lineFeed) = [] := by
    apply List.findIdxs_eq_nil_iff.mpr
    intro byte member
    exact decide_eq_false (fun lineFeed => oneLine (lineFeed ▸ member))
  rw [lastLineStart, nowhere]
  rfl

theorem placeBehind_concat (text : List Byte) (byte : Byte) :
    placeBehind (text ++ [byte]) = (placeBehind text).pass byte := by
  have inside := lastLineStart_le_length text
  by_cases lineFeed : byte = Byte.lineFeed
  · simp [placeBehind, lastLineStart, Position.pass, lineFeed]
  · have sameStart : lastLineStart (text ++ [byte]) = lastLineStart text := by
      simp [lastLineStart, lineFeed]
    simp [placeBehind, sameStart, Position.pass, Position.advance, lineFeed,
      Nat.sub_add_comm inside]

/-- Passing over a text one byte after another leads to the place behind it. -/
theorem passAll_origin (text : List Byte) : Position.origin.passAll text = placeBehind text := by
  induction text using List.reverseRecOn with
  | nil => rfl
  | append_singleton text byte ih =>
      rw [Position.passAll_append, ih, placeBehind_concat]
      rfl

theorem passAll_placeBehind (before text : List Byte) :
    (placeBehind before).passAll text = placeBehind (before ++ text) := by
  rw [← passAll_origin, ← passAll_origin, Position.passAll_append]

theorem Lexeme.lineFeed_not_mem_bytes {lexeme : Lexeme} (spelled : lexeme.IsSpelled) :
    Byte.lineFeed ∉ lexeme.bytes := by
  intro member
  have notBlank := lexeme.not_isBlank_of_mem_bytes spelled Byte.lineFeed member
  contradiction

namespace Layout

/-- Every token is made of a stretch of the text that holds no line feed. -/
theorem exists_stretch_of_mem {layout : Layout} {place : Position} {token : Token}
    (proper : layout.IsProper) (member : token ∈ layout.tokensFrom place) :
    ∃ before stretch after, layout.bytes = before ++ (stretch ++ after) ∧
      token.start = place.passAll before ∧ token.stop = token.start.passAll stretch ∧
      Byte.lineFeed ∉ stretch := by
  rcases List.mem_append.mp member with ofLexeme | ofEnd
  · rcases exists_lexeme_of_mem proper ofLexeme with ⟨before, first, after, split, spelled, _, rfl⟩
    exact ⟨before, first.bytes, after, split, rfl, rfl, Lexeme.lineFeed_not_mem_bytes spelled⟩
  · rcases List.mem_singleton.mp ofEnd with rfl
    exact ⟨layout.bytes, [], [], by simp, rfl, rfl, by simp⟩

theorem liesIn_of_mem {layout : Layout} {token : Token} (proper : layout.IsProper)
    (member : token ∈ layout.tokensFrom .origin) :
    token.start.LiesIn layout.bytes ∧ token.stop.LiesIn layout.bytes := by
  rcases exists_stretch_of_mem proper member with ⟨before, stretch, after, split, start, stop, _⟩
  have origin := Position.liesIn_origin layout.bytes
  have throughStretch : layout.bytes = (before ++ stretch) ++ after := by
    rw [split, List.append_assoc]
  rw [stop, start, ← Position.passAll_append]
  exact ⟨origin.passAll split, origin.passAll throughStretch⟩

end Layout

/-- Both positions of a token are those that the bytes of the source give for their offsets, and
the token stands on one line of it. A carriage return alone does not start a line. -/
theorem places_of_mem_tokensOf {source : List Byte} {token : Token}
    (member : token ∈ tokensOf source) :
    token.start.LiesIn source ∧ token.stop.LiesIn source ∧
      (∀ index, source[index]? = some Byte.carriageReturn →
        token.start.lineStart ≠ index + 1 ∧ token.stop.lineStart ≠ index + 1) ∧
      (∀ index, token.start.offset ≤ index → index < token.stop.offset →
        source[index]? ≠ some Byte.lineFeed) ∧
      token.stop.line = token.start.line ∧ token.stop.lineStart = token.start.lineStart ∧
      token.stop = token.start.advance (token.stop.offset - token.start.offset) := by
  rcases Layout.exists_isProper source with ⟨layout, proper, rfl⟩
  rw [tokensOf_of_isProper proper] at member
  rcases Layout.liesIn_of_mem proper member with ⟨startLies, stopLies⟩
  rcases Layout.exists_stretch_of_mem proper member with
    ⟨before, stretch, after, split, start, stop, oneLine⟩
  have startOffset : token.start.offset = before.length := by
    simp [start, Position.offset_passAll, Position.origin]
  rw [Position.passAll_eq_advance _ oneLine] at stop
  have stopOffset : token.stop.offset = before.length + stretch.length := by
    simp [stop, Position.advance, startOffset]
  refine ⟨startLies, stopLies, ?_, ?_, ?_, ?_, ?_⟩
  · intro index found
    exact ⟨startLies.lineStart_ne_of_carriageReturn found,
      stopLies.lineStart_ne_of_carriageReturn found⟩
  · intro index behind inside lineFeed
    apply oneLine
    have within : index - before.length < stretch.length := by omega
    rw [split, List.getElem?_append_right (by omega), List.getElem?_append_left within] at lineFeed
    exact List.mem_of_getElem? lineFeed
  · rw [stop]
    rfl
  · rw [stop]
    rfl
  · rw [stopOffset, startOffset, Nat.add_sub_cancel_left]
    exact stop

/-- A word behind a lone carriage return, an empty line and a blank. -/
theorem places_of_indented_word :
    let source : List Byte := [120, 13, 61, 10, 10, 32, 97, 98]
    let token : Token :=
      { kind := .ident, literal := "ab"
        start := { offset := 6, lineStart := 5, line := 2, column := 1 }
        stop := { offset := 8, lineStart := 5, line := 2, column := 3 } }
    token ∈ tokensOf source ∧ token.start.LiesIn source ∧ token.stop.LiesIn source ∧
      token.stop = token.start.advance 2 := by
  intro source token
  have member : token ∈ tokensOf source := by decide +kernel
  rcases places_of_mem_tokensOf member with ⟨startLies, stopLies, _, _, _, _, advanced⟩
  exact ⟨member, startLies, stopLies, advanced⟩

end MonkeyLexis
