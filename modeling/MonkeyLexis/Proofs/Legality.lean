import MonkeyLexis.IllegalPolicy
import MonkeyLexis.Proofs.Place

/-!
# Illegal characters

Whether a byte is illegal can be told from the byte alone. Here this is compared with what becomes
of the byte when its source is scanned: every byte that is not legal makes an illegal token of its
own, whatever stands around it, and no other byte gets into such a token.

A scanner that stops at the first illegal token therefore stops at the first byte that is not legal.
Its error tells the byte and its place, and what lies behind the byte has no part in it.
-/

namespace MonkeyLexis

/-- The offsets of the bytes that source text may not hold. -/
def illegalOffsets (source : List Byte) : List Nat :=
  source.findIdxs fun byte => !byte.isLegal

/-- The token of an illegal byte that stands at `place`. -/
def Token.illegalAt (place : Position) : Token :=
  { kind := .illegal, literal := "", start := place, stop := place.advance 1 }

/-- The error for an illegal byte with `text` before it. -/
def IllegalCharacter.behind (text : List Byte) (byte : Byte) : IllegalCharacter :=
  { byte
    line := 1 + text.count Byte.lineFeed
    column := 1 + text.length - lastLineStart text }

/-! ### Illegal offsets -/

theorem mem_illegalOffsets {source : List Byte} {offset : Nat} :
    offset ∈ illegalOffsets source ↔
      ∃ byte, source[offset]? = some byte ∧ byte.isLegal = false := by
  rw [illegalOffsets, List.mem_findIdxs_iff_exists_getElem_pos]
  constructor
  · rintro ⟨inside, illegal⟩
    exact ⟨source[offset], List.getElem?_eq_getElem inside, by simpa using illegal⟩
  · rintro ⟨byte, found, illegal⟩
    rcases List.getElem?_eq_some_iff.mp found with ⟨inside, rfl⟩
    exact ⟨inside, by simpa using illegal⟩

theorem illegalOffsets_append (front back : List Byte) :
    illegalOffsets (front ++ back) =
      illegalOffsets front ++ (illegalOffsets back).map (front.length + ·) := by
  have moved : back.findIdxs (fun byte => !byte.isLegal) front.length =
      (illegalOffsets back).map (· + front.length) := List.findIdxs_start
  rw [illegalOffsets, List.findIdxs_append, Nat.zero_add, moved]
  simp only [illegalOffsets, Nat.add_comm]

theorem illegalOffsets_eq_nil_iff {source : List Byte} :
    illegalOffsets source = [] ↔ ∀ byte ∈ source, byte.isLegal = true := by
  rw [illegalOffsets, List.findIdxs_eq_nil_iff]
  simp

theorem illegalOffsets_append_cons {front : List Byte} {byte : Byte} (back : List Byte)
    (legal : ∀ other ∈ front, other.isLegal = true) (illegal : byte.isLegal = false) :
    illegalOffsets (front ++ byte :: back) =
      front.length :: (illegalOffsets back).map (front.length + 1 + ·) := by
  have first : illegalOffsets [byte] = [0] := by
    simp [illegalOffsets, illegal]
  rw [← List.singleton_append, illegalOffsets_append, illegalOffsets_append, first,
    illegalOffsets_eq_nil_iff.mpr legal]
  simp [Nat.add_assoc]

/-- A source holds legal bytes only, or there is a first one that is not legal. -/
theorem legal_or_exists_split (source : List Byte) :
    (∀ byte ∈ source, byte.isLegal = true) ∨
      ∃ front byte back, source = front ++ byte :: back ∧
        (∀ other ∈ front, other.isLegal = true) ∧ byte.isLegal = false := by
  have split := List.takeWhile_append_dropWhile (p := Byte.isLegal) (l := source)
  have legal : ∀ other ∈ source.takeWhile Byte.isLegal, other.isLegal = true :=
    fun other taken => List.mem_takeWhile_imp taken
  cases found : source.dropWhile Byte.isLegal with
  | nil =>
      left
      rw [← split, found, List.append_nil]
      exact legal
  | cons byte back =>
      right
      have stops := List.head?_dropWhile_not Byte.isLegal source
      refine ⟨source.takeWhile Byte.isLegal, byte, back, ?_, legal, ?_⟩
      · rw [← found, split]
      · simpa [found] using stops

/-! ### Illegal tokens -/

theorem Byte.isLegal_of_isBlank {byte : Byte} (blank : byte.isBlank = true) :
    byte.isLegal = true := by
  simp [isLegal, blank]

namespace Lexeme

theorem isLegal_of_mem_bytes {lexeme : Lexeme} (spelled : lexeme.IsSpelled)
    (legal : ∀ byte, lexeme ≠ illegal byte) : ∀ byte ∈ lexeme.bytes, byte.isLegal = true := by
  intro byte member
  cases lexeme with
  | word letters => simp [Byte.isLegal, spelled.2 byte member]
  | number digits => simp [Byte.isLegal, spelled.2 byte member]
  | symbol sign => simp [Byte.isLegal, sign.isSign_of_mem_bytes byte member]
  | illegal bad => exact absurd rfl (legal bad)

end Lexeme

/-- The tokens of the illegal bytes of `text`, where `text` starts at `place`. -/
def illegalTokens (place : Position) (text : List Byte) : List Token :=
  (illegalOffsets text).map fun offset => Token.illegalAt (place.passAll (text.take offset))

theorem illegalTokens_append (place : Position) (front back : List Byte) :
    illegalTokens place (front ++ back) =
      illegalTokens place front ++ illegalTokens (place.passAll front) back := by
  simp only [illegalTokens, illegalOffsets_append, List.map_append, List.map_map]
  congr 1
  · apply List.map_congr_left
    intro offset member
    rcases mem_illegalOffsets.mp member with ⟨byte, found, _⟩
    have inside : offset < front.length := (List.getElem?_eq_some_iff.mp found).1
    rw [List.take_append_of_le_length (Nat.le_of_lt inside)]
  · apply List.map_congr_left
    intro offset _
    rw [Function.comp_apply, List.take_length_add_append, Position.passAll_append]

theorem illegalTokens_of_legal {text : List Byte} (place : Position)
    (legal : ∀ byte ∈ text, byte.isLegal = true) : illegalTokens place text = [] := by
  rw [illegalTokens, illegalOffsets_eq_nil_iff.mpr legal, List.map_nil]

theorem Lexeme.filter_isIllegal {lexeme : Lexeme} (spelled : lexeme.IsSpelled)
    (place : Position) :
    [Token.ofLexeme lexeme place (place.passAll lexeme.bytes)].filter Token.isIllegal =
      illegalTokens place lexeme.bytes := by
  by_cases legal : ∀ byte, lexeme ≠ illegal byte
  · have notIllegal : ¬lexeme.kind = .illegal := by
      simpa [kind_eq_illegal_iff] using legal
    rw [illegalTokens_of_legal place (isLegal_of_mem_bytes spelled legal)]
    simp [Token.isIllegal, Token.ofLexeme, notIllegal]
  · rcases not_forall_not.mp legal with ⟨byte, rfl⟩
    have notLegal : byte.isLegal = false := spelled
    have inLine : Byte.lineFeed ∉ [byte] := lineFeed_not_mem_bytes spelled
    have only : illegalOffsets [byte] = [0] := by simp [illegalOffsets, notLegal]
    rw [bytes, illegalTokens, only, Position.passAll_eq_advance _ inLine]
    rfl

namespace Layout

/-- The illegal tokens are those of the illegal bytes, in the order of the source. -/
theorem filter_isIllegal_tokensFrom {layout : Layout} (proper : layout.IsProper)
    (place : Position) :
    (layout.tokensFrom place).filter Token.isIllegal = illegalTokens place layout.bytes := by
  induction layout generalizing place with
  | blanks gap =>
      have legal : ∀ byte ∈ gap, byte.isLegal = true :=
        fun byte member => Byte.isLegal_of_isBlank (proper byte member)
      rw [bytes_blanks, illegalTokens_of_legal place legal]
      rfl
  | lexeme gap first rest ih =>
      rcases proper with ⟨blank, spelled, _, properRest⟩
      have legal : ∀ byte ∈ gap, byte.isLegal = true :=
        fun byte member => Byte.isLegal_of_isBlank (blank byte member)
      rw [tokensFrom_lexeme, ← List.singleton_append, List.filter_append,
        Lexeme.filter_isIllegal spelled, ih properRest, bytes_lexeme, illegalTokens_append,
        illegalTokens_append, illegalTokens_of_legal place legal, List.nil_append]

end Layout

theorem filter_isIllegal_tokensOf (source : List Byte) :
    (tokensOf source).filter Token.isIllegal = illegalTokens .origin source := by
  rcases Layout.exists_isProper source with ⟨layout, proper, rfl⟩
  rw [tokensOf_of_isProper proper, Layout.filter_isIllegal_tokensFrom proper]

/-! ### The scanner that stops at an illegal token -/

theorem Token.findSome?_illegalCharacter? (source : List Byte) (tokens : List Token) :
    tokens.findSome? (illegalCharacter? · source) =
      (tokens.filter isIllegal).findSome? (illegalCharacter? · source) := by
  induction tokens with
  | nil => rfl
  | cons token tokens ih =>
      by_cases illegal : token.isIllegal = true
      · rw [List.filter_cons_of_pos illegal, List.findSome?_cons, List.findSome?_cons, ih]
      · have nothing : token.illegalCharacter? source = none := if_neg illegal
        rw [List.filter_cons_of_neg illegal, List.findSome?_cons, nothing, ih]

/-- Stopping at the first illegal token finds the same as looking through the tokens of the scanner
that does not stop. -/
theorem Cursor.legalTokens_eq (source : List Byte) (cursor : Cursor) :
    (cursor.legalTokens source).result =
      match cursor.tokens.result.findSome? (Token.illegalCharacter? · source) with
      | some error => .error error
      | none => .ok cursor.tokens.result := by
  fun_induction Cursor.legalTokens source cursor with
  | case1 cursor scan error found =>
      by_cases ended : cursor.scan.token.isEof = true
      · rw [tokens_of_isEof ended, List.findSome?_cons, found]
      · rw [tokens_of_not_isEof ended, List.findSome?_cons, found]
  | case2 cursor scan found ended =>
      rw [tokens_of_isEof ended, List.findSome?_cons, found, List.findSome?_nil]
  | case3 cursor scan found going ih =>
      have later : cursor.tokens.result.findSome? (Token.illegalCharacter? · source) =
          scan.next.tokens.result.findSome? (Token.illegalCharacter? · source) := by
        rw [tokens_of_not_isEof going, List.findSome?_cons, found]
      rw [later, Logged.result_after, Logged.result_map, ih, tokens_of_not_isEof going]
      cases scan.next.tokens.result.findSome? (Token.illegalCharacter? · source) <;> rfl

/-- The scanner that stops looks at the tokens of the illegal bytes only. -/
theorem legalTokensOf_eq (source : List Byte) :
    legalTokensOf source =
      match (illegalTokens .origin source).findSome? (Token.illegalCharacter? · source) with
      | some error => .error error
      | none => .ok (tokensOf source) := by
  rw [← filter_isIllegal_tokensOf, ← Token.findSome?_illegalCharacter?]
  exact Cursor.legalTokens_eq source (.start source)

theorem legalTokensOf_of_legal {source : List Byte}
    (legal : ∀ byte ∈ source, byte.isLegal = true) :
    legalTokensOf source = .ok (tokensOf source) := by
  rw [legalTokensOf_eq, illegalTokens_of_legal .origin legal]
  rfl

/-- The error tells the place behind the text, counted from one. -/
theorem IllegalCharacter.behind_eq (text : List Byte) (byte : Byte) :
    behind text byte =
      { byte
        line := (placeBehind text).lineNumber
        column := (placeBehind text).columnNumber } := by
  have inside := lastLineStart_le_length text
  simp [behind, placeBehind, Position.lineNumber, Position.columnNumber, Nat.add_comm 1]
  omega

theorem illegalCharacter?_illegalAt (front back : List Byte) (byte : Byte) :
    (Token.illegalAt (placeBehind front)).illegalCharacter? (front ++ byte :: back) =
      some (.behind front byte) := by
  have stands : (front ++ byte :: back)[(placeBehind front).offset]? = some byte := by
    simp [placeBehind]
  simp [Token.illegalCharacter?, Token.illegalAt, Token.isIllegal, stands,
    IllegalCharacter.behind_eq]

theorem legalTokensOf_of_illegal {front : List Byte} {byte : Byte} (back : List Byte)
    (legal : ∀ other ∈ front, other.isLegal = true) (illegal : byte.isLegal = false) :
    legalTokensOf (front ++ byte :: back) = .error (.behind front byte) := by
  rw [legalTokensOf_eq, illegalTokens, illegalOffsets_append_cons back legal illegal,
    List.map_cons, List.take_left, passAll_origin, List.findSome?_cons,
    illegalCharacter?_illegalAt]

/-! ### Policies -/

namespace IllegalPolicy

@[simp]
theorem result_scan (policy : IllegalPolicy) (source : List Byte) :
    (policy.scan source).result = (policy.scanOpen source).result := by
  simp only [scan]
  split <;> rfl

theorem result_scan_report (source : List Byte) :
    (report.scan source).result = .ok (tokensOf source) := by
  rw [result_scan]
  rfl

theorem result_scan_reject (source : List Byte) :
    (reject.scan source).result = legalTokensOf source := by
  rw [result_scan]
  rfl

end IllegalPolicy

/-- The illegal tokens of a source are those of its illegal bytes, one for each and in their order.
Whoever rejects illegal characters gets all tokens if there is no such byte, and otherwise the error
for the first one, on which nothing behind that byte has an influence. -/
theorem illegal_of_bytes (source : List Byte) :
    (tokensOf source).filter Token.isIllegal =
      (illegalOffsets source).map (fun offset =>
        Token.illegalAt (placeBehind (source.take offset))) ∧
    (IllegalPolicy.report.scan source).result = .ok (tokensOf source) ∧
    (∀ text, (IllegalPolicy.reject.scan text).result = legalTokensOf text) ∧
    match illegalOffsets source with
    | [] => legalTokensOf source = .ok (tokensOf source)
    | offset :: _ =>
        (∀ earlier < offset, earlier ∉ illegalOffsets source) ∧
        ∃ byte, source[offset]? = some byte ∧
          let error : IllegalCharacter :=
            { byte
              line := 1 + (source.take offset).count Byte.lineFeed
              column := 1 + offset - lastLineStart (source.take offset) }
          legalTokensOf source = .error error ∧
          ∀ back, legalTokensOf (source.take (offset + 1) ++ back) = .error error := by
  refine ⟨?_, IllegalPolicy.result_scan_report source, IllegalPolicy.result_scan_reject, ?_⟩
  · simp only [filter_isIllegal_tokensOf, illegalTokens, passAll_origin]
  · rcases legal_or_exists_split source with legal | ⟨front, byte, back, rfl, legal, illegal⟩
    · rw [illegalOffsets_eq_nil_iff.mpr legal]
      exact legalTokensOf_of_legal legal
    · rw [illegalOffsets_append_cons back legal illegal]
      have upTo : (front ++ byte :: back).take (front.length + 1) = front ++ [byte] := by
        rw [List.take_length_add_append]
        rfl
      have rejected := fun other => legalTokensOf_of_illegal other legal illegal
      refine ⟨?_, byte, by simp, ?_, ?_⟩
      · intro earlier before member
        simp only [List.mem_cons, List.mem_map] at member
        omega
      · rw [List.take_left]
        exact rejected back
      · intro other
        rw [List.take_left, upTo, List.append_assoc, List.singleton_append]
        exact rejected other

-- An accented letter is two illegal bytes, of which the first one is the error.
example :
    illegalOffsets [97, 10, 61, 195, 169, 0] = [3, 4, 5] ∧
      legalTokensOf [97, 10, 61, 195, 169, 0] = .error { byte := 195, line := 2, column := 2 } := by
  decide +kernel

end MonkeyLexis
