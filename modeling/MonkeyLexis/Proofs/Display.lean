import MonkeyLexis.Proofs.Dialogue
import MonkeyLexis.Proofs.Escapes
import MonkeyLexis.Proofs.Legality

/-!
# Reading listings back

A listing tells which tokens were found, up to where they stand, although the names of kinds hold
parentheses and commas and begin one another, and although a literal may be any text. No name holds
a double quote, so the first one in a line opens the literal, and the escapes of the literal tell
where each of its characters ends.

Each displayed token is one line, whatever its literal, so the line feeds of a listing are those
between tokens. The tokens of a source need no escapes at all: their literals are made of letters,
digits and signs.
-/

namespace MonkeyLexis

/-! ### One line -/

namespace Unicode

/-- The characters at which a text may be cut into lines. -/
def lineBreaks : List Char := ['\n', '\x0B', '\x0C', '\r', '\x85', '\u2028', '\u2029']

theorem not_mem_lineBreaks_of_isPrintable {character : Char}
    (printable : isPrintable character = true) : character ∉ lineBreaks := by
  have none : lineBreaks.any isPrintable = false := by decide +kernel
  intro member
  have some : lineBreaks.any isPrintable = true :=
    List.any_eq_true.mpr ⟨character, member, printable⟩
  exact Bool.false_ne_true (none.symm.trans some)

end Unicode

theorem TokenKind.isGraphic_of_mem_name (kind : TokenKind) :
    ∀ character ∈ kind.name.toList, Text.isGraphic character = true := by
  have every : ∀ other ∈ all, other.name.toList.all Text.isGraphic = true := by decide +kernel
  exact List.all_eq_true.mp (every kind (mem_all kind))

theorem TokenKind.doubleQuote_not_mem_name (kind : TokenKind) : '"' ∉ kind.name.toList := by
  have every : ∀ other ∈ all, '"' ∉ other.name.toList := by decide +kernel
  exact every kind (mem_all kind)

namespace Token

/-- What a token says, without where it stands. -/
def content (token : Token) : TokenKind × String := (token.kind, token.literal)

/-- What is displayed for a kind and a literal. -/
def displayOf (content : TokenKind × String) : String :=
  content.1.name ++ "(" ++ Text.quote content.2 ++ ")"

theorem display_eq (token : Token) : token.display = displayOf token.content := rfl

/-- What is displayed, cut behind the double quote that opens the literal. -/
theorem toList_displayOf (content : TokenKind × String) :
    (displayOf content).toList =
      ((content.1.name.toList ++ ['(']) ++ ['"']) ++
        (content.2.toList.flatMap Text.quoteCharacter ++ ['"', ')']) := by
  simp [displayOf, Text.quote]

theorem isPrintable_of_mem_displayOf (content : TokenKind × String) :
    ∀ character ∈ (displayOf content).toList, Unicode.isPrintable character = true := by
  simp only [toList_displayOf, List.forall_mem_append]
  refine ⟨⟨⟨?_, List.all_eq_true.mp (by decide)⟩, List.all_eq_true.mp (by decide)⟩, ?_,
    List.all_eq_true.mp (by decide)⟩
  · intro character inName
    exact Text.isPrintable_of_isGraphic (content.1.isGraphic_of_mem_name character inName)
  · intro character inLiteral
    rcases List.mem_flatMap.mp inLiteral with ⟨origin, _, written⟩
    exact Text.isPrintable_of_mem_quoteCharacter origin character written

/-- A displayed token is one line, whatever its literal. -/
theorem lineFeed_not_mem_displayOf (content : TokenKind × String) :
    '\n' ∉ (displayOf content).toList := by
  intro member
  exact Unicode.not_mem_lineBreaks_of_isPrintable (isPrintable_of_mem_displayOf content _ member)
    List.mem_cons_self

theorem lineFeed_not_mem_display (token : Token) : '\n' ∉ token.display.toList :=
  lineFeed_not_mem_displayOf token.content

/-- A text that no token of a source keeps. -/
example :
    displayOf (.symbol .leftParen, "(\"\n\u2028") = "((\"(\\\"\\n\\u{2028}\")" := by
  decide +kernel

/-! ### One reading -/

theorem isSelfDelimiting_name :
    Text.IsSelfDelimiting fun kind : TokenKind => (kind.name.toList ++ ['(']) ++ ['"'] := by
  apply Text.isSelfDelimiting_of_mark
  · intro first second same
    have sameName := List.append_cancel_right same
    exact TokenKind.name_injective (String.toList_injective sameName)
  · intro kind member
    rcases List.mem_append.mp member with inName | opening
    · exact kind.doubleQuote_not_mem_name inName
    · exact absurd opening (by decide)

theorem displayOf_injective : Function.Injective displayOf := by
  intro first second same
  have sameCharacters := congrArg String.toList same
  rw [toList_displayOf, toList_displayOf] at sameCharacters
  rcases isSelfDelimiting_name _ _ _ _ sameCharacters with ⟨sameKind, sameRest⟩
  have sameQuoted := List.append_cancel_right sameRest
  have sameLiteral := String.toList_injective (Text.quoteCharacters_injective sameQuoted)
  exact Prod.ext sameKind sameLiteral

/-- What is listed for a kind and a literal. -/
def lineOf (content : TokenKind × String) : List Char := (displayOf content).toList ++ ['\n']

theorem isSelfDelimiting_lineOf : Text.IsSelfDelimiting lineOf := by
  apply Text.isSelfDelimiting_of_mark
  · intro first second same
    exact displayOf_injective (String.toList_injective same)
  · exact lineFeed_not_mem_displayOf

theorem linesOf_injective :
    Function.Injective fun contents : List (TokenKind × String) => contents.flatMap lineOf :=
  isSelfDelimiting_lineOf.flatMap_injective fun content => by simp [lineOf]

/-! ### Listings -/

theorem filter_not_isEof_tokensOf (source : List Byte) :
    ((tokensOf source).filter fun token => !token.isEof) = (tokensOf source).dropLast := by
  rcases Layout.exists_isProper source with ⟨layout, proper, rfl⟩
  rw [tokensOf_of_isProper proper, Layout.dropLast_tokensFrom, Layout.tokensFrom,
    List.filter_append]
  have kept : ∀ token ∈ layout.lexemeTokens .origin, (!token.isEof) = true := by
    intro token member
    rcases Layout.exists_lexeme_of_mem proper member with ⟨_, lexeme, _, _, _, _, rfl⟩
    rw [isEof_ofLexeme]
    rfl
  rw [List.filter_eq_self.mpr kept]
  exact List.append_nil _

theorem toList_display_append (token : Token) :
    (token.display ++ "\n").toList = lineOf token.content :=
  String.toList_append

theorem toList_stdout_lines (tokens : List Token) :
    (Output.lines (displayAll tokens)).stdout.toList =
      ((tokens.filter fun token => !token.isEof).map content).flatMap lineOf := by
  simp only [Output.lines, Output.text, displayAll, String.toList_join, List.flatMap_map,
    toList_display_append]

/-- The end of the input is not listed, and it says the same for all sources. -/
theorem map_content_tokensOf (source : List Byte) :
    (tokensOf source).map content =
      ((tokensOf source).filter fun token => !token.isEof).map content ++ [(.eof, "")] := by
  rw [filter_not_isEof_tokensOf]
  exact (congrArg (List.map content) (tokensOf_eq_concat source)).trans List.map_append

/-- Equal listings are those of the same tokens. -/
theorem stdout_lines_eq_iff (source other : List Byte) :
    (Output.lines (displayAll (tokensOf source))).stdout =
        (Output.lines (displayAll (tokensOf other))).stdout ↔
      (tokensOf source).map content = (tokensOf other).map content := by
  rw [← String.toList_inj, toList_stdout_lines, toList_stdout_lines, linesOf_injective.eq_iff,
    map_content_tokensOf source, map_content_tokensOf other, List.append_left_inj]

/-! ### Literals without escapes -/

/-- What a token keeps of a source has no escapes when it is quoted. -/
theorem quoteCharacter_of_mem_literal {lexeme : Lexeme} (spelled : lexeme.IsSpelled) :
    ∀ character ∈ lexeme.literal.toList, Text.quoteCharacter character = [character] := by
  have every : ∀ byte : Byte, byte.isLegal = true → byte.isBlank = false →
      Text.isGraphic (Char.ofUInt8 byte) = true ∧
        Char.ofUInt8 byte ≠ '"' ∧ Char.ofUInt8 byte ≠ '\\' :=
    Byte.forall_of_forall_lt (by decide +kernel)
  rcases em (∃ byte, lexeme = .illegal byte) with ⟨byte, rfl⟩ | legal
  · exact List.forall_mem_nil _
  · have kept : ∀ byte, lexeme ≠ .illegal byte := not_exists.mp legal
    rw [Lexeme.literal_eq kept, Text.ofSevenBit, String.toList_ofList, List.forall_mem_map]
    intro byte member
    have isLegal := Lexeme.isLegal_of_mem_bytes spelled kept byte member
    have notBlank := Lexeme.not_isBlank_of_mem_bytes spelled byte member
    rcases every byte isLegal notBlank with ⟨graphic, notQuote, notBackslash⟩
    exact Text.quoteCharacter_of_isGraphic graphic notQuote notBackslash

theorem display_of_plain {token : Token}
    (plain : ∀ character ∈ token.literal.toList, Text.quoteCharacter character = [character]) :
    token.display = token.kind.name ++ "(\"" ++ token.literal ++ "\")" := by
  have unchanged : token.literal.toList.flatMap Text.quoteCharacter = token.literal.toList :=
    (List.flatMap_congr plain).trans (List.flatMap_singleton' _)
  apply String.toList_injective
  simp [display_eq, toList_displayOf, content, unchanged]

theorem display_of_mem_tokensOf {source : List Byte} {token : Token}
    (member : token ∈ tokensOf source) :
    token.display = token.kind.name ++ "(\"" ++ token.literal ++ "\")" := by
  apply display_of_plain
  rcases Layout.exists_isProper source with ⟨layout, proper, rfl⟩
  rw [tokensOf_of_isProper proper] at member
  rcases List.mem_append.mp member with inside | last
  · rcases Layout.exists_lexeme_of_mem proper inside with ⟨_, lexeme, _, _, spelled, _, rfl⟩
    exact quoteCharacter_of_mem_literal spelled
  · rw [List.mem_singleton.mp last]
    exact List.forall_mem_nil _

/-- A displayed token tells its kind and its literal and is one line, so two sources are listed by
the same text exactly if their tokens say the same, wherever these stand. The literals of a source
are displayed as they are. -/
theorem listings_tell_tokens :
    (∀ first second : Token, first.display = second.display ↔
      first.kind = second.kind ∧ first.literal = second.literal) ∧
    (∀ token : Token, ∀ character ∈ token.display.toList, character ∉ Unicode.lineBreaks) ∧
    (∀ source other : List Byte, ∃ lines otherLines,
      listing source .report = .ok lines ∧ listing other .report = .ok otherLines ∧
      ((Output.lines lines).stdout = (Output.lines otherLines).stdout ↔
        (tokensOf source).map content = (tokensOf other).map content)) ∧
    ∀ source : List Byte, ∀ token ∈ tokensOf source,
      token.display = token.kind.name ++ "(\"" ++ token.literal ++ "\")" := by
  refine ⟨?_, ?_, ?_, ?_⟩
  · intro first second
    rw [display_eq, display_eq, displayOf_injective.eq_iff]
    exact Prod.ext_iff
  · intro token character member
    exact Unicode.not_mem_lineBreaks_of_isPrintable
      (isPrintable_of_mem_displayOf token.content character member)
  · intro source other
    exact ⟨_, _, listing_report source, listing_report other, stdout_lines_eq_iff source other⟩
  · intro source token member
    exact display_of_mem_tokensOf member

end Token

end MonkeyLexis
