import MonkeyLexis.Proofs.Lines
import MonkeyLexis.Session.InputLine
import MonkeyLexis.Text.Trim

/-!
# Lines of text

A session cuts its input into lines before it reads any text in it. Here this is compared with the
lines of the text that the input encodes. No character but the line feed has the byte of a line feed
in its encoding, so both are cut at the same places, and what a session takes for the content of a
line is the text of that line with one carriage return less at most.

How a line is edited while it is typed is up to the terminal. What is stated of sessions therefore
holds for all readers of lines with two properties (`IsReader`), and the one that a session runs
with (`text?`) has them.
-/

namespace MonkeyLexis

namespace Text

/-! ### Encodings -/

theorem ofUInt8_of_le {character : Char} (small : character.val ≤ 127) :
    Char.ofUInt8 character.val.toUInt8 = character := by
  have bound := UInt32.le_iff_toNat_le.mp small
  have widened : (Char.ofUInt8 character.val.toUInt8).val = character.val.toUInt8.toUInt32 := rfl
  apply Char.ext
  apply UInt32.toNat_inj.mp
  rw [widened, UInt8.toNat_toUInt32, UInt32.toNat_toUInt8]
  exact Nat.mod_eq_of_lt (Nat.lt_of_le_of_lt bound (by decide))

/-- In an encoding of more than one byte, all bytes are marked by their first bit. -/
theorem not_lt_of_mem_utf8EncodeChar {byte : Byte} {character : Char}
    (long : character.utf8Size ≠ 1) (member : byte ∈ String.utf8EncodeChar character) :
    ¬byte < 128 := by
  have marked : ∀ mark ∈ [(128 : Byte), 192, 224, 240], ∀ bits : Byte, ¬bits ||| mark < 128 := by
    intro mark listed
    apply Byte.forall_of_forall_lt
    revert mark
    decide +kernel
  rcases character.utf8Size_eq with one | two | three | four
  · exact absurd one long
  · rw [String.utf8EncodeChar_eq_cons_cons two] at member
    simp only [List.mem_cons, List.not_mem_nil, or_false] at member
    rcases member with rfl | rfl
    · exact marked 192 (by simp) _
    · exact marked 128 (by simp) _
  · rw [String.utf8EncodeChar_eq_cons_cons_cons three] at member
    simp only [List.mem_cons, List.not_mem_nil, or_false] at member
    rcases member with rfl | rfl | rfl
    · exact marked 224 (by simp) _
    · exact marked 128 (by simp) _
    · exact marked 128 (by simp) _
  · rw [String.utf8EncodeChar_eq_cons_cons_cons_cons four] at member
    simp only [List.mem_cons, List.not_mem_nil, or_false] at member
    rcases member with rfl | rfl | rfl | rfl
    · exact marked 240 (by simp) _
    · exact marked 128 (by simp) _
    · exact marked 128 (by simp) _
    · exact marked 128 (by simp) _

/-- A byte of 7 bits is in the encoding of one character only. -/
theorem eq_ofUInt8_of_mem {byte : Byte} {character : Char} (sevenBit : byte < 128)
    (member : byte ∈ String.utf8EncodeChar character) : character = Char.ofUInt8 byte := by
  by_cases one : character.utf8Size = 1
  · rw [String.utf8EncodeChar_eq_singleton one, List.mem_singleton] at member
    rw [member, ofUInt8_of_le (Char.utf8Size_eq_one_iff.mp one)]
  · exact absurd sevenBit (not_lt_of_mem_utf8EncodeChar one member)

theorem lineFeed_not_mem_encode {line : List Char} (oneLine : '\n' ∉ line) :
    Byte.lineFeed ∉ encode (String.ofList line) := by
  intro member
  rcases List.mem_flatMap.mp member with ⟨character, typed, byte⟩
  have isLineFeed : character = '\n' := eq_ofUInt8_of_mem (by decide) byte
  rw [String.toList_ofList, isLineFeed] at typed
  exact oneLine typed

theorem encode_ofList_append (front back : List Char) :
    encode (String.ofList (front ++ back)) =
      encode (String.ofList front) ++ encode (String.ofList back) := by
  simp [encode]

theorem encode_ofList_line (line rest : List Char) :
    encode (String.ofList (line ++ '\n' :: rest)) =
      encode (String.ofList line) ++ Byte.lineFeed :: encode (String.ofList rest) := by
  rw [encode_ofList_append]
  simp only [encode, String.toList_ofList, List.flatMap_cons]
  rfl

theorem decode?_eq_none_iff {bytes : List Byte} :
    decode? bytes = none ↔ ¬∃ text, bytes = encode text := by
  simp [Option.eq_none_iff_forall_ne_some, decode?_eq_some_iff]

/-! ### White space and backspaces -/

theorem trimCharacters_append {ending : List Char} (shown : List Char)
    (white : ∀ character ∈ ending, Unicode.isWhiteSpace character = true) :
    trimCharacters (shown ++ ending) = trimCharacters shown := by
  have whiteReversed : ∀ character ∈ ending.reverse, Unicode.isWhiteSpace character = true :=
    fun character member => white character (List.mem_reverse.mp member)
  unfold trimCharacters
  by_cases nothing : shown.dropWhile Unicode.isWhiteSpace = []
  · have dropped : ending.dropWhile Unicode.isWhiteSpace = [] :=
      List.dropWhile_eq_nil_iff.mpr white
    simp [List.dropWhile_append, nothing, dropped]
  · simp [List.dropWhile_append, nothing, List.dropWhile_append_of_pos whiteReversed]

theorem foldl_typeCluster_of_not_mem {clusters : List (List Char)} (kept : List (List Char))
    (apart : [backspace] ∉ clusters) :
    clusters.foldl typeCluster kept = clusters.reverse ++ kept := by
  induction clusters generalizing kept with
  | nil => rfl
  | cons cluster clusters ih =>
      rw [List.mem_cons, not_or] at apart
      rw [List.foldl_cons, typeCluster, if_neg (Ne.symm apart.1), ih _ apart.2]
      simp

/-- Text without backspaces is read as it was typed. -/
theorem applyBackspaces_of_not_mem {characters : List Char} (absent : backspace ∉ characters) :
    applyBackspaces characters = characters := by
  have apart : [backspace] ∉ clusters characters := by
    intro member
    apply absent
    rw [← flatten_clusters characters]
    exact List.mem_flatten_of_mem member List.mem_cons_self
  rw [applyBackspaces, foldl_typeCluster_of_not_mem [] apart]
  simp

end Text

namespace Session.InputLine

/-! ### The lines of a session -/

theorem split_of_oneLine {line : List Byte} (oneLine : Byte.lineFeed ∉ line) :
    split line = if line = [] then [] else [{ bytes := line, ended := false }] := by
  induction line with
  | nil => rfl
  | cons byte rest ih =>
      rw [List.mem_cons, not_or] at oneLine
      rw [split, if_neg (Ne.symm oneLine.1), ih oneLine.2]
      by_cases empty : rest = []
      · simp [empty]
      · simp [empty]

theorem split_line_append {line : List Byte} (oneLine : Byte.lineFeed ∉ line)
    (rest : List Byte) :
    split (line ++ Byte.lineFeed :: rest) = { bytes := line, ended := true } :: split rest := by
  induction line with
  | nil => simp [split]
  | cons byte line ih =>
      rw [List.mem_cons, not_or] at oneLine
      rw [List.cons_append, split, if_neg (Ne.symm oneLine.1), ih oneLine.2]

/-- The content of a line of text is that text, or that text without the carriage return at its
end. -/
theorem exists_content (line : List Char) (ended : Bool) :
    ∃ shown ending, line = shown ++ ending ∧ (ending = [] ∨ ending = ['\r']) ∧
      content { bytes := Text.encode (String.ofList line), ended } =
        Text.encode (String.ofList shown) := by
  by_cases closed : ended = true ∧
      (Text.encode (String.ofList line)).getLast? = some Byte.carriageReturn
  · rcases closed with ⟨rfl, atEnd⟩
    rcases List.eq_nil_or_concat line with rfl | ⟨shown, last, rfl⟩
    · contradiction
    · have encoded : Text.encode (String.ofList [last]) = String.utf8EncodeChar last := by
        simp [Text.encode]
      have nonempty : String.utf8EncodeChar last ≠ [] := by
        rw [← List.length_pos_iff, String.length_utf8EncodeChar]
        exact last.utf8Size_pos
      rw [List.concat_eq_append, Text.encode_ofList_append, encoded,
        List.getLast?_append_of_ne_nil _ nonempty] at atEnd
      have isReturn : last = '\r' :=
        Text.eq_ofUInt8_of_mem (by decide) (List.mem_of_getLast? atEnd)
      have returns : String.utf8EncodeChar '\r' = [Byte.carriageReturn] := by decide
      refine ⟨shown, ['\r'], by simp [isReturn], Or.inr rfl, ?_⟩
      rw [List.concat_eq_append, Text.encode_ofList_append, encoded, isReturn, returns]
      simp [content]
  · refine ⟨line, [], by simp, Or.inl rfl, ?_⟩
    simp [content, closed]

/-- The content of a line is text exactly if the line is. -/
theorem exists_encode_content_iff {line : InputLine} :
    (∃ text, line.content = Text.encode text) ↔ ∃ text, line.bytes = Text.encode text := by
  constructor
  · rintro ⟨text, content⟩
    by_cases returned : line.ended = true ∧ line.bytes.getLast? = some Byte.carriageReturn
    · have encoded : Text.encode (String.ofList ['\r']) = [Byte.carriageReturn] := by decide
      have shortened : line.content = line.bytes.dropLast := by simp [InputLine.content, returned]
      refine ⟨String.ofList (text.toList ++ ['\r']), ?_⟩
      rw [Text.encode_ofList_append, String.ofList_toList, ← content, encoded, shortened]
      exact (List.dropLast_append_getLast? _ returned.2).symm
    · have whole : line.content = line.bytes := by simp [InputLine.content, returned]
      exact ⟨text, whole.symm.trans content⟩
  · rintro ⟨text, bytes⟩
    rcases exists_content text.toList line.ended with ⟨shown, _, _, _, content⟩
    rw [String.ofList_toList, ← bytes] at content
    exact ⟨String.ofList shown, content⟩

/-! ### Readers of lines -/

/-- What a session needs of a reader of its lines: there is something to read in those lines that
are text and in no others, and text without backspaces is read as it was typed. What becomes of a
backspace is left to the reader. -/
structure IsReader (read : InputLine → Option String) : Prop where
  eq_none_iff : ∀ line, read line = none ↔ Text.decode? line.bytes = none
  eq_some : ∀ {line text}, line.content = Text.encode text → Text.backspace ∉ text.toList →
    read line = some text

theorem isReader_text? : IsReader text? where
  eq_none_iff line := by
    rw [text?, Option.map_eq_none_iff]
    simp only [Text.decode?_eq_none_iff, exists_encode_content_iff]
  eq_some {line text} content noBackspace := by
    rw [text?, content, Text.decode?_encode, Option.map_some,
      Text.applyBackspaces_of_not_mem noBackspace, String.ofList_toList]

end Session.InputLine

end MonkeyLexis
