import MonkeyLexis.Text.Backspace
import MonkeyLexis.Text.Utf8

/-!
# Input lines

The input of a session is cut into lines behind each line feed. A carriage return right before the
line feed belongs to the end of the line; in a last line without a line feed it does not. Main
statement: the lines put together are the input.
-/

namespace MonkeyLexis.Session

/-- The bytes of a line before its line feed, and whether there is a line feed at all. -/
structure InputLine where
  bytes : List Byte
  ended : Bool
deriving DecidableEq

namespace InputLine

def split : List Byte → List InputLine
  | [] => []
  | byte :: rest =>
      if byte = Byte.lineFeed then
        { bytes := [], ended := true } :: split rest
      else
        match split rest with
        | [] => [{ bytes := [byte], ended := false }]
        | line :: lines => { line with bytes := byte :: line.bytes } :: lines

/-- The line as it stands in the input. -/
def whole (line : InputLine) : List Byte :=
  line.bytes ++ if line.ended then [Byte.lineFeed] else []

def content (line : InputLine) : List Byte :=
  if line.ended && line.bytes.getLast? = some Byte.carriageReturn then
    line.bytes.dropLast
  else
    line.bytes

/-- The text that was typed in the line, if it is text. -/
def text? (line : InputLine) : Option String :=
  (Text.decode? line.content).map fun typed =>
    String.ofList (Text.applyBackspaces typed.toList)

/-- Cutting the input into lines loses nothing. -/
theorem flatMap_whole_split (input : List Byte) : (split input).flatMap whole = input := by
  induction input with
  | nil => rfl
  | cons byte rest ih =>
      unfold split
      split
      · next isLineFeed => simp [whole, ih, isLineFeed]
      · split
        · next noLines =>
            have nothing : rest = [] := by simpa [noLines] using ih.symm
            simp [whole, nothing]
        · next line lines found => simpa [whole, found] using ih

end InputLine

end MonkeyLexis.Session
