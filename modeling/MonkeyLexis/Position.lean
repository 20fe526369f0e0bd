import MonkeyLexis.Byte

/-!
# Positions in source text

A position is the place between two bytes of a source: how many bytes lie before it, and where it
is on its line. All four numbers are counted from zero. `Position.pass` moves a position over one
byte and is the only place where a line feed has an effect; `Position.advance` moves it along a
line.
-/

namespace MonkeyLexis

/-- A place in source text, counted from zero in bytes and in lines. -/
structure Position where
  offset : Nat := 0
  /-- The offset at which the line of the position starts. -/
  lineStart : Nat := 0
  line : Nat := 0
  column : Nat := 0
deriving DecidableEq

namespace Position

def origin : Position := {}

/-- The number of the line as a reader counts it, from one. -/
def lineNumber (position : Position) : Nat := position.line + 1

/-- The number of the column as a reader counts it, from one. -/
def columnNumber (position : Position) : Nat := position.column + 1

/-- The place `count` bytes further on the same line. -/
def advance (position : Position) (count : Nat) : Position :=
  { position with offset := position.offset + count, column := position.column + count }

/-- The place behind `byte`: a line feed starts the next line, all else stays on the line. -/
def pass (position : Position) (byte : Byte) : Position :=
  if byte = Byte.lineFeed then
    { offset := position.offset + 1
      lineStart := position.offset + 1
      line := position.line + 1
      column := 0 }
  else
    position.advance 1

def passAll (position : Position) (bytes : List Byte) : Position :=
  bytes.foldl pass position

@[simp]
theorem advance_zero (position : Position) : position.advance 0 = position := rfl

@[simp]
theorem advance_advance (position : Position) (first second : Nat) :
    (position.advance first).advance second = position.advance (first + second) := by
  simp [advance, Nat.add_assoc]

@[simp]
theorem offset_pass (position : Position) (byte : Byte) :
    (position.pass byte).offset = position.offset + 1 := by
  unfold pass
  split <;> rfl

@[simp]
theorem passAll_nil (position : Position) : position.passAll [] = position := rfl

@[simp]
theorem passAll_cons (position : Position) (byte : Byte) (bytes : List Byte) :
    position.passAll (byte :: bytes) = (position.pass byte).passAll bytes := rfl

@[simp]
theorem passAll_append (position : Position) (front back : List Byte) :
    position.passAll (front ++ back) = (position.passAll front).passAll back :=
  List.foldl_append

theorem offset_passAll (position : Position) (bytes : List Byte) :
    (position.passAll bytes).offset = position.offset + bytes.length := by
  induction bytes generalizing position with
  | nil => rfl
  | cons byte bytes ih => simp [ih, Nat.add_comm, Nat.add_left_comm]

/-- Bytes among which there is no line feed only move a position along its line. -/
theorem passAll_eq_advance (position : Position) {bytes : List Byte}
    (noLineFeed : Byte.lineFeed ∉ bytes) :
    position.passAll bytes = position.advance bytes.length := by
  induction bytes generalizing position with
  | nil => rfl
  | cons byte bytes ih =>
      simp only [List.mem_cons, not_or] at noLineFeed
      rw [passAll_cons, ih _ noLineFeed.2, pass, if_neg (Ne.symm noLineFeed.1), advance_advance,
        List.length_cons, Nat.add_comm]

end Position

end MonkeyLexis
