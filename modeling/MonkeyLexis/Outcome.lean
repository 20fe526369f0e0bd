/-!
# Output and outcome

What a run of the program leaves behind: the text on its two output streams and an exit status.
-/

namespace MonkeyLexis

/-- Text written to standard output and to standard error. -/
structure Output where
  stdout : String
  stderr : String
deriving DecidableEq

namespace Output

def empty : Output := { stdout := "", stderr := "" }

def text (text : String) : Output := { stdout := text, stderr := "" }

/-- Each of `lines` is written to standard output and ended with a line feed. -/
def lines (lines : List String) : Output := text (String.join (lines.map (· ++ "\n")))

def error (message : String) : Output := { stdout := "", stderr := "Error: " ++ message ++ "\n" }

/-- One output behind another on both streams. -/
def append (first second : Output) : Output :=
  { stdout := first.stdout ++ second.stdout, stderr := first.stderr ++ second.stderr }

instance : Append Output := ⟨append⟩

@[simp]
theorem stdout_append (first second : Output) :
    (first ++ second).stdout = first.stdout ++ second.stdout := rfl

@[simp]
theorem stderr_append (first second : Output) :
    (first ++ second).stderr = first.stderr ++ second.stderr := rfl

end Output

inductive ExitStatus where
  | success
  | failure
deriving DecidableEq

def ExitStatus.code : ExitStatus → Nat
  | success => 0
  | failure => 1

structure Outcome where
  output : Output
  status : ExitStatus
deriving DecidableEq

namespace Outcome

def success (output : Output) : Outcome := { output, status := .success }

def failure (message : String) : Outcome := { output := .error message, status := .failure }

/-- The same outcome with output that was written before. -/
def after (outcome : Outcome) (output : Output) : Outcome :=
  { outcome with output := output ++ outcome.output }

end Outcome

end MonkeyLexis
