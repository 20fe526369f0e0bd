import MonkeyLexis.Session.Reply
import MonkeyLexis.Version

/-!
# Dialogues

A session greets its user, replies to one line after another until a reply ends it, and says
goodbye if the input ends before. How the text of a line is had from its bytes is no part of a
dialogue, which goes over what was read.
-/

namespace MonkeyLexis.Session

def greeting : Output :=
  .text ("Monkey v" ++ version ++ " - Type 'exit' or Ctrl+D to quit\n\n")

/-- The outcome of a session whose input has ended. -/
def endOfInput : Outcome :=
  .success (.text ("\n" ++ farewell))

/-- The outcome of the replies to what is read in one line after another. -/
def converseOver (policy : IllegalPolicy) : List (Option String) → Outcome
  | [] => endOfInput
  | reading :: readings =>
      let reply := replyTo policy reading
      match reply.ending? with
      | some status => { output := reply.output, status }
      | none => (converseOver policy readings).after reply.output

/-- The outcome of the replies to `lines`. -/
def converse (policy : IllegalPolicy) (lines : List InputLine) : Outcome :=
  converseOver policy (lines.map InputLine.text?)

/-- The outcome of a session that has `read` for reading its lines. -/
def runWith (read : InputLine → Option String) (policy : IllegalPolicy) (input : List Byte) :
    Outcome :=
  (converseOver policy ((InputLine.split input).map read)).after greeting

def run (policy : IllegalPolicy) (input : List Byte) : Outcome :=
  runWith InputLine.text? policy input

end MonkeyLexis.Session
