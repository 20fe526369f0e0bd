import MonkeyLexis.Listing
import MonkeyLexis.Outcome
import MonkeyLexis.Session.Entry
import MonkeyLexis.Session.InputLine

/-!
# Replies

How a session replies to a line. A reply depends on nothing but what is read in the line and the
policy for illegal characters. A source that is rejected gets a message in its reply and does not
end the session.
-/

namespace MonkeyLexis.Session

/-- What is written in reply to a line, and the exit status if the session ends there. -/
structure Reply where
  output : Output
  ending? : Option ExitStatus
deriving DecidableEq

namespace Reply

/-- A reply behind which the session goes on. -/
def continuing (output : Output) : Reply := { output, ending? := none }

/-- A reply with which the session ends. -/
def ending (output : Output) (status : ExitStatus) : Reply := { output, ending? := some status }

end Reply

/-- What is written when a user leaves by a word or at the end of the input. -/
def farewell : String := "Goodbye!\n"

/-- The commands that a user can give. -/
def commandHelp : String :=
  "\nREPL Commands:\n"
    ++ "  /help     Show this help\n"
    ++ "  /clear    Clear the screen\n"
    ++ "  /exit     Exit the REPL\n"
    ++ "\n"

/-- The control sequence by which a terminal clears its screen and goes to its top left corner. -/
def clearScreen : String := "\x1b[2J\x1b[1;1H"

def Command.reply : Command → Reply
  | help => .continuing (.text commandHelp)
  | clear => .continuing (.text clearScreen)
  | leave => .ending .empty .success
  | unknown name =>
      .continuing
        (.lines ["Unknown command: /" ++ name ++ ". Type /help for available commands."])

/-- The output for source text that was typed in a line. -/
def sourceOutput (policy : IllegalPolicy) (line : String) : Output :=
  match listing (Text.encode line) policy with
  | .ok lines => .lines lines
  | .error error => .error error.message

def Entry.reply (policy : IllegalPolicy) : Entry → Reply
  | leave => .ending (.text farewell) .success
  | command asked => asked.reply
  | blank => .continuing .empty
  | source line => .continuing (sourceOutput policy line)

/-- The reply to a line that is not text. -/
def notTextReply : Reply :=
  .ending (.error "Readline error: stream did not contain valid UTF-8") .failure

/-- The reply to what is read in a line: its text, or nothing in a line that is not text. -/
def replyTo (policy : IllegalPolicy) : Option String → Reply
  | some text => (Entry.ofLine text).reply policy
  | none => notTextReply

def InputLine.reply (policy : IllegalPolicy) (line : InputLine) : Reply :=
  replyTo policy line.text?

end MonkeyLexis.Session
