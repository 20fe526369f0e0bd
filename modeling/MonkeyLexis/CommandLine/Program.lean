import MonkeyLexis.CommandLine.FileSystem
import MonkeyLexis.CommandLine.Request
import MonkeyLexis.Session.Dialogue

/-!
# The program

What a run of the program does, from its arguments, the files and its standard input. The input
matters only to a session: all that happens before one is the opening of a run. An opening that
fails writes a message and nothing else, and no session follows it.
-/

namespace MonkeyLexis.CommandLine

def usage : String :=
  "\nMonkey v" ++ version ++ " - lexer for the Monkey scripting language\n"
    ++ "\n"
    ++ "Usage:\n"
    ++ "  monkey [options] [file]\n"
    ++ "\n"
    ++ "Options:\n"
    ++ "  -h, --help         Show this help message\n"
    ++ "  -v, --version      Show version\n"
    ++ "  -e, --eval         Tokenize code from command line\n"
    ++ "  -i, --interactive  Start REPL after tokenizing a file or -e code\n"
    ++ "      --strict       Fail on the first illegal character\n"
    ++ "\n"
    ++ "Examples:\n"
    ++ "  monkey                       Start interactive REPL\n"
    ++ "  monkey script.monkey         Tokenize a script file\n"
    ++ "  monkey -e \"let x = 1;\"       Tokenize code\n"
    ++ "\n"

inductive SubjectError where
  | missing (path : String)
  | unreadable (reason : String)
  | illegalInCode (error : IllegalCharacter)
  | illegalInFile (path : String) (error : IllegalCharacter)
deriving DecidableEq

def SubjectError.message : SubjectError → String
  | missing path => "File not found: " ++ path
  | unreadable reason => "Failed to read file: " ++ reason
  | illegalInCode error => error.message
  | illegalInFile path error => "Error in " ++ path ++ ": " ++ error.message

/-- The listing of a source that a command line names. -/
def Subject.listing (files : FileSystem) (policy : IllegalPolicy) :
    Subject → Except SubjectError (List String)
  | code source => (MonkeyLexis.listing (Text.encode source) policy).mapError .illegalInCode
  | file path =>
      match files path with
      | .missing => .error (.missing path)
      | .unreadable reason => .error (.unreadable reason)
      | .contents bytes => (MonkeyLexis.listing bytes policy).mapError (.illegalInFile path)

/-- What a run does before it reads standard input. -/
inductive Opening where
  | finished (outcome : Outcome)
  | session (output : Output) (policy : IllegalPolicy)
deriving DecidableEq

/-- What is done for a request before standard input is read. -/
def Request.opening (files : FileSystem) : Request → Opening
  | help => .finished (.success (.text usage))
  | version => .finished (.success (.lines ["Monkey " ++ MonkeyLexis.version]))
  | refuse error => .finished (.failure error.message)
  | session policy => .session .empty policy
  | list subject policy interactive =>
      match subject.listing files policy with
      | .error error => .finished (.failure error.message)
      | .ok lines =>
          if interactive then .session (.lines lines) policy
          else .finished (.success (.lines lines))

/-- The outcome of an opening and of the session that may follow it. -/
def Opening.outcome (input : List Byte) : Opening → Outcome
  | finished outcome => outcome
  | session output policy => (Session.run policy input).after output

/-- The outcome of a run with the given arguments, files and standard input. -/
def run (arguments : List String) (files : FileSystem) (input : List Byte) : Outcome :=
  ((Request.ofArguments arguments).opening files).outcome input

end MonkeyLexis.CommandLine
