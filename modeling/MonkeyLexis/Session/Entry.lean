import MonkeyLexis.Text.LowerCase
import MonkeyLexis.Text.Trim

/-!
# Entries

What a line of a session asks for. The white space around a line has no say in that, but where the
line turns out to be source text it is kept, so that columns are counted in the line as it was
typed.
-/

namespace MonkeyLexis.Session

/-- What a line with a slash in front asks for. -/
inductive Command where
  | help
  | clear
  | leave
  | unknown (name : String)
deriving DecidableEq

inductive Entry where
  | leave
  | command (asked : Command)
  | blank
  | source (line : String)
deriving DecidableEq

/-- The command with the given name in lower case. -/
def Command.ofName (name : String) : Command :=
  if name = "help" then .help
  else if name = "clear" then .clear
  else if name = "exit" || name = "quit" then .leave
  else .unknown name

/-- The command that stands behind the slash: its name is the first word there, in any case. -/
def Command.ofCharacters (characters : List Char) : Command :=
  .ofName (String.ofList (Text.lowerCase (Text.firstWord characters)))

def Entry.ofLine (line : String) : Entry :=
  let trimmed := Text.trim line
  if trimmed = "exit" || trimmed = "quit" then .leave
  else
    match trimmed.toList with
    | [] => .blank
    | '/' :: rest => .command (.ofCharacters rest)
    | _ => .source line

end MonkeyLexis.Session
