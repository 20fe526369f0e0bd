/-!
# Items of a command line

The arguments of the program are cut into items from left to right. An item is one argument,
except that the option for code takes the argument behind it, however that one is written.
-/

namespace MonkeyLexis.CommandLine

inductive Item where
  | help
  | version
  | strict
  | interactive
  | code (source : String)
  /-- The option for code stands last. -/
  | missingCode
  | unknown (option : String)
  | file (path : String)
deriving DecidableEq

/-- The item that an argument is by itself, or none for the option that takes the next argument. -/
def Item.ofArgument? (argument : String) : Option Item :=
  match argument with
  | "-h" | "--help" => some .help
  | "-v" | "--version" => some .version
  | "-e" | "--eval" => none
  | "-i" | "--interactive" => some .interactive
  | "--strict" => some .strict
  | _ =>
      match argument.toList with
      | '-' :: _ => some (.unknown argument)
      | _ => some (.file argument)

def Item.ofArguments : List String → List Item
  | [] => []
  | argument :: rest =>
      match Item.ofArgument? argument, rest with
      | some item, rest => item :: ofArguments rest
      | none, source :: rest => .code source :: ofArguments rest
      | none, [] => [.missingCode]

end MonkeyLexis.CommandLine
