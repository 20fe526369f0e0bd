import MonkeyLexis.CommandLine.Item
import MonkeyLexis.IllegalPolicy

/-!
# Requests

What a command line asks for as a whole. Items are taken from left to right. Those that set
something are collected, and the first of any other sort decides: help and version are given at
once, a mistake is refused, and a file is the last item that counts.
-/

namespace MonkeyLexis.CommandLine

structure Settings where
  policy : IllegalPolicy := .report
  interactive : Bool := false
  code? : Option String := none
deriving DecidableEq

inductive Subject where
  | code (source : String)
  | file (path : String)
deriving DecidableEq

inductive UsageError where
  | missingCode
  | unknownOption (option : String)
deriving DecidableEq

inductive Request where
  | help
  | version
  | refuse (error : UsageError)
  | session (policy : IllegalPolicy)
  /-- The listing of a source, with or without a session after it. -/
  | list (subject : Subject) (policy : IllegalPolicy) (interactive : Bool)
deriving DecidableEq

def UsageError.message : UsageError → String
  | missingCode => "-e requires an argument"
  | unknownOption option => "Unknown option: " ++ option

/-- The request when no further item counts: code goes before a file, and without either there is a
session. -/
def Settings.request (settings : Settings) (path? : Option String) : Request :=
  match settings.code?, path? with
  | some source, _ => .list (.code source) settings.policy settings.interactive
  | none, some path => .list (.file path) settings.policy settings.interactive
  | none, none => .session settings.policy

namespace Request

/-- The request of `items` behind items that have set `settings`. -/
def ofItems (settings : Settings) : List Item → Request
  | [] => settings.request none
  | .help :: _ => .help
  | .version :: _ => .version
  | .missingCode :: _ => .refuse .missingCode
  | .unknown option :: _ => .refuse (.unknownOption option)
  | .file path :: _ => settings.request (some path)
  | .strict :: items => ofItems { settings with policy := .reject } items
  | .interactive :: items => ofItems { settings with interactive := true } items
  | .code source :: items => ofItems { settings with code? := some source } items

def ofArguments (arguments : List String) : Request :=
  ofItems {} (Item.ofArguments arguments)

/-- The file that has to be looked at for the request. -/
def path? : Request → Option String
  | list (.file path) _ _ => some path
  | _ => none

end Request

end MonkeyLexis.CommandLine
