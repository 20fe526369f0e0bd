import MonkeyLexis.CommandLine.Program

/-!
# The executable

The thin layer between the program and the system. It reads the file that a command line names,
does the opening of the run, and then hands a session its input line by line, so that a user sees
each reply before typing the next line.
-/

namespace MonkeyLexis

def Output.write (output : Output) : IO Unit := do
  let stdout ← IO.getStdout
  let stderr ← IO.getStderr
  stdout.putStr output.stdout
  stdout.flush
  stderr.putStr output.stderr
  stderr.flush

namespace CommandLine

/-- The operating system's words and number for an error, if it was the system that failed. -/
def systemError? : IO.Error → Option (String × UInt32)
  | .noFileOrDirectory _ code details => some (details, code)
  | .inappropriateType _ code details => some (details, code)
  | .invalidArgument _ code details => some (details, code)
  | .permissionDenied _ code details => some (details, code)
  | .resourceExhausted _ code details => some (details, code)
  | .noSuchThing _ code details => some (details, code)
  | .interrupted _ code details => some (details, code)
  | .otherError code details => some (details, code)
  | .resourceBusy code details => some (details, code)
  | .hardwareFault code details => some (details, code)
  | .illegalOperation code details => some (details, code)
  | .unsupportedOperation code details => some (details, code)
  | _ => none

/-- The number of an error as the system documents it. Some calls hand it on with a minus sign,
which in a word of 32 bits makes it a large number. -/
def errorNumber (code : UInt32) : Nat :=
  min code.toNat (UInt32.size - code.toNat)

/-- The number by which a system says that a path is too long. Such a path leads nowhere, even if
each name in it does. -/
def pathTooLong : Nat := 36

/-- What a failed attempt to read a file has found at a path that can be resolved. -/
def FileLookup.ofError (error : IO.Error) : FileLookup :=
  match systemError? error with
  | none => .unreadable (toString error)
  | some (details, code) =>
      if errorNumber code = pathTooLong then .missing
      else .unreadable (details ++ " (os error " ++ toString (errorNumber code) ++ ")")

/-- Whether a path leads anywhere, through links and directories that may be searched. -/
def canBeResolved (path : String) : IO Bool := do
  try
    discard (IO.FS.realPath path)
    return true
  catch _ =>
    return false

/-- What is found at `path` in the system's files. A path that cannot be resolved counts as
missing, whatever stands in its way. -/
def lookUpFile (path : String) : IO FileLookup := do
  try
    return .contents (← IO.FS.readBinFile path).data.toList
  catch error =>
    if ← canBeResolved path then return .ofError error else return .missing

/-- Reads on in a line of which `bytes` are known, the last one first. There is no line at the end
of the input. -/
partial def readLine? (stdin : IO.FS.Stream) (bytes : List Byte) :
    IO (Option Session.InputLine) := do
  match (← stdin.read 1).data.toList with
  | [] => return if bytes.isEmpty then none else some { bytes := bytes.reverse, ended := false }
  | byte :: _ =>
      if byte = Byte.lineFeed then return some { bytes := bytes.reverse, ended := true }
      else readLine? stdin (byte :: bytes)

partial def holdSession (policy : IllegalPolicy) (stdin : IO.FS.Stream) : IO ExitStatus := do
  match ← readLine? stdin [] with
  | none =>
      Session.endOfInput.output.write
      return Session.endOfInput.status
  | some line =>
      let reply := line.reply policy
      reply.output.write
      match reply.ending? with
      | some status => return status
      | none => holdSession policy stdin

end CommandLine

end MonkeyLexis

open MonkeyLexis CommandLine in
def main (arguments : List String) : IO UInt32 := do
  let request := Request.ofArguments arguments
  let found ← match request.path? with
    | some path => lookUpFile path
    | none => pure FileLookup.missing
  let status ← match request.opening fun _ => found with
    | .finished outcome => do
      outcome.output.write
      pure outcome.status
    | .session output policy => do
      (output ++ Session.greeting).write
      holdSession policy (← IO.getStdin)
  return UInt32.ofNat status.code
