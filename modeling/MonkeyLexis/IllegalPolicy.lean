import MonkeyLexis.TokenList

/-!
# Policies for illegal characters

A program that reads source text chooses what becomes of illegal characters. Scanning under a policy
closes with one more event for each source that was scanned to its end.
-/

namespace MonkeyLexis

/-- What becomes of a source with illegal characters. -/
inductive IllegalPolicy where
  /-- Illegal characters are tokens among the others. -/
  | report
  /-- The first illegal character is an error. -/
  | reject
deriving DecidableEq

/-- Unless told otherwise, illegal characters are reported. -/
instance : Inhabited IllegalPolicy := ⟨.report⟩

/-- The event that closes the work on a source that was scanned to its end. -/
def closingEvent (source : List Byte) (tokens : List Token) : Event :=
  .completed tokens.length source.length

namespace IllegalPolicy

/-- The tokens of `source` under the policy, without a closing event. -/
def scanOpen (policy : IllegalPolicy) (source : List Byte) :
    Logged (Except IllegalCharacter (List Token)) :=
  match policy with
  | report => (scanAll source).map .ok
  | reject => scanLegal source

def scan (policy : IllegalPolicy) (source : List Byte) :
    Logged (Except IllegalCharacter (List Token)) :=
  let scanned := policy.scanOpen source
  match scanned.result with
  | .ok tokens => { scanned with events := scanned.events ++ [closingEvent source tokens] }
  | .error _ => scanned

def scanText (policy : IllegalPolicy) (text : String) :
    Logged (Except IllegalCharacter (List Token)) :=
  policy.scan (Text.encode text)

end IllegalPolicy

/-- The tokens of a line of text. Illegal characters are among them, so there is no error. -/
def scanLine (line : String) : Logged (List Token) :=
  let source := Text.encode line
  let scanned := scanAll source
  { scanned with events := scanned.events ++ [closingEvent source scanned.result] }

end MonkeyLexis
