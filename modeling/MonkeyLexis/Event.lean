import MonkeyLexis.Token.Display

/-!
# Events

What the library reports about its own work: each token as it is scanned, each illegal byte just
before its token, and each source once all of it was scanned. Work that reports events returns a
`Logged` value.
-/

namespace MonkeyLexis

inductive Level where
  | trace
  | debug
deriving DecidableEq

inductive Reporter where
  | scanner
  | frontEnd
deriving DecidableEq

inductive Event where
  | illegalByte (byte : Byte) (place : Position)
  | scanned (token : Token)
  | completed (tokenCount byteCount : Nat)
deriving DecidableEq

namespace Event

/-- Single tokens are traced, the rest is for debugging. -/
def level : Event → Level
  | scanned _ => .trace
  | illegalByte _ _ | completed _ _ => .debug

/-- The scanner reports tokens and bytes, the front end reports sources. -/
def reporter : Event → Reporter
  | illegalByte _ _ | scanned _ => .scanner
  | completed _ _ => .frontEnd

def message : Event → String
  | illegalByte byte place =>
      "illegal byte 0x" ++ String.ofList (Text.hexPair byte) ++ " at offset "
        ++ toString place.offset ++ " (line " ++ toString place.lineNumber ++ ", column "
        ++ toString place.columnNumber ++ ")"
  | scanned token => "scanned " ++ token.display ++ " at offset " ++ toString token.start.offset
  | completed tokenCount byteCount =>
      "lexed " ++ toString tokenCount ++ " tokens from " ++ toString byteCount ++ " bytes"

end Event

/-- A result with the events reported on the way to it, in order. -/
structure Logged (Result : Type) where
  events : List Event
  result : Result

namespace Logged

variable {Source Target : Type}

def map (change : Source → Target) (logged : Logged Source) : Logged Target :=
  { events := logged.events, result := change logged.result }

/-- The same result with events that came before. -/
def after (logged : Logged Source) (events : List Event) : Logged Source :=
  { events := events ++ logged.events, result := logged.result }

@[simp]
theorem events_map (change : Source → Target) (logged : Logged Source) :
    (logged.map change).events = logged.events := rfl

@[simp]
theorem result_map (change : Source → Target) (logged : Logged Source) :
    (logged.map change).result = change logged.result := rfl

@[simp]
theorem events_after (logged : Logged Source) (events : List Event) :
    (logged.after events).events = events ++ logged.events := rfl

@[simp]
theorem result_after (logged : Logged Source) (events : List Event) :
    (logged.after events).result = logged.result := rfl

end Logged

end MonkeyLexis
