import UnitScan.Text.Quoted
import UnitScan.Position

/-!
# Log

What the library notes while it works. An event says what happened; its level, the channel it
belongs to and its wording follow from that. A `Logged` value is a value together with the
events that led to it, in order.
-/

namespace UnitScan

namespace Log

/-- How much an event matters. -/
inductive Level
  | debug
  | warning
  | error
  deriving DecidableEq, Repr

/-- The name of a level. -/
def Level.name : Level → String
  | debug => "DEBUG"
  | warning => "WARNING"
  | error => "ERROR"

/-- What the library notes. -/
inductive Event
  /-- A character starts no lexeme. -/
  | stray (position : Position) (message : String)
  /-- A stream of tokens was read to its end. -/
  | collected (tokens errors : Nat)
  /-- A stream of tokens stopped before its end. -/
  | endedEarly (tokens : Nat)
  /-- More errors were found than are kept. -/
  | limitReached (limit : Int)
  /-- The configured error limit is not a positive integer. -/
  | limitIgnored (setting : String)
  /-- A file was read and decoded. -/
  | sourceRead (bytes : Nat) (path : String)
  /-- The command is about to read a file. -/
  | scanning (path encoding : String)
  deriving DecidableEq, Repr

namespace Event

/-- How much an event matters. -/
def level : Event → Level
  | stray .. | collected .. | limitReached .. | sourceRead .. | scanning .. => .debug
  | limitIgnored .. => .warning
  | endedEarly .. => .error

/-- The channel that an event is reported on. -/
def channel : Event → String
  | stray .. => "unitlex.lexer.scanner"
  | collected .. | endedEarly .. | limitReached .. => "unitlex.lexer.driver"
  | limitIgnored .. | sourceRead .. => "unitlex.config"
  | scanning .. => "unitlex.cli.tokens"

/-- What an event is reported as. -/
def message : Event → String
  | stray position message => position.text ++ ": " ++ message
  | collected tokens errors =>
    "collected " ++ toString tokens ++ " tokens (" ++ toString errors ++ " errors)"
  | endedEarly tokens =>
    "token stream ended without EOF after " ++ toString tokens ++ " tokens"
  | limitReached limit => "error limit of " ++ toString limit ++ " reached"
  | limitIgnored setting =>
    "ignoring invalid UNITLEX_MAX_ERRORS=" ++ Text.quoted setting
  | sourceRead bytes path => "read " ++ toString bytes ++ " bytes from " ++ path
  | scanning path encoding => "scanning " ++ path ++ " (encoding " ++ encoding ++ ")"

end Event

/-- What a log has for one event. -/
structure Record where
  level : Level
  channel : String
  message : String
  deriving DecidableEq, Repr

/-- The record of an event. -/
def Event.record (e : Event) : Record := ⟨e.level, e.channel, e.message⟩

end Log

/-- A value and the events that led to it. -/
structure Logged (α : Type) where
  value : α
  events : List Log.Event
  deriving DecidableEq, Repr

namespace Logged

variable {α β : Type}

/-- Note one event. -/
def note (e : Log.Event) : Logged Unit := ⟨(), [e]⟩

/-- The records of the events, in order. -/
def records (x : Logged α) : List Log.Record := x.events.map Log.Event.record

instance : Monad Logged where
  pure a := ⟨a, []⟩
  bind x f := ⟨(f x.value).value, x.events ++ (f x.value).events⟩

@[simp] theorem value_pure (a : α) : (pure a : Logged α).value = a := rfl

@[simp] theorem events_pure (a : α) : (pure a : Logged α).events = [] := rfl

@[simp] theorem value_bind (x : Logged α) (f : α → Logged β) :
    (x >>= f).value = (f x.value).value := rfl

@[simp] theorem events_bind (x : Logged α) (f : α → Logged β) :
    (x >>= f).events = x.events ++ (f x.value).events := rfl

@[simp] theorem value_note (e : Log.Event) : (note e).value = () := rfl

@[simp] theorem events_note (e : Log.Event) : (note e).events = [e] := rfl

end Logged

end UnitScan
