/-!
What a program says of its work: log entries, and spans of work with what happened in them.

* `LogLevel` are the levels of importance by their names, some of which are synonyms;
* `LogEntry` is one message;
* `Span` is a piece of work with its attributes, the failures noticed in it, and whether it failed.
-/

namespace CommandTree

/-! ### Log entries -/

/-- How important a message is. -/
inductive LogLevel where
  | critical
  -- another name of the level above
  | fatal
  | error
  -- another name of the level below
  | warn
  | warning
  | info
  | debug
  | notSet
  deriving DecidableEq, Repr

namespace LogLevel

/-- The name of a level. -/
def name : LogLevel → String
  | critical => "CRITICAL"
  | fatal => "FATAL"
  | error => "ERROR"
  | warn => "WARN"
  | warning => "WARNING"
  | info => "INFO"
  | debug => "DEBUG"
  | notSet => "NOTSET"

/-- All levels. -/
def all : List LogLevel := [critical, fatal, error, warn, warning, info, debug, notSet]

/-- The level of a name. -/
def ofName? (s : String) : Option LogLevel := all.find? fun l => l.name == s

/-- The name of a level belongs to it. -/
theorem ofName?_name (l : LogLevel) : ofName? l.name = some l := by
  cases l <;> decide +kernel

end LogLevel

/-- A message, with its level and the part of the program that it comes from. -/
structure LogEntry where
  level : LogLevel
  logger : String
  message : String
  deriving DecidableEq, Repr

/-! ### Spans -/

/-- The value of an attribute of a span. -/
inductive AttributeValue where
  | number (n : Nat)
  | text (s : String)
  deriving DecidableEq, Repr

/-- A finished piece of work with what is known of it, in the order of the keys, and the failures of the type `ε` that were
noticed in it, in order. -/
structure Span (ε : Type) where
  name : String
  attributes : List (String × AttributeValue)
  failures : List ε
  failed : Bool

namespace Span

/-- A piece of work that succeeded. -/
def succeeded {ε : Type} (name : String) (attributes : List (String × AttributeValue)) : Span ε :=
  ⟨name, attributes, [], false⟩

/-- A piece of work that ended with a failure, perhaps after others had been noticed. -/
def failedWith {ε : Type} (name : String) (attributes : List (String × AttributeValue)) (noticed : List ε)
    (failure : ε) : Span ε :=
  ⟨name, attributes, noticed ++ [failure], true⟩

end Span

end CommandTree
