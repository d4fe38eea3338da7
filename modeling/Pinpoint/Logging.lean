import Pinpoint.Text.Case

/-!
# Logging

A message has a level and comes from a logger, known by a name whose parts are separated by
points. The logger of the program is the ancestor of all its loggers: a message reaches the console
if that logger lets it through and its handler does, too.

* `Logger.setUp` — the logger after a level has been chosen by name.
* `Logger.shows` — the message reaches the console.
-/

namespace Pinpoint.Logging

/-! ## Levels -/

/-- How much a message matters. -/
inductive Level
  | notSet
  | debug
  | info
  | warning
  | error
  | critical
  deriving DecidableEq, Repr

/-- The number of a level; a message may have a number between those of the levels. -/
def Level.number : Level → Nat
  | notSet => 0
  | debug => 10
  | info => 20
  | warning => 30
  | error => 40
  | critical => 50

/-- The name of a level in front of its messages. -/
def Level.name : Level → Text
  | notSet => "NOTSET"
  | debug => "DEBUG"
  | info => "INFO"
  | warning => "WARNING"
  | error => "ERROR"
  | critical => "CRITICAL"

/-- The names of the levels. Two levels have a second name. -/
def levelNames : List (Text × Level) := [
  ("NOTSET", .notSet), ("DEBUG", .debug), ("INFO", .info), ("WARNING", .warning),
  ("WARN", .warning), ("ERROR", .error), ("CRITICAL", .critical), ("FATAL", .critical)]

/-- The level of a name, in whatever case it is written. -/
def Level.ofName? (name : Text) : Option Level := levelNames.lookup (Text.upper name)

/-! ## Loggers -/

/-- What prints the messages of a logger that have at least its level. -/
structure Handler where
  level : Level
  showsPlace : Bool
  deriving DecidableEq, Repr

/-- The logger of the program. Before it is set up it has no handler. -/
structure Logger where
  level : Level := .notSet
  handlers : List Handler := []
  propagates : Bool := true
  deriving DecidableEq, Repr

/-- The name of the program's logger. -/
def loggerName : Text := "linecol"

/-- A name that is no level's. -/
structure UnknownLevel where
  name : Text
  deriving DecidableEq, Repr

/-- The wording of the fault. -/
def UnknownLevel.message (fault : UnknownLevel) : Text := "Unknown log level: " ++ fault.name

namespace Logger

/-- The logger with one handler of a level, in the stead of those that it had. The place in the
program is shown only where every message is. -/
def ofLevel (level : Level) : Logger where
  level := level
  handlers := [⟨level, level.number ≤ Level.debug.number⟩]
  propagates := false

/-- The logger after a level has been chosen by name (`setup_logging`). -/
def setUp (name : Text) : Except UnknownLevel Logger :=
  match Level.ofName? name with
  | some level => .ok (ofLevel level)
  | none => .error ⟨name⟩

/-- The least number of a message that the logger lets through. A logger without a level of its
own takes that of all loggers, which is a warning. -/
def threshold (logger : Logger) : Nat :=
  if logger.level = .notSet then Level.warning.number else logger.level.number

/-- A name is that of the program's logger or of one below it. -/
def isOwn (name : Text) : Bool := name = loggerName || name.startsWith (loggerName ++ ['.'])

/-- A message of the logger with that name reaches the console. -/
def shows (logger : Logger) (name : Text) (number : Int) : Bool :=
  isOwn name && logger.threshold ≤ number && logger.handlers.any (·.level.number ≤ number)

end Logger

end Pinpoint.Logging
