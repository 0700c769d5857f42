import SchemaLink.Log.Event
import SchemaLink.Text.Quoted
import SchemaLink.Text.Upper

/-!
# Log configuration

Logging shows the events from a threshold on. The threshold is given by the name of a level, unless
debugging is on, which shows everything for a reader at a console. The processors that an event
passes, and their order, are fixed; only the last one depends on who reads the output.
-/

namespace SchemaLink

/-- A name that is not that of a level. -/
structure UnknownLevel where
  name : String
  deriving DecidableEq, Repr, Inhabited

/-- The message about a name that is not that of a level. -/
def UnknownLevel.message (e : UnknownLevel) : String :=
  "Unknown level: " ++ Text.quote ("Level " ++ e.name)

namespace Level

/-- The names of the thresholds; the least one shows everything. -/
def thresholds : List (String × Nat) :=
  [ ("CRITICAL", 50), ("FATAL", 50), ("ERROR", 40), ("WARNING", 30), ("WARN", 30), ("INFO", 20),
    ("DEBUG", 10), ("NOTSET", 0) ]

/-- The threshold with a name in letters of either case. -/
def threshold (name : String) : Except UnknownLevel Nat :=
  match thresholds.lookup (Text.upper name) with
  | some n => .ok n
  | none => .error ⟨Text.upper name⟩

/-- The level at which a logging method sends its event. -/
def ofMethod? (method : String) : Option Level :=
  [ ("debug", debug), ("info", info), ("warning", warning), ("warn", warning), ("error", error),
    ("exception", error), ("critical", critical), ("fatal", critical) ].lookup method

end Level

/-- How events are shown. -/
structure LogConfiguration where
  /-- The lowest rank of events that are shown. -/
  threshold : Nat
  /-- Whether the reader sits at a console. -/
  atConsole : Bool
  deriving DecidableEq, Repr, Inhabited

namespace LogConfiguration

/-- The configuration for debugging, or for a level. -/
def make (debug : Bool) (levelName : String) : Except UnknownLevel LogConfiguration :=
  if debug then .ok ⟨Level.debug.rank, true⟩
  else (Level.threshold levelName).map fun threshold => ⟨threshold, false⟩

/-- The processors that an event passes. -/
def processors (c : LogConfiguration) : List String :=
  [ "filter_by_level", "add_logger_name", "add_log_level", "ResolutionContextFilter", "TimeStamper",
    "PositionalArgumentsFormatter", "StackInfoRenderer", "ExceptionRenderer", "UnicodeDecoder",
    if c.atConsole then "ConsoleRenderer" else "JSONRenderer" ]

/-- The keys of an event that the processors set or take away. -/
def reservedKeys : List String :=
  ["event", "level", "logger", "timestamp", "stack_info", "exc_info"]

/-- An event as it is shown in a scope, if it reaches the threshold. -/
def shown? (c : LogConfiguration) (scope : Scope) (e : Event) : Option Event :=
  if c.threshold ≤ e.level.rank then
    let keys := e.keys.filter fun key => !reservedKeys.contains key.1
    some (scope.mark { e with keys })
  else none

/-- The name that events of a logger carry; the nameless logger is the root of all others. -/
def loggerName (name : String) : String := if name = "" then "root" else name

end LogConfiguration

end SchemaLink
