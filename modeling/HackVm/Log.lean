/-!
# Log entries

The library does not print: what it has to say on the way is returned as a list of
entries, each with a level and a topic. A reader of the log chooses the least severe
level to be shown, or none.
-/

namespace HackVm

/-- How severe a log entry is. -/
inductive LogLevel where
  /-- A failure. -/
  | error
  /-- Something unexpected that is dealt with. -/
  | warn
  /-- A step of the work. -/
  | info
  /-- A detail of a step. -/
  | debug
  /-- Every single command. -/
  | trace
  deriving DecidableEq, Repr

namespace LogLevel

/-- All levels, the most severe first. -/
def all : List LogLevel := [.error, .warn, .info, .debug, .trace]

/-- The name of a level. -/
def name : LogLevel → String
  | error => "ERROR"
  | warn => "WARN"
  | info => "INFO"
  | debug => "DEBUG"
  | trace => "TRACE"

/-- The rank of a level; a more severe level has a smaller one. -/
def rank : LogLevel → Nat
  | error => 1
  | warn => 2
  | info => 3
  | debug => 4
  | trace => 5

end LogLevel

/-- What a log entry is about. -/
inductive LogTopic where
  /-- The code that is generated. -/
  | code
  /-- The files of a build. -/
  | build
  deriving DecidableEq, Repr

/-- The name under which a topic is shown and chosen. -/
def LogTopic.target : LogTopic → String
  | code => "vm_translator::translator"
  | build => "vm_translator::driver"

/-- One message of the library. -/
structure LogEntry where
  /-- How severe the message is. -/
  level : LogLevel
  /-- What the message is about. -/
  topic : LogTopic
  /-- The message itself. -/
  message : String
  deriving DecidableEq, Repr

/-- A log: the entries in the order in which they arose. -/
abbrev Log := List LogEntry

namespace LogEntry

/-- The text of an entry: its level and its message. -/
def text (entry : LogEntry) : String := entry.level.name ++ " " ++ entry.message

end LogEntry

/-- The least severe level that is shown, or nothing. -/
abbrev LogThreshold := Option LogLevel

namespace LogThreshold

/-- Whether a threshold lets a level pass. -/
def admits (threshold : LogThreshold) (level : LogLevel) : Bool :=
  match threshold with
  | none => false
  | some least => level.rank ≤ least.rank

/-- The entries of a log that a threshold lets pass. -/
def select (threshold : LogThreshold) (log : Log) : Log :=
  log.filter fun entry => admits threshold entry.level

/-- The threshold a word names, in any case: a level, or `off` for nothing. -/
def ofName? (word : String) : Option LogThreshold :=
  let upper := word.toUpper
  if upper = "OFF" then some none
  else (LogLevel.all.find? fun level => level.name == upper).map some

end LogThreshold

end HackVm
