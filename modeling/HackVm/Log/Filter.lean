import HackVm.Log
import HackVm.Pattern.Reader
import HackVm.Pattern.Search

/-!
# Filters on the log

A filter has a threshold for everything and thresholds for topics by the start of their
names; the longest name that fits an entry decides. It can also ask for messages in
which a pattern is found. A filter is written as directives between commas, with the
pattern behind a slash. A directive that cannot be read is left out, with a warning.
-/

namespace HackVm

/-- A threshold for the topics whose names start in some way, or for everything. -/
structure LogDirective where
  /-- The start of the names, or nothing. -/
  name : Option String
  /-- The threshold. -/
  threshold : LogThreshold
  deriving DecidableEq, Repr

namespace LogDirective

/-- Whether a directive is about a topic. -/
def concerns (directive : LogDirective) (topic : LogTopic) : Bool :=
  match directive.name with
  | none => true
  | some name => name.toList.isPrefixOf topic.target.toList

/-- The length of a directive's name. -/
def length (directive : LogDirective) : Nat := (directive.name.getD "").length

end LogDirective

/-- A filter on log entries. -/
structure LogFilter where
  /-- The directives, with different names. -/
  directives : List LogDirective
  /-- A pattern to be found in the messages. -/
  pattern : Option Pattern := none

namespace LogFilter

/-- The filter with one threshold for everything. -/
def ofThreshold (threshold : LogThreshold) : LogFilter := ⟨[⟨none, threshold⟩], none⟩

/-- Add a directive; it takes the place of one with the same name. -/
def add (filter : LogFilter) (directive : LogDirective) : LogFilter :=
  if filter.directives.any (·.name == directive.name) then
    { filter with
      directives := filter.directives.map fun old =>
        if old.name == directive.name then directive else old }
  else { filter with directives := filter.directives ++ [directive] }

/-- The directive that decides on a topic: among those about it the one with the
longest name, and the last of these. -/
def directive? (filter : LogFilter) (topic : LogTopic) : Option LogDirective :=
  (filter.directives.filter (·.concerns topic)).foldl
    (fun chosen directive =>
      if chosen.any (directive.length < ·.length) then chosen else some directive)
    none

/-- Whether a filter shows an entry. -/
def shows (filter : LogFilter) (entry : LogEntry) : Bool :=
  (filter.directive? entry.topic).any (·.threshold.admits entry.level) &&
    filter.pattern.all (·.isFoundIn entry.message)

/-- The entries of a log that a filter shows. -/
def select (filter : LogFilter) (log : Log) : Log := log.filter filter.shows

end LogFilter

/-- Why something in a written filter is left out. -/
inductive LogWarning where
  /-- More than one pattern. -/
  | manyPatterns (text : String)
  /-- A word or a directive that is not understood. -/
  | directive (text : String)
  /-- A pattern that cannot be used. -/
  | pattern (defect : Pattern.Defect)
  deriving DecidableEq, Repr

/-- The wording of a warning. -/
def LogWarning.message : LogWarning → String
  | manyPatterns text =>
    "warning: invalid logging spec '" ++ text ++ "' (too many '/'s), ignoring it"
  | directive text => "warning: invalid logging spec '" ++ text ++ "', ignoring it"
  | pattern defect => "warning: invalid regex filter - " ++ defect.message ++ ", ignoring it"

namespace LogDirective

/-- Read a directive: a level, a name, or a name with a level. -/
def read (text : List Char) : Except LogWarning LogDirective :=
  match text.splitOn '=' with
  | [word] =>
    match LogThreshold.ofName? (String.ofList word) with
    | some threshold => .ok ⟨none, threshold⟩
    | none => .ok ⟨some (String.ofList word), some .trace⟩
  | [name, level] =>
    let word := String.ofList (Text.trim level)
    if word = "" then .ok ⟨some (String.ofList name), some .trace⟩
    else
      match LogThreshold.ofName? word with
      | some threshold => .ok ⟨some (String.ofList name), threshold⟩
      | none => .error (.directive word)
  | _ => .error (.directive (String.ofList text))

end LogDirective

namespace LogFilter

/-- Add written directives to a filter. -/
def addDirectives (filter : LogFilter) : List (List Char) → LogFilter × List LogWarning
  | [] => (filter, [])
  | text :: texts =>
    match LogDirective.read text with
    | .ok directive => (filter.add directive).addDirectives texts
    | .error warning =>
      let rest := filter.addDirectives texts
      (rest.1, warning :: rest.2)

/-- Add what is written between commas to a filter; blanks around it do not count. -/
def addList (filter : LogFilter) (text : List Char) : LogFilter × List LogWarning :=
  filter.addDirectives (((text.splitOn ',').map Text.trim).filter (· ≠ []))

/-- Add a written filter to a filter. -/
def extend (filter : LogFilter) (text : String) : LogFilter × List LogWarning :=
  match text.toList.splitOn '/' with
  | [directives] => filter.addList directives
  | [directives, pattern] =>
    let extended := filter.addList directives
    match Pattern.ofString (String.ofList pattern) with
    | .ok pattern => ({ extended.1 with pattern := some pattern }, extended.2)
    | .error defect => (extended.1, extended.2 ++ [.pattern defect])
  | _ => (filter, [.manyPatterns text])

end LogFilter

end HackVm
