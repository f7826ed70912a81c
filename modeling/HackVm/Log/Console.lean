import HackVm.Log
import HackVm.Text.Line
import HackVm.Text.Terminal

/-!
# The log as lines

On the error output an entry of the log is a record: a heading with the level and the
topic, and the message. Further lines of a message are indented. Control sequences for
a terminal are left out of a record, and with them a line end can be lost; then the
next text goes on in the same line.
-/

namespace HackVm

/-- What stands before the message in a record. -/
structure Heading where
  /-- How severe the message is. -/
  level : LogLevel
  /-- What the message is about. -/
  topic : LogTopic
  deriving DecidableEq, Repr

/-- The text of a heading. -/
def Heading.text (heading : Heading) : String :=
  "[" ++ heading.level.name ++ " " ++ heading.topic.target ++ "] "

/-- A text on the error output, which is a record if it has a heading. -/
structure ConsoleText where
  /-- The heading of a record. -/
  heading : Option Heading
  /-- The text behind the heading, with its line ends. -/
  text : List Char
  deriving DecidableEq, Repr

/-- A line of the error output, which starts a record if it has a heading. -/
structure ConsoleLine where
  /-- The heading of a record. -/
  heading : Option Heading
  /-- The text of the line behind the heading. -/
  text : List Char
  deriving DecidableEq, Repr

namespace ConsoleText

/-- A text that is no record. -/
def ofString (text : String) : ConsoleText := ⟨none, text.toList⟩

/-- A message with all lines but the first indented. -/
def indented (message : List Char) : List Char :=
  message.flatMap fun char => if char = '\n' then '\n' :: List.replicate 4 ' ' else [char]

/-- The record of an entry. -/
def ofEntry (entry : LogEntry) : ConsoleText :=
  ⟨some ⟨entry.level, entry.topic⟩,
    Text.Terminal.plain (indented entry.message.toList ++ ['\n'])⟩

/-- The lines of a text behind what already stands in its first line, and the line that
it leaves open. -/
def split (opened : Option ConsoleLine) (added : ConsoleText) :
    List ConsoleLine × Option ConsoleLine :=
  let first : ConsoleLine :=
    match opened with
    | none => ⟨added.heading, added.text⟩
    | some line =>
      ⟨line.heading, line.text ++ ((added.heading.map Heading.text).getD "").toList ++ added.text⟩
  match first.text.splitOn '\n' with
  | [] | [_] => ([], if first.heading.isNone && first.text.isEmpty then none else some first)
  | head :: tail =>
    let closed := tail.dropLast.map fun line => (⟨none, Text.dropReturn line⟩ : ConsoleLine)
    let last := (tail.getLast?).getD []
    (⟨first.heading, Text.dropReturn head⟩ :: closed,
      if last.isEmpty then none else some ⟨none, last⟩)

/-- The lines of texts behind what already stands in the first line. -/
def lines (opened : Option ConsoleLine) : List ConsoleText → List ConsoleLine
  | [] => opened.toList
  | text :: texts =>
    let (closed, opened) := text.split opened
    closed ++ lines opened texts

end ConsoleText

end HackVm
