import HackVm.Log.Console
import HackVm.Log.Filter
import HackVm.Project

/-!
# The command line

Arguments are read from the left, and the first thing that is wrong, or that asks
for the version or the help text, decides. Options with a value take it after an
equals sign, directly after a short letter, or from the next argument unless that
looks like an option. Short letters can be joined. After two dashes everything is
an input, of which there is exactly one.
-/

namespace HackVm.CommandLine

/-- The program's name and version. -/
def versionText : String := "vm-translator 0.1.0"

/-- The help text. -/
def helpText : String :=
  String.join ([
    "Translate VM code into Hack assembly",
    "",
    "Usage: vm-translator [OPTIONS] <INPUT>",
    "",
    "Arguments:",
    "  <INPUT>  A .vm file or a directory of .vm files",
    "",
    "Options:",
    "  -o, --output <OUTPUT>              Output file (defaults to <stem>.asm or <dir>/<dir>.asm)",
    "      --bootstrap <BOOTSTRAP>        When to emit the bootstrap prologue [default: auto] " ++
      "[possible values: auto, always, never]",
    "      --entry <ENTRY>                Function the bootstrap calls [default: Sys.init]",
    "      --stack-origin <STACK_ORIGIN>  Initial stack pointer set by the bootstrap " ++
      "[default: 256]",
    "      --no-comments                  Omit the comment restating each VM command",
    "  -v, --verbose...                   Increase log verbosity (-v, -vv, -vvv)",
    "  -h, --help                         Print help",
    "  -V, --version                      Print version"].map (· ++ "\n"))

/-- The options that take a value. -/
inductive Choice where
  /-- The output file. -/
  | output
  /-- When to start with a bootstrap. -/
  | bootstrap
  /-- The function the bootstrap calls. -/
  | entry
  /-- The stack pointer the bootstrap sets. -/
  | stackOrigin
  deriving DecidableEq, Repr

/-- The options without a value. -/
inductive Flag where
  /-- Leave out the comments. -/
  | noComments
  /-- Say more. -/
  | verbose
  /-- Print the version. -/
  | version
  /-- Print the help text. -/
  | help
  deriving DecidableEq, Repr

/-- An option of either kind. -/
inductive Switch where
  /-- An option that takes a value. -/
  | choice (choice : Choice)
  /-- An option without a value. -/
  | flag (flag : Flag)
  deriving DecidableEq, Repr

/-- The option with a long name. -/
def Switch.ofLong? : String → Option Switch
  | "output" => some (.choice .output)
  | "bootstrap" => some (.choice .bootstrap)
  | "entry" => some (.choice .entry)
  | "stack-origin" => some (.choice .stackOrigin)
  | "no-comments" => some (.flag .noComments)
  | "verbose" => some (.flag .verbose)
  | "version" => some (.flag .version)
  | "help" => some (.flag .help)
  | _ => none

/-- The option with a short letter. -/
def Switch.ofShort? : Char → Option Switch
  | 'o' => some (.choice .output)
  | 'v' => some (.flag .verbose)
  | 'V' => some (.flag .version)
  | 'h' => some (.flag .help)
  | _ => none

/-- Why the arguments do not lead to a build. -/
inductive Stop where
  /-- The arguments are wrong. -/
  | usage
  /-- The version is asked for. -/
  | version
  /-- The help text is asked for. -/
  | help
  deriving DecidableEq, Repr

/-- What the arguments have said so far. -/
structure Arguments where
  /-- The input. -/
  input : Option Path := none
  /-- The output file. -/
  output : Option Path := none
  /-- When to start with a bootstrap. -/
  bootstrap : Option BootstrapPolicy := none
  /-- The function the bootstrap calls. -/
  entry : Option String := none
  /-- The stack pointer the bootstrap sets. -/
  stackOrigin : Option Word := none
  /-- Whether comments are left out. -/
  noComments : Bool := false
  /-- How often more messages were asked for. -/
  verbosity : Nat := 0
  deriving DecidableEq, Repr

/-- A path given as an argument, which must not be empty. -/
def readPath? (value : String) : Option Path := if value = "" then none else some ⟨value⟩

/-- The word for a bootstrap policy. -/
def readPolicy? : String → Option BootstrapPolicy
  | "auto" => some .auto
  | "always" => some .always
  | "never" => some .never
  | _ => none

/-- A run of digits that must not be empty. -/
def readDigits? (digits : List Char) : Option Word :=
  if digits = [] then none else (Word.ofDigits digits).toOption

/-- A number with an optional sign; the only negative one in range is minus zero. -/
def readNumber? (value : String) : Option Word :=
  match value.toList with
  | '+' :: digits => readDigits? digits
  | '-' :: digits => (readDigits? digits).filter (· = 0)
  | digits => readDigits? digits

/-- Set a field that is still open; a second value, or a wrong one, is an error. -/
def setOnce {Value : Type} (field : Option Value) (value? : Option Value)
    (set : Option Value → Arguments) : Except Stop Arguments :=
  match field, value? with
  | none, some value => .ok (set (some value))
  | _, _ => .error .usage

namespace Arguments

/-- Take the value of an option. -/
def setChoice (arguments : Arguments) (choice : Choice) (value : String) :
    Except Stop Arguments :=
  match choice with
  | .output =>
    setOnce arguments.output (readPath? value) fun output => { arguments with output }
  | .bootstrap =>
    setOnce arguments.bootstrap (readPolicy? value) fun bootstrap => { arguments with bootstrap }
  | .entry => setOnce arguments.entry (some value) fun entry => { arguments with entry }
  | .stackOrigin =>
    setOnce arguments.stackOrigin (readNumber? value) fun stackOrigin =>
      { arguments with stackOrigin }

/-- Take an option without a value. -/
def setFlag (arguments : Arguments) : Flag → Except Stop Arguments
  | .noComments =>
    if arguments.noComments then .error .usage else .ok { arguments with noComments := true }
  | .verbose => .ok { arguments with verbosity := arguments.verbosity + 1 }
  | .version => .error .version
  | .help => .error .help

/-- Take the input. -/
def setInput (arguments : Arguments) (value : String) : Except Stop Arguments :=
  setOnce arguments.input (readPath? value) fun input => { arguments with input }

/-- Take joined short letters. The answer names the option that still waits for its
value. -/
def addShort (arguments : Arguments) : List Char → Except Stop (Arguments × Option Choice)
  | [] => .ok (arguments, none)
  | letter :: letters =>
    match Switch.ofShort? letter with
    | none => .error .usage
    | some (.flag flag) =>
      match arguments.setFlag flag with
      | .ok next => next.addShort letters
      | .error stop => .error stop
    | some (.choice choice) =>
      match letters with
      | [] => .ok (arguments, some choice)
      | '=' :: value => (arguments.setChoice choice (String.ofList value)).map (·, none)
      | value => (arguments.setChoice choice (String.ofList value)).map (·, none)

/-- Take a long option, with or without a value. The answer names the option that
still waits for its value. -/
def addLong (arguments : Arguments) (chars : List Char) :
    Except Stop (Arguments × Option Choice) :=
  let name := chars.takeWhile (· != '=')
  let value? := ((chars.dropWhile (· != '=')).tail?).map String.ofList
  match Switch.ofLong? (String.ofList name), value? with
  | some (.choice choice), some value => (arguments.setChoice choice value).map (·, none)
  | some (.choice choice), none => .ok (arguments, some choice)
  | some (.flag flag), none => (arguments.setFlag flag).map (·, none)
  | _, _ => .error .usage

/-- Take the arguments after two dashes. -/
def addInputs (arguments : Arguments) : List String → Except Stop Arguments
  | [] => .ok arguments
  | value :: values =>
    match arguments.setInput value with
    | .ok next => next.addInputs values
    | .error stop => .error stop

/-- Take arguments, where an option may wait for its value. -/
def add (arguments : Arguments) (waiting : Option Choice) : List String → Except Stop Arguments
  | [] => if waiting.isSome then .error .usage else .ok arguments
  | value :: values =>
    match waiting, value.toList with
    | some choice, chars =>
      if chars.head? = some '-' ∧ chars ≠ ['-'] then .error .usage
      else
        match arguments.setChoice choice value with
        | .ok next => next.add none values
        | .error stop => .error stop
    | none, ['-', '-'] => arguments.addInputs values
    | none, '-' :: '-' :: chars =>
      match arguments.addLong chars with
      | .ok (next, waiting) => next.add waiting values
      | .error stop => .error stop
    | none, '-' :: letter :: letters =>
      match arguments.addShort (letter :: letters) with
      | .ok (next, waiting) => next.add waiting values
      | .error stop => .error stop
    | none, _ =>
      match arguments.setInput value with
      | .ok next => next.add none values
      | .error stop => .error stop

end Arguments

/-- What the program is asked to do. -/
structure Request where
  /-- The input. -/
  input : Path
  /-- The options of the build. -/
  options : BuildOptions
  /-- How often more messages were asked for. -/
  verbosity : Nat

/-- The request that complete arguments make. -/
def Arguments.request (arguments : Arguments) : Except Stop Request :=
  match arguments.input with
  | none => .error .usage
  | some input =>
    let default : Codegen.Config := {}
    .ok {
      input
      options := {
        bootstrap := arguments.bootstrap.getD .auto
        output := arguments.output
        config := {
          stackOrigin := arguments.stackOrigin.getD default.stackOrigin
          entryFunction := arguments.entry.getD default.entryFunction
          annotate := !arguments.noComments } }
      verbosity := arguments.verbosity }

/-- Read the arguments of the program. -/
def parse (arguments : List String) : Except Stop Request :=
  match Arguments.add {} none arguments with
  | .ok complete => complete.request
  | .error stop => .error stop

/-- The least severe level for a number of requests for more messages. -/
def verbosityLevel : Nat → LogLevel
  | 0 => .warn
  | 1 => .info
  | 2 => .debug
  | _ => .trace

/-- The log filter of a run, with warnings. The environment may hold a written filter,
which is added to what the arguments ask for. -/
def logFilter (verbosity : Nat) (environment : Option String) : LogFilter × List LogWarning :=
  (LogFilter.ofThreshold (some (verbosityLevel verbosity))).extend (environment.getD "")

/-- What a run of the program shows. -/
structure Reply where
  /-- The exit code. -/
  exitCode : Nat
  /-- The standard output. -/
  output : String
  /-- The error output. -/
  errors : List ConsoleLine

/-- The text of the error output when the arguments are wrong. -/
def usageText : String := "error: invalid arguments\n\nFor more information, try '--help'.\n"

/-- The reply to arguments that do not lead to a build. -/
def Stop.reply : Stop → Reply
  | usage => ⟨2, "", ConsoleText.lines none [.ofString usageText]⟩
  | version => ⟨0, versionText ++ "\n", []⟩
  | help => ⟨0, helpText, []⟩

/-- The log of a build on the error output, behind the warnings about its filter. -/
def logTexts (filter : LogFilter × List LogWarning) (log : Log) : List ConsoleText :=
  (filter.2.map fun warning => .ofString (warning.message ++ "\n")) ++
    (filter.1.select log).map .ofEntry

/-- The reply to the result of a build. -/
def buildReply (filter : LogFilter × List LogWarning) (log : Log) : Except Error Path → Reply
  | .ok path => ⟨0, path.text ++ "\n", ConsoleText.lines none (logTexts filter log)⟩
  | .error error =>
    let failure := ConsoleText.ofString ("Error: " ++ error.message ++ "\n")
    ⟨1, "", ConsoleText.lines none (logTexts filter log ++ [failure])⟩

/-- Run the program in a file system. -/
def run (files : FileSystem) (arguments : List String) (environment : Option String) :
    FileSystem × Reply :=
  match parse arguments with
  | .error stop => (files, stop.reply)
  | .ok request =>
    let report := Project.build files request.input request.options
    (report.files,
      buildReply (logFilter request.verbosity environment) report.log report.result)

end HackVm.CommandLine
