import HackVm.FileSystem
import HackVm.Session

/-!
# Building a project

The input is a source file or a directory with source files. Each source is a unit
named by its file stem. The code of all units goes to one output file, which is
written only after every unit has been generated. A directory with more than one
source is a program and, unless the user decides otherwise, gets a bootstrap.
-/

namespace HackVm

open Codegen

/-- When a program starts with a bootstrap. -/
inductive BootstrapPolicy where
  /-- For a directory with more than one source. -/
  | auto
  /-- In any case. -/
  | always
  /-- In no case. -/
  | never
  deriving DecidableEq, Repr

/-- What a user can choose about a build. -/
structure BuildOptions where
  /-- When to start with a bootstrap. -/
  bootstrap : BootstrapPolicy := .auto
  /-- The output file, if it is not the usual one. -/
  output : Option Path := none
  /-- The options of the generated code. -/
  config : Config := {}

namespace Project

/-- The extension of source files. -/
def sourceExtension : String := "vm"

/-- The extension of output files. -/
def outputExtension : String := "asm"

/-- Whether a path has the extension of source files. -/
def isSource (path : Path) : Bool := path.extension? = some sourceExtension

/-- The name of the unit in a source file: its stem. -/
def unitName (path : Path) : String := path.stem?.getD ""

/-- Whether the answer is that a path leads to a file. -/
def isFile : Except IoFault Bool → Bool
  | .ok isFile => isFile
  | .error _ => false

/-- The sources of an input, in the order of their names. A name in a directory counts if
the answer is that its path leads to a file; where there is no answer, it does not. -/
def sources (input : Path) : Except IoFault Finding → Except Error (List Path)
  | .error fault => .error (.resource fault)
  | .ok .file => if isSource input then .ok [input] else .error (.noSources input.text)
  | .ok (.directory names) =>
    let chosen := names.filter fun name => isFile name.2 && isSource (input.join name.1)
    match chosen with
    | [] => .error (.noSources input.text)
    | _ =>
      let sorted := (chosen.map Prod.fst).mergeSort fun left right => decide (left ≤ right)
      .ok (sorted.map input.join)

/-- The usual output: the single source with another extension, or a file in the
input directory that is named like the directory. -/
def defaultOutput (input : Path) : List Path → Path
  | [source] => source.withExtension outputExtension
  | _ => input.join ((input.fileName?.getD "out") ++ "." ++ outputExtension)

/-- What a build is going to do, once its sources are known. -/
structure Plan where
  /-- The source files. -/
  sources : List Path
  /-- The output file. -/
  output : Path
  /-- Whether the program starts with a bootstrap. -/
  bootstrap : Bool
  /-- What there is to say about the input. -/
  log : Log

/-- Whether an input is a directory. -/
def isDirectory : Except IoFault Finding → Bool
  | .ok (.directory _) => true
  | _ => false

/-- Plan a build of what is found at the input. -/
def plan (input : Path) (options : BuildOptions) (finding : Except IoFault Finding) :
    Except Error Plan :=
  match sources input finding with
  | .error error => .error error
  | .ok sources =>
    let program := isDirectory finding && decide (1 < sources.length)
    .ok {
      sources
      output := options.output.getD (defaultOutput input sources)
      bootstrap :=
        match options.bootstrap with
        | .auto => program
        | .always => true
        | .never => false
      log :=
        if isDirectory finding && !program then
          [⟨.warn, .build,
            input.text ++ " holds a single .vm file, translating it as a single unit"⟩]
        else [] }

/-- The text of a file, from what reading it gave. -/
def fileText : Except IoFault ByteArray → Except IoFault String
  | .error fault => .error fault
  | .ok bytes =>
    match String.fromUTF8? bytes with
    | some text => .ok text
    | none => .error .notText

/-- The units of source files, from what reading them gave, up to the first file that
could not be read. -/
def units : List (Path × Except IoFault ByteArray) → Log × Except Error (List (String × String))
  | [] => ([], .ok [])
  | (path, content) :: files =>
    let entry : LogEntry := ⟨.info, .build, "translating " ++ path.text⟩
    match fileText content with
    | .error fault => ([entry], .error (.resource fault))
    | .ok text =>
      let rest := units files
      (entry :: rest.1, rest.2.map fun others => (unitName path, text) :: others)

/-- The code of a plan's program, from what reading its sources gave. -/
def generate (plan : Plan) (config : Config) (contents : List (Except IoFault ByteArray)) :
    Log × Except Error ByteArray :=
  let read := units (plan.sources.zip contents)
  match read.2 with
  | .error error => (read.1, .error error)
  | .ok units =>
    match Session.writeProgram config plan.bootstrap units {} with
    | (session, .ok ()) => (read.1 ++ session.log.toList, .ok session.sink.held)
    | (session, .error error) => (read.1 ++ session.log.toList, .error error)

/-- The messages and the result of a build whose code was generated, from what
writing the output gave. -/
def conclude (plan : Plan) (log : Log) : Except IoFault Unit → Log × Except Error Path
  | .error fault => (plan.log ++ log, .error (.resource fault))
  | .ok () => (plan.log ++ log ++ [⟨.info, .build, "wrote " ++ plan.output.text⟩], .ok plan.output)

/-- What a build gives. -/
structure Report where
  /-- The file system after the build. -/
  files : FileSystem
  /-- The messages of the build. -/
  log : Log
  /-- The output file, or why the build failed. -/
  result : Except Error Path

/-- Build an input in a file system. -/
def build (files : FileSystem) (input : Path) (options : BuildOptions) : Report :=
  match plan input options (files.find input) with
  | .error error => ⟨files, [], .error error⟩
  | .ok plan =>
    match generate plan options.config (plan.sources.map files.read) with
    | (log, .error error) => ⟨files, plan.log ++ log, .error error⟩
    | (log, .ok bytes) =>
      match files.write plan.output bytes with
      | .error fault =>
        let ended := conclude plan log (.error fault)
        ⟨files, ended.1, ended.2⟩
      | .ok written =>
        let ended := conclude plan log (.ok ())
        ⟨written, ended.1, ended.2⟩

end Project

end HackVm
