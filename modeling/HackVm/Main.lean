import HackVm.CommandLine

/-!
# The program

The outer layer: it looks at files, reads and writes them, and prints. What is to be
done, in which order, and what is said about it, is decided by the library.
-/

namespace HackVm.Main

/-- The environment variable that can hold a filter on the log. -/
def filterVariable : String := "RUST_LOG"

/-- The failure that an error of the operating system stands for. Its number may
come with a changed sign. -/
def faultOf (error : IO.Error) : IoFault :=
  match error with
  | .noFileOrDirectory _ _ _ => .notFound
  | .inappropriateType _ code _ =>
    if code = 20 ∨ code = -20 then .notDirectory
    else if code = 21 ∨ code = -21 then .isDirectory
    else .system (toString error)
  | .invalidArgument _ code _ =>
    if code = 36 ∨ code = -36 then .nameTooLong
    else if code = 40 ∨ code = -40 then .tooManyLinks
    else .system (toString error)
  | _ => .system (toString error)

/-- Use a path for an action, unless the path cannot be used, and catch its failure. -/
def attempt {Result : Type} (path : Path) (action : Path → IO Result) :
    IO (Except IoFault Result) := do
  match path.fault? with
  | some fault => return .error fault
  | none =>
    try
      return .ok (← action path)
    catch error =>
      return .error (faultOf error)

/-- Whether a path leads to a file. -/
def isFile (path : Path) : IO Bool :=
  return (← (IO.FS.DirEntry.mk path.text "").root.metadata).type == .file

/-- Look at what stands at a path. -/
def find (path : Path) : IO Finding := do
  if ← isFile path then return .file
  let entries ← (IO.FS.DirEntry.mk path.text "").root.readDir
  let names ← entries.toList.mapM fun entry =>
    return (entry.fileName, ← attempt (path.join entry.fileName) isFile)
  return .directory names

/-- Print a reply and give its exit code. -/
def printReply (reply : CommandLine.Reply) : IO UInt32 := do
  for line in reply.errors do
    IO.eprintln ((line.heading.map Heading.text).getD "" ++ String.ofList line.text)
  IO.print reply.output
  return reply.exitCode.toUInt32

/-- Build what a request asks for. -/
def build (request : CommandLine.Request) : IO (Log × Except Error Path) := do
  match Project.plan request.input request.options (← attempt request.input find) with
  | .error error => return ([], .error error)
  | .ok plan =>
    let contents ← plan.sources.mapM fun source =>
      attempt source fun path => IO.FS.readBinFile path.text
    match Project.generate plan request.options.config contents with
    | (log, .error error) => return (plan.log ++ log, .error error)
    | (log, .ok bytes) =>
      let written ← attempt plan.output fun path => IO.FS.writeBinFile path.text bytes
      return Project.conclude plan log written

end HackVm.Main

/-- The command line program. -/
def main (arguments : List String) : IO UInt32 := do
  match HackVm.CommandLine.parse arguments with
  | .error stop => HackVm.Main.printReply stop.reply
  | .ok request =>
    let environment ← IO.getEnv HackVm.Main.filterVariable
    let filter := HackVm.CommandLine.logFilter request.verbosity environment
    let (log, result) ← HackVm.Main.build request
    HackVm.Main.printReply (HackVm.CommandLine.buildReply filter log result)
