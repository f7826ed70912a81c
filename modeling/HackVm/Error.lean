import HackVm.Command.Basic
import HackVm.Text.Quoted

/-!
# Errors

Every failure of the library is a cause, and its wording stands here once. Reading
reports the line and a reason, code generation what it refuses and why, and files
and sinks the failure of the operation. The diagnostic form of an error names its
cause and fields; it is what a loader shows when a program cannot be generated.
-/

namespace HackVm

/-- Why a line of source text is no command. -/
inductive SyntaxFault where
  /-- A command is followed by something else. -/
  | trailing (rest : String)
  /-- A return is followed by something that the reader does not take. -/
  | returnArguments
  /-- The first word is a keyword and the rest does not fit it. -/
  | arguments (keyword : String)
  /-- The first word is no keyword. -/
  | unknown (word : String)
  deriving DecidableEq, Repr

/-- The wording of a reason. -/
def SyntaxFault.message : SyntaxFault → String
  | trailing rest => "unexpected trailing `" ++ rest ++ "`"
  | returnArguments => "`return` takes no arguments"
  | arguments keyword => "missing or invalid arguments for `" ++ keyword ++ "`"
  | unknown word => "unknown command `" ++ word ++ "`"

/-- Why a name or a command is refused. -/
inductive Refusal where
  /-- No segment has this name. -/
  | unknownSegment
  /-- No operation has this mnemonic. -/
  | unknownOperation
  /-- The initial stack pointer does not fit an address instruction. -/
  | stackOrigin (origin : Word)
  /-- The index is past the last cell of a segment that stays in place. -/
  | indexBound (segment : Segment) (length : Nat)
  /-- The segment has no fixed place. -/
  | notFixed
  /-- The index does not fit an address instruction. -/
  | indexRange
  /-- The segment has no base pointer. -/
  | noBasePointer
  /-- The number does not fit an address instruction. -/
  | constantRange
  /-- A number cannot be popped into. -/
  | popConstant
  /-- The frame of the call does not fit an address instruction. -/
  | argumentCount
  deriving DecidableEq, Repr

/-- The wording of a refusal. -/
def Refusal.message : Refusal → String
  | unknownSegment => "unknown segment"
  | unknownOperation => "unknown arithmetic command"
  | stackOrigin origin => "stack origin " ++ origin.decimal ++ " out of range"
  | indexBound segment length => segment.name ++ " index must be below " ++ toString length
  | notFixed => "not a fixed segment"
  | indexRange => "index out of range"
  | noBasePointer => "no base pointer"
  | constantRange => "constant out of range"
  | popConstant => "cannot pop into constant"
  | argumentCount => "too many arguments"

/-- A use of the library or of a command in a place where it has no meaning. -/
inductive Violation where
  /-- The first argument of a return was asked for. -/
  | noFirstArgument
  /-- The second argument of a command without one was asked for. -/
  | noSecondArgument (command : String)
  /-- A static cell is used while no source unit is named. -/
  | staticOutsideUnit
  /-- A return stands before the first function of its unit. -/
  | returnOutsideFunction (unit : String)
  deriving DecidableEq, Repr

/-- The wording of a violation. -/
def Violation.message : Violation → String
  | noFirstArgument => "arg1 requested for `return`"
  | noSecondArgument command => "arg2 requested for `" ++ command ++ "`"
  | staticOutsideUnit => "static segment used before a source unit was set"
  | returnOutsideFunction unit => "`return` outside of any function in " ++ unit

/-- A failure of a file or of a sink. -/
inductive IoFault where
  /-- No entry has the path. -/
  | notFound
  /-- A path goes through something that is no directory. -/
  | notDirectory
  /-- A directory stands where a file is to be written. -/
  | isDirectory
  /-- A path, or a name in it, is longer than any entry's. -/
  | nameTooLong
  /-- A path leads through more links than are followed. -/
  | tooManyLinks
  /-- A path has a zero character, which no name has. -/
  | zeroInName
  /-- The bytes of a file are no text. -/
  | notText
  /-- A sink refuses to take more. -/
  | sinkFull
  /-- A sink takes none of the bytes it is given. -/
  | nothingWritten
  /-- A sink fails to hand on what it holds. -/
  | flushFailed
  /-- The system fails for another reason, which it words itself. -/
  | system (reason : String)
  deriving DecidableEq, Repr

/-- The wording of a file or sink failure. -/
def IoFault.message : IoFault → String
  | notFound => "No such file or directory (os error 2)"
  | notDirectory => "Not a directory (os error 20)"
  | isDirectory => "Is a directory (os error 21)"
  | nameTooLong => "File name too long (os error 36)"
  | tooManyLinks => "Too many levels of symbolic links (os error 40)"
  | zeroInName => "file name contained an unexpected NUL byte"
  | notText => "stream did not contain valid UTF-8"
  | sinkFull => "sink is full"
  | nothingWritten => "failed to write whole buffer"
  | flushFailed => "flush failed"
  | system reason => reason

/-- The errors of the library. -/
inductive Error where
  /-- A line, counted from one, is no command. -/
  | malformed (lineNumber : Nat) (line : String) (fault : SyntaxFault)
  /-- A name or a command is refused. -/
  | unsupported (subject : String) (refusal : Refusal)
  /-- Something is used where it has no meaning. -/
  | protocol (violation : Violation)
  /-- A label is declared a second time in its function. -/
  | duplicateLabel (symbol : String)
  /-- An input has no source file. -/
  | noSources (path : String)
  /-- A file or a sink failed. -/
  | resource (fault : IoFault)
  deriving DecidableEq, Repr

namespace Error

open Text (quoted)

/-- The wording of an error. -/
def message : Error → String
  | malformed lineNumber line fault =>
    "line " ++ toString lineNumber ++ ": malformed command `" ++ line ++ "`: " ++ fault.message
  | unsupported subject refusal =>
    "unsupported operation `" ++ subject ++ "`: " ++ refusal.message
  | protocol violation => "protocol violation: " ++ violation.message
  | duplicateLabel symbol => "label `" ++ symbol ++ "` is declared more than once"
  | noSources path => "no .vm files found in " ++ path
  | resource fault => fault.message

/-- The diagnostic form of an error: its cause with the fields. -/
def diagnostic : Error → String
  | malformed lineNumber line fault =>
    "MalformedCommand \x7b line_no: " ++ toString lineNumber ++ ", line: " ++ quoted line ++
      ", reason: " ++ quoted fault.message ++ " \x7d"
  | unsupported subject refusal =>
    "UnsupportedOperation \x7b command: " ++ quoted subject ++ ", reason: " ++
      quoted refusal.message ++ " \x7d"
  | protocol violation => "ProtocolViolation(" ++ quoted violation.message ++ ")"
  | duplicateLabel symbol => "DuplicateLabel(" ++ quoted symbol ++ ")"
  | noSources path => "NoSources(" ++ quoted path ++ ")"
  | resource fault => "Resource(" ++ quoted fault.message ++ ")"

end Error

end HackVm
