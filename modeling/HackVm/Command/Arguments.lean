import HackVm.Error

/-!
# Names and arguments of commands

Segments and operations are found by name, and a command is asked for its first
and second argument; what is not there is an error with a wording of its own.
-/

namespace HackVm

/-- The segment with a given name, or the error that there is none. -/
def Segment.ofName (text : String) : Except Error Segment :=
  match Segment.ofName? text with
  | some segment => .ok segment
  | none => .error (.unsupported text .unknownSegment)

/-- The operation with a given mnemonic, or the error that there is none. -/
def Operation.ofMnemonic (text : String) : Except Error Operation :=
  match Operation.ofMnemonic? text with
  | some operation => .ok operation
  | none => .error (.unsupported text .unknownOperation)

namespace Command

/-- The first argument: the mnemonic, the segment or the name. A return has none. -/
def firstArgument : Command → Except Error String
  | operate operation => .ok operation.mnemonic
  | push segment _ | pop segment _ => .ok segment.name
  | label name | goto name | ifGoto name | function name _ | call name _ => .ok name
  | ret => .error (.protocol .noFirstArgument)

/-- The second argument: the index or the count of the commands that have one. -/
def secondArgument : Command → Except Error Word
  | push _ index | pop _ index => .ok index
  | function _ locals => .ok locals
  | call _ arguments => .ok arguments
  | command => .error (.protocol (.noSecondArgument command.text))

end Command

end HackVm
