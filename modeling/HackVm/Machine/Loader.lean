import HackVm.Machine.Basic
import HackVm.Session

/-!
# Loading source text

Units of source text are generated with the default options, the text is cut into
lines again, and these are assembled.
-/

namespace HackVm.Machine

open Assembly

/-- Why source text cannot be loaded. -/
inductive LoadFault where
  /-- No code could be generated. -/
  | generation (error : Error)
  /-- The code could not be assembled. -/
  | assembly (fault : Assembly.Fault)

/-- The wording of a load fault. -/
def LoadFault.message : LoadFault → String
  | generation error => "translation failed: " ++ error.diagnostic
  | assembly fault => fault.message

/-- The lines of the code of named units. -/
def generateLines (units : List (String × String)) (bootstrap : Bool) :
    Except Error (List String) :=
  match Session.writeProgram {} bootstrap units {} with
  | (session, .ok ()) => .ok ((Text.lines session.sink.text.toList).map String.ofList)
  | (_, .error error) => .error error

/-- The assembled program of named units. -/
def programOfUnits (units : List (String × String)) (bootstrap : Bool) :
    Except LoadFault Program :=
  match generateLines units bootstrap with
  | .error error => .error (.generation error)
  | .ok lines =>
    match assemble lines with
    | .ok program => .ok program
    | .error fault => .error (.assembly fault)

/-- A machine with the usual frame and the program of a single unit `Test`. -/
def load (text : String) : Except LoadFault Machine :=
  (programOfUnits [("Test", text)] false).map startWithFrame

end HackVm.Machine
