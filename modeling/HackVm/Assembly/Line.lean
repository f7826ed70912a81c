import HackVm.Assembly.Computation

/-!
# Lines of assembly

Generated code is a list of typed lines; their text is what is written out.
-/

namespace HackVm.Assembly

/-- A line of generated assembly. -/
inductive Line where
  /-- A remark, which the assembler skips. -/
  | comment (remark : String)
  /-- The declaration of a label at the next instruction. -/
  | label (name : String)
  /-- Load a number into A. -/
  | number (value : Nat)
  /-- Load the value of a symbol into A. -/
  | symbol (name : String)
  /-- Compute, store the result and possibly jump. -/
  | compute (dest : Dest) (comp : Comp) (jump : Jump)
  deriving DecidableEq, Repr

namespace Line

/-- Compute and store, without a jump. -/
def store (dest : Dest) (comp : Comp) : Line := .compute dest comp .never

/-- Compute and jump, without a store. -/
def branch (comp : Comp) (jump : Jump) : Line := .compute .nowhere comp jump

/-- The text of a line. -/
def text : Line → String
  | comment remark => "// " ++ remark
  | label name => "(" ++ name ++ ")"
  | number value => "@" ++ toString value
  | symbol name => "@" ++ name
  | compute dest comp jump =>
    (if dest = .nowhere then "" else dest.text ++ "=") ++ comp.text ++
      (if jump = .never then "" else ";" ++ jump.text)

end Line

end HackVm.Assembly
