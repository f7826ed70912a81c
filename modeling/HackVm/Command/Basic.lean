import HackVm.Word

/-!
# Commands of the stack machine

A program is a list of commands: stack operations, pushes and pops through eight
memory segments, branches, and functions with calls and returns. The text of a
command is the form the reader accepts for it, as far as its name allows.
-/

namespace HackVm

/-- The eight memory segments. -/
inductive Segment where
  /-- The numbers themselves, which can only be pushed. -/
  | constant
  /-- The variables of the running function. -/
  | locals
  /-- The variables of a source unit. -/
  | static
  /-- The arguments of the running function. -/
  | argument
  /-- The cells the first pointer addresses. -/
  | this
  /-- The cells the second pointer addresses. -/
  | that
  /-- The two pointers themselves. -/
  | pointer
  /-- Eight cells shared by all functions. -/
  | temp
  deriving DecidableEq, Repr

/-- The four memory cells that hold the base of a segment. -/
inductive BasePointer where
  /-- The base of the running function's variables. -/
  | lcl
  /-- The base of the running function's arguments. -/
  | arg
  /-- The base of the first object. -/
  | this
  /-- The base of the second object. -/
  | that
  deriving DecidableEq, Repr

namespace BasePointer

/-- The symbol that names the pointer's cell. -/
def symbol : BasePointer → String
  | lcl => "LCL"
  | arg => "ARG"
  | this => "THIS"
  | that => "THAT"

end BasePointer

/-- A run of memory cells at a fixed place. -/
structure Region where
  /-- The address of the first cell. -/
  base : Nat
  /-- The number of cells. -/
  length : Nat
  deriving DecidableEq, Repr

namespace Segment

/-- All segments. -/
def all : List Segment :=
  [.constant, .locals, .static, .argument, .this, .that, .pointer, .temp]

/-- The name of a segment in source text. -/
def name : Segment → String
  | constant => "constant"
  | locals => "local"
  | static => "static"
  | argument => "argument"
  | this => "this"
  | that => "that"
  | pointer => "pointer"
  | temp => "temp"

/-- The segment with a given name. -/
def ofName? (text : String) : Option Segment := all.find? fun segment => segment.name == text

/-- A segment is found by its name. -/
theorem ofName?_name (segment : Segment) : ofName? segment.name = some segment := by
  cases segment <;> rfl

/-- The pointer that holds the base of a segment, for the four segments that move. -/
def basePointer? : Segment → Option BasePointer
  | locals => some .lcl
  | argument => some .arg
  | this => some .this
  | that => some .that
  | _ => none

/-- The cells of a segment, for the two segments that stay in place. -/
def fixedRegion? : Segment → Option Region
  | pointer => some ⟨3, 2⟩
  | temp => some ⟨5, 8⟩
  | _ => none

end Segment

/-- The operations on the top of the stack. -/
inductive Operation where
  /-- Sum of the two top words. -/
  | add
  /-- Difference, the deeper word minus the top one. -/
  | sub
  /-- Negative of the top word. -/
  | neg
  /-- Whether the two top words are equal. -/
  | eq
  /-- Whether the deeper word is the greater. -/
  | gt
  /-- Whether the deeper word is the smaller. -/
  | lt
  /-- Bitwise conjunction. -/
  | and
  /-- Bitwise disjunction. -/
  | or
  /-- Bitwise complement of the top word. -/
  | not
  deriving DecidableEq, Repr

namespace Operation

/-- All operations. -/
def all : List Operation := [.add, .sub, .neg, .eq, .gt, .lt, .and, .or, .not]

/-- The word for an operation in source text. -/
def mnemonic : Operation → String
  | add => "add"
  | sub => "sub"
  | neg => "neg"
  | eq => "eq"
  | gt => "gt"
  | lt => "lt"
  | and => "and"
  | or => "or"
  | not => "not"

/-- The operation with a given mnemonic. -/
def ofMnemonic? (text : String) : Option Operation :=
  all.find? fun operation => operation.mnemonic == text

/-- An operation is found by its mnemonic. -/
theorem ofMnemonic?_mnemonic (operation : Operation) :
    ofMnemonic? operation.mnemonic = some operation := by
  cases operation <;> rfl

end Operation

/-- A command of the stack machine. Names may be any text here; the reader only
produces names of its grammar. -/
inductive Command where
  /-- Apply an operation to the top of the stack. -/
  | operate (operation : Operation)
  /-- Push a cell of a segment, or a number. -/
  | push (segment : Segment) (index : Word)
  /-- Pop the top of the stack into a cell of a segment. -/
  | pop (segment : Segment) (index : Word)
  /-- Mark a place inside the current function. -/
  | label (name : String)
  /-- Continue at a marked place. -/
  | goto (name : String)
  /-- Continue at a marked place if the popped word is not zero. -/
  | ifGoto (name : String)
  /-- Start a function with a number of local variables. -/
  | function (name : String) (locals : Word)
  /-- Call a function with the pushed arguments. -/
  | call (name : String) (arguments : Word)
  /-- Return from the running function. -/
  | ret
  deriving DecidableEq, Repr

namespace Command

/-- The source text of a command. -/
def text : Command → String
  | operate operation => operation.mnemonic
  | push segment index => "push " ++ segment.name ++ " " ++ index.decimal
  | pop segment index => "pop " ++ segment.name ++ " " ++ index.decimal
  | label name => "label " ++ name
  | goto name => "goto " ++ name
  | ifGoto name => "if-goto " ++ name
  | function name locals => "function " ++ name ++ " " ++ locals.decimal
  | call name arguments => "call " ++ name ++ " " ++ arguments.decimal
  | ret => "return"

/-- The nine kinds of commands; all operations are of one kind. -/
inductive Kind where
  /-- A stack operation. -/
  | arithmetic
  /-- A push. -/
  | push
  /-- A pop. -/
  | pop
  /-- A marked place. -/
  | label
  /-- An unconditional branch. -/
  | goto
  /-- A conditional branch. -/
  | ifGoto
  /-- The start of a function. -/
  | function
  /-- A call. -/
  | call
  /-- A return. -/
  | ret
  deriving DecidableEq, Repr

/-- The kind of a command. -/
def kind : Command → Kind
  | operate _ => .arithmetic
  | push _ _ => .push
  | pop _ _ => .pop
  | label _ => .label
  | goto _ => .goto
  | ifGoto _ => .ifGoto
  | function _ _ => .function
  | call _ _ => .call
  | ret => .ret

end Command

end HackVm
