import HackVm.Assembly.Program

/-!
# The processor

A machine executes one instruction of its program at a time. Its memory has 32768
cells; an instruction that reads or writes a cell outside of it is a fault, and so
is a computation that the processor does not have. An instruction that is at fault
changes nothing, so the machine can be looked at, and used, afterwards. Jumps go to
the address that A held before the instruction.
-/

namespace HackVm

open Assembly

/-- The number of memory cells. -/
def Machine.ramSize : Nat := 32768

/-- A processor with its program and memory. -/
structure Machine where
  /-- The program. -/
  program : Program
  /-- The memory. -/
  ram : Vector Word Machine.ramSize
  /-- The address register A. -/
  address : Word
  /-- The data register D. -/
  data : Word
  /-- The address of the next instruction. -/
  counter : Nat

namespace Machine

/-- Why a machine cannot do what it is asked. -/
inductive Fault where
  /-- There is no such instruction, cell or part of the memory. -/
  | outOfBounds
  /-- A points to no memory cell. -/
  | badAddress (address : Nat)
  /-- The processor has no such computation. -/
  | unknownComp (text : String)
  /-- The program did not end within a number of steps. -/
  | unfinished (budget : Nat)
  /-- A label was not reached within a number of steps. -/
  | notReached (label : String) (budget : Nat)
  /-- The program ended before a label was reached. -/
  | fellOff
  /-- The program has no such symbol. -/
  | unknownSymbol (name : String)
  deriving DecidableEq, Repr

/-- The wording of a fault. -/
def Fault.message : Fault → String
  | outOfBounds => "index out of bounds"
  | badAddress address => "address " ++ toString address ++ " out of range"
  | unknownComp text => "non-canonical comp " ++ text
  | unfinished budget => "program did not finish in " ++ toString budget ++ " steps"
  | notReached label budget => label ++ " not reached in " ++ toString budget ++ " steps"
  | fellOff => "fell off the end"
  | unknownSymbol name => "unknown symbol " ++ name

/-- The result of a computation with the memory cell that A addresses, where the
address is looked at before the computation is. -/
def evaluate (comp : Comp) (address data : Word) (ram : Vector Word ramSize) :
    Except Fault Word :=
  let result (cell : Word) : Except Fault Word :=
    match comp.eval? address data cell with
    | some value => .ok value
    | none => .error (.unknownComp comp.text)
  if comp.readsMemory then
    if inside : address.toNat < ramSize then result ram[address.toNat]
    else .error (.badAddress address.toNat)
  else result 0

/-- A machine at the start of a program, with an empty memory. -/
def start (program : Program) : Machine := ⟨program, Vector.replicate ramSize 0, 0, 0, 0⟩

/-- Whether the program is over. -/
def halted (machine : Machine) : Bool := machine.program.code.size ≤ machine.counter

/-- Set a memory cell. -/
def poke (machine : Machine) (address : Nat) (value : Word) : Machine × Except Fault Unit :=
  if inside : address < ramSize then
    ({ machine with ram := machine.ram.set address value inside }, .ok ())
  else (machine, .error .outOfBounds)

/-- A machine whose stack pointer and base pointers have their usual values. -/
def startWithFrame (program : Program) : Machine :=
  [(0, 256), (1, 300), (2, 400), (3, 3000), (4, 3010)].foldl
    (fun machine cell => (machine.poke cell.1 cell.2).1) (start program)

/-- Finish a compute instruction: A and D, and the next instruction. -/
def advance (machine : Machine) (dest : Dest) (jump : Jump) (value : Word) : Machine :=
  { machine with
    address := if dest.address then value else machine.address
    data := if dest.data then value else machine.data
    counter := if jump.taken value then machine.address.toNat else machine.counter + 1 }

/-- Execute an instruction. -/
def execute (machine : Machine) : Instruction → Machine × Except Fault Unit
  | .load value => ({ machine with address := value, counter := machine.counter + 1 }, .ok ())
  | .compute dest comp jump =>
    match evaluate comp machine.address machine.data machine.ram with
    | .error fault => (machine, .error fault)
    | .ok value =>
      if dest.memory then
        if inside : machine.address.toNat < ramSize then
          ({ machine with ram := machine.ram.set machine.address.toNat value inside }.advance
            dest jump value, .ok ())
        else (machine, .error (.badAddress machine.address.toNat))
      else (machine.advance dest jump value, .ok ())

/-- Execute the next instruction. -/
def step (machine : Machine) : Machine × Except Fault Unit :=
  match machine.program.code[machine.counter]? with
  | some instruction => machine.execute instruction
  | none => (machine, .error .outOfBounds)

/-- Execute a number of instructions, up to the first fault. -/
def steps (machine : Machine) : Nat → Machine × Except Fault Unit
  | 0 => (machine, .ok ())
  | count + 1 =>
    match machine.step with
    | (next, .ok ()) => next.steps count
    | (next, .error fault) => (next, .error fault)

/-- Execute instructions until a machine is where it should be. Each of at most
`budget` rounds first asks whether the machine has arrived, then whether it may go
on, and then takes a step; a budget used up is the fault `late`. -/
def runUntil (arrived : Machine → Bool) (obstacle? : Machine → Option Fault) (late : Fault)
    (machine : Machine) : Nat → Machine × Except Fault Unit
  | 0 => (machine, .error late)
  | budget + 1 =>
    if arrived machine then (machine, .ok ())
    else
      match obstacle? machine with
      | some fault => (machine, .error fault)
      | none =>
        match machine.step with
        | (next, .ok ()) => runUntil arrived obstacle? late next budget
        | (next, .error fault) => (next, .error fault)

/-- Run the program to its end. The end has to be noticed within the budget, so a
program of as many steps as the budget has is late. -/
def run (machine : Machine) (budget : Nat) : Machine × Except Fault Unit :=
  runUntil halted (fun _ => none) (.unfinished budget) machine budget

/-- The value of a symbol of the program. -/
def symbol (machine : Machine) (name : String) : Except Fault Word :=
  match machine.program.symbols[name]? with
  | some value => .ok value
  | none => .error (.unknownSymbol name)

/-- Run the program up to a label. -/
def runToLabel (machine : Machine) (label : String) (budget : Nat) :
    Machine × Except Fault Unit :=
  match machine.symbol label with
  | .error fault => (machine, .error fault)
  | .ok target =>
    runUntil (fun current => current.counter == target.toNat)
      (fun current => if current.halted then some .fellOff else none)
      (.notReached label budget) machine budget

/-- The words of the stack from an origin up to the stack pointer, which has to be
a number that is not negative and not below the origin. -/
def stack (machine : Machine) (origin : Nat) : Except Fault (List Word) :=
  let pointer : Word := machine.ram[0]
  if 0 ≤ pointer.toInt ∧ origin ≤ pointer.toNat then
    .ok ((machine.ram.toList.take pointer.toNat).drop origin)
  else .error .outOfBounds

end Machine

end HackVm
