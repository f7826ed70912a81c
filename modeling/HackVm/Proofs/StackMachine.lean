import HackVm.Codegen.Generator
import HackVm.Command.Grammar
import HackVm.Machine.Basic

/-!
# The stack machine

The meaning of commands, apart from any code for them. A state is a memory and the
index of the next command in the commands of all units, one after the other. The
stack pointer and the base pointers live in the first five cells, and a static cell
is wherever the program puts its symbol. A push moves the stack pointer before it
writes the word, so a word that is pushed onto the cell of the stack pointer stays
there. A pop into a segment that moves keeps the address of its destination in R13,
and a return keeps the end of its frame in R13 and the address it goes to in R14; both
cells are part of the memory like all others.
-/

namespace HackVm

/-- The memory of a machine. -/
abbrev Memory := Vector Word Machine.ramSize

namespace Memory

/-- The word at an address, which has to be inside the memory. -/
def read (memory : Memory) (address : Word) : Except Machine.Fault Word :=
  if inside : address.toNat < Machine.ramSize then .ok memory[address.toNat]
  else .error (.badAddress address.toNat)

/-- Set the word at an address, which has to be inside the memory. -/
def write (memory : Memory) (address value : Word) : Except Machine.Fault Memory :=
  if inside : address.toNat < Machine.ramSize then
    .ok (memory.set address.toNat value inside)
  else .error (.badAddress address.toNat)

/-- The cell of the stack pointer. -/
def stackPointer : Word := 0

/-- The cell that keeps a destination or the end of a frame. -/
def scratchAddress : Word := 13

/-- The cell that keeps a return address. -/
def scratchReturn : Word := 14

/-- Push a word: the stack pointer moves up, and the word goes where it pointed. -/
def push (memory : Memory) (value : Word) : Except Machine.Fault Memory := do
  let top ← memory.read stackPointer
  let moved ← memory.write stackPointer (top + 1)
  moved.write top value

/-- Pop a word: the stack pointer moves down to it. -/
def pop (memory : Memory) : Except Machine.Fault (Word × Memory) := do
  let top ← memory.read stackPointer
  let moved ← memory.write stackPointer (top - 1)
  return (← moved.read (top - 1), moved)

/-- Replace the word on top of the stack. -/
def replaceTop (memory : Memory) (update : Word → Word) : Except Machine.Fault Memory := do
  let top ← memory.read stackPointer
  memory.write (top - 1) (update (← memory.read (top - 1)))

/-- Push a number of zeros. -/
def pushZeros (memory : Memory) : Nat → Except Machine.Fault Memory
  | 0 => .ok memory
  | count + 1 => do (← memory.push 0).pushZeros count

end Memory

/-- The cell of a base pointer. -/
def BasePointer.cell : BasePointer → Word
  | lcl => 1
  | arg => 2
  | this => 3
  | that => 4

namespace Operation

/-- The word for a truth value: minus one or zero. -/
def truth (holds : Bool) : Word := if holds then -1 else 0

/-- What an operation does to the top of the stack. -/
inductive Meaning where
  /-- Replace the top word. -/
  | unary (apply : Word → Word)
  /-- Replace the deeper and the top word by one. -/
  | binary (apply : Word → Word → Word)

/-- The meaning of an operation. Comparisons go by the sign of the difference, which
wraps around like every other word. -/
def meaning : Operation → Meaning
  | add => .binary fun deeper top => deeper + top
  | sub => .binary fun deeper top => deeper - top
  | neg => .unary fun top => -top
  | eq => .binary fun deeper top => truth ((deeper - top).toInt = 0)
  | gt => .binary fun deeper top => truth (0 < (deeper - top).toInt)
  | lt => .binary fun deeper top => truth ((deeper - top).toInt < 0)
  | and => .binary fun deeper top => deeper &&& top
  | or => .binary fun deeper top => deeper ||| top
  | not => .unary fun top => ~~~top

end Operation

namespace Memory

/-- Apply an operation to the top of the stack. -/
def operate (memory : Memory) (operation : Operation) : Except Machine.Fault Memory :=
  match operation.meaning with
  | .unary apply => memory.replaceTop apply
  | .binary apply => do
    let (top, popped) ← memory.pop
    popped.replaceTop fun deeper => apply deeper top

/-- Push the word of a base pointer. -/
def savePointer (memory : Memory) (pointer : BasePointer) : Except Machine.Fault Memory := do
  memory.push (← memory.read pointer.cell)

/-- Build the frame of a call: the return address and the base pointers are pushed, ARG
goes to the first argument and LCL to the top of the stack. -/
def enter (memory : Memory) (arguments back : Word) : Except Machine.Fault Memory := do
  let called ← memory.push back
  let saved ← [BasePointer.lcl, .arg, .this, .that].foldlM savePointer called
  let top ← saved.read stackPointer
  let placed ← saved.write BasePointer.arg.cell (top - (arguments + 5))
  placed.write BasePointer.lcl.cell (← placed.read stackPointer)

/-- Restore a base pointer from the cell below the end of a frame, which moves down. -/
def restorePointer (memory : Memory) (pointer : BasePointer) : Except Machine.Fault Memory := do
  let below := (← memory.read scratchAddress) - 1
  let moved ← memory.write scratchAddress below
  moved.write pointer.cell (← moved.read below)

/-- Take down the frame of a call: the result goes to the first argument, the stack
pointer after it, and the base pointers become those of the caller. Also gives the
address to return to, which is read before the result is stored. -/
def leave (memory : Memory) : Except Machine.Fault (Memory × Word) := do
  let frame ← memory.read BasePointer.lcl.cell
  let marked ← memory.write scratchAddress frame
  let noted ← marked.write scratchReturn (← marked.read (frame - 5))
  let (result, popped) ← noted.pop
  let stored ← popped.write (← popped.read BasePointer.arg.cell) result
  let lowered ← stored.write stackPointer ((← stored.read BasePointer.arg.cell) + 1)
  let restored ← [BasePointer.that, .this, .arg, .lcl].foldlM restorePointer lowered
  return (restored, ← restored.read scratchReturn)

end Memory

/-- A command with the unit it stands in and the function it belongs to. -/
structure Site where
  /-- The source unit. -/
  unit : String
  /-- The last function that started earlier in the unit. -/
  function : Option String
  /-- The command. -/
  command : Command
  deriving DecidableEq, Repr

namespace Site

/-- The function that commands after a command belong to. -/
def functionAfter (function : Option String) : Command → Option String
  | .function name _ => some name
  | _ => function

/-- The commands of a unit in their places. -/
def ofCommands (unit : String) (function : Option String) : List Command → List Site
  | [] => []
  | command :: commands =>
    ⟨unit, function, command⟩ :: ofCommands unit (functionAfter function command) commands

/-- The commands of a text, if all its lines are commands. -/
def commandsOf (text : String) : List Command := (Grammar.parse text).toOption.getD []

/-- The commands of named units in their places, one unit after the other. -/
def ofUnits (units : List (String × String)) : List Site :=
  units.flatMap fun unit => ofCommands unit.1 none (commandsOf unit.2)

/-- The index of a label of a function. -/
def labelIndex? (sites : List Site) (function : Option String) (name : String) : Option Nat :=
  sites.findIdx? fun site => site.function = function ∧ site.command = .label name

/-- The name of the function that a command starts. -/
def functionName? (site : Site) : Option String :=
  match site.command with
  | .function name _ => some name
  | _ => none

/-- The index of the start of a function. -/
def functionIndex? (sites : List Site) (name : String) : Option Nat :=
  sites.findIdx? fun site => site.functionName? = some name

/-- Whether a command that branches or calls has a target. -/
def hasTarget (sites : List Site) (site : Site) : Bool :=
  match site.command with
  | .goto name | .ifGoto name => (labelIndex? sites site.function name).isSome
  | .call name _ => (functionIndex? sites name).isSome
  | _ => true

end Site

/-- A program of the stack machine with the data it shares with its code. -/
structure StackProgram where
  /-- The commands. -/
  sites : List Site
  /-- The address of the code of each command, and of the end of the code. -/
  address : Nat → Nat
  /-- The cell of each static symbol. -/
  cell? : String → Option Word

namespace StackProgram

/-- A state of the stack machine. -/
structure State where
  /-- The memory. -/
  memory : Memory
  /-- The index of the next command. -/
  index : Nat

/-- Why the stack machine does not go on. -/
inductive Stop where
  /-- There is no next command. -/
  | ended
  /-- The memory has no such cell. -/
  | fault (fault : Machine.Fault)
  /-- A static symbol has no cell. -/
  | noCell (symbol : String)
  /-- A number cannot be assigned to. -/
  | noPlace
  /-- No label or function of this name is in reach. -/
  | noTarget (name : String)
  /-- A return goes to an address at which no command starts. -/
  | astray (memory : Memory) (address : Word)

/-- Pass on a result of the memory. -/
def lift {α : Type} : Except Machine.Fault α → Except Stop α
  | .ok value => .ok value
  | .error fault => .error (.fault fault)

/-- The address of a cell of a segment. -/
def locate (program : StackProgram) (unit : String) (memory : Memory) (segment : Segment)
    (index : Word) : Except Stop Word :=
  let based (pointer : BasePointer) : Except Stop Word := do
    return (← lift (memory.read pointer.cell)) + index
  match segment with
  | .locals => based .lcl
  | .argument => based .arg
  | .this => based .this
  | .that => based .that
  | .pointer => .ok (3 + index)
  | .temp => .ok (5 + index)
  | .static =>
    match program.cell? (Codegen.staticSymbol unit index) with
    | some cell => .ok cell
    | none => .error (.noCell (Codegen.staticSymbol unit index))
  | .constant => .error .noPlace

/-- The word that a push takes from a segment. -/
def fetch (program : StackProgram) (unit : String) (memory : Memory) (segment : Segment)
    (index : Word) : Except Stop Word :=
  match segment with
  | .constant => .ok index
  | _ => do lift (memory.read (← program.locate unit memory segment index))

/-- Keep the address of a cell aside if its segment moves. -/
def note (memory : Memory) (segment : Segment) (address : Word) : Except Machine.Fault Memory :=
  match segment.basePointer? with
  | some _ => memory.write Memory.scratchAddress address
  | none => .ok memory

/-- Pop into a cell of a segment. -/
def assign (program : StackProgram) (unit : String) (memory : Memory) (segment : Segment)
    (index : Word) : Except Stop Memory := do
  let address ← program.locate unit memory segment index
  let noted ← lift (note memory segment address)
  let popped ← lift noted.pop
  lift (popped.2.write address popped.1)

/-- The index of the first command whose code is at an address, or the end. -/
def resume? (program : StackProgram) (address : Word) : Option Nat :=
  (List.range (program.sites.length + 1)).find? fun index =>
    program.address index = address.toNat

/-- Go on with the next command. -/
def State.next (state : State) (result : Except Stop Memory) : Except Stop State :=
  result.map fun after => ⟨after, state.index + 1⟩

/-- Go on at a place that has to be there. -/
def goTo (memory : Memory) (index? : Option Nat) (stop : Stop) : Except Stop State :=
  match index? with
  | some index => .ok ⟨memory, index⟩
  | none => .error stop

/-- Execute a command in its place. -/
def execute (program : StackProgram) (site : Site) (state : State) : Except Stop State :=
  match site.command with
  | .operate operation => state.next (lift (state.memory.operate operation))
  | .push segment index => state.next do
    lift (state.memory.push (← program.fetch site.unit state.memory segment index))
  | .pop segment index => state.next (program.assign site.unit state.memory segment index)
  | .label _ => state.next (.ok state.memory)
  | .goto name =>
    goTo state.memory (Site.labelIndex? program.sites site.function name) (.noTarget name)
  | .ifGoto name => do
    let popped ← lift state.memory.pop
    if popped.1 = 0 then state.next (.ok popped.2)
    else goTo popped.2 (Site.labelIndex? program.sites site.function name) (.noTarget name)
  | .function _ locals => state.next (lift (state.memory.pushZeros locals.toNat))
  | .call name arguments => do
    let back := BitVec.ofNat 16 (program.address (state.index + 1))
    let entered ← lift (state.memory.enter arguments back)
    goTo entered (Site.functionIndex? program.sites name) (.noTarget name)
  | .ret => do
    let left ← lift state.memory.leave
    goTo left.1 (program.resume? left.2) (.astray left.1 left.2)

/-- Execute the next command. -/
def step (program : StackProgram) (state : State) : Except Stop State :=
  match program.sites[state.index]? with
  | none => .error .ended
  | some site => program.execute site state

/-- Execute a number of commands. -/
def run (program : StackProgram) (state : State) : Nat → Except Stop State
  | 0 => .ok state
  | count + 1 => do program.run (← program.step state) count

/-- Start a program at its first command, or with a bootstrap: the stack pointer is set
and the entry function is called. -/
def start (program : StackProgram) (config : Codegen.Config) (bootstrap : Bool)
    (memory : Memory) : Except Stop State :=
  if bootstrap then do
    let placed ← lift (memory.write Memory.stackPointer config.stackOrigin)
    let entered ← lift (placed.enter 0 (BitVec.ofNat 16 (program.address 0)))
    goTo entered (Site.functionIndex? program.sites config.entryFunction)
      (.noTarget config.entryFunction)
  else .ok ⟨memory, 0⟩

end StackProgram

end HackVm
