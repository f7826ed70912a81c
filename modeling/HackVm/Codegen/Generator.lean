import HackVm.Codegen.Block
import HackVm.Codegen.LabelSupply
import HackVm.Error
import HackVm.Log
import Std.Data.TreeSet

/-!
# The code generator

A generator lives for a whole run. It knows the unit and the function it is in,
numbers generated labels, and remembers the labels that were declared, so that a
second declaration in one function is refused. A refused command leaves no code.
Every step returns the generator as it is afterwards, also when the step fails.
-/

namespace HackVm.Codegen

open Assembly

/-- What a user can choose about the generated code. -/
structure Config where
  /-- The stack pointer that the bootstrap sets. -/
  stackOrigin : Word := 256
  /-- The function that the bootstrap calls. -/
  entryFunction : String := "Sys.init"
  /-- Whether each command's code starts with a comment that restates it. -/
  annotate : Bool := true
  deriving DecidableEq, Repr

/-- The state of code generation. -/
structure Generator where
  /-- The chosen options. -/
  config : Config := {}
  /-- The source unit, which owns the static cells; empty before the first one. -/
  unit : String := ""
  /-- The function that labels belong to, if one has started in this unit. -/
  function : Option String := none
  /-- The supply of generated labels. -/
  labels : LabelSupply := {}
  /-- The symbols of the labels declared so far. -/
  declared : Std.TreeSet String := {}

/-- What a step of code generation gives: the generator afterwards, the messages,
and the result or the error. -/
structure Outcome (Result : Type) where
  /-- The generator after the step. -/
  generator : Generator
  /-- The messages of the step. -/
  log : Log
  /-- The result of the step, or why it failed. -/
  result : Except Error Result

/-- The symbol of a static cell of a unit. -/
def staticSymbol (unit : String) (index : Word) : String := unit ++ "." ++ index.decimal

/-- The symbol of a label inside a function, or outside of every function. -/
def labelSymbol (function : Option String) (name : String) : String :=
  function.getD "" ++ "$" ++ name

/-- The line that loads the address of a cell of `pointer` or `temp`. -/
def fixedCell (command : Command) (segment : Segment) (index : Word) : Except Error Line :=
  match segment.fixedRegion? with
  | some region =>
    if index.toNat < region.length then .ok (.number (region.base + index.toNat))
    else .error (.unsupported command.text (.indexBound segment region.length))
  | none => .error (.unsupported command.text .notFixed)

/-- The base pointer of a segment, for an index that an address instruction can load. -/
def basePointer (command : Command) (segment : Segment) (index : Word) :
    Except Error BasePointer :=
  if Word.maxLoad < index.toNat then .error (.unsupported command.text .indexRange)
  else
    match segment.basePointer? with
    | some pointer => .ok pointer
    | none => .error (.unsupported command.text .noBasePointer)

namespace Generator

/-- Start a source unit; no function has started in it. -/
def enterUnit (generator : Generator) (name : String) : Generator :=
  { generator with unit := name, function := none }

/-- The line that loads the address of a static cell of the current unit. -/
def staticCell (generator : Generator) (index : Word) : Except Error Line :=
  if generator.unit = "" then .error (.protocol .staticOutsideUnit)
  else .ok (.symbol (staticSymbol generator.unit index))

/-- The code of a push. -/
def push (generator : Generator) (segment : Segment) (index : Word) : Except Error (List Line) :=
  let command := Command.push segment index
  match segment with
  | .constant =>
    if Word.maxLoad < index.toNat then .error (.unsupported command.text .constantRange)
    else .ok (pushConstant index)
  | .locals | .argument | .this | .that =>
    (basePointer command segment index).map fun pointer => pushIndexed pointer index
  | .static => (generator.staticCell index).map pushCell
  | .pointer | .temp => (fixedCell command segment index).map pushCell

/-- The code of a pop. -/
def pop (generator : Generator) (segment : Segment) (index : Word) : Except Error (List Line) :=
  let command := Command.pop segment index
  match segment with
  | .constant => .error (.unsupported command.text .popConstant)
  | .locals | .argument | .this | .that =>
    (basePointer command segment index).map fun pointer => popIndexed pointer index
  | .static => (generator.staticCell index).map popCell
  | .pointer | .temp => (fixedCell command segment index).map popCell

/-- Take the labels of a comparison and give its code. -/
def comparison (generator : Generator) (jump : Jump) : Generator × List Line :=
  let branch := generator.labels.allocateBranch
  ({ generator with labels := branch.2 }, compareTop jump branch.1.taken branch.1.merge)

/-- The code of a stack operation. -/
def operate (generator : Generator) : Operation → Generator × List Line
  | .add => (generator, binary (.add .m))
  | .sub => (generator, binary (.subtractData .m))
  | .neg => (generator, unary (.negate .m))
  | .eq => generator.comparison .eq
  | .gt => generator.comparison .gt
  | .lt => generator.comparison .lt
  | .and => (generator, binary (.and .m))
  | .or => (generator, binary (.or .m))
  | .not => (generator, unary (.complement .m))

/-- Declare a label of the current function, once. -/
def declare (generator : Generator) (name : String) : Generator × Except Error (List Line) :=
  let symbol := labelSymbol generator.function name
  if symbol ∈ generator.declared then (generator, .error (.duplicateLabel symbol))
  else ({ generator with declared := generator.declared.insert symbol }, .ok [.label symbol])

/-- Take a return label and give the code of a call, whose frame has to fit an
address instruction. -/
def call (generator : Generator) (name : String) (arguments : Word) :
    Generator × Except Error (List Line) :=
  if Word.maxLoad < arguments.toNat + savedWords then
    (generator, .error (.unsupported (Command.call name arguments).text .argumentCount))
  else
    let returnLabel := generator.labels.allocate "RETURN"
    ({ generator with labels := returnLabel.2 },
      .ok (callFunction name arguments returnLabel.1))

/-- The code of a return, which has to stand inside a function. -/
def leave (generator : Generator) : Except Error (List Line) :=
  match generator.function with
  | some _ => .ok returnBlock
  | none => .error (.protocol (.returnOutsideFunction generator.unit))

/-- The code of a command, without a comment. -/
def body (generator : Generator) : Command → Generator × Except Error (List Line)
  | .operate operation =>
    let operated := generator.operate operation
    (operated.1, .ok operated.2)
  | .push segment index => (generator, generator.push segment index)
  | .pop segment index => (generator, generator.pop segment index)
  | .label name => generator.declare name
  | .goto name => (generator, .ok (jumpTo (labelSymbol generator.function name)))
  | .ifGoto name => (generator, .ok (jumpUnlessZero (labelSymbol generator.function name)))
  | .function name locals =>
    ({ generator with function := some name }, .ok (functionEntry name locals))
  | .call name arguments => generator.call name arguments
  | .ret => (generator, generator.leave)

/-- The comment in front of a piece of code, if comments are wanted. -/
def remark (generator : Generator) (text : String) : List Line :=
  if generator.config.annotate then [.comment text] else []

/-- The messages about a command, which also a failing command gives. -/
def narrate (generator : Generator) (command : Command) : Log :=
  ⟨.trace, .code, generator.unit ++ ": " ++ command.text⟩ ::
    match command with
    | .function name locals =>
      [⟨.debug, .code, generator.unit ++ ": function " ++ name ++ " with " ++ locals.decimal ++
        " locals"⟩]
    | _ => []

/-- Generate the code of a command: all its lines, or none. -/
def lower (generator : Generator) (command : Command) : Outcome (List Line) :=
  let lowered := generator.body command
  ⟨lowered.1, generator.narrate command,
    lowered.2.map fun lines => generator.remark command.text ++ lines⟩

/-- Generate the code of commands, up to the first that fails. -/
def lowerAll (generator : Generator) : List Command → Outcome (List Line)
  | [] => ⟨generator, [], .ok []⟩
  | command :: commands =>
    let first := generator.lower command
    match first.result with
    | .error error => ⟨first.generator, first.log, .error error⟩
    | .ok lines =>
      let rest := first.generator.lowerAll commands
      ⟨rest.generator, first.log ++ rest.log, rest.result.map fun others => lines ++ others⟩

/-- Generate the code that starts a program: set the stack pointer and call the
entry function. -/
def bootstrap (generator : Generator) : Outcome (List Line) :=
  let origin := generator.config.stackOrigin
  let entry := generator.config.entryFunction
  let log : Log := [⟨.debug, .code, "bootstrap: SP=" ++ origin.decimal ++ " then call " ++ entry⟩]
  if Word.maxLoad < origin.toNat then
    ⟨generator, log, .error (.unsupported "bootstrap" (.stackOrigin origin))⟩
  else
    let called := generator.call entry 0
    ⟨called.1, log, called.2.map fun lines =>
      generator.remark "bootstrap" ++ setStackPointer origin ++
        generator.remark (Command.call entry 0).text ++ lines⟩

end Generator

end HackVm.Codegen
