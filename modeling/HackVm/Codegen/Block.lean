import HackVm.Assembly.Line
import HackVm.Command.Basic

/-!
# Code blocks

Each command becomes one block of assembly. SP points past the top of the stack.
R13 holds the address a pop goes to, or the end of the frame that a return leaves;
R14 holds the address a return goes to.
-/

namespace HackVm.Codegen

open Assembly

/-- The symbol of the stack pointer. -/
def stackPointer : Line := .symbol "SP"

/-- The symbol of the cell for a destination or a frame end. -/
def scratchAddress : Line := .symbol "R13"

/-- The symbol of the cell for a return address. -/
def scratchReturn : Line := .symbol "R14"

/-- Load the address of a base pointer. -/
def pointerLine (pointer : BasePointer) : Line := .symbol pointer.symbol

/-- Push D. -/
def pushData : List Line :=
  [stackPointer, .store .m (.increment .m), .store .a (.decrement .m), .store .m (.copy .d)]

/-- Pop into D. -/
def popData : List Line :=
  [stackPointer, .store .am (.decrement .m), .store .d (.copy .m)]

/-- Push a number. -/
def pushConstant (value : Word) : List Line :=
  [.number value.toNat, .store .d (.copy .a)] ++ pushData

/-- Push the cell at an index from a base pointer. -/
def pushIndexed (pointer : BasePointer) (index : Word) : List Line :=
  [pointerLine pointer, .store .d (.copy .m), .number index.toNat, .store .a (.add .a),
    .store .d (.copy .m)] ++ pushData

/-- Push the cell that a line loads the address of. -/
def pushCell (cell : Line) : List Line := [cell, .store .d (.copy .m)] ++ pushData

/-- Pop into the cell at an index from a base pointer; its address is kept aside
before the stack pointer moves. -/
def popIndexed (pointer : BasePointer) (index : Word) : List Line :=
  [pointerLine pointer, .store .d (.copy .m), .number index.toNat, .store .d (.add .a),
    scratchAddress, .store .m (.copy .d)] ++ popData ++
    [scratchAddress, .store .a (.copy .m), .store .m (.copy .d)]

/-- Pop into the cell that a line loads the address of. -/
def popCell (cell : Line) : List Line := popData ++ [cell, .store .m (.copy .d)]

/-- Replace the top of the stack. -/
def unary (comp : Comp) : List Line := [stackPointer, .store .a (.decrement .m), .store .m comp]

/-- Replace the two top words; D holds the top one and M the deeper one. -/
def binary (comp : Comp) : List Line :=
  [stackPointer, .store .am (.decrement .m), .store .d (.copy .m), .store .a (.decrement .a),
    .store .m comp]

/-- Replace the two top words by minus one if their difference satisfies a
condition, and by zero otherwise. -/
def compareTop (jump : Jump) (taken merge : String) : List Line :=
  [stackPointer, .store .am (.decrement .m), .store .d (.copy .m), .store .a (.decrement .a),
    .store .d (.subtractData .m), .symbol taken, .branch (.copy .d) jump, .store .d .zero,
    .symbol merge, .branch .zero .always, .label taken, .store .d .minusOne, .label merge,
    stackPointer, .store .a (.decrement .m), .store .m (.copy .d)]

/-- Jump to a symbol. -/
def jumpTo (symbol : String) : List Line := [.symbol symbol, .branch .zero .always]

/-- Pop, and jump to a symbol unless the word is zero. -/
def jumpUnlessZero (symbol : String) : List Line :=
  popData ++ [.symbol symbol, .branch (.copy .d) .ne]

/-- Start a function: its label, and a zero pushed for each local variable. -/
def functionEntry (name : String) (locals : Word) : List Line :=
  .label name ::
    if locals = 0 then []
    else .store .d .zero :: (List.replicate locals.toNat pushData).flatten

/-- The number of words that a call saves on the stack. -/
def savedWords : Nat := 5

/-- Call a function: save the return address and the four base pointers, move ARG
to the first argument and LCL to the top of the stack, and jump. -/
def callFunction (name : String) (arguments : Word) (returnLabel : String) : List Line :=
  [.symbol returnLabel, .store .d (.copy .a)] ++ pushData ++
    [BasePointer.lcl, .arg, .this, .that].flatMap (fun pointer => pushCell (pointerLine pointer)) ++
    [stackPointer, .store .d (.copy .m), .number (arguments.toNat + savedWords),
      .store .d (.subtract .a), pointerLine .arg, .store .m (.copy .d),
      stackPointer, .store .d (.copy .m), pointerLine .lcl, .store .m (.copy .d)] ++
    jumpTo name ++ [.label returnLabel]

/-- Restore a base pointer from the cell below the frame end, which moves down. -/
def restore (pointer : BasePointer) : List Line :=
  [scratchAddress, .store .am (.decrement .m), .store .d (.copy .m), pointerLine pointer,
    .store .m (.copy .d)]

/-- Return: fetch the return address before the result overwrites the first
argument, put the stack pointer after the result, restore the caller's base
pointers and jump back. -/
def returnBlock : List Line :=
  [pointerLine .lcl, .store .d (.copy .m), scratchAddress, .store .m (.copy .d),
    .number savedWords, .store .a (.subtract .a), .store .d (.copy .m), scratchReturn,
    .store .m (.copy .d)] ++ popData ++
    [pointerLine .arg, .store .a (.copy .m), .store .m (.copy .d),
      pointerLine .arg, .store .d (.increment .m), stackPointer, .store .m (.copy .d)] ++
    [BasePointer.that, .this, .arg, .lcl].flatMap restore ++
    [scratchReturn, .store .a (.copy .m), .branch .zero .always]

/-- Set the stack pointer. -/
def setStackPointer (origin : Word) : List Line :=
  [.number origin.toNat, .store .d (.copy .a), stackPointer, .store .m (.copy .d)]

end HackVm.Codegen
