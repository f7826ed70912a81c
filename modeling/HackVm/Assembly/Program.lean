import HackVm.Assembly.Computation
import HackVm.Text.Line
import Std.Data.TreeMap.Basic

/-!
# Assembled programs

Assembly has two passes. The first collects the labels, each with the number of
instructions before it. The second takes the instructions in order and replaces
symbols by numbers; a symbol that is neither declared nor predefined is a variable
and gets the next free cell from 16 on. All labels are checked before the first
instruction is looked at.
-/

namespace HackVm.Assembly

/-- An instruction as the processor executes it. -/
inductive Instruction where
  /-- Load a number into A. -/
  | load (value : Word)
  /-- Compute, store the result and possibly jump. -/
  | compute (dest : Dest) (comp : Comp) (jump : Jump)
  deriving DecidableEq, Repr

/-- The values of symbols. -/
abbrev SymbolTable := Std.TreeMap String Word

/-- An assembled program. -/
structure Program where
  /-- The instructions, by address. -/
  code : Array Instruction
  /-- The values of all symbols: predefined ones, labels and variables. -/
  symbols : SymbolTable

/-- Why lines cannot be assembled. -/
inductive Fault where
  /-- The name of a label is no symbol. -/
  | badLabel (name : String)
  /-- A label is declared twice, or has the name of a predefined symbol. -/
  | repeatedLabel (name : String)
  /-- An operand starts with a digit and is no number. -/
  | badNumber (fault : Word.DecimalFault)
  /-- A number does not fit an address instruction. -/
  | numberTooLarge (value : Word)
  /-- An operand is no symbol. -/
  | badSymbol (name : String)
  /-- The destination field of a line is wrong. -/
  | badDest (line : String)
  /-- The jump field of a line is wrong. -/
  | badJump (line : String)
  /-- No cell is left for a variable. -/
  | tooManyVariables
  deriving DecidableEq, Repr

/-- The wording of an assembly fault. -/
def Fault.message : Fault → String
  | badLabel name => "bad label " ++ name
  | repeatedLabel name => "label " ++ name ++ " defined twice"
  | badNumber .notDigit => "numeric A-instruction: ParseIntError \x7b kind: InvalidDigit \x7d"
  | badNumber .tooLarge => "numeric A-instruction: ParseIntError \x7b kind: PosOverflow \x7d"
  | numberTooLarge value => "constant " ++ value.decimal ++ " too large"
  | badSymbol name => "bad symbol " ++ name
  | badDest line => "bad dest in " ++ line
  | badJump line => "bad jump in " ++ line
  | tooManyVariables => "attempt to add with overflow"

/-- Whether a character may stand in a symbol. -/
def isSymbolChar (char : Char) : Bool :=
  char.isAlphanum || char == '_' || char == '.' || char == '$' || char == ':'

/-- Whether a text is a symbol: not empty, only symbol characters, no digit in front. -/
def isSymbol (chars : List Char) : Bool :=
  chars.all isSymbolChar && (chars.head?.any fun char => !char.isDigit)

/-- The symbols that every program knows, with their values. -/
def predefined : List (String × Word) :=
  [("SP", 0), ("LCL", 1), ("ARG", 2), ("THIS", 3), ("THAT", 4), ("SCREEN", 16384),
    ("KBD", 24576)] ++
    (List.range 16).map fun register => ("R" ++ toString register, BitVec.ofNat 16 register)

/-- The symbol table before the first pass. -/
def predefinedTable : SymbolTable :=
  predefined.foldl (fun table entry => table.insert entry.1 entry.2) {}

/-- What a line is to the assembler. -/
inductive Item where
  /-- The declaration of a label. -/
  | label (name : String)
  /-- An instruction, still as text. -/
  | instruction (text : String)
  deriving DecidableEq, Repr

/-- The text between the parentheses of a label declaration. -/
def declaredName? : List Char → Option (List Char)
  | '(' :: rest => if rest.getLast? = some ')' then some rest.dropLast else none
  | _ => none

/-- What a line is to the assembler; blank lines and comments are nothing. -/
def Item.ofLine? (line : String) : Option Item :=
  match Text.content line.toList with
  | [] => none
  | content =>
    match declaredName? content with
    | some name => some (.label (String.ofList name))
    | none => some (.instruction (String.ofList content))

/-- The first pass: enter the labels into a table, where `address` instructions
stand before the items. -/
def declareLabels (table : SymbolTable) (address : Nat) :
    List Item → Except Fault SymbolTable
  | [] => .ok table
  | .instruction _ :: items => declareLabels table (address + 1) items
  | .label name :: items =>
    if !isSymbol name.toList then .error (.badLabel name)
    else if name ∈ table then .error (.repeatedLabel name)
    else declareLabels (table.insert name (BitVec.ofNat 16 address)) address items

/-- The parts of a text before and after the first separator, if there is one. -/
def splitFirst? (separator : Char) (chars : List Char) : Option (List Char × List Char) :=
  match chars.dropWhile (· != separator) with
  | [] => none
  | _ :: after => some (chars.takeWhile (· != separator), after)

/-- Decode a compute instruction: a destination before the first equals sign, a
jump after the first semicolon, and the computation between them. -/
def decodeCompute (line : String) : Except Fault Instruction :=
  let (dest, rest) := (splitFirst? '=' line.toList).getD ([], line.toList)
  let (comp, jump) := (splitFirst? ';' rest).getD (rest, [])
  match Dest.ofText? (String.ofList dest), Jump.ofText? (String.ofList jump) with
  | none, _ => .error (.badDest line)
  | some _, none => .error (.badJump line)
  | some dest, some jump => .ok (.compute dest (Comp.ofText (String.ofList comp)) jump)

/-- The state of the second pass. -/
structure Encoding where
  /-- The values of the symbols met so far. -/
  symbols : SymbolTable
  /-- The cell of the next variable. -/
  nextVariable : Nat
  /-- The instructions encoded so far. -/
  code : Array Instruction

namespace Encoding

/-- Append an instruction. -/
def push (encoding : Encoding) (instruction : Instruction) : Encoding :=
  { encoding with code := encoding.code.push instruction }

/-- Encode the use of a symbol; the first use of an unknown one makes a variable. -/
def loadSymbol (encoding : Encoding) (name : String) : Except Fault Encoding :=
  match encoding.symbols[name]? with
  | some value => .ok (encoding.push (.load value))
  | none =>
    if encoding.nextVariable < 65535 then
      let value := BitVec.ofNat 16 encoding.nextVariable
      .ok ⟨encoding.symbols.insert name value, encoding.nextVariable + 1,
        encoding.code.push (.load value)⟩
    else .error .tooManyVariables

/-- Encode an address instruction with a given operand: a number if it starts with
a digit, otherwise a symbol. -/
def loadOperand (encoding : Encoding) (operand : List Char) : Except Fault Encoding :=
  if operand.head?.any Char.isDigit then
    match Word.ofDigits operand with
    | .error fault => .error (.badNumber fault)
    | .ok value =>
      if Word.maxLoad < value.toNat then .error (.numberTooLarge value)
      else .ok (encoding.push (.load value))
  else if isSymbol operand then encoding.loadSymbol (String.ofList operand)
  else .error (.badSymbol (String.ofList operand))

/-- Encode an instruction. -/
def add (encoding : Encoding) (text : String) : Except Fault Encoding :=
  match text.toList with
  | '@' :: operand => encoding.loadOperand operand
  | _ => (decodeCompute text).map encoding.push

/-- The second pass: encode the instructions in order. -/
def addAll (encoding : Encoding) : List Item → Except Fault Encoding
  | [] => .ok encoding
  | .label _ :: items => encoding.addAll items
  | .instruction text :: items =>
    match encoding.add text with
    | .ok next => next.addAll items
    | .error fault => .error fault

end Encoding

/-- The cell of the first variable. -/
def firstVariable : Nat := 16

/-- Assemble lines. -/
def assemble (lines : List String) : Except Fault Program :=
  let items := lines.filterMap Item.ofLine?
  match declareLabels predefinedTable 0 items with
  | .error fault => .error fault
  | .ok labels =>
    match Encoding.addAll ⟨labels, firstVariable, #[]⟩ items with
    | .error fault => .error fault
    | .ok encoding => .ok ⟨encoding.code, encoding.symbols⟩

end HackVm.Assembly
