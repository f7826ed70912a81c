import HackVm.Word

/-!
# The fields of a compute instruction

A compute instruction has three fields: where the result goes, what is computed,
and when to jump. The processor has twenty-eight computations over the data
register D, the address register A and the memory cell M that A addresses. An
assembler takes any text in the middle field, so a text that is none of the
twenty-eight is kept as it stands; the processor refuses it when it gets there.
-/

namespace HackVm.Assembly

/-- The places a compute instruction writes its result to. -/
structure Dest where
  /-- Whether the address register is written. -/
  address : Bool
  /-- Whether the addressed memory cell is written. -/
  memory : Bool
  /-- Whether the data register is written. -/
  data : Bool
  deriving DecidableEq, Repr

namespace Dest

/-- No place: the result only decides a jump. -/
def nowhere : Dest := ⟨false, false, false⟩

/-- The address register. -/
def a : Dest := ⟨true, false, false⟩

/-- The addressed memory cell. -/
def m : Dest := ⟨false, true, false⟩

/-- The data register. -/
def d : Dest := ⟨false, false, true⟩

/-- The address register and the memory cell that it addressed before. -/
def am : Dest := ⟨true, true, false⟩

/-- All sets of places. -/
def all : List Dest :=
  [nowhere, m, d, ⟨false, true, true⟩, a, am, ⟨true, false, true⟩, ⟨true, true, true⟩]

/-- The letters of the places, always in the order A, M, D. -/
def text (dest : Dest) : String :=
  (if dest.address then "A" else "") ++ (if dest.memory then "M" else "") ++
    (if dest.data then "D" else "")

/-- The set of places with a given text. -/
def ofText? (text : String) : Option Dest := all.find? fun dest => dest.text == text

/-- A set of places is found by its text. -/
theorem ofText?_text (dest : Dest) : ofText? dest.text = some dest := by
  rcases dest with ⟨address, memory, data⟩
  cases address <;> cases memory <;> cases data <;> rfl

end Dest

/-- The condition on the result, as a signed number, under which a compute
instruction jumps to the address in A. -/
inductive Jump where
  /-- Go on with the next instruction. -/
  | never
  /-- Jump if positive. -/
  | gt
  /-- Jump if zero. -/
  | eq
  /-- Jump if not negative. -/
  | ge
  /-- Jump if negative. -/
  | lt
  /-- Jump if not zero. -/
  | ne
  /-- Jump if not positive. -/
  | le
  /-- Jump in any case. -/
  | always
  deriving DecidableEq, Repr

namespace Jump

/-- All conditions. -/
def all : List Jump := [.never, .gt, .eq, .ge, .lt, .ne, .le, .always]

/-- The text of a condition. -/
def text : Jump → String
  | never => ""
  | gt => "JGT"
  | eq => "JEQ"
  | ge => "JGE"
  | lt => "JLT"
  | ne => "JNE"
  | le => "JLE"
  | always => "JMP"

/-- The condition with a given text. -/
def ofText? (text : String) : Option Jump := all.find? fun jump => jump.text == text

/-- A condition is found by its text. -/
theorem ofText?_text (jump : Jump) : ofText? jump.text = some jump := by
  cases jump <;> rfl

/-- Whether a result makes the instruction jump. -/
def taken (jump : Jump) (result : Word) : Bool :=
  match jump with
  | never => false
  | gt => 0 < result.toInt
  | eq => result.toInt = 0
  | ge => 0 ≤ result.toInt
  | lt => result.toInt < 0
  | ne => result.toInt ≠ 0
  | le => result.toInt ≤ 0
  | always => true

end Jump

/-- The operand of a computation with one operand. -/
inductive Operand where
  /-- The data register. -/
  | d
  /-- The address register. -/
  | a
  /-- The addressed memory cell. -/
  | m
  deriving DecidableEq, Repr

/-- The operand that a computation with two operands combines with D. -/
inductive Partner where
  /-- The address register. -/
  | a
  /-- The addressed memory cell. -/
  | m
  deriving DecidableEq, Repr

/-- The letter of an operand. -/
def Operand.text : Operand → String
  | d => "D"
  | a => "A"
  | m => "M"

/-- A partner as an operand. -/
def Partner.operand : Partner → Operand
  | a => .a
  | m => .m

/-- What a compute instruction computes. -/
inductive Comp where
  /-- The number zero. -/
  | zero
  /-- The number one. -/
  | one
  /-- The number minus one. -/
  | minusOne
  /-- The operand itself. -/
  | copy (operand : Operand)
  /-- The bitwise complement. -/
  | complement (operand : Operand)
  /-- The negative. -/
  | negate (operand : Operand)
  /-- One more. -/
  | increment (operand : Operand)
  /-- One less. -/
  | decrement (operand : Operand)
  /-- D plus the partner. -/
  | add (partner : Partner)
  /-- D minus the partner. -/
  | subtract (partner : Partner)
  /-- The partner minus D. -/
  | subtractData (partner : Partner)
  /-- The bitwise conjunction of D and the partner. -/
  | and (partner : Partner)
  /-- The bitwise disjunction of D and the partner. -/
  | or (partner : Partner)
  /-- A text that is none of the processor's computations. -/
  | unknown (text : String)
  deriving DecidableEq, Repr

namespace Comp

/-- The text of a computation. -/
def text : Comp → String
  | zero => "0"
  | one => "1"
  | minusOne => "-1"
  | copy operand => operand.text
  | complement operand => "!" ++ operand.text
  | negate operand => "-" ++ operand.text
  | increment operand => operand.text ++ "+1"
  | decrement operand => operand.text ++ "-1"
  | add partner => "D+" ++ partner.operand.text
  | subtract partner => "D-" ++ partner.operand.text
  | subtractData partner => partner.operand.text ++ "-D"
  | and partner => "D&" ++ partner.operand.text
  | or partner => "D|" ++ partner.operand.text
  | unknown text => text

/-- The computations of the processor. -/
def known : List Comp :=
  [.zero, .one, .minusOne] ++
    [Operand.d, .a, .m].flatMap (fun operand =>
      [.copy operand, .complement operand, .negate operand, .increment operand,
        .decrement operand]) ++
    [Partner.a, .m].flatMap (fun partner =>
      [.add partner, .subtract partner, .subtractData partner, .and partner, .or partner])

/-- The computations of the processor by their texts. -/
def table : List (String × Comp) := known.map fun comp => (comp.text, comp)

/-- The computation that a text stands for. -/
def ofText (text : String) : Comp := (table.lookup text).getD (.unknown text)

/-- A computation of the processor is found by its text. -/
theorem ofText_text : ∀ comp ∈ known, ofText comp.text = comp := by
  decide

/-- Whether a computation reads the addressed memory cell. A text that is no
computation counts as reading if the letter M is in it. -/
def readsMemory : Comp → Bool
  | zero | one | minusOne => false
  | copy operand | complement operand | negate operand | increment operand
  | decrement operand => operand = .m
  | add partner | subtract partner | subtractData partner | and partner | or partner =>
    partner = .m
  | unknown text => 'M' ∈ text.toList

/-- The value of an operand, given A, D and the addressed memory cell. -/
def operandValue (a d m : Word) : Operand → Word
  | .d => d
  | .a => a
  | .m => m

/-- The result of a computation, given A, D and the addressed memory cell. -/
def eval? (comp : Comp) (a d m : Word) : Option Word :=
  let value := operandValue a d m
  match comp with
  | zero => some 0
  | one => some 1
  | minusOne => some (-1)
  | copy operand => some (value operand)
  | complement operand => some (~~~value operand)
  | negate operand => some (-value operand)
  | increment operand => some (value operand + 1)
  | decrement operand => some (value operand - 1)
  | add partner => some (d + value partner.operand)
  | subtract partner => some (d - value partner.operand)
  | subtractData partner => some (value partner.operand - d)
  | and partner => some (d &&& value partner.operand)
  | or partner => some (d ||| value partner.operand)
  | unknown _ => none

/-- The processor has a result exactly for the computations that are its own. -/
theorem eval?_isSome_iff (comp : Comp) (a d m : Word) :
    (comp.eval? a d m).isSome ↔ ∀ text, comp ≠ .unknown text := by
  cases comp <;> simp [eval?]

end Comp

end HackVm.Assembly
