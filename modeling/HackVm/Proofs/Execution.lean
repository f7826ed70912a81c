import HackVm.Proofs.Placement
import HackVm.Proofs.StackMachine

/-!
# Executing straight code

Code without jumps is a function of the registers and the memory: it goes through its
lines from the first to the last, unless one of them is at fault. A machine whose
program has such code in place executes it in as many steps as it has instructions.
-/

namespace HackVm

open Assembly

namespace Memory

/-- Reading inside the memory. -/
theorem read_of_lt {memory : Memory} {address : Word} (h : address.toNat < Machine.ramSize) :
    memory.read address = .ok memory[address.toNat] := dif_pos h

/-- Writing inside the memory. -/
theorem write_of_lt {memory : Memory} {address : Word} (value : Word)
    (h : address.toNat < Machine.ramSize) :
    memory.write address value = .ok (memory.set address.toNat value h) := dif_pos h

/-- A word that was written is read again. -/
theorem read_of_write {memory written : Memory} {address value : Word}
    (h : memory.write address value = .ok written) : written.read address = .ok value := by
  unfold write at h
  split at h
  · rename_i inside
    cases h
    rw [read_of_lt inside, Vector.getElem_set_self]
  · cases h

/-- Writing leaves the other cells alone. -/
theorem read_of_write_ne {memory written : Memory} {address other value : Word}
    (h : memory.write address value = .ok written) (hne : address ≠ other) :
    written.read other = memory.read other := by
  unfold write at h
  split at h
  · cases h
    unfold read
    split
    · rw [Vector.getElem_set_ne _ _ (fun he => hne (BitVec.eq_of_toNat_eq he))]
    · rfl
  · cases h

end Memory

/-- The two registers of a machine and its memory. -/
structure Registers where
  /-- The memory. -/
  memory : Memory
  /-- The address register A. -/
  address : Word
  /-- The data register D. -/
  data : Word

namespace Registers

/-- The machine with these registers at an instruction of a program. -/
def machine (registers : Registers) (program : Program) (counter : Nat) : Machine :=
  ⟨program, registers.memory, registers.address, registers.data, counter⟩

/-- Write a result to the places of a destination. -/
def store (registers : Registers) (dest : Dest) (value : Word) :
    Except Machine.Fault Registers := do
  let memory ← if dest.memory then registers.memory.write registers.address value
    else .ok registers.memory
  return ⟨memory, if dest.address then value else registers.address,
    if dest.data then value else registers.data⟩

/-- Execute a line that does not jump. -/
def runLine (symbols : SymbolTable) (registers : Registers) : Line →
    Except Machine.Fault Registers
  | .comment _ | .label _ => .ok registers
  | .number value => .ok { registers with address := BitVec.ofNat 16 value }
  | .symbol name => .ok { registers with address := symbols[name]?.getD 0 }
  | .compute dest comp _ => do
    registers.store dest
      (← Machine.evaluate comp registers.address registers.data registers.memory)

/-- Execute lines that do not jump. -/
def runLines (symbols : SymbolTable) (registers : Registers) (lines : List Line) :
    Except Machine.Fault Registers := lines.foldlM (runLine symbols) registers

@[simp] theorem runLines_nil (symbols : SymbolTable) (registers : Registers) :
    runLines symbols registers [] = .ok registers := rfl

@[simp] theorem runLines_cons (symbols : SymbolTable) (registers : Registers) (line : Line)
    (lines : List Line) :
    runLines symbols registers (line :: lines) =
      (runLine symbols registers line).bind fun next => runLines symbols next lines := rfl

theorem runLines_append (symbols : SymbolTable) (registers : Registers)
    (first second : List Line) :
    runLines symbols registers (first ++ second) =
      (runLines symbols registers first).bind fun next => runLines symbols next second := by
  induction first generalizing registers with
  | nil => rfl
  | cons line first ih =>
    rw [List.cons_append, runLines_cons, runLines_cons]
    cases runLine symbols registers line with
    | error fault => rfl
    | ok next => exact ih next

end Registers

/-- Whether a line goes on with the next one. -/
def Assembly.Line.Straight : Line → Prop
  | compute _ _ jump => jump = .never
  | _ => True

/-- Whether a line only loads, computes and stores is decided by its jump field. -/
instance (line : Line) : Decidable line.Straight :=
  match line with
  | .compute _ _ jump => inferInstanceAs (Decidable (jump = .never))
  | .comment _ | .label _ | .number _ | .symbol _ => inferInstanceAs (Decidable True)

namespace Machine

/-- A machine at the end of its program takes no step. -/
theorem step_of_halted {machine : Machine} (h : machine.halted = true) :
    machine.step = (machine, .error .outOfBounds) := by
  have hnone : machine.program.code[machine.counter]? = none :=
    Array.getElem?_eq_none (of_decide_eq_true h)
  rw [step, hnone]

/-- A run without a fault can be continued. -/
theorem steps_add {machine middle : Machine} {first : Nat}
    (h : machine.steps first = (middle, .ok ())) (second : Nat) :
    machine.steps (first + second) = middle.steps second := by
  induction first generalizing machine with
  | zero =>
    rw [steps, Prod.mk.injEq] at h
    rw [Nat.zero_add, h.1]
  | succ first ih =>
    rw [Nat.succ_add, steps]
    rw [steps] at h
    split at h
    · rename_i next hstep
      exact ih h
    · cases h

/-- Storing the result of a compute instruction and going on. -/
theorem execute_compute (registers : Registers) (program : Program) (counter : Nat) (dest : Dest)
    (comp : Comp) :
    (registers.machine program counter).execute (.compute dest comp .never) =
      match (Machine.evaluate comp registers.address registers.data registers.memory).bind
        (registers.store dest) with
      | .ok next => (next.machine program (counter + 1), .ok ())
      | .error fault => (registers.machine program counter, .error fault) := by
  unfold execute
  cases he : evaluate comp registers.address registers.data registers.memory with
  | error fault => simp only [Registers.machine, he, Except.bind]
  | ok value =>
    simp only [Registers.machine, he, Except.bind, Registers.store, Memory.write, advance]
    by_cases hm : dest.memory = true
    · by_cases hi : registers.address.toNat < ramSize
      · simp [hm, hi, Jump.taken, bind, Except.bind, pure, Except.pure]
      · simp [hm, hi, bind, Except.bind]
    · simp [hm, Jump.taken, bind, Except.bind, pure, Except.pure]

/-- A machine gets to an outcome, a machine or a fault, in a number of steps between
two bounds; a fault only has the upper one. -/
def Reaches (machine : Machine) (least most : Nat) : Except Fault Machine → Prop
  | .ok target => ∃ count, least ≤ count ∧ count ≤ most ∧ machine.steps count = (target, .ok ())
  | .error fault => ∃ count, count ≤ most ∧ ∃ last, machine.steps count = (last, .error fault)

/-- Wider bounds hold as well. -/
theorem Reaches.mono {machine : Machine} {least most lower upper : Nat}
    {outcome : Except Fault Machine} (h : machine.Reaches least most outcome)
    (hleast : lower ≤ least) (hmost : most ≤ upper) : machine.Reaches lower upper outcome := by
  cases outcome with
  | ok target =>
    obtain ⟨count, hl, hm, hsteps⟩ := h
    exact ⟨count, by omega, by omega, hsteps⟩
  | error fault =>
    obtain ⟨count, hm, hlast⟩ := h
    exact ⟨count, by omega, hlast⟩

/-- A machine is where it is. -/
theorem Reaches.refl (machine : Machine) : machine.Reaches 0 0 (.ok machine) :=
  ⟨0, Nat.le_refl 0, Nat.le_refl 0, rfl⟩

/-- What a machine gets to from a machine it gets to. -/
theorem Reaches.trans {machine middle : Machine} {least most lower upper : Nat}
    {outcome : Except Fault Machine} (hfirst : machine.Reaches least most (.ok middle))
    (hsecond : middle.Reaches lower upper outcome) :
    machine.Reaches (least + lower) (most + upper) outcome := by
  obtain ⟨count, hl, hm, hsteps⟩ := hfirst
  cases outcome with
  | ok target =>
    obtain ⟨others, hl', hm', hsteps'⟩ := hsecond
    exact ⟨count + others, by omega, by omega, by rw [steps_add hsteps, hsteps']⟩
  | error fault =>
    obtain ⟨others, hm', last, hsteps'⟩ := hsecond
    exact ⟨count + others, by omega, last, by rw [steps_add hsteps, hsteps']⟩

/-- After one outcome comes the next, unless the first is a fault. -/
theorem Reaches.bind {α : Type} {machine : Machine} {least most lower upper : Nat}
    {result : Except Fault α} {place : α → Machine} {next : α → Except Fault Machine}
    (hfirst : machine.Reaches least most (result.map place))
    (hsecond : ∀ value, (place value).Reaches lower upper (next value)) :
    machine.Reaches (least + lower) (most + upper) (result.bind next) := by
  cases result with
  | ok value => exact Reaches.trans hfirst (hsecond value)
  | error fault =>
    obtain ⟨count, hm, hlast⟩ := hfirst
    exact ⟨count, by omega, hlast⟩

/-- One step of a machine. -/
theorem reaches_of_step {machine : Machine} {outcome : Except Fault Machine}
    (h : machine.step = match outcome with
      | .ok target => (target, .ok ())
      | .error fault => (machine, .error fault)) :
    machine.Reaches 1 1 outcome := by
  cases outcome with
  | ok target => exact ⟨1, Nat.le_refl 1, Nat.le_refl 1, by rw [steps, h]; rfl⟩
  | error fault => exact ⟨1, Nat.le_refl 1, machine, by rw [steps, h]⟩

/-- A line in its place that goes on with the next one is executed as it says. -/
theorem reaches_of_line {program : Program} {address : Nat} {line : Line} {lines : List Line}
    (registers : Registers) (hplaced : Placed program address (line :: lines))
    (hstraight : line.Straight) :
    (registers.machine program address).Reaches line.size line.size
      ((registers.runLine program.symbols line).map fun next =>
        next.machine program (address + line.size)) ∧
      Placed program (address + line.size) lines := by
  cases line with
  | comment remark => exact ⟨Reaches.refl _, hplaced⟩
  | label name => exact ⟨Reaches.refl _, hplaced.2⟩
  | number value =>
    refine ⟨reaches_of_step ?_, hplaced.2⟩
    simp only [step, Registers.machine, hplaced.1, execute]
    rfl
  | symbol name =>
    obtain ⟨⟨value, hvalue, hcode⟩, hrest⟩ := hplaced
    refine ⟨reaches_of_step ?_, hrest⟩
    simp only [step, Registers.machine, hcode, execute, Registers.runLine, hvalue,
      Option.getD_some]
    rfl
  | compute dest comp jump =>
    cases hstraight
    refine ⟨reaches_of_step ?_, hplaced.2⟩
    have hstep : (registers.machine program address).step =
        (registers.machine program address).execute (.compute dest comp .never) := by
      simp only [step, Registers.machine, hplaced.1]
    rw [hstep, execute_compute]
    simp only [Registers.runLine, bind]
    cases (evaluate comp registers.address registers.data registers.memory).bind
      (registers.store dest) <;> rfl

/-- Straight code in its place is executed from its first line to its last. -/
theorem reaches_of_straight {program : Program} {address : Nat} {lines : List Line}
    (registers : Registers) (hplaced : Placed program address lines)
    (hstraight : ∀ line ∈ lines, line.Straight) :
    (registers.machine program address).Reaches (codeSize lines) (codeSize lines)
      ((registers.runLines program.symbols lines).map fun next =>
        next.machine program (address + codeSize lines)) := by
  induction lines generalizing registers address with
  | nil => exact Reaches.refl _
  | cons line lines ih =>
    rw [List.forall_mem_cons] at hstraight
    obtain ⟨hline, hrest⟩ := reaches_of_line registers hplaced hstraight.1
    have hboth := hline.bind fun next => ih next hrest hstraight.2
    rw [Registers.runLines_cons, codeSize_cons]
    cases hr : registers.runLine program.symbols line with
    | error fault =>
      rw [hr] at hboth
      exact hboth
    | ok next =>
      rw [hr, Nat.add_assoc] at hboth
      exact hboth

/-- A jump in its place that looks at D only. -/
theorem reaches_of_branch {program : Program} {address : Nat} {comp : Comp} {jump : Jump}
    {lines : List Line} {value : Word} (registers : Registers)
    (hplaced : Placed program address (.branch comp jump :: lines))
    (hvalue : evaluate comp registers.address registers.data registers.memory = .ok value) :
    (registers.machine program address).Reaches 1 1
      (.ok (registers.machine program
        (if jump.taken value then registers.address.toNat else address + 1))) := by
  have hcode : program.code[address]? = some (.compute .nowhere comp jump) := hplaced.1
  refine reaches_of_step ?_
  simp only [step, Registers.machine, hcode, execute, hvalue]
  rfl

end Machine

end HackVm
