import HackVm.Proofs.BlockEffect

/-!
# Running code blocks

A machine at the start of a code block in its place gets to the end of the block, or
to where the block jumps, with the effect on the memory that the command has; or it
comes to the fault of the command. It never takes more steps than the block has
instructions, and at least one if there is an instruction at all.
-/

namespace HackVm.Machine

open Assembly Codegen Registers

/-- A machine gets to a memory and an instruction, or to a fault, in a number of steps
between two bounds; the registers are left open. -/
def Arrives (machine : Machine) (least most : Nat) (outcome : Except Fault (Memory × Nat)) :
    Prop :=
  ∃ result : Except Fault (Registers × Nat),
    machine.Reaches least most
      (result.map fun place => place.1.machine machine.program place.2) ∧
    result.map (fun place => (place.1.memory, place.2)) = outcome

/-- Wider bounds hold as well. -/
theorem Arrives.mono {machine : Machine} {least most lower upper : Nat}
    {outcome : Except Fault (Memory × Nat)} (h : machine.Arrives least most outcome)
    (hleast : lower ≤ least) (hmost : most ≤ upper) : machine.Arrives lower upper outcome := by
  obtain ⟨result, hreaches, hresult⟩ := h
  exact ⟨result, hreaches.mono hleast hmost, hresult⟩

/-- A machine that gets to known registers arrives with their memory. -/
theorem arrives_of_reaches {machine : Machine} {least most : Nat}
    {result : Except Fault Registers} {counter : Registers → Nat}
    {outcome : Except Fault (Memory × Nat)}
    (hreaches : machine.Reaches least most
      (result.map fun next => next.machine machine.program (counter next)))
    (houtcome : result.map (fun next => (next.memory, counter next)) = outcome) :
    machine.Arrives least most outcome :=
  ⟨result.map fun next => (next, counter next), by rw [map_map]; exact hreaches,
    by rw [map_map]; exact houtcome⟩

/-- Arriving somewhere and then somewhere else. -/
theorem Arrives.trans {machine : Machine} {least most lower upper place : Nat} {middle : Memory}
    {outcome : Except Fault (Memory × Nat)}
    (hfirst : machine.Arrives least most (.ok (middle, place)))
    (hsecond : ∀ address data : Word,
      (Registers.machine ⟨middle, address, data⟩ machine.program place).Arrives lower upper
        outcome) :
    machine.Arrives (least + lower) (most + upper) outcome := by
  obtain ⟨places, hreaches, hplaces⟩ := hfirst
  cases places with
  | error fault => cases hplaces
  | ok found =>
    cases hplaces
    obtain ⟨result, hnext, hresult⟩ := hsecond found.1.address found.1.data
    exact ⟨result, Reaches.trans hreaches hnext, hresult⟩

/-- A machine that arrives somewhere does so after a number of steps. -/
theorem exists_steps_of_arrives {machine : Machine} {least most place : Nat} {after : Memory}
    (harrives : machine.Arrives least most (.ok (after, place))) :
    ∃ steps target, machine.steps steps = (target, .ok ()) ∧ target.program = machine.program ∧
      target.ram = after ∧ target.counter = place ∧ least ≤ steps ∧ steps ≤ most := by
  obtain ⟨places, hreaches, hplaces⟩ := harrives
  cases places with
  | error other => cases hplaces
  | ok found =>
    cases hplaces
    obtain ⟨steps, hleast, hmost, hsteps⟩ := hreaches
    exact ⟨steps, _, hsteps, rfl, rfl, rfl, hleast, hmost⟩

section Blocks

variable {program : Program} {address : Nat} {memory : Memory} {a d : Word}

/-- Straight code in its place. -/
theorem arrives_of_straight {lines : List Line} {result : Except Fault Memory}
    (hplaced : Placed program address lines) (hstraight : ∀ line ∈ lines, line.Straight)
    (hrun : (runLines program.symbols ⟨memory, a, d⟩ lines).map Registers.memory = result) :
    (machine ⟨memory, a, d⟩ program address).Arrives (codeSize lines) (codeSize lines)
      (result.map fun after => (after, address + codeSize lines)) := by
  refine arrives_of_reaches (reaches_of_straight _ hplaced hstraight) ?_
  rw [← hrun, map_map]

/-- Straight code that ends in a jump which looks at D only. -/
theorem reaches_of_jump {lines rest : List Line} {comp : Comp} {jump : Jump}
    (registers : Registers) (hplaced : Placed program address (lines ++ .branch comp jump :: rest))
    (hstraight : ∀ line ∈ lines, line.Straight)
    (hcomp : ∀ next : Registers, evaluate comp next.address next.data next.memory =
      .ok (comp.value 0 next.data 0)) :
    (registers.machine program address).Reaches (codeSize lines + 1) (codeSize lines + 1)
      ((runLines program.symbols registers lines).map fun next =>
        next.machine program (if jump.taken (comp.value 0 next.data 0) then next.address.toNat
          else address + codeSize lines + 1)) := by
  obtain ⟨hlines, hbranch⟩ := placed_append.mp hplaced
  have hreaches := reaches_of_straight registers hlines hstraight
  have hboth := hreaches.bind fun next => reaches_of_branch next hbranch (hcomp next)
  cases hr : runLines program.symbols registers lines with
  | error fault =>
    rw [hr] at hboth
    exact hboth
  | ok next =>
    rw [hr] at hboth
    exact hboth

/-- Zero is computed from nothing. -/
theorem evaluate_zero (next : Registers) :
    evaluate .zero next.address next.data next.memory = .ok (Comp.zero.value 0 next.data 0) := rfl

/-- D is computed from itself. -/
theorem evaluate_data (next : Registers) :
    evaluate (.copy .d) next.address next.data next.memory =
      .ok ((Comp.copy .d).value 0 next.data 0) := rfl

/-- Straight code that ends in a jump that is always taken. -/
theorem arrives_of_always {lines rest : List Line} {result : Except Fault (Memory × Word)}
    (hplaced : Placed program address (lines ++ .branch .zero .always :: rest))
    (hstraight : ∀ line ∈ lines, line.Straight)
    (hrun : (runLines program.symbols ⟨memory, a, d⟩ lines).map
      (fun registers => (registers.memory, registers.address)) = result) :
    (machine ⟨memory, a, d⟩ program address).Arrives (codeSize lines + 1) (codeSize lines + 1)
      (result.map fun after => (after.1, after.2.toNat)) := by
  refine arrives_of_reaches (reaches_of_jump _ hplaced hstraight evaluate_zero) ?_
  rw [← hrun, map_map]
  rfl

/-- A jump. -/
theorem arrives_jumpTo {symbol : String} (hplaced : Placed program address (jumpTo symbol)) :
    (machine ⟨memory, a, d⟩ program address).Arrives 2 2
      (.ok (memory, (program.symbols[symbol]?.getD 0).toNat)) := by
  have hsplit : Placed program address ([.symbol symbol] ++ .branch .zero .always :: []) := hplaced
  exact arrives_of_always hsplit (by simp [Line.Straight]) rfl

/-- The return label of a call stands for the end of its code. -/
theorem symbol_of_callFunction {name returnLabel : String} {arguments : Word}
    (hplaced : Placed program address (callFunction name arguments returnLabel)) :
    program.symbols[returnLabel]? = some (BitVec.ofNat 16
      (address + codeSize (callFunction name arguments returnLabel))) := by
  have hsize : codeSize (callFunction name arguments returnLabel) =
      codeSize (callSetup arguments returnLabel) + 2 := by
    rw [callFunction_eq, codeSize_append]
    simp [Line.size, Line.branch]
  rw [callFunction_eq, placed_append, Line.branch, Placed, Placed, Placed] at hplaced
  obtain ⟨-, -, -, hlabel, -⟩ := hplaced
  rw [hlabel, hsize, Nat.add_assoc, Nat.add_assoc]

variable (hpre : KnowsPredefined program.symbols)
include hpre

/-- A conditional jump. -/
theorem arrives_jumpUnlessZero {symbol : String}
    (hplaced : Placed program address (jumpUnlessZero symbol)) :
    (machine ⟨memory, a, d⟩ program address).Arrives 5 5
      (memory.pop.map fun popped => (popped.2, if popped.1 = 0 then address + 5
        else (program.symbols[symbol]?.getD 0).toNat)) := by
  have hsplit : Placed program address
      ((popData ++ [.symbol symbol]) ++ .branch (.copy .d) .ne :: []) := hplaced
  refine arrives_of_reaches (reaches_of_jump _ hsplit ?_ evaluate_data) ?_
  · simp [popData, stackPointer, Line.Straight, Line.store]
  · rw [runLines_jumpUnlessZero hpre]
    cases memory.pop with
    | error fault => rfl
    | ok popped =>
      have hzero : popped.1 = 0#16 ↔ popped.1.toInt = 0 := by
        rw [← BitVec.toInt_inj]
        rfl
      by_cases hp : popped.1 = 0#16
      · simp [hp, Jump.taken, popData, stackPointer, Line.size, Line.store]
      · simp [hp, mt hzero.mpr hp, Jump.taken]

/-- A call. -/
theorem arrives_callFunction {name returnLabel : String} {arguments : Word}
    (hplaced : Placed program address (callFunction name arguments returnLabel)) :
    (machine ⟨memory, a, d⟩ program address).Arrives 1
      (codeSize (callFunction name arguments returnLabel))
      ((memory.enter arguments (program.symbols[returnLabel]?.getD 0)).map fun entered =>
        (entered, (program.symbols[name]?.getD 0).toNat)) := by
  have hsize : codeSize (callSetup arguments returnLabel ++ [.symbol name]) + 1 =
      codeSize (callFunction name arguments returnLabel) := by
    rw [callFunction_eq, codeSize_append, codeSize_append]
    simp [Line.size, Line.branch]
  have hsplit : Placed program address ((callSetup arguments returnLabel ++ [.symbol name]) ++
      .branch .zero .always :: [.label returnLabel]) := by
    rw [callFunction_eq] at hplaced
    simpa only [List.append_assoc, List.singleton_append] using hplaced
  have hstraight : ∀ line ∈ callSetup arguments returnLabel ++ [.symbol name], line.Straight := by
    simp [callSetup, pushData, pushCell, pointerLine, stackPointer, Line.Straight, Line.store]
  have hrun : (runLines program.symbols ⟨memory, a, d⟩
      (callSetup arguments returnLabel ++ [.symbol name])).map
        (fun registers => (registers.memory, registers.address)) =
          (memory.enter arguments (program.symbols[returnLabel]?.getD 0)).map fun entered =>
            (entered, program.symbols[name]?.getD 0) := by
    rw [← runLines_callSetup hpre memory a d, map_map, runLines_append, map_bind]
    cases runLines program.symbols ⟨memory, a, d⟩ (callSetup arguments returnLabel) <;> rfl
  have harrives := arrives_of_always hsplit hstraight hrun
  rw [map_map] at harrives
  exact harrives.mono (by omega) (by omega)

/-- A return. -/
theorem arrives_returnBlock (hplaced : Placed program address returnBlock) :
    (machine ⟨memory, a, d⟩ program address).Arrives 1 (codeSize returnBlock)
      (memory.leave.map fun left => (left.1, left.2.toNat)) := by
  have hsplit : Placed program address ((returnSetup ++ [scratchReturn, .store .a (.copy .m)]) ++
      .branch .zero .always :: []) := hplaced
  have hstraight : ∀ line ∈ returnSetup ++ [scratchReturn, .store .a (.copy .m)],
      line.Straight := by decide
  exact (arrives_of_always hsplit hstraight (runLines_return hpre memory a d)).mono (by decide)
    (by decide)

omit hpre in
/-- The number of instructions of a comparison. -/
theorem codeSize_compareTop (jump : Jump) (taken merge : String) :
    codeSize (compareTop jump taken merge) = 14 := rfl

omit hpre in
/-- The two ways through a comparison meet with the truth value in D. -/
theorem reaches_truth {jump : Jump} {taken merge : String} (difference : Word)
    (hplaced : Placed program address (compareTop jump taken merge))
    (hbound : address + 11 ≤ 65535) :
    (machine ⟨memory, program.symbols[taken]?.getD 0, difference⟩ program
      (if jump.taken difference then (program.symbols[taken]?.getD 0).toNat
        else address + 7)).Reaches 1 3
      (.ok (machine ⟨memory, if jump.taken difference then program.symbols[taken]?.getD 0
        else program.symbols[merge]?.getD 0, Operation.truth (jump.taken difference)⟩ program
          (address + 11))) := by
  have haddress : ∀ place, place ≤ address + 11 → (BitVec.ofNat 16 place).toNat = place := by
    intro place hp
    rw [BitVec.toNat_ofNat, Nat.mod_eq_of_lt (by omega)]
  rw [compareTop_eq, placed_append] at hplaced
  obtain ⟨-, -, hfalse⟩ := hplaced
  have htrue := (placed_append.mp (placed_append.mp hfalse).2.2).1
  have htaken : program.symbols[taken]? = some (BitVec.ofNat 16 (address + 10)) := htrue.1
  have hmerge : program.symbols[merge]? = some (BitVec.ofNat 16 (address + 11)) := htrue.2.2.1
  by_cases hjump : jump.taken difference = true
  · have hrun := reaches_of_straight ⟨memory, program.symbols[taken]?.getD 0, difference⟩ htrue
      (by simp [Line.Straight, Line.store])
    rw [htaken] at hrun
    simp only [hjump, if_true, htaken, Option.getD_some, haddress (address + 10) (by omega)]
    exact hrun.mono (Nat.le_refl 1) (Nat.le_succ_of_le (Nat.le_succ 1))
  · have hrun := reaches_of_jump ⟨memory, program.symbols[taken]?.getD 0, difference⟩ hfalse
      (by simp [Line.Straight, Line.store]) evaluate_zero
    have hplace : (program.symbols[merge]?.getD 0).toNat = address + 11 := by
      rw [hmerge, Option.getD_some, haddress _ (Nat.le_refl _)]
    simp only [hjump, Bool.false_eq_true, if_false]
    rw [← hplace]
    exact hrun.mono (Nat.le_add_left 1 _) (Nat.le_refl 3)

/-- A comparison. -/
theorem arrives_compareTop {jump : Jump} {taken merge : String}
    (hplaced : Placed program address (compareTop jump taken merge))
    (hbound : address + 11 ≤ 65535) :
    (machine ⟨memory, a, d⟩ program address).Arrives 1 (codeSize (compareTop jump taken merge))
      ((memory.pop.bind fun popped => popped.2.replaceTop fun deeper =>
        Operation.truth (jump.taken (deeper - popped.1))).map fun after =>
          (after, address + codeSize (compareTop jump taken merge))) := by
  have hsize : codeSize (compareSetup taken) = 6 := rfl
  have hsplit := hplaced
  rw [compareTop_eq] at hsplit
  have hjump := reaches_of_jump ⟨memory, a, d⟩ hsplit
    (by simp [compareSetup, popData, stackPointer, Line.Straight, Line.store]) evaluate_data
  rw [runLines_compareSetup hpre, hsize] at hjump
  rw [codeSize_compareTop]
  cases hpop : memory.pop with
  | error fault =>
    rw [hpop] at hjump
    exact ⟨.error fault, hjump.mono (by omega) (by omega), rfl⟩
  | ok popped =>
    rw [hpop, ok_bind] at hjump
    rw [ok_bind, Memory.replaceTop_eq]
    cases hread : popped.2.read (popped.2.top - 1) with
    | error fault =>
      rw [hread] at hjump
      exact ⟨.error fault, hjump.mono (by omega) (by omega), rfl⟩
    | ok deeper =>
      rw [hread] at hjump
      have hmeet := hjump.trans (reaches_truth (deeper - popped.1) hplaced hbound)
      have hstore : Placed program (address + 11) compareStore := by
        have hparts := (placed_append.mp hsplit).2.2
        exact (placed_append.mp (placed_append.mp hparts).2.2).2
      refine arrives_of_reaches ((hmeet.trans (reaches_of_straight _ hstore (by decide))).mono
        (by omega) (by decide)) ?_
      rw [ok_bind, ← runLines_compareStore hpre, map_map]
      rfl

/-- An operation, whose code may need labels. -/
theorem arrives_operate {generator : Generator} {operation : Operation}
    (hplaced : Placed program address (generator.operate operation).2)
    (hbound : address + codeSize (generator.operate operation).2 ≤ 65535) :
    (machine ⟨memory, a, d⟩ program address).Arrives 1
      (codeSize (generator.operate operation).2)
      ((memory.operate operation).map fun after =>
        (after, address + codeSize (generator.operate operation).2)) := by
  have hunary : ∀ {comp : Comp} {apply : Word → Word}, Placed program address (unary comp) →
      (∀ place, evaluate comp place d memory =
        (memory.read place).bind fun cell => .ok (apply cell)) →
      (machine ⟨memory, a, d⟩ program address).Arrives 1 3
        ((memory.replaceTop apply).map fun after => (after, address + 3)) := by
    intro comp apply hcode heval
    have harrives := arrives_of_straight hcode (by simp [unary, stackPointer, Line.Straight,
      Line.store]) (runLines_unary hpre memory a d heval)
    exact harrives.mono (by simp [unary, Line.size, stackPointer, Line.store]) (Nat.le_refl 3)
  have hbinary : ∀ {comp : Comp} {apply : Word → Word → Word},
      Placed program address (binary comp) →
      (∀ (place top : Word) (popped : Memory), evaluate comp place top popped =
        (popped.read place).bind fun cell => .ok (apply cell top)) →
      (machine ⟨memory, a, d⟩ program address).Arrives 1 5
        ((memory.pop.bind fun popped => popped.2.replaceTop fun deeper =>
          apply deeper popped.1).map fun after => (after, address + 5)) := by
    intro comp apply hcode heval
    have harrives := arrives_of_straight hcode (by simp [binary, stackPointer, Line.Straight,
      Line.store]) (runLines_binary hpre memory a d heval)
    exact harrives.mono (by simp [binary, Line.size, stackPointer, Line.store]) (Nat.le_refl 5)
  cases operation with
  | neg | not => exact hunary hplaced fun place => by simp
  | add => exact hbinary hplaced fun place top popped => by simp [BitVec.add_comm]
  | sub => exact hbinary hplaced fun place top popped => by simp
  | and => exact hbinary hplaced fun place top popped => by simp [BitVec.and_comm]
  | or => exact hbinary hplaced fun place top popped => by simp [BitVec.or_comm]
  | eq | gt | lt =>
    have hend : address + 14 ≤ 65535 := hbound
    exact arrives_compareTop hpre hplaced (by omega)

end Blocks

end HackVm.Machine
