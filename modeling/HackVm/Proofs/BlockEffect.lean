import HackVm.Proofs.Execution

/-!
# What code blocks do

The straight parts of the code blocks, executed on any registers and any memory: each
of them has the effect on the memory that its command has, and stops at the same fault.
Nothing is assumed about where the stack and the segments lie, so a block may well
read or overwrite its own pointers.
-/

namespace HackVm

open Assembly Codegen

section Results

variable {ε α β γ : Type}

@[simp] theorem ok_bind (value : α) (next : α → Except ε β) :
    (Except.ok value).bind next = next value := rfl

@[simp] theorem bind_bind (result : Except ε α) (first : α → Except ε β)
    (second : β → Except ε γ) :
    (result.bind first).bind second = result.bind fun value => (first value).bind second := by
  cases result <;> rfl

@[simp] theorem map_bind (result : Except ε α) (first : α → Except ε β) (apply : β → γ) :
    (result.bind first).map apply = result.bind fun value => (first value).map apply := by
  cases result <;> rfl

@[simp] theorem bind_map (result : Except ε α) (apply : α → β) (next : β → Except ε γ) :
    (result.map apply).bind next = result.bind fun value => next (apply value) := by
  cases result <;> rfl

@[simp] theorem map_ok (value : α) (apply : α → β) :
    (Except.ok value : Except ε α).map apply = .ok (apply value) := rfl

@[simp] theorem map_map (result : Except ε α) (first : α → β) (second : β → γ) :
    (result.map first).map second = result.map fun value => second (first value) := by
  cases result <;> rfl

@[simp] theorem do_bind (result : Except ε α) (next : α → Except ε β) :
    (result >>= next) = result.bind next := rfl

@[simp] theorem bind_ok (result : Except ε α) : (result.bind fun value => .ok value) = result := by
  cases result <;> rfl

/-- A result that is no error is a value. -/
theorem exists_eq_ok_of_isOk {result : Except ε α} (h : result.isOk = true) :
    ∃ value, result = .ok value := by
  cases result with
  | error error => cases h
  | ok value => exact ⟨value, rfl⟩

end Results

namespace Assembly

attribute [simp] Comp.readsMemory Comp.operandValue Partner.operand

/-- The result of a computation of the processor. -/
@[simp] def Comp.value (comp : Comp) (a d m : Word) : Word :=
  match comp with
  | zero => 0
  | one => 1
  | minusOne => -1
  | copy operand => operandValue a d m operand
  | complement operand => ~~~operandValue a d m operand
  | negate operand => -operandValue a d m operand
  | increment operand => operandValue a d m operand + 1
  | decrement operand => operandValue a d m operand - 1
  | add partner => d + operandValue a d m partner.operand
  | subtract partner => d - operandValue a d m partner.operand
  | subtractData partner => operandValue a d m partner.operand - d
  | and partner => d &&& operandValue a d m partner.operand
  | or partner => d ||| operandValue a d m partner.operand
  | unknown _ => 0

end Assembly

/-- A computation of the processor reads the memory if it has to, and has a result. -/
@[simp] theorem Machine.evaluate_known {comp : Comp} (h : ∀ text, comp ≠ .unknown text)
    (address data : Word) (memory : Memory) :
    Machine.evaluate comp address data memory =
      if comp.readsMemory then
        (memory.read address).bind fun cell => .ok (comp.value address data cell)
      else .ok (comp.value address data 0) := by
  have hvalue : ∀ cell, comp.eval? address data cell = some (comp.value address data cell) := by
    intro cell
    cases comp with
    | unknown text => exact absurd rfl (h text)
    | _ => rfl
  unfold evaluate Memory.read
  simp only [hvalue]
  split
  · split <;> rfl
  · rfl

namespace Memory

/-- The word of the stack pointer. -/
def top (memory : Memory) : Word := memory.get ⟨0, Nat.zero_lt_succ _⟩

theorem top_eq (memory : Memory) : memory.top = memory[0] := rfl

@[simp] theorem read_stackPointer (memory : Memory) :
    memory.read stackPointer = .ok memory.top := rfl

@[simp] theorem write_stackPointer (memory : Memory) (value : Word) :
    memory.write stackPointer value = .ok (memory.set 0 value) := rfl

@[simp] theorem top_set (memory : Memory) (value : Word) :
    top (memory.set 0 value) = value := by
  simp [top_eq]

/-- A push with the stack pointer at hand. -/
theorem push_eq (memory : Memory) (value : Word) :
    memory.push value = write (memory.set 0 (memory.top + 1)) memory.top value := rfl

/-- A pop with the stack pointer at hand. -/
theorem pop_eq (memory : Memory) :
    memory.pop = (read (memory.set 0 (memory.top - 1)) (memory.top - 1)).bind fun value =>
      .ok (value, memory.set 0 (memory.top - 1)) := rfl

/-- A replacement with the stack pointer at hand. -/
theorem replaceTop_eq (memory : Memory) (update : Word → Word) :
    memory.replaceTop update = (memory.read (memory.top - 1)).bind fun value =>
      memory.write (memory.top - 1) (update value) := rfl

/-- A pop changes the stack pointer only. -/
theorem eq_set_of_pop {memory popped : Memory} {value : Word}
    (h : memory.pop = .ok (value, popped)) : popped = memory.set 0 (memory.top - 1) := by
  rw [pop_eq] at h
  cases hr : read (memory.set 0 (memory.top - 1)) (memory.top - 1) with
  | error fault =>
    rw [hr] at h
    cases h
  | ok word =>
    rw [hr] at h
    cases h
    rfl

end Memory

/-- Whether a table gives the predefined symbols their values. -/
def KnowsPredefined (symbols : SymbolTable) : Prop :=
  ∀ entry ∈ predefined, symbols[entry.1]? = some entry.2

namespace Registers

section Lines

variable (symbols : SymbolTable) (memory : Memory) (address data : Word) (comp : Comp)

@[simp] theorem runLine_number (value : Nat) :
    runLine symbols ⟨memory, address, data⟩ (.number value) =
      .ok ⟨memory, BitVec.ofNat 16 value, data⟩ := rfl

@[simp] theorem runLine_symbol (name : String) :
    runLine symbols ⟨memory, address, data⟩ (.symbol name) =
      .ok ⟨memory, symbols[name]?.getD 0, data⟩ := rfl

@[simp] theorem runLine_label (name : String) :
    runLine symbols ⟨memory, address, data⟩ (.label name) = .ok ⟨memory, address, data⟩ := rfl

@[simp] theorem runLine_store_m :
    runLine symbols ⟨memory, address, data⟩ (.store .m comp) =
      (Machine.evaluate comp address data memory).bind fun value =>
        (memory.write address value).bind fun written => .ok ⟨written, address, data⟩ := rfl

@[simp] theorem runLine_store_am :
    runLine symbols ⟨memory, address, data⟩ (.store .am comp) =
      (Machine.evaluate comp address data memory).bind fun value =>
        (memory.write address value).bind fun written => .ok ⟨written, value, data⟩ := rfl

@[simp] theorem runLine_store_a :
    runLine symbols ⟨memory, address, data⟩ (.store .a comp) =
      (Machine.evaluate comp address data memory).bind fun value =>
        .ok ⟨memory, value, data⟩ := rfl

@[simp] theorem runLine_store_d :
    runLine symbols ⟨memory, address, data⟩ (.store .d comp) =
      (Machine.evaluate comp address data memory).bind fun value =>
        .ok ⟨memory, address, value⟩ := rfl

end Lines

section Blocks

variable {symbols : SymbolTable} (hpre : KnowsPredefined symbols)
include hpre

/-- The stack pointer's line loads its cell. -/
theorem runLine_stackPointer (memory : Memory) (address data : Word) :
    runLine symbols ⟨memory, address, data⟩ stackPointer =
      .ok ⟨memory, Memory.stackPointer, data⟩ := by
  have hvalue : symbols["SP"]? = some 0 := hpre ("SP", 0) (by decide)
  rw [stackPointer, runLine_symbol, hvalue]
  rfl

/-- The line of the first scratch cell loads it. -/
theorem runLine_scratchAddress (memory : Memory) (address data : Word) :
    runLine symbols ⟨memory, address, data⟩ scratchAddress =
      .ok ⟨memory, Memory.scratchAddress, data⟩ := by
  have hvalue : symbols["R13"]? = some 13 := hpre ("R13", 13) (by decide)
  rw [scratchAddress, runLine_symbol, hvalue]
  rfl

/-- The line of the second scratch cell loads it. -/
theorem runLine_scratchReturn (memory : Memory) (address data : Word) :
    runLine symbols ⟨memory, address, data⟩ scratchReturn =
      .ok ⟨memory, Memory.scratchReturn, data⟩ := by
  have hvalue : symbols["R14"]? = some 14 := hpre ("R14", 14) (by decide)
  rw [scratchReturn, runLine_symbol, hvalue]
  rfl

/-- The line of a base pointer loads its cell. -/
theorem runLine_pointerLine (memory : Memory) (address data : Word) (pointer : BasePointer) :
    runLine symbols ⟨memory, address, data⟩ (pointerLine pointer) =
      .ok ⟨memory, pointer.cell, data⟩ := by
  have hvalue : symbols[pointer.symbol]? = some pointer.cell := by
    cases pointer
    · exact hpre ("LCL", 1) (by decide)
    · exact hpre ("ARG", 2) (by decide)
    · exact hpre ("THIS", 3) (by decide)
    · exact hpre ("THAT", 4) (by decide)
  rw [pointerLine, runLine_symbol, hvalue]
  rfl

/-- Pushing D. -/
theorem runLines_pushData (memory : Memory) (address data : Word) :
    runLines symbols ⟨memory, address, data⟩ pushData =
      (memory.push data).bind fun pushed => .ok ⟨pushed, memory.top, data⟩ := by
  simp only [pushData, runLines_cons, runLines_nil, runLine_stackPointer hpre, runLine_store_m,
    runLine_store_a, ne_eq, reduceCtorEq, not_false_eq_true, implies_true, Machine.evaluate_known,
    Comp.readsMemory, Comp.value, Comp.operandValue, decide_true, decide_false, Bool.false_eq_true,
    if_true, if_false, Memory.read_stackPointer, Memory.write_stackPointer, Memory.top_set,
    BitVec.ofNat_eq_ofNat, BitVec.add_sub_cancel, bind_ok, ok_bind, Memory.push_eq]

/-- Popping into D. -/
theorem runLines_popData (memory : Memory) (address data : Word) :
    runLines symbols ⟨memory, address, data⟩ popData =
      memory.pop.bind fun popped => .ok ⟨popped.2, memory.top - 1, popped.1⟩ := by
  simp [popData, runLine_stackPointer hpre, Memory.pop_eq]

/-- Pushing a number. -/
theorem runLines_pushConstant (memory : Memory) (address data value : Word) :
    (runLines symbols ⟨memory, address, data⟩ (pushConstant value)).map Registers.memory =
      memory.push value := by
  simp [pushConstant, runLines_pushData hpre]

/-- Pushing the cell at an index from a base pointer. -/
theorem runLines_pushIndexed (memory : Memory) (address data : Word) (pointer : BasePointer)
    (index : Word) :
    (runLines symbols ⟨memory, address, data⟩ (pushIndexed pointer index)).map Registers.memory =
      (memory.read pointer.cell).bind fun base =>
        (memory.read (base + index)).bind memory.push := by
  simp [pushIndexed, runLine_pointerLine hpre, runLines_pushData hpre]

/-- Pushing the cell whose address a line loads. -/
theorem runLines_pushCell {cell : Line} {place : Word} (memory : Memory) (address data : Word)
    (hcell : runLine symbols ⟨memory, address, data⟩ cell = .ok ⟨memory, place, data⟩) :
    runLines symbols ⟨memory, address, data⟩ (pushCell cell) =
      (memory.read place).bind fun value => (memory.push value).bind fun pushed =>
        .ok ⟨pushed, memory.top, value⟩ := by
  simp [pushCell, hcell, runLines_pushData hpre]

/-- Popping into the cell at an index from a base pointer. The address is kept aside while the
stack pointer moves. -/
theorem runLines_popIndexed (memory : Memory) (address data : Word) (pointer : BasePointer)
    (index : Word) :
    (runLines symbols ⟨memory, address, data⟩ (popIndexed pointer index)).map Registers.memory =
      (memory.read pointer.cell).bind fun base =>
        (memory.write Memory.scratchAddress (base + index)).bind fun noted =>
          noted.pop.bind fun popped => popped.2.write (base + index) popped.1 := by
  simp only [popIndexed, runLines_append, List.append_assoc, runLines_cons, runLines_nil,
    runLine_pointerLine hpre, runLine_scratchAddress hpre, runLines_popData hpre]
  simp only [ok_bind, bind_bind, map_bind, runLine_store_d, runLine_number, runLine_store_m,
    runLine_store_a, Machine.evaluate_known, ne_eq, reduceCtorEq, not_false_eq_true, implies_true,
    Comp.readsMemory, Comp.value, Comp.operandValue, Partner.operand, decide_true, decide_false,
    if_true, if_false, Bool.false_eq_true, BitVec.ofNat_toNat, BitVec.setWidth_eq]
  cases memory.read pointer.cell with
  | error fault => rfl
  | ok base =>
    simp only [ok_bind]
    cases hnoted : memory.write Memory.scratchAddress (base + index) with
    | error fault => rfl
    | ok noted =>
      simp only [ok_bind]
      cases hpop : noted.pop with
      | error fault => rfl
      | ok popped =>
        have hkept : popped.2.read Memory.scratchAddress = .ok (base + index) := by
          have hset := Memory.eq_set_of_pop hpop
          rw [hset, Memory.read_of_write_ne (Memory.write_stackPointer noted _) (by decide)]
          exact Memory.read_of_write hnoted
        simp only [ok_bind, hkept]
        cases popped.2.write (base + index) popped.1 <;> rfl

/-- Popping into the cell whose address a line loads. -/
theorem runLines_popCell {cell : Line} {place : Word} (memory : Memory) (address data : Word)
    (hcell : ∀ registers : Registers, runLine symbols registers cell =
      .ok ⟨registers.memory, place, registers.data⟩) :
    (runLines symbols ⟨memory, address, data⟩ (popCell cell)).map Registers.memory =
      memory.pop.bind fun popped => popped.2.write place popped.1 := by
  simp [popCell, runLines_append, runLines_popData hpre, hcell]

/-- Replacing the top of the stack. -/
theorem runLines_unary {comp : Comp} {apply : Word → Word} (memory : Memory)
    (address data : Word)
    (heval : ∀ place, Machine.evaluate comp place data memory =
      (memory.read place).bind fun cell => .ok (apply cell)) :
    (runLines symbols ⟨memory, address, data⟩ (unary comp)).map Registers.memory =
      memory.replaceTop apply := by
  simp [unary, runLine_stackPointer hpre, Memory.replaceTop_eq, heval]

/-- Replacing the two top words. -/
theorem runLines_binary {comp : Comp} {apply : Word → Word → Word} (memory : Memory)
    (address data : Word)
    (heval : ∀ (place top : Word) (popped : Memory), Machine.evaluate comp place top popped =
      (popped.read place).bind fun cell => .ok (apply cell top)) :
    (runLines symbols ⟨memory, address, data⟩ (binary comp)).map Registers.memory =
      memory.pop.bind fun popped => popped.2.replaceTop fun deeper => apply deeper popped.1 := by
  have hsplit : binary comp = popData ++ [.store .a (.decrement .a), .store .m comp] := rfl
  rw [hsplit, runLines_append, runLines_popData hpre]
  cases hpop : memory.pop with
  | error fault => rfl
  | ok popped =>
    have htop : popped.2.top = memory.top - 1 := by
      rw [Memory.eq_set_of_pop hpop, Memory.top_set]
    simp [Memory.replaceTop_eq, htop, heval]

/-- Pushing zeros one after the other. -/
theorem runLines_zeros (count : Nat) (memory : Memory) (address : Word) :
    (runLines symbols ⟨memory, address, 0⟩ (List.replicate count pushData).flatten).map
      Registers.memory = memory.pushZeros count := by
  induction count generalizing memory address with
  | zero => rfl
  | succ count ih =>
    rw [List.replicate_succ, List.flatten_cons, runLines_append, runLines_pushData hpre,
      Memory.pushZeros]
    cases hpush : memory.push 0 with
    | error fault => rfl
    | ok pushed => simpa [hpush] using ih pushed memory.top

/-- Starting a function. -/
theorem runLines_functionEntry (memory : Memory) (address data : Word) (name : String)
    (locals : Word) :
    (runLines symbols ⟨memory, address, data⟩ (functionEntry name locals)).map Registers.memory =
      memory.pushZeros locals.toNat := by
  unfold functionEntry
  by_cases hzero : locals = 0
  · rw [if_pos hzero, hzero]
    rfl
  · rw [if_neg hzero, ← runLines_zeros hpre locals.toNat memory address]
    simp

omit hpre in
/-- Code after code, as far as the memory goes. -/
theorem map_memory_append {registers : Registers} {first second : List Line}
    {result : Except Machine.Fault Memory} {next : Memory → Except Machine.Fault Memory}
    (hfirst : (runLines symbols registers first).map Registers.memory = result)
    (hsecond : ∀ (memory : Memory) (address data : Word),
      (runLines symbols ⟨memory, address, data⟩ second).map Registers.memory = next memory) :
    (runLines symbols registers (first ++ second)).map Registers.memory = result.bind next := by
  rw [runLines_append, ← hfirst]
  cases runLines symbols registers first with
  | error fault => rfl
  | ok middle => exact hsecond middle.memory middle.address middle.data

/-- Saving base pointers one after the other. -/
theorem runLines_savePointers (pointers : List BasePointer) (memory : Memory)
    (address data : Word) :
    (runLines symbols ⟨memory, address, data⟩
      (pointers.flatMap fun pointer => pushCell (pointerLine pointer))).map Registers.memory =
        pointers.foldlM Memory.savePointer memory := by
  induction pointers generalizing memory address data with
  | nil => rfl
  | cons pointer pointers ih =>
    rw [List.flatMap_cons, List.foldlM_cons, do_bind]
    refine map_memory_append ?_ ih
    rw [runLines_pushCell hpre memory address data (runLine_pointerLine hpre _ _ _ pointer)]
    simp [Memory.savePointer]

/-- Restoring base pointers one after the other. -/
theorem runLines_restorePointers (pointers : List BasePointer) (memory : Memory)
    (address data : Word) :
    (runLines symbols ⟨memory, address, data⟩ (pointers.flatMap restore)).map Registers.memory =
      pointers.foldlM Memory.restorePointer memory := by
  induction pointers generalizing memory address data with
  | nil => rfl
  | cons pointer pointers ih =>
    rw [List.flatMap_cons, List.foldlM_cons, do_bind]
    refine map_memory_append ?_ ih
    simp [restore, runLine_scratchAddress hpre, runLine_pointerLine hpre, Memory.restorePointer]

/-- The code of a call up to its jump. -/
def callSetup (arguments : Word) (returnLabel : String) : List Line :=
  [.symbol returnLabel, .store .d (.copy .a)] ++ pushData ++
    [BasePointer.lcl, .arg, .this, .that].flatMap (fun pointer => pushCell (pointerLine pointer)) ++
    [stackPointer, .store .d (.copy .m), .number (arguments.toNat + savedWords),
      .store .d (.subtract .a), pointerLine .arg, .store .m (.copy .d),
      stackPointer, .store .d (.copy .m), pointerLine .lcl, .store .m (.copy .d)]

omit hpre in
/-- A call is its setup, a jump and the label to return to. -/
theorem callFunction_eq (name : String) (arguments : Word) (returnLabel : String) :
    callFunction name arguments returnLabel = callSetup arguments returnLabel ++
      (.symbol name :: .branch .zero .always :: [.label returnLabel]) := by
  simp [callFunction, callSetup, jumpTo]

/-- Building the frame of a call. -/
theorem runLines_callSetup (memory : Memory) (address data arguments : Word)
    (returnLabel : String) :
    (runLines symbols ⟨memory, address, data⟩ (callSetup arguments returnLabel)).map
      Registers.memory = memory.enter arguments (symbols[returnLabel]?.getD 0) := by
  have hpush : (runLines symbols ⟨memory, address, data⟩
      ([.symbol returnLabel, .store .d (.copy .a)] ++ pushData)).map Registers.memory =
        memory.push (symbols[returnLabel]?.getD 0) := by
    simp [runLines_pushData hpre]
  have hoffset : BitVec.ofNat 16 (arguments.toNat + savedWords) = arguments + 5 := by
    rw [BitVec.ofNat_add, BitVec.ofNat_toNat, BitVec.setWidth_eq]
    rfl
  refine (map_memory_append (map_memory_append hpush (runLines_savePointers hpre _))
    fun saved a d => ?_).trans (bind_bind _ _ _)
  simp [runLine_stackPointer hpre, runLine_pointerLine hpre, hoffset]

/-- The code of a return up to the restoring of the base pointers. -/
def returnSetup : List Line :=
  [pointerLine .lcl, .store .d (.copy .m), scratchAddress, .store .m (.copy .d),
    .number savedWords, .store .a (.subtract .a), .store .d (.copy .m), scratchReturn,
    .store .m (.copy .d)] ++ popData ++
    [pointerLine .arg, .store .a (.copy .m), .store .m (.copy .d),
      pointerLine .arg, .store .d (.increment .m), stackPointer, .store .m (.copy .d)] ++
    [BasePointer.that, .this, .arg, .lcl].flatMap restore

/-- Taking down the frame of a call; at the end A holds the address to return to. -/
theorem runLines_return (memory : Memory) (address data : Word) :
    (runLines symbols ⟨memory, address, data⟩
      (returnSetup ++ [scratchReturn, .store .a (.copy .m)])).map
        (fun registers => (registers.memory, registers.address)) = memory.leave := by
  have hpop : ∀ (noted : Memory) (a d : Word),
      (runLines symbols ⟨noted, a, d⟩ (popData ++
        [pointerLine .arg, .store .a (.copy .m), .store .m (.copy .d),
          pointerLine .arg, .store .d (.increment .m), stackPointer, .store .m (.copy .d)])).map
        Registers.memory = noted.pop.bind fun popped =>
          (popped.2.read BasePointer.arg.cell).bind fun place =>
            (popped.2.write place popped.1).bind fun stored =>
              (stored.read BasePointer.arg.cell).bind fun first =>
                stored.write Memory.stackPointer (first + 1) := by
    intro noted a d
    simp [runLines_append, runLines_popData hpre, runLine_pointerLine hpre,
      runLine_stackPointer hpre]
  have hnote : (runLines symbols ⟨memory, address, data⟩
      [pointerLine .lcl, .store .d (.copy .m), scratchAddress, .store .m (.copy .d),
        .number savedWords, .store .a (.subtract .a), .store .d (.copy .m), scratchReturn,
        .store .m (.copy .d)]).map Registers.memory =
        (memory.read BasePointer.lcl.cell).bind fun frame =>
          (memory.write Memory.scratchAddress frame).bind fun marked =>
            (marked.read (frame - 5)).bind fun back =>
              marked.write Memory.scratchReturn back := by
    simp [runLine_pointerLine hpre, runLine_scratchAddress hpre, runLine_scratchReturn hpre,
      savedWords]
  have hsetup := map_memory_append (map_memory_append hnote hpop) (runLines_restorePointers hpre
    [.that, .this, .arg, .lcl])
  rw [← List.append_assoc] at hsetup
  have hleave : memory.leave = ((runLines symbols ⟨memory, address, data⟩ returnSetup).map
      Registers.memory).bind fun restored =>
        (restored.read Memory.scratchReturn).bind fun back => .ok (restored, back) := by
    rw [returnSetup, hsetup]
    simp [Memory.leave, pure, Except.pure]
  rw [hleave, runLines_append]
  cases runLines symbols ⟨memory, address, data⟩ returnSetup with
  | error fault => rfl
  | ok registers => simp [runLine_scratchReturn hpre]

/-- Popping the word that decides a jump; A then holds where the jump goes. -/
theorem runLines_jumpUnlessZero (memory : Memory) (address data : Word) (symbol : String) :
    runLines symbols ⟨memory, address, data⟩ (popData ++ [.symbol symbol]) =
      memory.pop.bind fun popped => .ok ⟨popped.2, symbols[symbol]?.getD 0, popped.1⟩ := by
  rw [runLines_append, runLines_popData hpre]
  simp

/-- The code of a comparison up to its first jump. -/
def compareSetup (taken : String) : List Line :=
  popData ++ [.store .a (.decrement .a), .store .d (.subtractData .m), .symbol taken]

/-- The code of a comparison that stores the result. -/
def compareStore : List Line := [stackPointer, .store .a (.decrement .m), .store .m (.copy .d)]

omit hpre in
/-- A comparison has two ways to its last part. -/
theorem compareTop_eq (jump : Jump) (taken merge : String) :
    compareTop jump taken merge = compareSetup taken ++
      (.branch (.copy .d) jump :: ([.store .d .zero, .symbol merge] ++
        (.branch .zero .always :: ([.label taken, .store .d .minusOne, .label merge] ++
          compareStore)))) := rfl

/-- Taking the difference of the two top words. -/
theorem runLines_compareSetup (memory : Memory) (address data : Word) (taken : String) :
    runLines symbols ⟨memory, address, data⟩ (compareSetup taken) =
      memory.pop.bind fun popped => (popped.2.read (popped.2.top - 1)).bind fun deeper =>
        .ok ⟨popped.2, symbols[taken]?.getD 0, deeper - popped.1⟩ := by
  rw [compareSetup, runLines_append, runLines_popData hpre]
  cases hpop : memory.pop with
  | error fault => rfl
  | ok popped =>
    have htop : popped.2.top = memory.top - 1 := by
      rw [Memory.eq_set_of_pop hpop, Memory.top_set]
    simp [htop]

/-- Storing the result of a comparison. -/
theorem runLines_compareStore (memory : Memory) (address data : Word) :
    (runLines symbols ⟨memory, address, data⟩ compareStore).map Registers.memory =
      memory.write (memory.top - 1) data := by
  simp [compareStore, runLine_stackPointer hpre]

/-- Setting the stack pointer. -/
theorem runLines_setStackPointer (memory : Memory) (address data origin : Word) :
    (runLines symbols ⟨memory, address, data⟩ (setStackPointer origin)).map Registers.memory =
      memory.write Memory.stackPointer origin := by
  simp [setStackPointer, runLine_stackPointer hpre]

end Blocks

end Registers

end HackVm
