import HackVm.Proofs.BlockInProgram
import HackVm.Proofs.MemoryCells
import HackVm.Proofs.Simulation

/-!
# Pushes and pops, cell by cell

What the code of a push or a pop does to the memory, whatever coincides with whatever: the cell of
the segment may be the stack pointer, a base pointer, the scratch cell or a word of the stack. A
push reads its word first. A pop finds its cell first and keeps the address in the scratch cell
while the stack pointer moves, if the segment has a base pointer. The only fault is a cell outside
the memory.
-/

namespace HackVm

open Assembly Codegen Registers

namespace Segment

/-- The address of the cell at an index of a segment. Static cells are where the program has put
them, and a number has no cell. -/
def place? (segment : Segment) (memory : Memory) (cell? : Option Word) (index : Word) :
    Option Word :=
  match segment with
  | .locals => some (memory[1] + index)
  | .argument => some (memory[2] + index)
  | .this => some (memory[3] + index)
  | .that => some (memory[4] + index)
  | .pointer => some (3 + index)
  | .temp => some (5 + index)
  | .static => cell?
  | .constant => none

/-- The word at an index of a segment. -/
def word? (segment : Segment) (memory : Memory) (cell? : Option Word) (index : Word) :
    Option Word :=
  match segment with
  | .constant => some index
  | _ => (segment.place? memory cell? index).bind fun place => memory[place.toNat]?

/-- The write that keeps the address of a cell aside. -/
def aside (segment : Segment) (place : Word) : List (Nat × Word) :=
  if segment.basePointer? = none then [] else [(13, place)]

/-- Whether an index leads out of the memory. -/
def IsOutside (segment : Segment) (memory : Memory) (index : Word) : Prop :=
  segment.basePointer? ≠ none ∧
    ∃ place, segment.place? memory none index = some place ∧ Machine.ramSize ≤ place.toNat

end Segment

open Segment (IsOutside)

variable {unit : String} {segment : Segment} {index : Word} {access : Access}

/-- A segment with a cell has the word in it. -/
theorem Segment.word?_of_accesses (haccess : Accesses unit segment index access)
    (memory : Memory) (cell? : Option Word) : segment.word? memory cell? index =
      (segment.place? memory cell? index).bind fun place => memory[place.toNat]? := by
  cases haccess with
  | static hunit => rfl
  | based hsegment | fixed hsegment => cases segment <;> cases hsegment <;> rfl

/-- The cell that the code of a push or a pop finds. -/
theorem Codegen.Access.exists_place {symbols : SymbolTable}
    (haccess : Accesses unit segment index access)
    (hresolved : segment = .static → ∃ cell, symbols[staticSymbol unit index]? = some cell ∧
      cell.toNat < Machine.ramSize) (memory : Memory) :
    ∃ place, segment.place? memory symbols[staticSymbol unit index]? index = some place ∧
      access.locate symbols memory = .ok place ∧
      access.note memory place = .ok (memory.updated (segment.aside place)) ∧
      (Machine.ramSize ≤ place.toNat ↔ segment.IsOutside memory index) := by
  cases haccess with
  | based hsegment hindex =>
    have haside (place : Word) :
        memory.write Memory.scratchAddress place = .ok (memory.updated [(13, place)]) :=
      Memory.write_eq_updated (by decide)
    have houtside {place : Word} (hplace : segment.place? memory none index = some place)
        (hbased : segment.basePointer? ≠ none) :
        Machine.ramSize ≤ place.toNat ↔ segment.IsOutside memory index := by
      simp [IsOutside, hbased, hplace]
    cases segment <;> cases hsegment <;>
      exact ⟨_, rfl, rfl, haside _, houtside rfl (Option.some_ne_none _)⟩
  | static hunit =>
    obtain ⟨cell, hcell, hinside⟩ := hresolved rfl
    refine ⟨cell, hcell, ?_, rfl, ?_⟩
    · rw [locate, loaded, hcell, Option.getD_some]
    · exact iff_of_false (by omega) fun houtside => houtside.1 rfl
  | @fixed _ region _ hsegment hindex =>
    have hword : BitVec.ofNat 16 (region.base + index.toNat) =
        BitVec.ofNat 16 region.base + index := by
      rw [BitVec.ofNat_add, BitVec.ofNat_toNat, BitVec.setWidth_eq]
    have hsmall : region.base + region.length ≤ 13 := by
      cases segment <;> cases hsegment <;> decide
    have hinside : (BitVec.ofNat 16 region.base + index).toNat < Machine.ramSize := by
      rw [← hword, Memory.toNat_cell (by unfold Machine.ramSize; omega)]
      unfold Machine.ramSize
      omega
    rw [locate, loaded, hword]
    refine ⟨BitVec.ofNat 16 region.base + index, ?_, rfl, ?_, ?_⟩
    all_goals cases segment <;> cases hsegment
    any_goals rfl
    all_goals exact iff_of_false (by omega) fun houtside => houtside.1 rfl

namespace Codegen.Generator

variable {generator : Generator} {symbols : SymbolTable} {lines : List Line} {memory : Memory}
  {top : Nat}

/-- The code of a push does not jump. -/
theorem straight_push (hlines : generator.push segment index = .ok lines) :
    ∀ line ∈ lines, line.Straight := by
  obtain ⟨-, -, rfl⟩ | ⟨access, haccess, rfl⟩ := push_of_ok hlines
  · simp [pushConstant, pushData, stackPointer, Line.Straight, Line.store]
  · exact (Access.straight haccess).1

/-- The code of a pop does not jump. -/
theorem straight_pop (hlines : generator.pop segment index = .ok lines) :
    ∀ line ∈ lines, line.Straight := by
  obtain ⟨access, haccess, rfl⟩ := pop_of_ok hlines
  exact (Access.straight haccess).2

/-- A push that is accepted has a word unless its index leads out of the memory. -/
theorem word?_eq_none_iff (hlines : generator.push segment index = .ok lines)
    (hresolved : segment = .static → ∃ cell, symbols[staticSymbol generator.unit index]? = some cell ∧
      cell.toNat < Machine.ramSize) :
    segment.word? memory symbols[staticSymbol generator.unit index]? index = none ↔
      segment.IsOutside memory index := by
  obtain ⟨rfl, -, -⟩ | ⟨access, haccess, -⟩ := push_of_ok hlines
  · exact iff_of_false (Option.some_ne_none index) fun houtside => houtside.1 rfl
  · obtain ⟨place, hplace, -, -, houtside⟩ := Access.exists_place haccess hresolved memory
    rw [Segment.word?_of_accesses haccess, hplace, Option.bind_some, Vector.getElem?_eq_none_iff,
      houtside]

/-- The code of a push takes the word of its segment, if there is one, to the stack. -/
theorem runLines_push (hpre : KnowsPredefined symbols)
    (hlines : generator.push segment index = .ok lines)
    (hresolved : segment = .static → ∃ cell, symbols[staticSymbol generator.unit index]? = some cell ∧
      cell.toNat < Machine.ramSize)
    (hpointer : memory[0]? = some (BitVec.ofNat 16 top)) (hroom : top < Machine.ramSize)
    (address data : Word) :
    ((runLines symbols ⟨memory, address, data⟩ lines).map Registers.memory).toOption =
      (segment.word? memory symbols[staticSymbol generator.unit index]? index).map fun value =>
        memory.updated [(0, BitVec.ofNat 16 (top + 1)), (top, value)] := by
  obtain ⟨rfl, -, rfl⟩ | ⟨access, haccess, rfl⟩ := push_of_ok hlines
  · rw [runLines_pushConstant hpre, Memory.push_eq_updated hpointer hroom]
    rfl
  · obtain ⟨place, hplace, hlocate, -, -⟩ := Access.exists_place haccess hresolved memory
    have hword : segment.word? memory symbols[staticSymbol generator.unit index]? index =
        memory[place.toNat]? := by
      rw [Segment.word?_of_accesses haccess, hplace, Option.bind_some]
    rw [Access.runLines_pushCode hpre haccess, hlocate, ok_bind, hword]
    cases hread : memory[place.toNat]? with
    | some value =>
      rw [Memory.read_eq_ok_iff.mpr hread, ok_bind, Memory.push_eq_updated hpointer hroom]
      rfl
    | none =>
      obtain ⟨fault, hfault⟩ := Memory.exists_read_eq_error_iff.mpr hread
      rw [hfault]
      rfl

/-- The code of a pop takes the top of the stack to the cell of its segment, if it is inside the
memory. The scratch cell is neither the stack pointer nor a word of the stack. -/
theorem runLines_pop (hpre : KnowsPredefined symbols)
    (hlines : generator.pop segment index = .ok lines)
    (hresolved : segment = .static → ∃ cell, symbols[staticSymbol generator.unit index]? = some cell ∧
      cell.toNat < Machine.ramSize)
    (hpointer : memory[0]? = some (BitVec.ofNat 16 (top + 1))) {value : Word}
    (hvalue : memory[top]? = some value) (hlow : 16 ≤ top) (address data : Word) :
    ∃ place, segment.place? memory symbols[staticSymbol generator.unit index]? index = some place ∧
      (Machine.ramSize ≤ place.toNat ↔ segment.IsOutside memory index) ∧
      ((runLines symbols ⟨memory, address, data⟩ lines).map Registers.memory).toOption =
        if place.toNat < Machine.ramSize then some (memory.updated
          (segment.aside place ++ [(0, BitVec.ofNat 16 top), (place.toNat, value)]))
        else none := by
  obtain ⟨access, haccess, rfl⟩ := pop_of_ok hlines
  obtain ⟨place, hplace, hlocate, hnote, houtside⟩ := Access.exists_place haccess hresolved memory
  refine ⟨place, hplace, houtside, ?_⟩
  have hkept (cell : Nat) (hcell : cell ≠ 13) :
      (memory.updated (segment.aside place))[cell]? = memory[cell]? := by
    apply Memory.getElem?_updated_of_not_mem
    unfold Segment.aside
    split <;> simp [hcell]
  have hpop := Memory.pop_eq_updated ((hkept 0 (by decide)).trans hpointer)
    ((hkept top (by omega)).trans hvalue) (by omega)
  rw [Access.runLines_popCode hpre haccess, hlocate, ok_bind, hnote, ok_bind, hpop, ok_bind]
  split
  · rename_i hinside
    rw [Memory.write_eq_updated hinside, Memory.updated_append]
    rfl
  · rename_i hinside
    simp [Memory.write, hinside, Except.toOption]

end Codegen.Generator

namespace Machine

variable {generator : Generator} {before after : List String} {block : List Line}
  {machine : Machine}

/-- A block is its code without the remark in front of it. -/
theorem AtBlock.ends_of_body {command : Command} {lines : List Line}
    (h : machine.AtBlock before (generator.remark command.text ++ lines) after)
    (htext : '\n' ∉ command.text.toList) (hsound : ∀ line ∈ lines, line.Sound)
    (hstraight : ∀ line ∈ lines, line.Straight) :
    machine.Ends (codeSize (generator.remark command.text ++ lines))
      ((runLines machine.program.symbols ⟨machine.ram, machine.address, machine.data⟩
        lines).map Registers.memory).toOption := by
  have hends := h.ends (List.forall_mem_append.mpr ⟨sound_remark generator htext, hsound⟩)
  unfold Generator.remark at hends ⊢
  split at hends
  · rename_i hannotate
    rw [if_pos hannotate]
    exact hends (List.forall_mem_cons.mpr ⟨trivial, hstraight⟩)
  · rename_i hannotate
    rw [if_neg hannotate]
    exact hends hstraight

end Machine

/-- The text of a push or a pop is one line. -/
theorem feed_not_mem_text (segment : Segment) (index : Word) :
    '\n' ∉ (Command.push segment index).text.toList ∧
      '\n' ∉ (Command.pop segment index).text.toList := by
  have hname : '\n' ∉ segment.name.toList := by cases segment <;> decide
  have hindex : '\n' ∉ index.decimal.toList := fun hfeed =>
    absurd (Word.isDigit_of_mem_toString hfeed) (by decide)
  simp [Command.text, hname, hindex]

/-- The code of a push or a pop is exact wherever it stands and whatever its cells coincide with.
It comes to a fault if and only if an index from a base pointer leads out of the memory. Otherwise
a push writes the stack pointer and the word, and a pop the scratch cell, if there is a base
pointer, the stack pointer and the cell, in this order. -/
theorem memory_access_exact (generator : Generator) (segment : Segment) (index : Word)
    {before after : List String} {block : List Line} {machine : Machine} {top : Nat}
    (atBlock : machine.AtBlock before block after)
    (resolved : segment = .static → ∃ cell,
      machine.program.symbols[staticSymbol generator.unit index]? = some cell ∧
        cell.toNat < Machine.ramSize)
    (pointer : machine.ram[0].toNat = top) :
    ((generator.lower (.push segment index)).result = .ok block → 16 ≤ top → top ≤ 32766 →
      (machine.Faults (codeSize block) ↔ segment.IsOutside machine.ram index) ∧
      (¬ segment.IsOutside machine.ram index → ∃ value,
        segment.word? machine.ram machine.program.symbols[staticSymbol generator.unit index]?
          index = some value ∧
        machine.Finishes (codeSize block)
          (Memory.updated machine.ram [(0, BitVec.ofNat 16 (top + 1)), (top, value)]))) ∧
    ((generator.lower (.pop segment index)).result = .ok block → 17 ≤ top → top ≤ 32767 →
      (machine.Faults (codeSize block) ↔ segment.IsOutside machine.ram index) ∧
      (¬ segment.IsOutside machine.ram index → ∃ place value,
        segment.place? machine.ram machine.program.symbols[staticSymbol generator.unit index]?
          index = some place ∧ place.toNat < Machine.ramSize ∧
        machine.ram[top - 1]? = some value ∧
        machine.Finishes (codeSize block) (Memory.updated machine.ram (segment.aside place ++
          [(0, BitVec.ofNat 16 (top - 1)), (place.toNat, value)])))) := by
  have hpre := atBlock.knowsPredefined
  have hstatic : segment = .static →
      isSymbol (staticSymbol generator.unit index).toList = true := by
    intro hs
    obtain ⟨cell, hcell, -⟩ := resolved hs
    exact (assembled_of_assemble atBlock.assembled).isSymbol_of_some hcell
  have hpointer := Memory.getElem?_of_toNat pointer
  obtain ⟨hpushText, hpopText⟩ := feed_not_mem_text segment index
  refine ⟨fun hpush hlow hhigh => ?_, fun hpop hlow hhigh => ?_⟩
  · obtain ⟨lines, hlines, rfl⟩ := lower_of_ok hpush
    have hends := atBlock.ends_of_body hpushText (sound_push hstatic hlines)
      (Generator.straight_push hlines)
    rw [Generator.runLines_push hpre hlines resolved hpointer
      (by unfold Machine.ramSize; omega)] at hends
    rw [← Generator.word?_eq_none_iff hlines resolved]
    cases hword : segment.word? machine.ram
        machine.program.symbols[staticSymbol generator.unit index]? index with
    | none =>
      rw [hword] at hends
      exact ⟨iff_of_true hends rfl, fun hsome => absurd rfl hsome⟩
    | some value =>
      rw [hword] at hends
      exact ⟨iff_of_false hends.not_faults (Option.some_ne_none value),
        fun _ => ⟨value, rfl, hends⟩⟩
  · obtain ⟨lines, hlines, rfl⟩ := lower_of_ok hpop
    have hends := atBlock.ends_of_body hpopText (sound_pop hstatic hlines)
      (Generator.straight_pop hlines)
    have hlt : top - 1 < Machine.ramSize := by
      unfold Machine.ramSize
      omega
    have hvalue : machine.ram[top - 1]? = some (machine.ram.get ⟨top - 1, hlt⟩) :=
      Vector.getElem?_eq_getElem hlt
    have hbelow : top - 1 + 1 = top := by omega
    rw [← hbelow] at hpointer
    obtain ⟨place, hplace, houtside, hrun⟩ := Generator.runLines_pop hpre hlines resolved hpointer
      hvalue (by omega) machine.address machine.data
    rw [hrun] at hends
    rw [← houtside, Nat.not_le]
    split at hends
    · rename_i hinside
      exact ⟨iff_of_false hends.not_faults (Nat.not_le.mpr hinside),
        fun _ => ⟨place, _, hplace, hinside, hvalue, hends⟩⟩
    · rename_i hnot
      exact ⟨iff_of_true hends (Nat.not_lt.mp hnot), fun hinside => absurd hinside hnot⟩

/-- A pop into the first local variable. -/
def popBlock : List Line := .comment "pop local 0" :: popIndexed .lcl 0

/-- A push of the first local variable. -/
def pushBlock : List Line := .comment "push local 0" :: pushIndexed .lcl 0

/-- The two blocks can be assembled. -/
theorem exists_accessProgram {block : List Line} (h : block = popBlock ∨ block = pushBlock) :
    ∃ program, assemble ([] ++ block.map Line.text ++ []) = .ok program := by
  refine exists_eq_ok_of_isOk ?_
  obtain rfl | rfl := h <;> decide +kernel

/-- A pop whose cell is the scratch cell, a pop whose cell is outside the memory, and a push whose
cell is the stack pointer. -/
theorem memory_access_exact_coinciding :
    (∃ machine : Machine, machine.AtBlock [] popBlock [] ∧ machine.ram[0] = 17 ∧
      machine.ram[1] = 13 ∧ machine.ram[16] = 7 ∧ machine.Finishes (codeSize popBlock)
        (Memory.updated machine.ram [(13, 13), (0, 16), (13, 7)])) ∧
    (∃ machine : Machine, machine.AtBlock [] popBlock [] ∧ machine.ram[0] = 17 ∧
      machine.ram[1] = 32768 ∧ machine.Faults (codeSize popBlock)) ∧
    ∃ machine : Machine, machine.AtBlock [] pushBlock [] ∧ machine.ram[0] = 16 ∧
      machine.ram[1] = 0 ∧ machine.Finishes (codeSize pushBlock)
        (Memory.updated machine.ram [(0, 17), (16, 16)]) := by
  have hmemory (pointer base : Word) :
      ∃ memory : Memory, memory[0] = pointer ∧ memory[1] = base ∧ memory[16] = 7 :=
    ⟨Memory.updated (Vector.replicate _ 0) [(0, pointer), (1, base), (16, 7)], by simp⟩
  have houtside (memory : Memory) :
      Segment.locals.IsOutside memory 0 ↔ 32768 ≤ memory[1].toNat := by
    simp [IsOutside, Segment.place?, Segment.basePointer?, Machine.ramSize]
  obtain ⟨popProgram, hpopProgram⟩ := exists_accessProgram (.inl rfl)
  obtain ⟨pushProgram, hpushProgram⟩ := exists_accessProgram (.inr rfl)
  refine ⟨?_, ?_, ?_⟩
  · obtain ⟨memory, hpointer, hbase, hvalue⟩ := hmemory 17 13
    have hat : Machine.AtBlock ⟨popProgram, memory, 0, 0, 0⟩ [] popBlock [] := ⟨hpopProgram, rfl⟩
    have hexact := memory_access_exact {} .locals 0 hat (by rintro ⟨⟩)
      (congrArg BitVec.toNat hpointer)
    have hinside : ¬ Segment.locals.IsOutside memory 0 := by
      rw [houtside, hbase]
      decide
    obtain ⟨place, value, hplace, -, hread, hfinishes⟩ :=
      (hexact.2 rfl (by decide) (by decide)).2 hinside
    obtain rfl : memory[1] + 0 = place := Option.some.inj hplace
    obtain rfl : memory[16] = value := Option.some.inj hread
    rw [hbase, hvalue] at hfinishes
    exact ⟨_, hat, hpointer, hbase, hvalue, hfinishes⟩
  · obtain ⟨memory, hpointer, hbase, -⟩ := hmemory 17 32768
    have hat : Machine.AtBlock ⟨popProgram, memory, 0, 0, 0⟩ [] popBlock [] := ⟨hpopProgram, rfl⟩
    have hexact := memory_access_exact {} .locals 0 hat (by rintro ⟨⟩)
      (congrArg BitVec.toNat hpointer)
    have hout : Segment.locals.IsOutside memory 0 := by
      rw [houtside, hbase]
      decide
    exact ⟨_, hat, hpointer, hbase, (hexact.2 rfl (by decide) (by decide)).1.mpr hout⟩
  · obtain ⟨memory, hpointer, hbase, -⟩ := hmemory 16 0
    have hat : Machine.AtBlock ⟨pushProgram, memory, 0, 0, 0⟩ [] pushBlock [] :=
      ⟨hpushProgram, rfl⟩
    have hexact := memory_access_exact {} .locals 0 hat (by rintro ⟨⟩)
      (congrArg BitVec.toNat hpointer)
    have hinside : ¬ Segment.locals.IsOutside memory 0 := by
      rw [houtside, hbase]
      decide
    obtain ⟨value, hword, hfinishes⟩ := (hexact.1 rfl (by decide) (by decide)).2 hinside
    have hread : memory[(memory[1] + 0).toNat]? = some value := hword
    rw [hbase] at hread
    obtain rfl : memory[0] = value := Option.some.inj hread
    rw [hpointer] at hfinishes
    exact ⟨_, hat, hpointer, hbase, hfinishes⟩

end HackVm
