import HackVm.Proofs.MemoryCells

/-!
# The frame of a call in the memory

A call pushes the address to return to and the four base pointers, and a return reads them again
from below the cell that LCL points to. Both are stated cell by cell: the words a call leaves, the
words a return takes from them, and that all other cells keep theirs. Without arguments the result
of a return goes to the cell of the return address, which has been read by then.
-/

namespace HackVm.Memory

variable {memory caller : Memory} {top : Nat}

/-- The five words that a call saves, from a cell on: the address to return to, and the base
pointers of the caller. -/
structure SavedFrame (caller memory : Memory) (top : Nat) (back : Word) : Prop where
  /-- The address to return to. -/
  back : memory[top]? = some back
  /-- The base of the local variables. -/
  lcl : memory[top + 1]? = caller[1]?
  /-- The base of the arguments. -/
  arg : memory[top + 2]? = caller[2]?
  /-- The base of the first object. -/
  this : memory[top + 3]? = caller[3]?
  /-- The base of the second object. -/
  that : memory[top + 4]? = caller[4]?

/-- The memory after a call with a number of arguments, from a stack that ended at a cell. -/
structure Called (caller memory : Memory) (top arguments : Nat) (back : Word) : Prop where
  /-- The stack ends after the saved words. -/
  stackPointer : memory[0]? = some (BitVec.ofNat 16 (top + 5))
  /-- The local variables start there. -/
  lcl : memory[1]? = some (BitVec.ofNat 16 (top + 5))
  /-- The arguments are the last words before the saved ones. -/
  arg : memory[2]? = some (BitVec.ofNat 16 (top - arguments))
  /-- The five words are saved. -/
  saved : SavedFrame caller memory top back
  /-- All other cells are as they were. -/
  others : ∀ cell, 3 ≤ cell → (cell < top ∨ top + 5 ≤ cell) → memory[cell]? = caller[cell]?

/-- The memory after a return to a caller, with the result in a cell. -/
structure Returned (caller callee memory : Memory) (place : Nat) (result : Word) : Prop where
  /-- The stack ends after the result. -/
  stackPointer : memory[0]? = some (BitVec.ofNat 16 (place + 1))
  /-- The result is there. -/
  result : memory[place]? = some result
  /-- The base pointers are those of the caller. -/
  pointers : ∀ cell, 1 ≤ cell → cell ≤ 4 → memory[cell]? = caller[cell]?
  /-- All other cells but the scratch cells are as the callee left them. -/
  others : ∀ cell, 5 ≤ cell → cell ≠ 13 → cell ≠ 14 → cell ≠ place →
    memory[cell]? = callee[cell]?

/-- Writing to a cell changes this cell only. -/
theorem exists_write (memory : Memory) (place : Word) (cell : Nat) (hcell : place.toNat = cell)
    (hinside : cell < Machine.ramSize) (value : Word) :
    ∃ after, memory.write place value = .ok after ∧ after[cell]? = some value ∧
      ∀ other, other ≠ cell → after[other]? = memory[other]? := by
  subst hcell
  refine ⟨_, write_of_lt value hinside, Vector.getElem?_set_self hinside, fun other hne => ?_⟩
  exact Vector.getElem?_set_ne hinside hne.symm

/-- Pushing changes the stack pointer and the cell it pointed to. -/
theorem exists_push (hstack : memory[0]? = some (BitVec.ofNat 16 top)) (hlow : 0 < top)
    (hroom : top < Machine.ramSize) (value : Word) :
    ∃ after, memory.push value = .ok after ∧
      after[0]? = some (BitVec.ofNat 16 (top + 1)) ∧ after[top]? = some value ∧
      ∀ cell, cell ≠ 0 → cell ≠ top → after[cell]? = memory[cell]? := by
  refine ⟨_, push_eq_updated hstack hroom, ?_, ?_, fun cell hzero hne => ?_⟩
  · rw [updated_cons, getElem?_updated_of_not_mem (by simp [Nat.ne_of_lt hlow]),
      Vector.getElem?_setIfInBounds_self]
    exact if_pos (Nat.zero_lt_succ _)
  · simp [hroom]
  · exact getElem?_updated_of_not_mem (by simp [hzero, hne])

/-- Popping changes the stack pointer. -/
theorem exists_pop {value : Word} (hstack : memory[0]? = some (BitVec.ofNat 16 (top + 1)))
    (hword : memory[top]? = some value) (hlow : 0 < top) :
    ∃ after, memory.pop = .ok (value, after) ∧
      ∀ cell, cell ≠ 0 → after[cell]? = memory[cell]? :=
  ⟨_, pop_eq_updated hstack hword hlow, fun _ hzero =>
    getElem?_updated_of_not_mem (by simp [hzero])⟩

/-- The cells of base pointers. -/
theorem cell_bounds (pointer : BasePointer) :
    1 ≤ pointer.cell.toNat ∧ pointer.cell.toNat ≤ 4 := by
  cases pointer <;> decide

/-- Different base pointers have different cells. -/
theorem cell_injective {first second : BasePointer}
    (hsame : first.cell.toNat = second.cell.toNat) : first = second := by
  revert hsame
  cases first <;> cases second <;> decide

/-- Saving base pointers pushes their words. -/
theorem foldlM_savePointer (pointers : List BasePointer)
    (hstack : memory[0]? = some (BitVec.ofNat 16 top)) (hlow : 5 ≤ top)
    (hroom : top + pointers.length ≤ Machine.ramSize) :
    ∃ after, pointers.foldlM savePointer memory = .ok after ∧
      after[0]? = some (BitVec.ofNat 16 (top + pointers.length)) ∧
      (∀ index pointer, pointers[index]? = some pointer →
        after[top + index]? = memory[pointer.cell.toNat]?) ∧
      ∀ cell, 1 ≤ cell → (cell < top ∨ top + pointers.length ≤ cell) →
        after[cell]? = memory[cell]? := by
  induction pointers generalizing memory top with
  | nil => exact ⟨memory, rfl, hstack, by simp, fun _ _ _ => rfl⟩
  | cons pointer pointers ih =>
    rw [List.length_cons] at hroom
    obtain ⟨hpositive, hsmall⟩ := cell_bounds pointer
    have hinside : pointer.cell.toNat < Machine.ramSize := by
      unfold Machine.ramSize
      omega
    obtain ⟨pushed, hpush, hnext, hword, hkept⟩ :=
      exists_push hstack (by omega) (by omega) memory[pointer.cell.toNat]
    have hsave : memory.savePointer pointer = .ok pushed := by
      rw [savePointer, do_bind, read_of_lt hinside, ok_bind, hpush]
    obtain ⟨after, hrun, hlast, hwords, hothers⟩ := ih hnext (by omega) (by omega)
    refine ⟨after, by rw [List.foldlM_cons, hsave]; exact hrun, ?_, ?_, ?_⟩
    · rw [hlast, List.length_cons]
      congr 2
      omega
    · intro index other hfound
      cases index with
      | zero =>
        cases hfound
        rw [hothers _ (by omega) (by omega), Nat.add_zero, hword,
          Vector.getElem?_eq_getElem hinside]
      | succ index =>
        have hbounds := cell_bounds other
        have hthis := hwords index other hfound
        rw [Nat.add_right_comm] at hthis
        rw [← Nat.add_assoc, hthis, hkept _ (by omega) (by omega)]
    · intro cell hzero houtside
      rw [List.length_cons] at houtside
      rw [hothers cell hzero (by omega), hkept cell (by omega) (by omega)]

/-- Restoring base pointers takes the words below a cell, from the highest down. -/
theorem foldlM_restorePointer (pointers : List BasePointer) (hnodup : pointers.Nodup)
    (base : Nat) (hlow : 15 ≤ base) (hroom : base + pointers.length ≤ Machine.ramSize)
    (hscratch : memory[13]? = some (BitVec.ofNat 16 (base + pointers.length))) :
    ∃ after, pointers.foldlM restorePointer memory = .ok after ∧
      (∀ index pointer, pointers[index]? = some pointer →
        after[pointer.cell.toNat]? = memory[base + (pointers.length - 1 - index)]?) ∧
      ∀ cell, cell ≠ 13 → (∀ pointer ∈ pointers, cell ≠ pointer.cell.toNat) →
        after[cell]? = memory[cell]? := by
  induction pointers generalizing memory with
  | nil => exact ⟨memory, rfl, by simp, fun _ _ _ => rfl⟩
  | cons pointer pointers ih =>
    rw [List.length_cons] at hroom hscratch
    obtain ⟨hpositive, hsmall⟩ := cell_bounds pointer
    obtain ⟨hnotMem, hnodup⟩ := List.nodup_cons.mp hnodup
    have hlower : BitVec.ofNat 16 (base + (pointers.length + 1)) - 1 =
        BitVec.ofNat 16 (base + pointers.length) := ofNat_succ_sub_one _
    have hinside : base + pointers.length < Machine.ramSize := by omega
    obtain ⟨moved, hmove, hbelow, hmoved⟩ := exists_write memory scratchAddress 13 rfl
      (by decide) (BitVec.ofNat 16 (base + pointers.length))
    have hfound := hmoved (base + pointers.length) (by omega)
    have hword : moved[base + pointers.length]? = some moved[base + pointers.length] :=
      Vector.getElem?_eq_getElem hinside
    obtain ⟨restored, hrestore, hpointer, hrestored⟩ := exists_write moved pointer.cell _ rfl
      (by unfold Machine.ramSize; omega) moved[base + pointers.length]
    have hstep : memory.restorePointer pointer = .ok restored := by
      simp only [restorePointer, do_bind]
      rw [read_eq_ok_iff.mpr hscratch, ok_bind, hlower, hmove, ok_bind, read_cell hinside, ok_bind,
        hrestore]
    have hnext : restored[13]? = some (BitVec.ofNat 16 (base + pointers.length)) := by
      rw [hrestored 13 (by omega), hbelow]
    obtain ⟨after, hrun, hwords, hothers⟩ := ih hnodup (by omega) hnext
    refine ⟨after, by rw [List.foldlM_cons, hstep]; exact hrun, ?_, ?_⟩
    · intro index other hstands
      cases index with
      | zero =>
        cases hstands
        have huntouched : ∀ later ∈ pointers, pointer.cell.toNat ≠ later.cell.toNat := by
          intro later hmem hsame
          exact hnotMem (cell_injective hsame ▸ hmem)
        rw [hothers _ (by omega) huntouched, hpointer, ← hword, hfound]
        rfl
      | succ index =>
        have hbound := (List.getElem?_eq_some_iff.mp hstands).1
        rw [List.length_cons] at hbound
        rw [hwords index other hstands, hrestored _ (by omega), hmoved _ (by omega),
          List.length_cons]
        congr 2
        omega
    · intro cell hne hpointers
      obtain ⟨hthis, hrest⟩ := List.forall_mem_cons.mp hpointers
      rw [hothers cell hne hrest, hrestored cell hthis, hmoved cell hne]

/-- A call leaves the words of its frame. -/
theorem exists_enter {arguments : Word} (hstack : memory[0]? = some (BitVec.ofNat 16 top))
    (hlow : arguments.toNat + 16 ≤ top) (hhigh : top + 5 ≤ 32767) (back : Word) :
    ∃ after, memory.enter arguments back = .ok after ∧
      Called memory after top arguments.toNat back := by
  have hsize : Machine.ramSize = 32768 := rfl
  have hfirst : BitVec.ofNat 16 (top + 5) - (arguments + 5) =
      BitVec.ofNat 16 (top - arguments.toNat) := by
    bv_omega
  obtain ⟨called, hcall, hnext, hback, hcalled⟩ :=
    exists_push hstack (by omega) (by omega) back
  obtain ⟨saved, hsave, hlast, hwords, hsaved⟩ :=
    foldlM_savePointer [.lcl, .arg, .this, .that] hnext (by omega) (by simp; omega)
  change saved[0]? = some (BitVec.ofNat 16 (top + 5)) at hlast
  obtain ⟨placed, hplace, harg, hplaced⟩ := exists_write saved BasePointer.arg.cell 2 rfl
    (by omega) (BitVec.ofNat 16 (top + 5) - (arguments + 5))
  have hstill := (hplaced 0 (by decide)).trans hlast
  obtain ⟨after, hfinish, hlcl, hafter⟩ := exists_write placed BasePointer.lcl.cell 1 rfl
    (by omega) (BitVec.ofNat 16 (top + 5))
  have hkept (cell : Nat) (hneLcl : cell ≠ 1) (hneArg : cell ≠ 2) :
      after[cell]? = saved[cell]? := by
    rw [hafter cell hneLcl, hplaced cell hneArg]
  have hword (index : Nat) (pointer : BasePointer)
      (hstands : [BasePointer.lcl, .arg, .this, .that][index]? = some pointer) :
      after[top + 1 + index]? = memory[pointer.cell.toNat]? := by
    have hbounds := cell_bounds pointer
    rw [hkept _ (by omega) (by omega), hwords index pointer hstands,
      hcalled _ (by omega) (by omega)]
  refine ⟨after, ?_, ?_, hlcl, ?_, ?_, ?_⟩
  · simp only [enter, do_bind]
    rw [hcall, ok_bind, hsave, ok_bind, read_eq_ok_iff.mpr hlast, ok_bind, hplace, ok_bind,
      read_eq_ok_iff.mpr hstill, ok_bind, hfinish]
  · rw [hkept 0 (by decide) (by decide), hlast]
  · rw [hafter 2 (by decide), harg, hfirst]
  · refine ⟨?_, hword 0 .lcl rfl, hword 1 .arg rfl, hword 2 .this rfl, hword 3 .that rfl⟩
    rw [hkept top (by omega) (by omega), hsaved top (by omega) (by omega), hback]
  · intro cell hpointer houtside
    rw [hkept cell (by omega) (by omega), hsaved cell (by omega) (by simp; omega),
      hcalled cell (by omega) (by omega)]

/-- The first part of a return: the end of the frame and the address to return to are kept aside,
the result goes to the first argument and the stack pointer after it. -/
def settle (memory : Memory) : Except Machine.Fault Memory := do
  let frame ← memory.read BasePointer.lcl.cell
  let marked ← memory.write scratchAddress frame
  let noted ← marked.write scratchReturn (← marked.read (frame - 5))
  let (result, popped) ← noted.pop
  let stored ← popped.write (← popped.read BasePointer.arg.cell) result
  stored.write stackPointer ((← stored.read BasePointer.arg.cell) + 1)

/-- A return settles the result and restores the base pointers. -/
theorem leave_eq_settle (memory : Memory) : memory.leave = memory.settle.bind fun settled =>
    ([BasePointer.that, .this, .arg, .lcl].foldlM restorePointer settled).bind fun restored =>
      (restored.read scratchReturn).bind fun back => .ok (restored, back) := by
  simp [leave, settle, pure, Except.pure]

section Leaving

variable {arguments last : Nat} {back result : Word}
  (hframe : memory[1]? = some (BitVec.ofNat 16 (top + 5)))
  (hfirst : memory[2]? = some (BitVec.ofNat 16 (top - arguments)))
  (hstack : memory[0]? = some (BitVec.ofNat 16 (last + 1)))
  (hword : memory[last]? = some result) (hlow : arguments + 16 ≤ top) (hhigh : top + 5 ≤ last)
include hframe hfirst hstack hword hlow hhigh

/-- The result is settled after the return address has been read, so it may take its cell. -/
theorem exists_settle (hsaved : memory[top]? = some back) :
    ∃ settled, memory.settle = .ok settled ∧
      settled[0]? = some (BitVec.ofNat 16 (top - arguments + 1)) ∧
      settled[13]? = some (BitVec.ofNat 16 (top + 5)) ∧ settled[14]? = some back ∧
      settled[top - arguments]? = some result ∧
      ∀ cell, cell ≠ 0 → cell ≠ 13 → cell ≠ 14 → cell ≠ top - arguments →
        settled[cell]? = memory[cell]? := by
  have hinside : last < Machine.ramSize := (Vector.getElem?_eq_some_iff.mp hword).1
  have hsize : Machine.ramSize = 32768 := rfl
  have hbelow : (BitVec.ofNat 16 (top + 5) - 5).toNat = top := by
    bv_omega
  obtain ⟨marked, hmark, hscratch, hmarked⟩ := exists_write memory scratchAddress 13 rfl
    (by omega) (BitVec.ofNat 16 (top + 5))
  have hread : marked.read (BitVec.ofNat 16 (top + 5) - 5) = .ok back := by
    rw [read_eq_ok_iff, hbelow, hmarked top (by omega), hsaved]
  obtain ⟨noted, hnote, hback, hnoted⟩ := exists_write marked scratchReturn 14 rfl
    (by omega) back
  have hkept (cell : Nat) (hneScratch : cell ≠ 13) (hneReturn : cell ≠ 14) :
      noted[cell]? = memory[cell]? := by
    rw [hnoted cell hneReturn, hmarked cell hneScratch]
  obtain ⟨popped, hpop, hpopped⟩ := exists_pop ((hkept 0 (by decide) (by decide)).trans hstack)
    ((hkept last (by omega) (by omega)).trans hword) (by omega)
  have hpoppedFirst : popped[2]? = some (BitVec.ofNat 16 (top - arguments)) := by
    rw [hpopped 2 (by decide), hkept 2 (by decide) (by decide), hfirst]
  obtain ⟨stored, hstore, hresult, hstored⟩ := exists_write popped
    (BitVec.ofNat 16 (top - arguments)) _ (toNat_cell (by omega)) (by omega) result
  have hstoredFirst := (hstored 2 (by omega)).trans hpoppedFirst
  obtain ⟨settled, hlower, hstackWord, hsettled⟩ := exists_write stored stackPointer 0 rfl
    (by omega) (BitVec.ofNat 16 (top - arguments) + 1)
  have hsettledKept (cell : Nat) (hneStack : cell ≠ 0) (hneFirst : cell ≠ top - arguments) :
      settled[cell]? = noted[cell]? := by
    rw [hsettled cell hneStack, hstored cell hneFirst, hpopped cell hneStack]
  refine ⟨settled, ?_, ?_, ?_, ?_, ?_, ?_⟩
  · simp only [settle, do_bind]
    rw [read_eq_ok_iff.mpr hframe, ok_bind, hmark, ok_bind, hread, ok_bind, hnote, ok_bind, hpop,
      ok_bind, read_eq_ok_iff.mpr hpoppedFirst, ok_bind, hstore, ok_bind,
      read_eq_ok_iff.mpr hstoredFirst, ok_bind, hlower]
  · rw [hstackWord, BitVec.ofNat_add _ 1]
    rfl
  · rw [hsettledKept 13 (by decide) (by omega), hnoted 13 (by decide), hscratch]
  · rw [hsettledKept 14 (by decide) (by omega), hback]
  · rw [hsettled _ (by omega), hresult]
  · intro cell hneStack hneScratch hneReturn hneFirst
    rw [hsettledKept cell hneStack hneFirst, hkept cell hneScratch hneReturn]

/-- A return takes the words of its frame. The result does not touch those above the return
address. -/
theorem exists_leave (hsaved : SavedFrame caller memory top back) :
    ∃ after, memory.leave = .ok (after, back) ∧
      Returned caller memory after (top - arguments) result := by
  have hinside : last < Machine.ramSize := (Vector.getElem?_eq_some_iff.mp hword).1
  obtain ⟨settled, hsettle, hstackWord, hframeEnd, hback, hresult, hsettled⟩ :=
    exists_settle hframe hfirst hstack hword hlow hhigh hsaved.back
  obtain ⟨after, hrestore, hwords, hothers⟩ := foldlM_restorePointer [.that, .this, .arg, .lcl]
    (by decide) (top + 1) (by omega) (by simp; omega) hframeEnd
  have hkept (cell : Nat) (hneScratch : cell ≠ 13) (hpointer : cell = 0 ∨ 5 ≤ cell) :
      after[cell]? = settled[cell]? := by
    refine hothers cell hneScratch fun pointer _ => ?_
    have hbounds := cell_bounds pointer
    omega
  have hrestored (index : Nat) (pointer : BasePointer) (hsmall : index < 4)
      (hstands : [BasePointer.that, .this, .arg, .lcl][index]? = some pointer) :
      after[pointer.cell.toNat]? = memory[top + (4 - index)]? := by
    have hplace : top + 1 + (4 - 1 - index) = top + (4 - index) := by omega
    rw [hwords index pointer hstands, List.length_cons, List.length_cons, List.length_cons,
      List.length_cons, List.length_nil, hplace]
    exact hsettled _ (by omega) (by omega) (by omega) (by omega)
  have hbackStays : after[14]? = some back := by
    rw [hkept 14 (by decide) (by decide), hback]
  refine ⟨after, ?_, ?_, ?_, ?_, ?_⟩
  · rw [leave_eq_settle, hsettle, ok_bind, hrestore, ok_bind, read_eq_ok_iff.mpr hbackStays,
      ok_bind]
  · rw [hkept 0 (by decide) (by decide), hstackWord]
  · rw [hkept _ (by omega) (by omega), hresult]
  · intro cell hpositive hsmall
    have hcases : cell = 1 ∨ cell = 2 ∨ cell = 3 ∨ cell = 4 := by omega
    obtain rfl | rfl | rfl | rfl := hcases
    · exact (hrestored 3 .lcl (by decide) rfl).trans hsaved.lcl
    · exact (hrestored 2 .arg (by decide) rfl).trans hsaved.arg
    · exact (hrestored 1 .this (by decide) rfl).trans hsaved.this
    · exact (hrestored 0 .that (by decide) rfl).trans hsaved.that
  · intro cell hpointer hneScratch hneReturn hneFirst
    rw [hkept cell hneScratch (.inr hpointer),
      hsettled cell (by omega) hneScratch hneReturn hneFirst]

end Leaving

end HackVm.Memory
