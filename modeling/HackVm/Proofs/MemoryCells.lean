import HackVm.Proofs.BlockEffect

/-!
# Memory cells by number

The commands change the memory by writing to cells one after the other. Listing the writes in
order gives the memory afterwards exactly, whichever of the cells coincide. Pushes and pops of a
stack that lies inside the memory are such writes.
-/

namespace HackVm.Memory

variable {memory : Memory} {address : Nat} {value : Word}

/-- The number before a number that is not zero. -/
theorem ofNat_succ_sub_one (number : Nat) :
    BitVec.ofNat 16 (number + 1) - 1 = BitVec.ofNat 16 number := by
  rw [BitVec.ofNat_add]
  exact BitVec.add_sub_cancel _ _

section Words

variable (hlt : address < Machine.ramSize)
include hlt

/-- The word for the number of a cell. -/
theorem toNat_cell : (BitVec.ofNat 16 address).toNat = address := by
  rw [BitVec.toNat_ofNat, Nat.mod_eq_of_lt (by unfold Machine.ramSize at hlt; omega)]

/-- Reading a cell by its number. -/
theorem read_cell : memory.read (BitVec.ofNat 16 address) = .ok memory[address] := by
  rw [read_of_lt (by rw [toNat_cell hlt]; exact hlt)]
  simp only [toNat_cell hlt]

/-- Setting a cell by its number. -/
theorem write_cell (value : Word) :
    memory.write (BitVec.ofNat 16 address) value = .ok (memory.set address value hlt) := by
  rw [write_of_lt value (by rw [toNat_cell hlt]; exact hlt)]
  simp only [toNat_cell hlt]

end Words

/-- The memory after writes to cells, one after the other. -/
def updated (memory : Memory) (writes : List (Nat × Word)) : Memory :=
  writes.foldl (fun memory write => memory.setIfInBounds write.1 write.2) memory

@[simp] theorem updated_nil (memory : Memory) : memory.updated [] = memory := rfl

theorem updated_append (memory : Memory) (first second : List (Nat × Word)) :
    memory.updated (first ++ second) = (memory.updated first).updated second :=
  List.foldl_append

@[simp] theorem updated_cons (memory : Memory) (write : Nat × Word)
    (writes : List (Nat × Word)) :
    memory.updated (write :: writes) = updated (memory.setIfInBounds write.1 write.2) writes := rfl

/-- Cells that are not written to keep their words. -/
theorem getElem?_updated_of_not_mem {writes : List (Nat × Word)}
    (h : address ∉ writes.map Prod.fst) : (memory.updated writes)[address]? = memory[address]? := by
  induction writes generalizing memory with
  | nil => rfl
  | cons write writes ih =>
    rw [List.map_cons, List.mem_cons, not_or] at h
    refine (ih h.2).trans ?_
    rw [Vector.getElem?_setIfInBounds, if_neg (Ne.symm h.1)]

/-- A word that was written is there as long as no other is written to its cell. -/
theorem getElem?_updated_cons (memory : Memory) {address : Nat} (value : Word)
    (later : List (Nat × Word)) (hinside : address < Machine.ramSize)
    (h : address ∉ later.map Prod.fst) :
    (memory.updated ((address, value) :: later))[address]? = some value := by
  rw [updated_cons, getElem?_updated_of_not_mem h]
  exact Vector.getElem?_setIfInBounds_self_of_lt hinside

/-- The word of a cell by its number. -/
theorem getElem?_of_toNat {hinside : address < Machine.ramSize} {number : Nat}
    (h : (memory.get ⟨address, hinside⟩).toNat = number) :
    memory[address]? = some (BitVec.ofNat 16 number) := by
  rw [← h, BitVec.ofNat_toNat, BitVec.setWidth_eq]
  exact Vector.getElem?_eq_getElem hinside

/-- A cell is read as it stands. -/
theorem read_eq_ok_iff {place : Word} :
    memory.read place = .ok value ↔ memory[place.toNat]? = some value := by
  unfold read
  split
  · rename_i hinside
    rw [Vector.getElem?_eq_getElem hinside, Except.ok.injEq, Option.some.injEq]
  · rename_i houtside
    rw [Vector.getElem?_eq_none (by omega)]
    simp

/-- Reading fails where there is no cell. -/
theorem exists_read_eq_error_iff {place : Word} :
    (∃ fault, memory.read place = .error fault) ↔ memory[place.toNat]? = none := by
  cases hcell : memory[place.toNat]? with
  | some value => simp [read_eq_ok_iff.mpr hcell]
  | none =>
    rw [Vector.getElem?_eq_none_iff] at hcell
    simp [read, Nat.not_lt.mpr hcell]

/-- Setting a cell is a write. -/
theorem set_eq_updated (hinside : address < Machine.ramSize) :
    memory.set address value hinside = memory.updated [(address, value)] := by
  refine Vector.ext fun other _ => ?_
  simp [Vector.getElem_set, Vector.getElem_setIfInBounds]

/-- A cell inside the memory can be written. -/
theorem write_eq_updated {place : Word} (hinside : place.toNat < Machine.ramSize) :
    memory.write place value = .ok (memory.updated [(place.toNat, value)]) := by
  rw [write_of_lt value hinside, set_eq_updated]

/-- A push onto a stack with room. -/
theorem push_eq_updated (hpointer : memory[0]? = some (BitVec.ofNat 16 address))
    (hroom : address < Machine.ramSize) :
    memory.push value =
      .ok (memory.updated [(0, BitVec.ofNat 16 (address + 1)), (address, value)]) := by
  have htop : memory.top = BitVec.ofNat 16 address := (Vector.getElem?_eq_some_iff.mp hpointer).2
  have hnext : memory.top + 1 = BitVec.ofNat 16 (address + 1) := by
    rw [htop, BitVec.ofNat_add]
    rfl
  have hword := toNat_cell hroom
  rw [push_eq, hnext, htop, write_eq_updated (by rwa [hword]), hword, set_eq_updated]
  rfl

/-- A pop from a stack with a word. -/
theorem pop_eq_updated (hpointer : memory[0]? = some (BitVec.ofNat 16 (address + 1)))
    (hthere : memory[address]? = some value) (hpositive : 0 < address) :
    memory.pop = .ok (value, memory.updated [(0, BitVec.ofNat 16 address)]) := by
  have htop : memory.top = BitVec.ofNat 16 (address + 1) :=
    (Vector.getElem?_eq_some_iff.mp hpointer).2
  have hbelow : memory.top - 1 = BitVec.ofNat 16 address := by
    rw [htop, ofNat_succ_sub_one]
  have hinside : address < Machine.ramSize := (Vector.getElem?_eq_some_iff.mp hthere).1
  have hfound : read (memory.set 0 (BitVec.ofNat 16 address)) (BitVec.ofNat 16 address) =
      .ok value := by
    rw [read_eq_ok_iff, toNat_cell hinside, Vector.getElem?_set_ne _ (by omega), hthere]
  rw [pop_eq, hbelow, hfound, ok_bind, set_eq_updated]

/-- Replacing the two top words of a stack by one. -/
theorem pop_replaceTop_eq_updated {memory : Memory} {place : Nat} {deeper upper : Word}
    (hpointer : memory[0]? = some (BitVec.ofNat 16 (place + 2)))
    (hfirst : memory[place]? = some deeper) (hsecond : memory[place + 1]? = some upper)
    (hpositive : 0 < place) (apply : Word → Word → Word) :
    (memory.pop.bind fun popped => popped.2.replaceTop fun word => apply word popped.1) =
      .ok (memory.updated [(0, BitVec.ofNat 16 (place + 1)), (place, apply deeper upper)]) := by
  have hinside : place < Machine.ramSize := (Vector.getElem?_eq_some_iff.mp hfirst).1
  have hnumber := toNat_cell hinside
  have htop : (memory.updated [(0, BitVec.ofNat 16 (place + 1))]).top - 1 =
      BitVec.ofNat 16 place := by
    rw [← set_eq_updated (Nat.zero_lt_succ _), top_set, ofNat_succ_sub_one]
  have hfound : (memory.updated [(0, BitVec.ofNat 16 (place + 1))])[place]? = some deeper := by
    rw [getElem?_updated_of_not_mem (by simp; omega), hfirst]
  rw [pop_eq_updated hpointer hsecond (by omega), ok_bind, replaceTop_eq, htop,
    read_eq_ok_iff.mpr (by rw [hnumber, hfound]), ok_bind,
    write_eq_updated (by rw [hnumber]; exact hinside), hnumber]
  rfl

end HackVm.Memory
