import HackVm.Proofs.BlockRun
import HackVm.Proofs.CommandCode

/-!
# A block in any program

The code of a command may stand anywhere in an assembled program, between any other lines. The
block is executed where it stands: a machine at its first instruction gets past its last one, or
comes to a fault on the way.
-/

namespace HackVm.Machine

open Assembly Codegen Registers

/-- A machine is at the start of a block of its program. -/
structure AtBlock (machine : Machine) (before : List String) (block : List Line)
    (after : List String) : Prop where
  /-- The program was assembled from the block and the lines around it. -/
  assembled : assemble (before ++ block.map Line.text ++ after) = .ok machine.program
  /-- The next instruction is the first after those of the lines before the block. -/
  counter : machine.counter = (codeTexts (before.filterMap Item.ofLine?)).length

/-- A machine gets past code of a size without a fault, with a known memory. -/
def Finishes (machine : Machine) (size : Nat) (ram : Memory) : Prop :=
  ∃ target, machine.steps size = (target, .ok ()) ∧ target.program = machine.program ∧
    target.ram = ram ∧ target.counter = machine.counter + size

/-- A machine comes to a fault in code of a size. -/
def Faults (machine : Machine) (size : Nat) : Prop :=
  ∃ last fault, machine.steps size = (last, .error fault)

variable {machine : Machine}

/-- A machine that gets past code does not come to a fault in it. -/
theorem Finishes.not_faults {size : Nat} {ram : Memory} (h : machine.Finishes size ram) :
    ¬ machine.Faults size := by
  obtain ⟨target, hsteps, -⟩ := h
  rintro ⟨last, fault, hfault⟩
  rw [hsteps] at hfault
  cases hfault

/-- A machine that came to a fault stays there. -/
theorem steps_of_fault {last : Machine} {count : Nat} {fault : Fault}
    (h : machine.steps count = (last, .error fault)) (more : Nat) :
    machine.steps (count + more) = (last, .error fault) := by
  induction count generalizing machine with
  | zero => cases h
  | succ count ih =>
    rw [Nat.succ_add, steps]
    rw [steps] at h
    split at h
    · exact ih h
    · exact h

/-- A machine gets past code of a size with a known memory, or comes to a fault in it. -/
def Ends (machine : Machine) (size : Nat) : Option Memory → Prop
  | some ram => machine.Finishes size ram
  | none => machine.Faults size

/-- Code that goes on with what follows it is got past, or there is a fault in it. -/
theorem ends_of_arrives {size : Nat} {result : Except Fault Memory}
    (h : machine.Arrives size size (result.map fun after => (after, machine.counter + size))) :
    machine.Ends size result.toOption := by
  cases result with
  | ok after =>
    obtain ⟨steps, target, hsteps, hprogram, hram, hcounter, hleast, hmost⟩ :=
      exists_steps_of_arrives h
    exact ⟨target, Nat.le_antisymm hmost hleast ▸ hsteps, hprogram, hram, hcounter⟩
  | error fault =>
    obtain ⟨places, hreaches, hplaces⟩ := h
    cases places with
    | ok place => cases hplaces
    | error other =>
      obtain ⟨count, hmost, last, hsteps⟩ := hreaches
      refine ⟨last, other, ?_⟩
      rw [← Nat.add_sub_cancel' hmost]
      exact steps_of_fault hsteps _

namespace AtBlock

variable {before after : List String} {block : List Line}

/-- The items of the program. -/
theorem assembled_items (h : machine.AtBlock before block after)
    (hsound : ∀ line ∈ block, line.Sound) :
    Assembled (before.filterMap Item.ofLine? ++ block.flatMap Line.items ++
      after.filterMap Item.ofLine?) machine.program := by
  have hitems : (block.map Line.text).filterMap Item.ofLine? = block.flatMap Line.items := by
    rw [List.filterMap_map, List.filterMap_eq_flatMap_toList]
    refine List.flatMap_congr fun line hline => ?_
    rw [items_of_sound (hsound line hline), Function.comp_apply, ofLine?_of_sound (hsound line hline)]
  have hassembled := assembled_of_assemble h.assembled
  rwa [List.filterMap_append, List.filterMap_append, hitems] at hassembled

/-- A sound block stands where the machine is. -/
theorem placed (h : machine.AtBlock before block after) (hsound : ∀ line ∈ block, line.Sound) :
    Placed machine.program machine.counter block := by
  rw [h.counter]
  exact placed_of_assembled (h.assembled_items hsound) hsound

/-- The predefined symbols have their values. -/
theorem knowsPredefined (h : machine.AtBlock before block after) :
    KnowsPredefined machine.program.symbols := (assembled_of_assemble h.assembled).predefined

/-- A block of straight code does to the memory what its lines do, or there is a fault in it. -/
theorem ends (h : machine.AtBlock before block after) (hsound : ∀ line ∈ block, line.Sound)
    (hstraight : ∀ line ∈ block, line.Straight) :
    machine.Ends (codeSize block) ((runLines machine.program.symbols
      ⟨machine.ram, machine.address, machine.data⟩ block).map Registers.memory).toOption :=
  ends_of_arrives (arrives_of_straight (h.placed hsound) hstraight rfl)

end AtBlock

end HackVm.Machine
