import HackVm.Proofs.Assemblable
import HackVm.Proofs.BlockRun

/-!
# The machine follows the stack machine

An assembled program, executed by the processor, does what its commands say. From any
memory and any command the processor keeps up with the stack machine for as long as that
runs: it gets to the same memory at the code of the same command, halts where the commands
end, and comes to the same fault. Only labels and functions without local variables have
no instructions, so the processor cannot fall behind forever.
-/

namespace HackVm

open Assembly Codegen Registers

namespace StackProgram

/-- Commands with the addresses of their code and the cells of the program. -/
def linked (sites : List Site) (listing : Listing) (program : Program) : StackProgram :=
  ⟨sites, listing.address, fun symbol => program.symbols[symbol]?⟩

@[simp] theorem linked_sites (sites : List Site) (listing : Listing) (program : Program) :
    (linked sites listing program).sites = sites := rfl

@[simp] theorem linked_address (sites : List Site) (listing : Listing) (program : Program) :
    (linked sites listing program).address = listing.address := rfl

/-- Passing on a result after a result. -/
theorem lift_bind {α β : Type} (result : Except Machine.Fault α)
    (next : α → Except Machine.Fault β) :
    lift (result.bind next) = (lift result).bind fun value => lift (next value) := by
  cases result <;> rfl

/-- A label that is found is declared there. -/
theorem of_labelIndex? {sites : List Site} {function : Option String} {name : String}
    {index : Nat} (h : Site.labelIndex? sites function name = some index) :
    ∃ site, sites[index]? = some site ∧ site.function = function ∧
      site.command = .label name := by
  obtain ⟨hlt, hsite, -⟩ := List.findIdx?_eq_some_iff_getElem.mp h
  rw [decide_eq_true_eq] at hsite
  exact ⟨_, List.getElem?_eq_getElem hlt, hsite.1, hsite.2⟩

/-- A function that is found starts there. -/
theorem of_functionIndex? {sites : List Site} {name : String} {index : Nat}
    (h : Site.functionIndex? sites name = some index) :
    ∃ site locals, sites[index]? = some site ∧ site.command = .function name locals := by
  obtain ⟨hlt, hsite, -⟩ := List.findIdx?_eq_some_iff_getElem.mp h
  rw [decide_eq_true_eq, Site.functionName?] at hsite
  split at hsite
  · rename_i other locals hcommand
    cases hsite
    exact ⟨_, locals, List.getElem?_eq_getElem hlt, hcommand⟩
  · cases hsite

/-- A place to return to is that of a command or the end. -/
theorem of_resume? {program : StackProgram} {address : Word} {index : Nat}
    (h : program.resume? address = some index) :
    index ≤ program.sites.length ∧ program.address index = address.toNat := by
  have hmem := List.mem_of_find?_eq_some h
  have haddress := List.find?_some h
  rw [List.mem_range] at hmem
  exact ⟨by omega, by simpa using haddress⟩

end StackProgram

namespace Machine

/-- How a machine keeps up with a number of commands executed from an index on. It takes
the steps that the commands need, and so many of them that it cannot stay behind forever;
a cell is only missing if its symbol is none, and targets are never missing. -/
def Follows (machine : Machine) (program : StackProgram) (index count : Nat) :
    Except StackProgram.Stop StackProgram.State → Prop
  | .ok state => state.index ≤ program.sites.length ∧ ∃ steps target,
      machine.steps steps = (target, .ok ()) ∧ target.program = machine.program ∧
        target.ram = state.memory ∧ target.counter = program.address state.index ∧
          index + count ≤ state.index + steps * (program.sites.length + 1)
  | .error .ended => ∃ steps target, machine.steps steps = (target, .ok ()) ∧
      target.halted = true
  | .error (.fault fault) => ∃ steps last, machine.steps steps = (last, .error fault)
  | .error (.astray memory address) => ∃ steps target,
      machine.steps steps = (target, .ok ()) ∧ target.ram = memory ∧
        target.counter = address.toNat
  | .error (.noCell symbol) => isSymbol symbol.toList = false
  | .error .noPlace | .error (.noTarget _) => False

/-- Keeping up with some commands and then with others. -/
theorem Follows.trans {machine : Machine} {program : StackProgram} {index first second : Nat}
    {state : StackProgram.State} {outcome : Except StackProgram.Stop StackProgram.State}
    (hfirst : machine.Follows program index first (.ok state))
    (hsecond : ∀ middle : Machine, middle.program = machine.program → middle.ram = state.memory →
      middle.counter = program.address state.index →
        middle.Follows program state.index second outcome) :
    machine.Follows program index (first + second) outcome := by
  obtain ⟨-, steps, middle, hsteps, hprogram, hram, hcounter, hbound⟩ := hfirst
  have hnext := hsecond middle hprogram hram hcounter
  match outcome, hnext with
  | .ok final, ⟨hindex, others, target, hothers, hprogram', hram', hcounter', hbound'⟩ =>
    refine ⟨hindex, steps + others, target, by rw [steps_add hsteps, hothers],
      hprogram'.trans hprogram, hram', hcounter', ?_⟩
    rw [Nat.add_mul]
    omega
  | .error .ended, ⟨others, target, hothers, hhalted⟩ =>
    exact ⟨steps + others, target, by rw [steps_add hsteps, hothers], hhalted⟩
  | .error (.fault fault), ⟨others, last, hothers⟩ =>
    exact ⟨steps + others, last, by rw [steps_add hsteps, hothers]⟩
  | .error (.astray memory address), ⟨others, target, hothers, hram', hcounter'⟩ =>
    exact ⟨steps + others, target, by rw [steps_add hsteps, hothers], hram', hcounter'⟩
  | .error (.noCell symbol), hsymbol => exact hsymbol

/-- Where commands stop does not depend on how many there are. -/
theorem Follows.of_error {machine : Machine} {program : StackProgram} {index count : Nat}
    {stop : StackProgram.Stop} (h : machine.Follows program index count (.error stop))
    (first others : Nat) : machine.Follows program first others (.error stop) := by
  cases stop <;> exact h

/-- A machine that comes to a fault keeps up with commands that come to it. -/
theorem follows_of_fault {machine : Machine} {least most : Nat} {fault : Fault}
    (program : StackProgram) (index count : Nat)
    (harrives : machine.Arrives least most (.error fault)) :
    machine.Follows program index count (.error (.fault fault)) := by
  obtain ⟨places, hreaches, hplaces⟩ := harrives
  cases places with
  | ok place => cases hplaces
  | error other =>
    cases hplaces
    obtain ⟨steps, -, last, hsteps⟩ := hreaches
    exact ⟨steps, last, hsteps⟩

/-- A machine that arrives at the code of a command keeps up with the commands that lead there. -/
theorem follows_of_arrival {machine : Machine} {program : StackProgram}
    {index count target least most place : Nat} {after : Memory}
    (harrives : machine.Arrives least most (.ok (after, place)))
    (hplace : place = program.address target) (htarget : target ≤ program.sites.length)
    (hprogress : index + count ≤ target + least * (program.sites.length + 1)) :
    machine.Follows program index count (.ok ⟨after, target⟩) := by
  obtain ⟨steps, found, hsteps, hprogram, hram, hcounter, hleast, -⟩ :=
    exists_steps_of_arrives harrives
  have hmul := Nat.mul_le_mul_right (program.sites.length + 1) hleast
  refine ⟨htarget, steps, found, hsteps, hprogram, hram, hcounter.trans hplace, ?_⟩
  show index + count ≤ target + steps * (program.sites.length + 1)
  omega

/-- A machine that arrives at the code of the next command, or at a fault, keeps up. -/
theorem follows_of_next {machine : Machine} {program : StackProgram}
    {index least most : Nat} {memory : Memory} {result : Except Fault Memory}
    (harrives : machine.Arrives least most
      (result.map fun after => (after, program.address (index + 1))))
    (hindex : index < program.sites.length) :
    machine.Follows program index 1
      (StackProgram.State.next ⟨memory, index⟩ (StackProgram.lift result)) := by
  cases result with
  | error fault => exact follows_of_fault program index 1 harrives
  | ok after => exact follows_of_arrival harrives rfl hindex (Nat.le_add_right _ _)

end Machine

namespace Codegen.Access

/-- The address that a line loads. -/
def loaded (symbols : SymbolTable) : Line → Word
  | .number value => BitVec.ofNat 16 value
  | .symbol name => symbols[name]?.getD 0
  | _ => 0

/-- The address of a cell. -/
def locate (symbols : SymbolTable) (memory : Memory) : Access → Except Machine.Fault Word
  | indexed pointer index => (memory.read pointer.cell).map fun base => base + index
  | cell line => .ok (loaded symbols line)

/-- Whether the address of a cell is kept aside while the stack pointer moves. -/
def note (memory : Memory) (place : Word) : Access → Except Machine.Fault Memory
  | indexed _ _ => memory.write Memory.scratchAddress place
  | cell _ => .ok memory

variable {symbols : SymbolTable} {unit : String} {segment : Segment} {index : Word}
  {access : Access}

/-- The code that pushes a cell. -/
theorem runLines_pushCode (hpre : KnowsPredefined symbols)
    (haccess : Accesses unit segment index access) (memory : Memory) (address data : Word) :
    (runLines symbols ⟨memory, address, data⟩ access.pushCode).map Registers.memory =
      (access.locate symbols memory).bind fun place => (memory.read place).bind memory.push := by
  cases haccess with
  | based hsegment hindex =>
    rw [pushCode, runLines_pushIndexed hpre]
    simp [locate]
  | static hunit =>
    rw [pushCode, runLines_pushCell hpre memory address data (runLine_symbol _ _ _ _ _)]
    simp [locate, loaded]
  | fixed hsegment hindex =>
    rw [pushCode, runLines_pushCell hpre memory address data (runLine_number _ _ _ _ _)]
    simp [locate, loaded]

/-- The code that pops into a cell. -/
theorem runLines_popCode (hpre : KnowsPredefined symbols)
    (haccess : Accesses unit segment index access) (memory : Memory) (address data : Word) :
    (runLines symbols ⟨memory, address, data⟩ access.popCode).map Registers.memory =
      (access.locate symbols memory).bind fun place =>
        (access.note memory place).bind fun noted =>
          noted.pop.bind fun popped => popped.2.write place popped.1 := by
  cases haccess with
  | based hsegment hindex =>
    rw [popCode, runLines_popIndexed hpre]
    simp [locate, note]
  | static hunit =>
    rw [popCode, runLines_popCell hpre memory address data fun _ => runLine_symbol _ _ _ _ _]
    simp [locate, loaded, note]
  | fixed hsegment hindex =>
    rw [popCode, runLines_popCell hpre memory address data fun _ => runLine_number _ _ _ _ _]
    simp [locate, loaded, note]

/-- The code of a push or a pop does not jump. -/
theorem straight (haccess : Accesses unit segment index access) :
    (∀ line ∈ access.pushCode, line.Straight) ∧ ∀ line ∈ access.popCode, line.Straight := by
  cases haccess <;>
    simp [pushCode, popCode, pushIndexed, popIndexed, pushCell, popCell, pushData, popData,
      pointerLine, scratchAddress, stackPointer, Line.Straight, Line.store]

end Codegen.Access

namespace StackProgram

section Step

variable {sites : List Site} {listing : Listing} {program : Program}

/-- A cell of a segment is where its code finds it. -/
theorem locate_of_accesses {unit : String} {segment : Segment} {index : Word} {access : Access}
    (haccess : Accesses unit segment index access)
    (hstatic : segment = .static → ∃ cell, program.symbols[staticSymbol unit index]? = some cell)
    (memory : Memory) :
    (linked sites listing program).locate unit memory segment index =
      lift (access.locate program.symbols memory) := by
  cases haccess with
  | @based _ pointer _ hsegment hindex =>
    have hbased : ((lift (memory.read pointer.cell)).bind fun base => .ok (base + index)) =
        lift ((memory.read pointer.cell).map fun base => base + index) := by
      cases memory.read pointer.cell <;> rfl
    cases segment <;> cases hsegment <;> exact hbased
  | static hunit =>
    obtain ⟨cell, hcell⟩ := hstatic rfl
    simp [locate, linked, Access.locate, Access.loaded, hcell, lift]
  | @fixed _ region _ hsegment hindex =>
    have hword : BitVec.ofNat 16 (region.base + index.toNat) =
        BitVec.ofNat 16 region.base + index := by
      rw [BitVec.ofNat_add, BitVec.ofNat_toNat, BitVec.setWidth_eq]
    rw [Access.locate, Access.loaded, hword]
    cases segment <;> cases hsegment <;> rfl

/-- The address of a cell is kept aside exactly if it is found from a base pointer. -/
theorem note_of_accesses {unit : String} {segment : Segment} {index : Word} {access : Access}
    (haccess : Accesses unit segment index access) (memory : Memory) (place : Word) :
    note memory segment place = access.note memory place := by
  cases haccess with
  | based hsegment hindex => rw [note, hsegment, Access.note]
  | static hunit => rfl
  | fixed hsegment hindex => cases segment <;> cases hsegment <;> rfl

/-- The word that a push takes from the cell that its code finds. -/
theorem fetch_of_accesses {unit : String} {segment : Segment} {index : Word} {access : Access}
    (haccess : Accesses unit segment index access)
    (hstatic : segment = .static → ∃ cell, program.symbols[staticSymbol unit index]? = some cell)
    (memory : Memory) :
    (linked sites listing program).fetch unit memory segment index =
      lift ((access.locate program.symbols memory).bind memory.read) := by
  have hfetch : (linked sites listing program).fetch unit memory segment index =
      ((linked sites listing program).locate unit memory segment index).bind fun place =>
        lift (memory.read place) := by
    cases haccess with
    | static hunit => rfl
    | based hsegment | fixed hsegment => cases segment <;> cases hsegment <;> rfl
  rw [hfetch, locate_of_accesses haccess hstatic, lift_bind]

/-- A pop into the cell that its code finds. -/
theorem assign_of_accesses {unit : String} {segment : Segment} {index : Word} {access : Access}
    (haccess : Accesses unit segment index access)
    (hstatic : segment = .static → ∃ cell, program.symbols[staticSymbol unit index]? = some cell)
    (memory : Memory) :
    (linked sites listing program).assign unit memory segment index =
      lift ((access.locate program.symbols memory).bind fun place =>
        (access.note memory place).bind fun noted =>
          noted.pop.bind fun popped => popped.2.write place popped.1) := by
  simp only [assign, locate_of_accesses haccess hstatic, note_of_accesses haccess, do_bind,
    lift_bind]

end Step

end StackProgram

namespace Installed

open StackProgram

variable {sites : List Site} {listing : Listing} {program : Program} {site : Site} {index : Nat}
  {memory : Memory} {a d : Word}

/-- The code that starts a function does not jump. -/
theorem straight_functionEntry (name : String) (locals : Word) :
    ∀ line ∈ functionEntry name locals, line.Straight := by
  have hpush : ∀ line ∈ pushData, line.Straight := by decide
  have hzeros : ∀ line ∈ (List.replicate locals.toNat pushData).flatten, line.Straight := by
    intro line hline
    obtain ⟨block, hblock, hline⟩ := List.mem_flatten.mp hline
    rw [(List.mem_replicate.mp hblock).2] at hline
    exact hpush line hline
  rw [functionEntry, List.forall_mem_cons]
  refine ⟨trivial, ?_⟩
  split
  · simp
  · exact List.forall_mem_cons.mpr ⟨rfl, hzeros⟩

/-- Straight code of a command that goes on with the next one. -/
theorem follows_of_straight {lines : List Line} {result : Except Machine.Fault Memory}
    (hsite : sites[index]? = some site) (hplaced : Placed program (listing.address index) lines)
    (hnext : listing.address (index + 1) = listing.address index + codeSize lines)
    (hstraight : ∀ line ∈ lines, line.Straight)
    (hrun : (runLines program.symbols ⟨memory, a, d⟩ lines).map Registers.memory = result) :
    (machine ⟨memory, a, d⟩ program (listing.address index)).Follows
      (linked sites listing program) index 1 (State.next ⟨memory, index⟩ (lift result)) := by
  have harrives := Machine.arrives_of_straight hplaced hstraight hrun
  rw [← hnext] at harrives
  exact Machine.follows_of_next harrives (List.getElem?_eq_some_iff.mp hsite).1

/-- A static symbol that the program does not have is no symbol. -/
theorem isSymbol_eq_false (h : Installed sites listing program) {symbol : String}
    (hsite : sites[index]? = some site) (hstatic : site.static? = some symbol)
    (hnone : program.symbols[symbol]? = none) : isSymbol symbol.toList = false := by
  by_contra hsymbol
  rw [Bool.not_eq_false] at hsymbol
  obtain ⟨cell, hcell⟩ := h.exists_cell hsite hstatic hsymbol
  rw [hnone] at hcell
  cases hcell

/-- A push whose static cell is there. -/
theorem follows_push (h : Installed sites listing program) {segment : Segment} {offset : Word}
    (hsite : sites[index]? = some site) (hcommand : site.command = .push segment offset)
    (hcell : ∀ symbol ∈ site.static?, ∃ cell, program.symbols[symbol]? = some cell) :
    (machine ⟨memory, a, d⟩ program (listing.address index)).Follows
      (linked sites listing program) index 1
        ((linked sites listing program).execute site ⟨memory, index⟩) := by
  obtain ⟨generator, lines, hlines, hplaced, hnext⟩ := h.exists_placed hsite fun symbol hs => by
    obtain ⟨cell, hvalue⟩ := hcell symbol hs
    exact h.assembled.isSymbol_of_some hvalue
  rw [hcommand] at hlines
  simp only [execute, hcommand, do_bind]
  obtain ⟨rfl, hindex, rfl⟩ | ⟨access, haccess, rfl⟩ := Generator.push_of_ok hlines
  · exact follows_of_straight hsite hplaced hnext (by
      simp [pushConstant, pushData, stackPointer, Line.Straight, Line.store])
      (runLines_pushConstant h.knowsPredefined memory a d offset)
  · have hunit : Accesses site.unit segment offset access := haccess
    have hstatic : segment = .static →
        ∃ cell, program.symbols[staticSymbol site.unit offset]? = some cell := by
      rintro rfl
      exact hcell _ (by rw [Site.static?, hcommand]; rfl)
    rw [fetch_of_accesses hunit hstatic, ← lift_bind, bind_bind]
    exact follows_of_straight hsite hplaced hnext (Access.straight haccess).1
      (Access.runLines_pushCode h.knowsPredefined haccess memory a d)

/-- A pop whose static cell is there. -/
theorem follows_pop (h : Installed sites listing program) {segment : Segment} {offset : Word}
    (hsite : sites[index]? = some site) (hcommand : site.command = .pop segment offset)
    (hcell : ∀ symbol ∈ site.static?, ∃ cell, program.symbols[symbol]? = some cell) :
    (machine ⟨memory, a, d⟩ program (listing.address index)).Follows
      (linked sites listing program) index 1
        ((linked sites listing program).execute site ⟨memory, index⟩) := by
  obtain ⟨generator, lines, hlines, hplaced, hnext⟩ := h.exists_placed hsite fun symbol hs => by
    obtain ⟨cell, hvalue⟩ := hcell symbol hs
    exact h.assembled.isSymbol_of_some hvalue
  rw [hcommand] at hlines
  obtain ⟨access, haccess, rfl⟩ := Generator.pop_of_ok hlines
  have hunit : Accesses site.unit segment offset access := haccess
  have hstatic : segment = .static →
      ∃ cell, program.symbols[staticSymbol site.unit offset]? = some cell := by
    rintro rfl
    exact hcell _ (by rw [Site.static?, hcommand]; rfl)
  simp only [execute, hcommand]
  rw [assign_of_accesses hunit hstatic]
  exact follows_of_straight hsite hplaced hnext (Access.straight haccess).2
    (Access.runLines_popCode h.knowsPredefined haccess memory a d)

/-- A push or a pop whose static cell is not there. -/
theorem follows_noCell (h : Installed sites listing program) {symbol : String}
    (hsite : sites[index]? = some site) (hstatic : site.static? = some symbol)
    (hnone : program.symbols[symbol]? = none) (machine : Machine) :
    machine.Follows (linked sites listing program) index 1
      ((linked sites listing program).execute site ⟨memory, index⟩) := by
  have hsymbol := h.isSymbol_eq_false hsite hstatic hnone
  unfold Site.static? at hstatic
  split at hstatic
  · rename_i offset hcommand
    cases hstatic
    simp only [execute, hcommand, fetch, locate, linked, hnone]
    exact hsymbol
  · rename_i offset hcommand
    cases hstatic
    simp only [execute, hcommand, assign, locate, linked, hnone]
    exact hsymbol
  · cases hstatic

/-- The symbol of a label that is found leads to its command. -/
theorem label_target (h : Installed sites listing program) {function : Option String}
    {name : String} {target : Nat}
    (hlabel : Site.labelIndex? sites function name = some target) :
    target ≤ sites.length ∧
      (program.symbols[labelSymbol function name]?.getD 0).toNat = listing.address target := by
  obtain ⟨other, hother, rfl, hcommand⟩ := of_labelIndex? hlabel
  have hlt := (List.getElem?_eq_some_iff.mp hother).1
  have hdeclared : other.declared? = some (labelSymbol other.function name) := by
    rw [Site.declared?, hcommand]
  rw [h.symbol_of_declared hother hdeclared, Option.getD_some, h.toNat_address]
  exact ⟨Nat.le_of_lt hlt, rfl⟩

/-- A function that is called has a proper name. -/
theorem isSymbol_of_functionIndex? (h : Installed sites listing program)
    {name : String} {target : Nat} (htarget : Site.functionIndex? sites name = some target) :
    isSymbol name.toList = true := by
  obtain ⟨site, locals, hsite, hcommand⟩ := of_functionIndex? htarget
  have hgrammatical := (h.wellPlaced site (List.mem_of_getElem? hsite)).command
  rw [hcommand] at hgrammatical
  exact isSymbol_of_isName hgrammatical

/-- The symbol of a function that is found leads to its start. -/
theorem function_target (h : Installed sites listing program) {name : String} {target : Nat}
    (hfunction : Site.functionIndex? sites name = some target) :
    target ≤ sites.length ∧
      (program.symbols[name]?.getD 0).toNat = listing.address target := by
  obtain ⟨other, locals, hother, hcommand⟩ := of_functionIndex? hfunction
  have hlt := (List.getElem?_eq_some_iff.mp hother).1
  have hdeclared : other.declared? = some name := by rw [Site.declared?, hcommand]
  rw [h.symbol_of_declared hother hdeclared, Option.getD_some, h.toNat_address]
  exact ⟨Nat.le_of_lt hlt, rfl⟩

/-- A machine that has taken a step may be anywhere. -/
theorem progress (hsite : sites[index]? = some site) {least : Nat} (hleast : 1 ≤ least)
    (target : Nat) : index + 1 ≤ target + least * (sites.length + 1) := by
  have hlt := (List.getElem?_eq_some_iff.mp hsite).1
  have hmul := Nat.mul_le_mul_right (sites.length + 1) hleast
  omega

/-- A jump. -/
theorem follows_goto (h : Installed sites listing program) {name : String} {target : Nat}
    (hsite : sites[index]? = some site) (hcommand : site.command = .goto name)
    (hlabel : Site.labelIndex? sites site.function name = some target) :
    (machine ⟨memory, a, d⟩ program (listing.address index)).Follows
      (linked sites listing program) index 1
        ((linked sites listing program).execute site ⟨memory, index⟩) := by
  have hstatic : site.static? = none := by rw [Site.static?, hcommand]
  obtain ⟨generator, lines, hlines, hplaced, -⟩ := h.exists_placed hsite (by simp [hstatic])
  rw [hcommand] at hlines
  cases hlines
  obtain ⟨hle, haddress⟩ := h.label_target hlabel
  simp only [execute, hcommand, linked_sites, hlabel]
  exact Machine.follows_of_arrival (Machine.arrives_jumpTo hplaced) haddress hle
    (progress hsite (by decide) target)

/-- A conditional jump. -/
theorem follows_ifGoto (h : Installed sites listing program) {name : String} {target : Nat}
    (hsite : sites[index]? = some site) (hcommand : site.command = .ifGoto name)
    (hlabel : Site.labelIndex? sites site.function name = some target) :
    (machine ⟨memory, a, d⟩ program (listing.address index)).Follows
      (linked sites listing program) index 1
        ((linked sites listing program).execute site ⟨memory, index⟩) := by
  have hstatic : site.static? = none := by rw [Site.static?, hcommand]
  obtain ⟨generator, lines, hlines, hplaced, hnext⟩ := h.exists_placed hsite (by simp [hstatic])
  rw [hcommand] at hlines
  cases hlines
  obtain ⟨hle, haddress⟩ := h.label_target hlabel
  have hlt := (List.getElem?_eq_some_iff.mp hsite).1
  have harrives : (machine ⟨memory, a, d⟩ program (listing.address index)).Arrives 5 5 _ :=
    Machine.arrives_jumpUnlessZero h.knowsPredefined hplaced
  simp only [execute, hcommand, linked_sites, hlabel, do_bind]
  cases hpop : memory.pop with
  | error fault =>
    rw [hpop] at harrives
    exact Machine.follows_of_fault _ index 1 harrives
  | ok popped =>
    rw [hpop, map_ok] at harrives
    rw [lift, ok_bind]
    by_cases hzero : popped.1 = 0
    · rw [if_pos hzero] at harrives ⊢
      exact Machine.follows_of_arrival harrives hnext.symm hlt (progress hsite (by decide) _)
    · rw [if_neg hzero] at harrives ⊢
      exact Machine.follows_of_arrival harrives haddress hle (progress hsite (by decide) _)

/-- A call. Its return label is the last line of the block, so it stands for the next command. -/
theorem follows_call (h : Installed sites listing program) {name : String} {arguments : Word}
    {target : Nat} (hsite : sites[index]? = some site)
    (hcommand : site.command = .call name arguments)
    (hfunction : Site.functionIndex? sites name = some target) :
    (machine ⟨memory, a, d⟩ program (listing.address index)).Follows
      (linked sites listing program) index 1
        ((linked sites listing program).execute site ⟨memory, index⟩) := by
  have hstatic : site.static? = none := by rw [Site.static?, hcommand]
  obtain ⟨generator, lines, hlines, hplaced, hnext⟩ := h.exists_placed hsite (by simp [hstatic])
  rw [hcommand] at hlines
  obtain ⟨-, rfl⟩ := call_of_ok hlines
  obtain ⟨hle, haddress⟩ := h.function_target hfunction
  have hback := Machine.symbol_of_callFunction hplaced
  rw [← hnext] at hback
  have harrives : (machine ⟨memory, a, d⟩ program (listing.address index)).Arrives 1 _ _ :=
    Machine.arrives_callFunction h.knowsPredefined hplaced
  rw [hback, Option.getD_some] at harrives
  simp only [execute, hcommand, linked_sites, hfunction, do_bind, linked_address]
  cases henter : memory.enter arguments (BitVec.ofNat 16 (listing.address (index + 1))) with
  | error fault =>
    rw [henter] at harrives
    exact Machine.follows_of_fault _ index 1 harrives
  | ok entered =>
    rw [henter] at harrives
    exact Machine.follows_of_arrival harrives haddress hle (progress hsite (by decide) _)

/-- A return. -/
theorem follows_ret (h : Installed sites listing program) (hsite : sites[index]? = some site)
    (hcommand : site.command = .ret) :
    (machine ⟨memory, a, d⟩ program (listing.address index)).Follows
      (linked sites listing program) index 1
        ((linked sites listing program).execute site ⟨memory, index⟩) := by
  have hstatic : site.static? = none := by rw [Site.static?, hcommand]
  obtain ⟨generator, lines, hlines, hplaced, -⟩ := h.exists_placed hsite (by simp [hstatic])
  rw [hcommand] at hlines
  rw [leave_of_ok hlines] at hplaced
  have harrives : (machine ⟨memory, a, d⟩ program (listing.address index)).Arrives 1 _ _ :=
    Machine.arrives_returnBlock h.knowsPredefined hplaced
  simp only [execute, hcommand, do_bind]
  cases hleave : memory.leave with
  | error fault =>
    rw [hleave] at harrives
    exact Machine.follows_of_fault _ index 1 harrives
  | ok left =>
    rw [hleave, map_ok] at harrives
    rw [lift, ok_bind]
    cases hresume : (linked sites listing program).resume? left.2 with
    | none =>
      obtain ⟨steps, target, hsteps, -, hram, hcounter, -⟩ :=
        Machine.exists_steps_of_arrives harrives
      exact ⟨steps, target, hsteps, hram, hcounter⟩
    | some target =>
      obtain ⟨hle, haddress⟩ := of_resume? hresume
      exact Machine.follows_of_arrival harrives haddress.symm hle
        (progress hsite (by decide) target)

/-- An operation. -/
theorem follows_operate (h : Installed sites listing program) {operation : Operation}
    (hsite : sites[index]? = some site) (hcommand : site.command = .operate operation) :
    (machine ⟨memory, a, d⟩ program (listing.address index)).Follows
      (linked sites listing program) index 1
        ((linked sites listing program).execute site ⟨memory, index⟩) := by
  have hstatic : site.static? = none := by rw [Site.static?, hcommand]
  obtain ⟨generator, lines, hlines, hplaced, hnext⟩ := h.exists_placed hsite (by simp [hstatic])
  rw [hcommand] at hlines
  cases hlines
  have hend := listing.address_le (index + 1)
  rw [← h.size_eq] at hend
  have hbound := h.size
  have harrives : (machine ⟨memory, a, d⟩ program (listing.address index)).Arrives 1 _ _ :=
    Machine.arrives_operate h.knowsPredefined hplaced (by omega)
  rw [← hnext] at harrives
  simp only [execute, hcommand]
  exact Machine.follows_of_next harrives (List.getElem?_eq_some_iff.mp hsite).1

/-- A label or the start of a function. -/
theorem follows_declaration (h : Installed sites listing program)
    (hsite : sites[index]? = some site)
    (hcommand : (∃ name, site.command = .label name) ∨
      ∃ name locals, site.command = .function name locals) :
    (machine ⟨memory, a, d⟩ program (listing.address index)).Follows
      (linked sites listing program) index 1
        ((linked sites listing program).execute site ⟨memory, index⟩) := by
  obtain ⟨name, hcommand⟩ | ⟨name, locals, hcommand⟩ := hcommand
  · have hstatic : site.static? = none := by rw [Site.static?, hcommand]
    obtain ⟨generator, lines, hlines, hplaced, hnext⟩ := h.exists_placed hsite (by simp [hstatic])
    rw [hcommand] at hlines
    obtain ⟨-, rfl⟩ := declare_of_ok hlines
    simp only [execute, hcommand]
    exact follows_of_straight hsite hplaced hnext (by simp [Line.Straight]) rfl
  · have hstatic : site.static? = none := by rw [Site.static?, hcommand]
    obtain ⟨generator, lines, hlines, hplaced, hnext⟩ := h.exists_placed hsite (by simp [hstatic])
    rw [hcommand] at hlines
    cases hlines
    simp only [execute, hcommand]
    exact follows_of_straight hsite hplaced hnext (straight_functionEntry name locals)
      (runLines_functionEntry h.knowsPredefined memory a d name locals)

/-- One command. -/
theorem follows_step (h : Installed sites listing program)
    (htargets : ∀ site ∈ sites, Site.hasTarget sites site = true) (machine : Machine)
    (hprogram : machine.program = program) (hcounter : machine.counter = listing.address index) :
    machine.Follows (linked sites listing program) index 1
      ((linked sites listing program).step ⟨machine.ram, index⟩) := by
  obtain ⟨code, memory, a, d, counter⟩ := machine
  obtain rfl : program = code := hprogram.symm
  obtain rfl : counter = listing.address index := hcounter
  rw [step, linked_sites]
  dsimp only
  cases hsite : sites[index]? with
  | none =>
    have hend := listing.address_end (h.coded.length_eq ▸ List.getElem?_eq_none_iff.mp hsite)
    refine ⟨0, _, rfl, ?_⟩
    simp [Machine.halted, hend, h.size_eq]
  | some site =>
    have htarget := htargets site (List.mem_of_getElem? hsite)
    by_cases hcell : ∀ symbol ∈ site.static?, ∃ cell, program.symbols[symbol]? = some cell
    · cases hcommand : site.command with
      | operate operation => exact h.follows_operate hsite hcommand
      | push segment offset => exact h.follows_push hsite hcommand hcell
      | pop segment offset => exact h.follows_pop hsite hcommand hcell
      | label name => exact h.follows_declaration hsite (.inl ⟨name, hcommand⟩)
      | goto name =>
        rw [Site.hasTarget, hcommand] at htarget
        obtain ⟨target, hlabel⟩ := Option.isSome_iff_exists.mp htarget
        exact h.follows_goto hsite hcommand hlabel
      | ifGoto name =>
        rw [Site.hasTarget, hcommand] at htarget
        obtain ⟨target, hlabel⟩ := Option.isSome_iff_exists.mp htarget
        exact h.follows_ifGoto hsite hcommand hlabel
      | function name locals => exact h.follows_declaration hsite (.inr ⟨name, locals, hcommand⟩)
      | call name arguments =>
        rw [Site.hasTarget, hcommand] at htarget
        obtain ⟨target, hfunction⟩ := Option.isSome_iff_exists.mp htarget
        exact h.follows_call hsite hcommand hfunction
      | ret => exact h.follows_ret hsite hcommand
    · simp only [not_forall, not_exists] at hcell
      obtain ⟨symbol, hstatic, hnone⟩ := hcell
      exact h.follows_noCell hsite hstatic (Option.eq_none_iff_forall_ne_some.mpr hnone) _

/-- Any number of commands. -/
theorem follows_run (h : Installed sites listing program)
    (htargets : ∀ site ∈ sites, Site.hasTarget sites site = true) (machine : Machine)
    (hprogram : machine.program = program) (hcounter : machine.counter = listing.address index)
    (hindex : index ≤ sites.length) (count : Nat) :
    machine.Follows (linked sites listing program) index count
      ((linked sites listing program).run ⟨machine.ram, index⟩ count) := by
  induction count generalizing machine index with
  | zero => exact ⟨hindex, 0, machine, rfl, rfl, rfl, hcounter, by simp⟩
  | succ count ih =>
    have hstep := h.follows_step htargets machine hprogram hcounter
    rw [run, do_bind]
    cases hresult : (linked sites listing program).step ⟨machine.ram, index⟩ with
    | error stop =>
      rw [hresult] at hstep
      exact hstep.of_error _ _
    | ok state =>
      rw [hresult] at hstep
      rw [ok_bind, Nat.add_comm]
      refine hstep.trans fun middle hp hr hc => ?_
      have hrest := ih middle (hp.trans hprogram) hc hstep.1
      rw [hr] at hrest
      exact hrest

/-- The code that starts a program sets the stack pointer and calls the entry function,
which returns to the first command. -/
theorem arrives_bootstrap (h : Installed sites listing program) {generator : Generator}
    (hsymbol : isSymbol generator.config.entryFunction.toList = true)
    (hlines : generator.bootstrap.result = .ok listing.prologue) (memory : Memory) (a d : Word) :
    ∃ least most, (machine ⟨memory, a, d⟩ program 0).Arrives least most
      ((Memory.enter (memory.set 0 generator.config.stackOrigin) 0
        (BitVec.ofNat 16 (listing.address 0))).map fun entered =>
          (entered, (program.symbols[generator.config.entryFunction]?.getD 0).toNat)) := by
  obtain ⟨returnLabel, hset, hcall, hfirst⟩ := h.placed_bootstrap hsymbol hlines
  have hback := Machine.symbol_of_callFunction hcall
  rw [← hfirst] at hback
  have hwrite := Machine.arrives_of_straight hset
    (by simp [setStackPointer, stackPointer, Line.Straight, Line.store])
    (runLines_setStackPointer h.knowsPredefined memory a d generator.config.stackOrigin)
  rw [Memory.write_stackPointer, map_ok, Nat.zero_add] at hwrite
  have harrives := hwrite.trans fun address data =>
    Machine.arrives_callFunction h.knowsPredefined hcall
  rw [hback, Option.getD_some] at harrives
  exact ⟨_, _, harrives⟩

/-- The code that starts a program keeps up with the start of the stack machine. -/
theorem follows_start (h : Installed sites listing program) {config : Config} {bootstrap : Bool}
    (hlisting : Listing.ofSites config bootstrap sites = .ok listing)
    (hentry : bootstrap = true →
      (Site.functionIndex? sites config.entryFunction).isSome)
    (machine : Machine) (hprogram : machine.program = program) (hcounter : machine.counter = 0) :
    machine.Follows (linked sites listing program) 0 0
      ((linked sites listing program).start config bootstrap machine.ram) := by
  obtain ⟨code, memory, a, d, counter⟩ := machine
  obtain rfl : program = code := hprogram.symm
  obtain rfl : counter = 0 := hcounter
  cases bootstrap with
  | false =>
    refine ⟨Nat.zero_le _, 0, _, rfl, rfl, rfl, ?_, Nat.zero_le _⟩
    rw [linked_address]
    exact (Listing.address_zero hlisting).symm
  | true =>
    obtain ⟨target, htarget⟩ := Option.isSome_iff_exists.mp (hentry rfl)
    obtain ⟨hle, haddress⟩ := h.function_target htarget
    obtain ⟨least, most, harrives⟩ := h.arrives_bootstrap (h.isSymbol_of_functionIndex? htarget)
      (Listing.bootstrap_of_ofSites hlisting) memory a d
    simp only [StackProgram.start, if_true, Memory.write_stackPointer, lift, do_bind, ok_bind,
      linked_sites, htarget, linked_address]
    cases henter : Memory.enter (memory.set 0 config.stackOrigin) 0
        (BitVec.ofNat 16 (listing.address 0)) with
    | error fault =>
      rw [henter] at harrives
      exact Machine.follows_of_fault _ 0 0 harrives
    | ok entered =>
      rw [henter] at harrives
      exact Machine.follows_of_arrival harrives haddress hle (Nat.zero_le _)

end Installed

/-- Generated code does what its commands say. If a program was written and assembled,
the addresses of the code fit a word and every branch and call has a target, then from any
memory the machine keeps up with the stack machine: from the code of any command on, and
from the first instruction on with the bootstrap if there is one. The address of a command
is the number of instructions in the text that was written before its code. -/
theorem machine_follows_commands {config : Config} {bootstrap : Bool}
    {units : List (String × String)} {session : Session} {program : Program}
    (hwritten : Session.writeProgram config bootstrap units {} = (session, .ok ()))
    (hassembled : assemble session.outputLines = .ok program)
    (hsize : program.code.size ≤ 65535)
    (htargets : ∀ site ∈ Site.ofUnits units, Site.hasTarget (Site.ofUnits units) site = true)
    (hentry : bootstrap = true →
      (Site.functionIndex? (Site.ofUnits units) config.entryFunction).isSome) :
    ∃ listing, Listing.ofSites config bootstrap (Site.ofUnits units) = .ok listing ∧
      session.sink.text = String.ofList (written listing.lines) ∧
      ∀ machine : Machine, machine.program = program → ∀ count,
        (∀ index ≤ (Site.ofUnits units).length, machine.counter = listing.address index →
          machine.Follows (.linked (Site.ofUnits units) listing program) index count
            ((StackProgram.linked (Site.ofUnits units) listing program).run
              ⟨machine.ram, index⟩ count)) ∧
        (machine.counter = 0 →
          machine.Follows (.linked (Site.ofUnits units) listing program) 0 count
            (((StackProgram.linked (Site.ofUnits units) listing program).start config bootstrap
              machine.ram).bind fun state =>
                (StackProgram.linked (Site.ofUnits units) listing program).run state count)) := by
  obtain ⟨listing, hlisting, htext, hlaid⟩ := exists_laidOut hwritten hassembled
  have h : Installed (Site.ofUnits units) listing program := ⟨hlaid, hsize⟩
  refine ⟨listing, hlisting, htext, fun machine hprogram count => ⟨?_, ?_⟩⟩
  · intro index hindex hcounter
    exact h.follows_run htargets machine hprogram hcounter hindex count
  · intro hcounter
    have hfirst := h.follows_start hlisting hentry machine hprogram hcounter
    cases hresult : (StackProgram.linked (Site.ofUnits units) listing program).start config
        bootstrap machine.ram with
    | error stop =>
      rw [hresult] at hfirst
      exact hfirst.of_error _ _
    | ok state =>
      rw [hresult] at hfirst
      rw [ok_bind, ← Nat.zero_add count]
      refine hfirst.trans fun middle hp hr hc => ?_
      have hrest := h.follows_run htargets middle (hp.trans hprogram) hc hfirst.1 count
      rw [hr] at hrest
      rw [Nat.zero_add]
      exact hrest

/-- The machine keeps up with the loop, which has no end. -/
theorem machine_follows_commands_loop : ∃ session program listing,
    Session.writeProgram {} true loopUnits {} = (session, .ok ()) ∧
      assemble session.outputLines = .ok program ∧ program.code.size ≤ 65535 ∧
      (∀ site ∈ Site.ofUnits loopUnits, Site.hasTarget (Site.ofUnits loopUnits) site = true) ∧
      (Site.functionIndex? (Site.ofUnits loopUnits) "Sys.init").isSome ∧
      ∀ count, (Machine.start program).Follows
        (.linked (Site.ofUnits loopUnits) listing program) 0 count
        (((StackProgram.linked (Site.ofUnits loopUnits) listing program).start {} true
          (Machine.start program).ram).bind fun state =>
            (StackProgram.linked (Site.ofUnits loopUnits) listing program).run state count) := by
  obtain ⟨session, program, hwritten, hassembled, hsize⟩ := exists_loopProgram
  have htargets : ∀ site ∈ Site.ofUnits loopUnits,
      Site.hasTarget (Site.ofUnits loopUnits) site = true := by
    rw [ofUnits_loopUnits]
    decide
  have hentry : (Site.functionIndex? (Site.ofUnits loopUnits) "Sys.init").isSome := by
    rw [ofUnits_loopUnits]
    decide
  obtain ⟨listing, -, -, hfollows⟩ := machine_follows_commands hwritten hassembled (by omega)
    htargets fun _ => hentry
  exact ⟨session, program, listing, hwritten, hassembled, by omega, htargets, hentry,
    fun count => (hfollows (Machine.start program) rfl count).2 rfl⟩

end HackVm
