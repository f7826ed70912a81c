import HackVm.Proofs.CallFrame
import HackVm.Proofs.Simulation

/-!
# Calls and returns

The code of a call and the code of a return stand in different places and agree on the frame
between them. A call gets to the called function with the frame in place. From any later state
in which the frame is still there, whatever the function has done in between, every return of
the program gets to the instruction after the call, with the result on the stack and the base
pointers of the caller.
-/

namespace HackVm

open Assembly Codegen Registers

/-- The code of a call of a function with a number of arguments stands at an address, and the next
instruction at another: the code of a command, or the end of the bootstrap. -/
inductive CallSite (config : Config) (bootstrap : Bool) (sites : List Site) (listing : Listing) :
    String → Word → Nat → Nat → Prop
  /-- A command calls the function. -/
  | command {index : Nat} {site : Site} {name : String} {arguments : Word}
    (stands : sites[index]? = some site) (calls : site.command = .call name arguments) :
    CallSite config bootstrap sites listing name arguments (listing.address index)
      (listing.address (index + 1))
  /-- The bootstrap calls the entry function. -/
  | entry (starts : bootstrap = true) :
    CallSite config bootstrap sites listing config.entryFunction 0
      (codeSize (setStackPointer config.stackOrigin)) (listing.address 0)

/-- A machine gets to an instruction within a number of steps, with a memory of some kind. -/
def Machine.GetsTo (machine : Machine) (most counter : Nat) (holds : Memory → Prop) : Prop :=
  ∃ count target, count ≤ most ∧ machine.steps count = (target, .ok ()) ∧
    target.program = machine.program ∧ target.counter = counter ∧ holds target.ram

/-- A machine that arrives somewhere gets there. -/
theorem Machine.Arrives.getsTo {machine : Machine} {least most counter : Nat} {after : Memory}
    {holds : Memory → Prop} (h : machine.Arrives least most (.ok (after, counter)))
    (hholds : holds after) : machine.GetsTo most counter holds := by
  obtain ⟨count, target, hsteps, hprogram, hram, hcounter, -, hmost⟩ :=
    exists_steps_of_arrives h
  exact ⟨count, target, hmost, hsteps, hprogram, hcounter, hram ▸ hholds⟩

namespace Installed

variable {config : Config} {bootstrap : Bool} {sites : List Site} {listing : Listing}
  {program : Program} {name : String} {arguments : Word} {address next target : Nat}

/-- The code of a call stands in its place, and its return label is the next instruction. -/
theorem exists_call (h : Installed sites listing program)
    (hlisting : Listing.ofSites config bootstrap sites = .ok listing)
    (hcall : CallSite config bootstrap sites listing name arguments address next)
    (htarget : Site.functionIndex? sites name = some target) :
    ∃ returnLabel, Placed program address (callFunction name arguments returnLabel) ∧
      next = address + codeSize (callFunction name arguments returnLabel) := by
  cases hcall with
  | @command index site _ _ stands calls =>
    have hstatic : site.static? = none := by rw [Site.static?, calls]
    obtain ⟨generator, lines, hlines, hplaced, hnext⟩ :=
      h.exists_placed stands (by simp [hstatic])
    rw [calls] at hlines
    obtain ⟨-, rfl⟩ := call_of_ok hlines
    exact ⟨_, hplaced, hnext⟩
  | entry starts =>
    subst starts
    obtain ⟨returnLabel, -, hplaced, hfirst⟩ := h.placed_bootstrap
      (h.isSymbol_of_functionIndex? htarget) (Listing.bootstrap_of_ofSites hlisting)
    exact ⟨returnLabel, hplaced, hfirst⟩

/-- A call gets to the called function with its frame in place. -/
theorem getsTo_call (h : Installed sites listing program)
    (hlisting : Listing.ofSites config bootstrap sites = .ok listing)
    (hcall : CallSite config bootstrap sites listing name arguments address next)
    (htarget : Site.functionIndex? sites name = some target) {caller : Machine} {top : Nat}
    (hprogram : caller.program = program) (hcounter : caller.counter = address)
    (hstack : caller.ram[0].toNat = top) (hlow : arguments.toNat + 16 ≤ top)
    (hhigh : top + 5 ≤ 32767) :
    caller.GetsTo (next - address) (listing.address target) fun ram =>
      Memory.Called caller.ram ram top arguments.toNat (BitVec.ofNat 16 next) := by
  obtain ⟨code, memory, a, d, counter⟩ := caller
  obtain rfl : program = code := hprogram.symm
  obtain rfl : counter = address := hcounter
  obtain ⟨returnLabel, hplaced, hnext⟩ := h.exists_call hlisting hcall htarget
  have hback := Machine.symbol_of_callFunction hplaced
  rw [← hnext] at hback
  have harrives : (machine ⟨memory, a, d⟩ program counter).Arrives 1 _ _ :=
    Machine.arrives_callFunction h.knowsPredefined hplaced
  obtain ⟨entered, henter, hcalled⟩ := Memory.exists_enter (Memory.getElem?_of_toNat hstack) hlow
    hhigh (BitVec.ofNat 16 next)
  rw [hback, Option.getD_some, henter, map_ok, (h.function_target htarget).2] at harrives
  rw [hnext, Nat.add_sub_cancel_left]
  exact Machine.Arrives.getsTo harrives (hnext ▸ hcalled)

/-- A return with a frame in place gets to the address in the frame, with the base pointers in it. -/
theorem getsTo_return (h : Installed sites listing program) {index : Nat} {site : Site}
    (hsite : sites[index]? = some site) (hcommand : site.command = .ret)
    {caller : Memory} {callee : Machine} {top count last : Nat} {back result : Word}
    (hprogram : callee.program = program) (hcounter : callee.counter = listing.address index)
    (hframe : callee.ram[1].toNat = top + 5) (hfirst : callee.ram[2].toNat = top - count)
    (hsaved : Memory.SavedFrame caller callee.ram top back)
    (hstack : callee.ram[0].toNat = last + 1) (hresult : callee.ram[last]? = some result)
    (hlow : count + 16 ≤ top) (hhigh : top + 5 ≤ last) :
    callee.GetsTo (listing.address (index + 1) - listing.address index) back.toNat fun ram =>
      Memory.Returned caller callee.ram ram (top - count) result := by
  obtain ⟨code, memory, a, d, counter⟩ := callee
  obtain rfl : program = code := hprogram.symm
  obtain rfl : counter = listing.address index := hcounter
  have hstatic : site.static? = none := by rw [Site.static?, hcommand]
  obtain ⟨generator, lines, hlines, hplaced, hnext⟩ := h.exists_placed hsite (by simp [hstatic])
  rw [hcommand] at hlines
  rw [leave_of_ok hlines] at hplaced hnext
  have harrives : (machine ⟨memory, a, d⟩ program (listing.address index)).Arrives 1 _ _ :=
    Machine.arrives_returnBlock h.knowsPredefined hplaced
  obtain ⟨after, hleave, hreturned⟩ := Memory.exists_leave (Memory.getElem?_of_toNat hframe)
    (Memory.getElem?_of_toNat hfirst) (Memory.getElem?_of_toNat hstack) hresult hlow hhigh hsaved
  rw [hleave, map_ok] at harrives
  rw [hnext, Nat.add_sub_cancel_left]
  exact Machine.Arrives.getsTo harrives hreturned

/-- The address to return to is a word. -/
theorem toNat_next (h : Installed sites listing program)
    (hcall : CallSite config bootstrap sites listing name arguments address next) :
    (BitVec.ofNat 16 next).toNat = next := by
  cases hcall with
  | command stands calls => exact h.toNat_address _
  | entry starts => exact h.toNat_address 0

end Installed

/-- Calls and returns keep to one protocol. In a program that was written and assembled, a call of
a function of the program with room for its frame gets to the function, with the five words saved
and the pointers moved, and changes no other cell. Any return of the program, from any state in
which the frame of that call is still in place, gets to the instruction after the call, with the
result in place of the arguments and the base pointers of the caller. -/
theorem call_return_protocol {config : Config} {bootstrap : Bool}
    {units : List (String × String)} {session : Session} {program : Program}
    (hwritten : Session.writeProgram config bootstrap units {} = (session, .ok ()))
    (hassembled : assemble session.outputLines = .ok program)
    (hsize : program.code.size ≤ 65535) :
    ∃ listing, Listing.ofSites config bootstrap (Site.ofUnits units) = .ok listing ∧
      session.sink.text = String.ofList (written listing.lines) ∧
      ∀ name arguments address next target,
        CallSite config bootstrap (Site.ofUnits units) listing name arguments address next →
        Site.functionIndex? (Site.ofUnits units) name = some target →
        program.symbols[name]? = some (BitVec.ofNat 16 (listing.address target)) ∧
        ∀ (caller : Machine) (top : Nat), caller.program = program → caller.counter = address →
          caller.ram[0].toNat = top → arguments.toNat + 16 ≤ top → top + 5 ≤ 32767 →
          (caller.GetsTo (next - address) (listing.address target) fun ram =>
            Memory.Called caller.ram ram top arguments.toNat (BitVec.ofNat 16 next)) ∧
          ∀ (callee : Machine) (index last : Nat) (site : Site), callee.program = program →
            (Site.ofUnits units)[index]? = some site → site.command = .ret →
            callee.counter = listing.address index → callee.ram[1].toNat = top + 5 →
            callee.ram[2].toNat = top - arguments.toNat →
            Memory.SavedFrame caller.ram callee.ram top (BitVec.ofNat 16 next) →
            callee.ram[0].toNat = last + 1 → top + 5 ≤ last → last ≤ 32766 →
            ∃ result, callee.ram[last]? = some result ∧
              callee.GetsTo (listing.address (index + 1) - listing.address index) next fun ram =>
                Memory.Returned caller.ram callee.ram ram (top - arguments.toNat) result := by
  obtain ⟨listing, hlisting, htext, hlaid⟩ := exists_laidOut hwritten hassembled
  have h : Installed (Site.ofUnits units) listing program := ⟨hlaid, hsize⟩
  refine ⟨listing, hlisting, htext, fun name arguments address next target hcall htarget => ?_⟩
  obtain ⟨site, locals, hsite, hcommand⟩ := StackProgram.of_functionIndex? htarget
  refine ⟨h.symbol_of_declared hsite (by rw [Site.declared?, hcommand]), ?_⟩
  intro caller top hprogram hcounter hstack hlow hhigh
  refine ⟨h.getsTo_call hlisting hcall htarget hprogram hcounter hstack hlow hhigh, ?_⟩
  intro callee index last site hprogram' hsite' hcommand' hcounter' hframe hfirst hsaved hlast
    hdeep hlimit
  have hlt : last < Machine.ramSize := Nat.lt_of_le_of_lt hlimit (by decide)
  have hresult : callee.ram[last]? = some (callee.ram.get ⟨last, hlt⟩) :=
    Vector.getElem?_eq_getElem hlt
  have hreturn := h.getsTo_return hsite' hcommand' hprogram' hcounter' hframe hfirst hsaved hlast
    hresult hlow hdeep
  rw [h.toNat_next hcall] at hreturn
  exact ⟨_, hresult, hreturn⟩

/-- A call without arguments in the loop, and a return that puts its result where the address to
return to was saved. -/
theorem call_return_protocol_loop :
    ∃ (session : Session) (program : Program) (listing : Listing),
    Session.writeProgram {} true loopUnits {} = (session, .ok ()) ∧
      assemble session.outputLines = .ok program ∧ program.code.size ≤ 65535 ∧
      ∃ caller callee : Memory, caller[0].toNat = 256 ∧ callee[0].toNat = 262 ∧
        Memory.SavedFrame caller callee 256 (BitVec.ofNat 16 (listing.address 10)) ∧
        (Machine.GetsTo ⟨program, caller, 0, 0, listing.address 9⟩
          (listing.address 10 - listing.address 9) (listing.address 0) fun ram =>
            Memory.Called caller ram 256 0 (BitVec.ofNat 16 (listing.address 10))) ∧
        Machine.GetsTo ⟨program, callee, 0, 0, listing.address 6⟩
          (listing.address 7 - listing.address 6) (listing.address 10) fun ram =>
            Memory.Returned caller callee ram 256 7 := by
  obtain ⟨session, program, hwritten, hassembled, hsize⟩ := exists_loopProgram
  obtain ⟨listing, -, -, hprotocol⟩ := call_return_protocol hwritten hassembled (by omega)
  rw [ofUnits_loopUnits] at hprotocol
  have hcall := hprotocol "f" 0 _ _ 0 (@CallSite.command _ _ _ listing 9 _ _ _ rfl rfl) (by decide)
  have hzero (cell : Nat) (hcell : cell < Machine.ramSize) :
      (Vector.replicate Machine.ramSize (0 : Word))[cell]? = some 0 := by
    rw [Vector.getElem?_replicate, if_pos hcell]
  obtain ⟨caller, hcaller, hpointers⟩ : ∃ caller : Memory, caller[0].toNat = 256 ∧
      ∀ cell, 1 ≤ cell → cell ≤ 4 → caller[cell]? = some 0 := by
    refine ⟨Memory.updated (Vector.replicate _ 0) [(0, 256)], by simp, fun cell hlow hhigh => ?_⟩
    rw [Memory.getElem?_updated_of_not_mem (by simp; omega)]
    exact hzero cell (Nat.lt_of_le_of_lt hhigh (by decide))
  obtain ⟨callee, hstack, hlcl, harg, hresult, hsaved⟩ : ∃ callee : Memory,
      callee[0].toNat = 262 ∧ callee[1].toNat = 261 ∧ callee[2].toNat = 256 ∧
        callee[261]? = some 7 ∧
        Memory.SavedFrame caller callee 256 (BitVec.ofNat 16 (listing.address 10)) := by
    refine ⟨Memory.updated (Vector.replicate _ 0) [(0, 262), (1, 261), (2, 256),
      (256, BitVec.ofNat 16 (listing.address 10)), (261, 7)], by simp, by simp, by simp, ?_,
      ⟨?_, ?_, ?_, ?_, ?_⟩⟩
    · exact Vector.getElem?_eq_some_iff.mpr ⟨by decide, by simp⟩
    · exact Vector.getElem?_eq_some_iff.mpr ⟨by decide, by simp⟩
    all_goals
      rw [hpointers _ (by decide) (by decide), Memory.getElem?_updated_of_not_mem (by simp)]
      exact hzero _ (by decide)
  obtain ⟨hgets, hreturns⟩ := hcall.2 ⟨program, caller, 0, 0, listing.address 9⟩ 256 rfl rfl
    hcaller (by decide) (by decide)
  obtain ⟨result, hword, hback⟩ := hreturns ⟨program, callee, 0, 0, listing.address 6⟩ 6 261 _ rfl
    rfl rfl rfl hlcl harg hsaved hstack (by decide) (by decide)
  cases hresult.symm.trans hword
  exact ⟨session, program, listing, hwritten, hassembled, by omega, caller, callee, hcaller, hstack,
    hsaved, hgets, hback⟩

end HackVm
