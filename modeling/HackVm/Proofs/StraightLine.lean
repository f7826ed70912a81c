import HackVm.Machine.Loader
import HackVm.Proofs.Assemblable
import HackVm.Proofs.BlockRun
import HackVm.Proofs.MemoryCells

/-!
# Straight-line programs

A program that only pushes numbers and applies operations can be evaluated with a list
for the stack. If that works, with no word missing and not too many of them, then the
loaded source text runs to its end and leaves the same words in the memory, from cell 256
on; the base pointers keep their values.
-/

namespace HackVm

open Assembly Codegen Registers

/-- Apply an operation to a stack, whose top comes first. -/
def Operation.apply? (operation : Operation) (stack : List Word) : Option (List Word) :=
  match operation.meaning, stack with
  | .unary apply, top :: rest => some (apply top :: rest)
  | .binary apply, top :: deeper :: rest => some (apply deeper top :: rest)
  | _, _ => none

namespace StraightLine

/-- The number of words that a stack may have. -/
def maxDepth : Nat := 32000

/-- Evaluate a command on a stack, whose top comes first. Only operations that find their
words, and pushes of numbers that an instruction can load onto a stack that is not full,
have a value. -/
def step? (stack : List Word) : Command → Option (List Word)
  | .operate operation => operation.apply? stack
  | .push .constant value =>
    if value.toNat ≤ Word.maxLoad ∧ stack.length < maxDepth then some (value :: stack) else none
  | _ => none

/-- Evaluate commands one after the other. -/
def evaluate? (stack : List Word) : List Command → Option (List Word)
  | [] => some stack
  | command :: commands => (step? stack command).bind fun next => evaluate? next commands

/-- What the evaluator can take. -/
theorem step?_cases {stack next : List Word} {command : Command}
    (h : step? stack command = some next) :
    (∃ operation, command = .operate operation ∧ operation.apply? stack = some next) ∨
      ∃ value, command = .push .constant value ∧ value.toNat ≤ Word.maxLoad ∧
        stack.length < maxDepth ∧ next = value :: stack := by
  unfold step? at h
  split at h
  · exact .inl ⟨_, rfl, h⟩
  · rename_i value
    split at h
    · rename_i hfits
      cases h
      exact .inr ⟨value, rfl, hfits.1, hfits.2, rfl⟩
    · cases h
  · cases h

/-- The commands of straight-line programs. -/
inductive IsArithmetic : Command → Prop
  /-- An operation. -/
  | operate (operation : Operation) : IsArithmetic (.operate operation)
  /-- A push of a number that an instruction can load. -/
  | push {value : Word} (h : value.toNat ≤ Word.maxLoad) : IsArithmetic (.push .constant value)

/-- Only commands of straight-line programs are evaluated. -/
theorem isArithmetic_of_evaluate? {stack final : List Word} {commands : List Command}
    (h : evaluate? stack commands = some final) : ∀ command ∈ commands, IsArithmetic command := by
  induction commands generalizing stack with
  | nil => simp
  | cons command commands ih =>
    obtain ⟨next, hnext, hrest⟩ := Option.bind_eq_some_iff.mp h
    refine List.forall_mem_cons.mpr ⟨?_, ih hrest⟩
    obtain ⟨operation, rfl, -⟩ | ⟨value, rfl, hload, -⟩ := step?_cases hnext
    · exact .operate operation
    · exact .push hload

/-- The commands of straight-line programs can be read. -/
theorem IsArithmetic.grammatical {command : Command} (h : IsArithmetic command) :
    command.Grammatical := by
  cases h with
  | operate operation => trivial
  | push hload => exact .inr hload

/-- The words of a stack stand in the memory from cell 256 on, the top last. -/
def Stacked (memory : Memory) : List Word → Prop
  | [] => True
  | value :: stack => memory[256 + stack.length]? = some value ∧ Stacked memory stack

/-- A cell outside of a stack may change. -/
theorem Stacked.set {memory : Memory} {stack : List Word} (h : Stacked memory stack)
    {address : Nat} (value : Word) (hlt : address < Machine.ramSize)
    (houtside : address < 256 ∨ 256 + stack.length ≤ address) :
    Stacked (memory.set address value hlt) stack := by
  induction stack with
  | nil => trivial
  | cons top stack ih =>
    rw [List.length_cons] at houtside
    refine ⟨?_, ih h.2 (by omega)⟩
    rw [Vector.getElem?_set_ne hlt (by omega)]
    exact h.1

/-- A memory that holds a stack, with the pointers of a frame. -/
structure Holds (frame memory : Memory) (stack : List Word) : Prop where
  /-- There is room for the stack. -/
  depth : stack.length ≤ maxDepth
  /-- The stack pointer is past the top. -/
  pointer : memory.top = BitVec.ofNat 16 (256 + stack.length)
  /-- The words are in their cells. -/
  stacked : Stacked memory stack
  /-- The base pointers are those of the frame. -/
  frame : ∀ address, 1 ≤ address → address ≤ 4 → memory[address]? = frame[address]?

section Effects

open Memory (read_cell write_cell)

variable {frame memory : Memory} {stack : List Word} {top : Word}

/-- Setting the stack pointer keeps the frame. -/
theorem Holds.frame_set (h : Holds frame memory stack) (value : Word) :
    ∀ address, 1 ≤ address → address ≤ 4 → (memory.set 0 value)[address]? = frame[address]? := by
  intro address hlow hhigh
  rw [Vector.getElem?_set_ne _ (by omega)]
  exact h.frame address hlow hhigh

/-- A push onto a stack that is not full. -/
theorem Holds.push (h : Holds frame memory stack) (hroom : stack.length < maxDepth)
    (value : Word) : ∃ after, memory.push value = .ok after ∧
      Holds frame after (value :: stack) := by
  have hlt : 256 + stack.length < Machine.ramSize := by
    unfold maxDepth at hroom
    unfold Machine.ramSize
    omega
  refine ⟨_, by rw [Memory.push_eq, h.pointer, write_cell hlt], hroom, ?_, ⟨?_, ?_⟩, ?_⟩
  · rw [Memory.top_eq, Vector.getElem_set_ne _ _ (by omega), Vector.getElem_set_self,
      List.length_cons, ← Nat.add_assoc, BitVec.ofNat_add _ 1]
    rfl
  · rw [Vector.getElem?_set_self]
  · exact (h.stacked.set _ (by decide) (by omega)).set _ hlt (by omega)
  · intro address hlow hhigh
    rw [Vector.getElem?_set_ne _ (by omega)]
    exact h.frame_set _ address hlow hhigh

/-- The top word is below the stack pointer. -/
theorem Holds.pointer_sub_one (h : Holds frame memory (top :: stack)) :
    memory.top - 1 = BitVec.ofNat 16 (256 + stack.length) := by
  rw [h.pointer, List.length_cons, ← Nat.add_assoc, Memory.ofNat_succ_sub_one]

/-- The cell of the top word. -/
theorem Holds.top_lt (h : Holds frame memory (top :: stack)) :
    256 + stack.length < Machine.ramSize := by
  have hdepth := h.depth
  rw [List.length_cons, maxDepth] at hdepth
  unfold Machine.ramSize
  omega

/-- A pop of the top word. -/
theorem Holds.pop (h : Holds frame memory (top :: stack)) :
    ∃ after, memory.pop = .ok (top, after) ∧ Holds frame after stack := by
  have hlt := h.top_lt
  have hcell : (memory.set 0 (BitVec.ofNat 16 (256 + stack.length)))[256 + stack.length] = top := by
    rw [Vector.getElem_set_ne _ _ (by omega)]
    exact (Vector.getElem?_eq_some_iff.mp h.stacked.1).2
  refine ⟨_, by rw [Memory.pop_eq, h.pointer_sub_one, read_cell hlt, hcell, ok_bind], ?_, ?_,
    h.stacked.2.set _ _ (.inl (by decide)), h.frame_set _⟩
  · exact Nat.le_of_succ_le h.depth
  · rw [Memory.top_set]

/-- A replacement of the top word. -/
theorem Holds.replaceTop (h : Holds frame memory (top :: stack)) (update : Word → Word) :
    ∃ after, memory.replaceTop update = .ok after ∧
      Holds frame after (update top :: stack) := by
  have hlt := h.top_lt
  have hcell : memory[256 + stack.length] = top :=
    (Vector.getElem?_eq_some_iff.mp h.stacked.1).2
  refine ⟨_, by rw [Memory.replaceTop_eq, h.pointer_sub_one, read_cell hlt, hcell, ok_bind,
    write_cell hlt], h.depth, ?_, ⟨?_, h.stacked.2.set _ hlt (by omega)⟩, ?_⟩
  · rw [Memory.top_eq, Vector.getElem_set_ne _ _ (by omega)]
    exact h.pointer
  · rw [Vector.getElem?_set_self]
  · intro address hlow hhigh
    rw [Vector.getElem?_set_ne _ (by omega)]
    exact h.frame address hlow hhigh

/-- An operation that finds its words. -/
theorem Holds.operate (h : Holds frame memory stack) {operation : Operation} {next : List Word}
    (happly : operation.apply? stack = some next) :
    ∃ after, memory.operate operation = .ok after ∧ Holds frame after next := by
  unfold Operation.apply? at happly
  unfold Memory.operate
  cases hmeaning : operation.meaning with
  | unary apply =>
    rw [hmeaning] at happly
    cases stack with
    | nil => cases happly
    | cons top stack =>
      cases happly
      exact h.replaceTop apply
  | binary apply =>
    rw [hmeaning] at happly
    match stack, h, happly with
    | top :: deeper :: stack, h, happly =>
      cases happly
      obtain ⟨popped, hpop, hpopped⟩ := h.pop
      dsimp only
      rw [hpop]
      exact hpopped.replaceTop fun word => apply word top

end Effects

/-- What a command of a straight-line program does to the memory. -/
def perform (memory : Memory) : Command → Except Machine.Fault Memory
  | .operate operation => memory.operate operation
  | .push _ value => memory.push value
  | _ => .ok memory

/-- Commands that can be evaluated have the effect of their evaluation. -/
theorem Holds.perform {frame memory : Memory} {stack final : List Word} {commands : List Command}
    (h : Holds frame memory stack) (hvalue : evaluate? stack commands = some final) :
    ∃ after, commands.foldlM StraightLine.perform memory = .ok after ∧
      Holds frame after final := by
  induction commands generalizing stack memory with
  | nil =>
    cases hvalue
    exact ⟨memory, rfl, h⟩
  | cons command commands ih =>
    obtain ⟨next, hnext, hrest⟩ := Option.bind_eq_some_iff.mp hvalue
    have hfirst : ∃ after, StraightLine.perform memory command = .ok after ∧
        Holds frame after next := by
      obtain ⟨operation, rfl, happly⟩ | ⟨value, rfl, -, hroom, rfl⟩ := step?_cases hnext
      · exact h.operate happly
      · exact h.push hroom value
    obtain ⟨middle, hmiddle, hholds⟩ := hfirst
    rw [List.foldlM_cons, hmiddle]
    exact ih hholds hrest

/-- The words of a stack, read from the memory. -/
theorem take_of_stacked {memory : Memory} {stack : List Word} (h : Stacked memory stack) :
    (memory.toList.drop 256).take stack.length = stack.reverse := by
  induction stack with
  | nil => rfl
  | cons top stack ih =>
    rw [List.length_cons, List.take_add_one, ih h.2, List.getElem?_drop, Vector.getElem?_toList,
      h.1, List.reverse_cons]
    rfl

section Code

variable {command : Command} {generator : Generator} {lines : List Line}

/-- The code of a push of a number. -/
theorem body_push (generator : Generator) {value : Word} (h : value.toNat ≤ Word.maxLoad) :
    (generator.body (.push .constant value)).2 = .ok (pushConstant value) := by
  rw [Generator.body, Generator.push]
  exact if_neg (Nat.not_lt.mpr h)

/-- Straight-line commands have code. -/
theorem IsArithmetic.exists_body (h : IsArithmetic command) (generator : Generator) :
    ∃ lines, (generator.body command).2 = .ok lines := by
  cases h with
  | operate operation => exact ⟨_, rfl⟩
  | push hload => exact ⟨_, body_push generator hload⟩

/-- The code of a straight-line command refers to predefined symbols and to labels of
its own only. -/
theorem IsArithmetic.symbol_of_body (h : IsArithmetic command)
    (hlines : (generator.body command).2 = .ok lines) {name : String}
    (hname : .symbol name ∈ lines) : name ∈ labelNames lines ∨ name ∈ predefinedNames := by
  have hpointer : "SP" ∈ predefinedNames := by decide
  cases h with
  | push hload =>
    rw [body_push generator hload] at hlines
    cases hlines
    simp [pushConstant, pushData, stackPointer, Line.store] at hname
    exact .inr (hname ▸ hpointer)
  | operate operation =>
    cases hlines
    cases operation with
    | neg | not | add | sub | and | or =>
      simp [Generator.operate, unary, binary, stackPointer, Line.store] at hname
      exact .inr (hname ▸ hpointer)
    | eq | gt | lt =>
      simp [Generator.operate, Generator.comparison, compareTop, stackPointer, Line.store,
        Line.branch] at hname
      simp [Generator.operate, Generator.comparison, compareTop, stackPointer, Line.store,
        Line.branch, labelNames, Line.label?]
      grind

/-- Straight-line commands have blocks. -/
theorem exists_blocks {sites : List Site}
    (h : ∀ site ∈ sites, IsArithmetic site.command) (generator : Generator) :
    ∃ final blocks, generator.lowerSites sites = .ok (final, blocks) := by
  induction sites generalizing generator with
  | nil => exact ⟨_, _, rfl⟩
  | cons site sites ih =>
    rw [List.forall_mem_cons] at h
    obtain ⟨lines, hlines⟩ := h.1.exists_body (generator.visit site)
    obtain ⟨final, blocks, hblocks⟩ := ih h.2 ((generator.visit site).lower site.command).generator
    have hresult : ((generator.visit site).lower site.command).result =
        .ok ((generator.visit site).remark site.command.text ++ lines) := by
      rw [Generator.lower, hlines]
      rfl
    rw [Generator.lowerSites, hresult, ok_bind, hblocks]
    exact ⟨_, _, rfl⟩

/-- Straight-line commands have a listing. -/
theorem exists_listing {sites : List Site} (h : ∀ site ∈ sites, IsArithmetic site.command) :
    ∃ listing, Listing.ofSites {} false sites = .ok listing := by
  obtain ⟨final, blocks, hblocks⟩ := exists_blocks h {}
  refine ⟨⟨[], blocks⟩, ?_⟩
  rw [Listing.ofSites, Listing.start, if_neg (by decide), ok_bind, hblocks]
  rfl

/-- The code of a straight-line program has no variables. -/
theorem undeclared_eq_nil {sites : List Site} {listing : Listing}
    (h : ∀ site ∈ sites, IsArithmetic site.command)
    (hlisting : Listing.ofSites {} false sites = .ok listing)
    (hsound : ∀ line ∈ listing.lines, line.Sound) :
    undeclared (listing.lines.flatMap Line.items) = [] := by
  obtain ⟨generator, final, -, hblocks⟩ := Listing.of_ofSites hlisting
  have hknown : ∀ name ∈ references (listing.lines.flatMap Line.items),
      name ∈ labelNames listing.lines ∨ name ∈ predefinedNames := by
    intro name hname
    have hline := mem_of_mem_references hsound hname
    rw [Listing.lines, Listing.prologue_eq_nil hlisting, List.nil_append] at hline
    obtain ⟨block, hblock, hline⟩ := List.mem_flatten.mp hline
    obtain ⟨site, hsite, earlier, hlower⟩ := Generator.exists_site_of_mem_blocks hblocks hblock
    obtain ⟨lines, hlines, rfl⟩ := lower_of_ok hlower
    have hcode : .symbol name ∈ lines := by
      rw [List.mem_append, Generator.remark] at hline
      obtain hremark | hcode := hline
      · split at hremark <;> simp at hremark
      · exact hcode
    obtain hlabel | hpredefined := (h site hsite).symbol_of_body hlines hcode
    · left
      rw [Listing.lines, labelNames_append, List.mem_append]
      right
      obtain ⟨line, hline, hname⟩ := List.mem_filterMap.mp hlabel
      exact List.mem_filterMap.mpr ⟨line, List.mem_flatten.mpr
        ⟨_, hblock, List.mem_append_right _ hline⟩, hname⟩
    · exact .inr hpredefined
  rw [undeclared, declarations_of_sound hsound, List.filter_eq_nil_iff.mpr]
  · rfl
  · intro name hname
    obtain hlabel | hpredefined := hknown name hname
    · simp [hlabel]
    · simp [hpredefined]

end Code

section Run

variable {sites : List Site} {listing : Listing} {program : Program}

/-- The code of a straight-line command has the effect of the command, and ends where the
code of the next command starts. -/
theorem arrives_command (h : Installed sites listing program) {index : Nat} {site : Site}
    (hsite : sites[index]? = some site) (hcommand : IsArithmetic site.command)
    (memory : Memory) (a d : Word) :
    listing.address index ≤ listing.address (index + 1) ∧
      (machine ⟨memory, a, d⟩ program (listing.address index)).Arrives 0
        (listing.address (index + 1) - listing.address index)
        ((perform memory site.command).map fun after =>
          (after, listing.address (index + 1))) := by
  have hstatic : site.static? = none := by
    rw [Site.static?]
    generalize site.command = command at hcommand
    cases hcommand <;> rfl
  obtain ⟨generator, lines, hlines, hplaced, hnext⟩ := h.exists_placed hsite (by simp [hstatic])
  have hbound : listing.address index + codeSize lines ≤ 65535 := by
    have hle := listing.address_le (index + 1)
    have hsize := h.size
    rw [h.size_eq] at hsize
    omega
  rw [hnext, Nat.add_sub_cancel_left]
  refine ⟨Nat.le_add_right _ _, ?_⟩
  generalize site.command = command at hcommand hlines
  cases hcommand with
  | operate operation =>
    cases hlines
    exact (Machine.arrives_operate h.knowsPredefined hplaced hbound).mono (Nat.zero_le _)
      (Nat.le_refl _)
  | @push value hload =>
    rw [body_push _ hload] at hlines
    cases hlines
    have hstraight : ∀ line ∈ pushConstant value, line.Straight := by
      simp [pushConstant, pushData, stackPointer, Line.Straight, Line.store]
    exact (Machine.arrives_of_straight hplaced hstraight
      (runLines_pushConstant h.knowsPredefined memory a d value)).mono (Nat.zero_le _)
      (Nat.le_refl _)

/-- The code of straight-line commands up to the end of the program has the effect of the
commands, in no more steps than it has instructions. -/
theorem arrives_commands (h : Installed sites listing program) {index : Nat}
    {commands : List Command} (hrest : (sites.drop index).map Site.command = commands)
    (hcommands : ∀ command ∈ commands, IsArithmetic command) {memory after : Memory}
    (hafter : commands.foldlM perform memory = .ok after) (a d : Word) :
    listing.address index ≤ program.code.size ∧
      (machine ⟨memory, a, d⟩ program (listing.address index)).Arrives 0
        (program.code.size - listing.address index) (.ok (after, program.code.size)) := by
  induction commands generalizing index memory a d with
  | nil =>
    cases hafter
    have hlength : listing.blocks.length ≤ index := by
      rw [← h.coded.length_eq]
      exact List.drop_eq_nil_iff.mp (List.map_eq_nil_iff.mp hrest)
    rw [h.size_eq, ← listing.address_end hlength, Nat.sub_self]
    exact ⟨Nat.le_refl _, .ok (⟨_, a, d⟩, listing.address index), .refl _, rfl⟩
  | cons command commands ih =>
    rw [List.forall_mem_cons] at hcommands
    obtain ⟨site, others, hdrop, rfl, hothers⟩ := List.map_eq_cons_iff.mp hrest
    have hsite : sites[index]? = some site := by
      rw [← Nat.add_zero index, ← List.getElem?_drop, hdrop]
      rfl
    have htail : (sites.drop (index + 1)).map Site.command = commands := by
      rw [← List.drop_drop, hdrop]
      exact hothers
    rw [List.foldlM_cons] at hafter
    obtain ⟨hle, hfirst⟩ := arrives_command h hsite hcommands.1 memory a d
    cases hmiddle : perform memory site.command with
    | error fault =>
      rw [hmiddle] at hafter
      cases hafter
    | ok middle =>
      rw [hmiddle] at hafter hfirst
      have hnext := ih htail hcommands.2 hafter
      have hend := (hnext a d).1
      refine ⟨by omega, (hfirst.trans fun address data => (hnext address data).2).mono
        (Nat.zero_le _) (by omega)⟩

end Run

end StraightLine

namespace Machine

/-- A machine that takes a step has an instruction to execute. -/
theorem halted_eq_false {machine next : Machine} (h : machine.step = (next, .ok ())) :
    machine.halted = false := by
  rw [← Bool.not_eq_true]
  intro hhalted
  rw [step_of_halted hhalted] at h
  cases h

/-- A machine that gets to the end of its program in a number of steps stops there if the
budget is larger. -/
theorem run_of_steps {machine target : Machine} {count budget : Nat}
    (hsteps : machine.steps count = (target, .ok ())) (hhalted : target.halted = true)
    (hbudget : count < budget) : machine.run budget = (target, .ok ()) := by
  unfold run
  generalize Fault.unfinished budget = late
  induction count generalizing machine budget with
  | zero =>
    cases hsteps
    obtain ⟨rounds, rfl⟩ := Nat.exists_eq_add_of_lt hbudget
    rw [Nat.zero_add, runUntil, if_pos hhalted]
  | succ count ih =>
    obtain ⟨rounds, rfl⟩ := Nat.exists_eq_add_of_lt hbudget
    rw [steps] at hsteps
    split at hsteps
    · rename_i next hstep
      have hrounds : count + 1 + rounds + 1 = (count + 1 + rounds) + 1 := rfl
      rw [hrounds, runUntil, if_neg (by rw [halted_eq_false hstep]; decide)]
      dsimp only
      rw [hstep]
      exact ih hsteps (by omega)
    · cases hsteps

/-- A machine with the usual frame is at the first instruction. -/
theorem startWithFrame_eq (program : Program) :
    machine ⟨(startWithFrame program).ram, 0, 0⟩ program 0 = startWithFrame program := rfl

/-- The pointers of the usual frame. -/
theorem startWithFrame_pointers (program : Program) :
    (startWithFrame program).ram[0]? = some 256 ∧ (startWithFrame program).ram[1]? = some 300 ∧
      (startWithFrame program).ram[2]? = some 400 ∧
        (startWithFrame program).ram[3]? = some 3000 ∧
          (startWithFrame program).ram[4]? = some 3010 := by
  have hram : (startWithFrame program).ram =
      ((((((Vector.replicate ramSize (0 : Word)).set 0 256 (by decide)).set 1 300 (by decide)).set
        2 400 (by decide)).set 3 3000 (by decide)).set 4 3010 (by decide)) := rfl
  rw [hram]
  simp

end Machine

namespace StraightLine

/-- A straight-line program has no functions. -/
theorem functionNames_eq_nil {sites : List Site} (h : ∀ site ∈ sites, IsArithmetic site.command) :
    sites.filterMap Site.functionName? = [] := by
  rw [List.filterMap_eq_nil_iff]
  intro site hsite
  have hcommand := h site hsite
  rw [Site.functionName?]
  generalize site.command = command at hcommand
  cases hcommand <;> rfl

/-- The commands of source text that can be read. -/
theorem ofUnits_of_parse {unit text : String} {commands : List Command}
    (h : Grammar.parse text = .ok commands) :
    Site.ofUnits [(unit, text)] = Site.ofCommands unit none commands := by
  rw [Site.ofUnits, List.flatMap_singleton, Site.commandsOf, h]
  rfl

/-- Source text with a straight-line command on each line can be loaded. -/
theorem exists_load {text : String} {commands : List Command}
    (hcommands : ∀ command ∈ commands, IsArithmetic command)
    (hlines : Text.lines text.toList = commands.map fun command => command.text.toList) :
    ∃ program listing, Machine.load text = .ok (Machine.startWithFrame program) ∧
      Listing.ofSites {} false (Site.ofCommands "Test" none commands) = .ok listing ∧
        program.code.size = codeSize listing.lines ∧
          (program.code.size ≤ 65535 →
            Installed (Site.ofCommands "Test" none commands) listing program) := by
  have hparse : Grammar.parse text = .ok commands :=
    Grammar.parse_of_lines (fun command hc => (hcommands command hc).grammatical) hlines
  have hsites : Site.ofUnits [("Test", text)] = Site.ofCommands "Test" none commands :=
    ofUnits_of_parse hparse
  have harithmetic : ∀ site ∈ Site.ofUnits [("Test", text)], IsArithmetic site.command := by
    intro site hsite
    refine hcommands _ ?_
    rw [hsites] at hsite
    rw [← Site.map_command_ofCommands "Test" none commands]
    exact List.mem_map_of_mem hsite
  have hfunctions := functionNames_eq_nil harithmetic
  have hunits : ∀ unit ∈ [("Test", text)], ∃ commands, Grammar.parse unit.2 = .ok commands := by
    intro unit hunit
    rw [List.mem_singleton.mp hunit]
    exact ⟨commands, hparse⟩
  have hnames : ∀ unit ∈ [("Test", text)], isSymbol unit.1.toList = true := by
    intro unit hunit
    rw [List.mem_singleton.mp hunit]
    show isSymbol "Test".toList = true
    decide
  have hentry : false = true → isSymbol ({} : Config).entryFunction.toList = true := by simp
  obtain ⟨listing, hlisting⟩ := exists_listing harithmetic
  have hsound := Listing.sound_of_ofSites (fun _ hsite => Site.wellPlaced_of_mem_ofUnits hsite)
    (Site.isSymbol_unit_of_mem hnames) hentry hlisting
  have hroom : firstVariable + (undeclared (listing.lines.flatMap Line.items)).length ≤ 65535 := by
    rw [undeclared_eq_nil harithmetic hlisting hsound]
    decide
  obtain ⟨session, program, hwritten, -, hassembled, hcode⟩ := exists_program hunits hnames hentry
    hlisting (by rw [hfunctions]; exact List.nodup_nil) (by rw [hfunctions]; simp) hroom
  rw [← hsites]
  refine ⟨program, listing, ?_, hlisting, hcode, fun hsize => ?_⟩
  · have hassemble : assemble ((Text.lines session.sink.text.toList).map String.ofList) =
        .ok program := hassembled
    simp only [Machine.load, Machine.programOfUnits, Machine.generateLines, hwritten, hassemble]
    rfl
  · obtain ⟨other, hother, -, hlaid⟩ := exists_laidOut hwritten hassembled
    rw [hlisting] at hother
    cases hother
    exact ⟨hlaid, hsize⟩

/-- The stack of a machine is the one that its memory holds. -/
theorem Holds.stack {frame : Memory} {stack : List Word} {machine : Machine}
    (h : Holds frame machine.ram stack) :
    machine.ram[0].toNat = 256 + stack.length ∧ machine.stack 256 = .ok stack.reverse := by
  have hdepth := h.depth
  rw [maxDepth] at hdepth
  have hpointer : machine.ram[0].toNat = 256 + stack.length := by
    have htop : machine.ram[0] = BitVec.ofNat 16 (256 + stack.length) := h.pointer
    rw [htop, BitVec.toNat_ofNat, Nat.mod_eq_of_lt (by omega)]
  have hsign : 0 ≤ machine.ram[0].toInt := by
    rw [BitVec.toInt_eq_toNat_of_lt (by omega)]
    omega
  refine ⟨hpointer, ?_⟩
  rw [Machine.stack, if_pos ⟨hsign, by omega⟩, hpointer, List.drop_take, Nat.add_sub_cancel_left,
    take_of_stacked h.stacked]

end StraightLine

/-- Straight-line programs compute what they evaluate to. Source text that has on each line
a push of a number or an operation can be loaded if these commands have a value, starting
from the empty stack. If the instructions can be addressed, the loaded machine gets to the
end of its program within every budget above their number. Then the stack pointer is past
the words of the value, the stack has these words, the deepest first, and the base pointers
are as they were. -/
theorem run_load_of_evaluate {text : String} {commands : List Command} {stack : List Word}
    (hlines : Text.lines text.toList = commands.map fun command => command.text.toList)
    (hvalue : StraightLine.evaluate? [] commands = some stack) :
    ∃ machine, Machine.load text = .ok machine ∧
      (machine.program.code.size ≤ 65535 → ∀ budget, machine.program.code.size < budget →
        ∃ final, machine.run budget = (final, .ok ()) ∧
          final.ram[0].toNat = 256 + stack.length ∧ final.stack 256 = .ok stack.reverse ∧
            final.ram[1]? = some 300 ∧ final.ram[2]? = some 400 ∧ final.ram[3]? = some 3000 ∧
              final.ram[4]? = some 3010) := by
  have hcommands := StraightLine.isArithmetic_of_evaluate? hvalue
  obtain ⟨program, listing, hload, hlisting, -, hinstalled⟩ :=
    StraightLine.exists_load hcommands hlines
  refine ⟨_, hload, fun hsize budget hbudget => ?_⟩
  obtain ⟨hpointer, hlcl, harg, hthis, hthat⟩ := Machine.startWithFrame_pointers program
  have hstart : StraightLine.Holds (Machine.startWithFrame program).ram
      (Machine.startWithFrame program).ram [] :=
    ⟨Nat.zero_le _, (Vector.getElem?_eq_some_iff.mp hpointer).2, trivial, fun _ _ _ => rfl⟩
  obtain ⟨after, hafter, hholds⟩ := hstart.perform hvalue
  have hall : ((Site.ofCommands "Test" none commands).drop 0).map Site.command = commands :=
    Site.map_command_ofCommands "Test" none commands
  obtain ⟨-, harrives⟩ := StraightLine.arrives_commands (hinstalled hsize) hall hcommands hafter
    0 0
  rw [Listing.address_zero hlisting, Machine.startWithFrame_eq] at harrives
  obtain ⟨count, final, hsteps, hprogram, rfl, hcounter, -, hmost⟩ :=
    Machine.exists_steps_of_arrives harrives
  have hhalted : final.halted = true := by
    rw [Machine.halted, hprogram, hcounter, decide_eq_true_eq]
    exact Nat.le_refl _
  refine ⟨final, Machine.run_of_steps hsteps hhalted ?_, hholds.stack.1, hholds.stack.2, ?_⟩
  · exact Nat.lt_of_le_of_lt (hmost.trans (Nat.sub_le _ _)) hbudget
  · rw [hholds.frame 1 (by decide) (by decide), hholds.frame 2 (by decide) (by decide),
      hholds.frame 3 (by decide) (by decide), hholds.frame 4 (by decide) (by decide)]
    exact ⟨hlcl, harg, hthis, hthat⟩

/-- A sum that leaves the signed range is negative, but its difference to one is positive. -/
theorem run_load_of_evaluate_overflow : ∃ machine,
    Machine.load "push constant 5\npush constant 32767\npush constant 1\nadd\npush constant 1\ngt" =
      .ok machine ∧ machine.program.code.size ≤ 65535 ∧
    ∃ final, machine.run 65536 = (final, .ok ()) ∧ final.ram[0].toNat = 258 ∧
      final.stack 256 = .ok [5, -1] := by
  have hlines : Text.lines
      "push constant 5\npush constant 32767\npush constant 1\nadd\npush constant 1\ngt".toList =
        [.push .constant 5, .push .constant 32767, .push .constant 1, .operate .add,
          .push .constant 1, .operate .gt].map fun command : Command => command.text.toList := by
    decide +kernel
  have hvalue : StraightLine.evaluate? [] [.push .constant 5, .push .constant 32767,
      .push .constant 1, .operate .add, .push .constant 1, .operate .gt] = some [-1, 5] := by
    decide
  obtain ⟨machine, hload, hrun⟩ := run_load_of_evaluate hlines hvalue
  obtain ⟨program, listing, hloaded, hlisting, hcode, -⟩ := StraightLine.exists_load
    (StraightLine.isArithmetic_of_evaluate? hvalue) hlines
  have hsize : machine.program.code.size ≤ 65535 := by
    rw [hload] at hloaded
    cases hloaded
    cases hlisting
    show program.code.size ≤ 65535
    rw [hcode]
    decide +kernel
  obtain ⟨final, hfinal, hpointer, hstack, -⟩ := hrun hsize 65536 (by omega)
  exact ⟨machine, hload, hsize, final, hfinal, hpointer, hstack⟩

end HackVm
