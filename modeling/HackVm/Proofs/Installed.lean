import HackVm.Proofs.CommandCode

/-!
# Where the code of a command stands

The instructions of an assembled listing are those of its blocks, one block after the
other. So the code of a command stands at an address of its own, the next command
follows it, and labels and functions have the addresses of the commands that declare
them.
-/

namespace HackVm

open Assembly Codegen

/-- The number of instructions that the assembler reads from lines. -/
def instructionCount (lines : List Line) : Nat := (codeTexts (lines.flatMap Line.items)).length

/-- Lines after lines. -/
theorem instructionCount_append (first second : List Line) :
    instructionCount (first ++ second) = instructionCount first + instructionCount second := by
  rw [instructionCount, List.flatMap_append, codeTexts_append, List.length_append]
  rfl

/-- Sound lines have the instructions that they are. -/
theorem instructionCount_of_sound {lines : List Line} (h : ∀ line ∈ lines, line.Sound) :
    instructionCount lines = codeSize lines := length_codeTexts_of_sound h

/-- A remark has no instructions. -/
theorem codeSize_remark (generator : Generator) (text : String) :
    codeSize (generator.remark text) = 0 := by
  unfold Generator.remark
  split <;> rfl

namespace Listing

/-- The address of the code of a command: the number of instructions before it. The end
of the code counts as the address after the last command. -/
def address (listing : Listing) (index : Nat) : Nat :=
  instructionCount (listing.prologue ++ (listing.blocks.take index).flatten)

variable {listing : Listing} {index : Nat} {block : List Line}

/-- A block stands between the blocks before it and those after it. -/
theorem lines_split (h : listing.blocks[index]? = some block) :
    listing.lines = (listing.prologue ++ (listing.blocks.take index).flatten) ++ block ++
      (listing.blocks.drop (index + 1)).flatten := by
  obtain ⟨hlt, hblock⟩ := List.getElem?_eq_some_iff.mp h
  have hsplit : listing.blocks = listing.blocks.take index ++
      block :: listing.blocks.drop (index + 1) := by
    rw [← hblock, List.getElem_cons_drop, List.take_append_drop]
  rw [lines]
  nth_rewrite 1 [hsplit]
  simp only [List.flatten_append, List.flatten_cons, List.append_assoc]

/-- The code of the next command follows the code of a command. -/
theorem address_succ (h : listing.blocks[index]? = some block) :
    listing.address (index + 1) = listing.address index + instructionCount block := by
  rw [address, List.take_add_one, h, Option.toList_some, List.flatten_append,
    List.flatten_singleton, ← List.append_assoc, instructionCount_append]
  rfl

/-- No command is past the end of the code. -/
theorem address_le (listing : Listing) (index : Nat) :
    listing.address index ≤ instructionCount listing.lines := by
  have hsplit : listing.lines = (listing.prologue ++ (listing.blocks.take index).flatten) ++
      (listing.blocks.drop index).flatten := by
    rw [lines, List.append_assoc, ← List.flatten_append, List.take_append_drop]
  rw [hsplit, instructionCount_append, address]
  omega

/-- Without a bootstrap nothing stands before the code of the commands. -/
theorem prologue_eq_nil {config : Config} {sites : List Site} {listing : Listing}
    (h : ofSites config false sites = .ok listing) : listing.prologue = [] := by
  obtain ⟨generator, final, hstart, -⟩ := of_ofSites h
  rw [start, if_neg (by decide), Except.ok.injEq, Prod.mk.injEq] at hstart
  exact hstart.2.symm

/-- With a bootstrap its code stands before the code of the commands. -/
theorem bootstrap_of_ofSites {config : Config} {sites : List Site} {listing : Listing}
    (h : ofSites config true sites = .ok listing) :
    (Generator.bootstrap { config := config }).result = .ok listing.prologue := by
  obtain ⟨generator, final, hstart, -⟩ := of_ofSites h
  obtain ⟨prologue, hlines, hpair⟩ := exists_of_map_eq_ok hstart
  rw [Prod.mk.injEq] at hpair
  rw [hlines, hpair.2]

/-- Without a bootstrap the code of the first command is at the start. -/
theorem address_zero {config : Config} {sites : List Site} {listing : Listing}
    (h : ofSites config false sites = .ok listing) : listing.address 0 = 0 := by
  rw [address, prologue_eq_nil h]
  rfl

/-- The code ends after the last command. -/
theorem address_end (listing : Listing) {index : Nat} (h : listing.blocks.length ≤ index) :
    listing.address index = instructionCount listing.lines := by
  rw [address, List.take_of_length_le h, lines]

end Listing

/-- A listing of well placed commands that was assembled into a program. -/
structure LaidOut (sites : List Site) (listing : Listing) (program : Program) : Prop where
  /-- The commands are such as the reader gives them. -/
  wellPlaced : ∀ site ∈ sites, site.WellPlaced
  /-- Each command has its block. -/
  coded : List.Forall₂ (fun site block => ∃ generator : Generator,
    ((generator.visit site).lower site.command).result = .ok block) sites listing.blocks
  /-- The lines of the listing were assembled. -/
  assembled : Assembled (listing.lines.flatMap Line.items) program

/-- A listing that was assembled and whose addresses are words. -/
structure Installed (sites : List Site) (listing : Listing) (program : Program) : Prop
    extends LaidOut sites listing program where
  /-- All addresses fit a word. -/
  size : program.code.size ≤ 65535

namespace Codegen.Generator

/-- Each command has a block. -/
theorem lowerSites_coded {generator final : Generator} {sites : List Site}
    {blocks : List (List Line)} (h : generator.lowerSites sites = .ok (final, blocks)) :
    List.Forall₂ (fun site block => ∃ generator : Generator,
      ((generator.visit site).lower site.command).result = .ok block) sites blocks := by
  induction sites generalizing generator blocks with
  | nil =>
    cases h
    exact .nil
  | cons site sites ih =>
    rw [lowerSites] at h
    cases hresult : ((generator.visit site).lower site.command).result with
    | error error =>
      rw [hresult] at h
      cases h
    | ok block =>
      rw [hresult] at h
      obtain ⟨rest, hrest, hfinal⟩ := exists_of_map_eq_ok h
      cases hfinal
      exact .cons ⟨generator, hresult⟩ (ih hrest)

/-- Each block is that of a command. -/
theorem exists_site_of_mem_blocks {generator final : Generator} {sites : List Site}
    {blocks : List (List Line)} (h : generator.lowerSites sites = .ok (final, blocks))
    {block : List Line} (hblock : block ∈ blocks) :
    ∃ site ∈ sites, ∃ generator : Generator,
      ((generator.visit site).lower site.command).result = .ok block := by
  obtain ⟨index, hindex, rfl⟩ := List.getElem_of_mem hblock
  have hcoded := lowerSites_coded h
  have hlt : index < sites.length := hcoded.length_eq ▸ hindex
  exact ⟨_, List.get_mem _ _, hcoded.get hlt hindex⟩

end Codegen.Generator

namespace LaidOut

variable {sites : List Site} {listing : Listing} {program : Program} {site : Site} {index : Nat}

/-- The predefined symbols have their values. -/
theorem knowsPredefined (h : LaidOut sites listing program) :
    KnowsPredefined program.symbols := h.assembled.predefined

/-- The program has the instructions of the listing. -/
theorem size_eq (h : LaidOut sites listing program) :
    program.code.size = instructionCount listing.lines := h.assembled.size

/-- The block of a command. -/
theorem exists_block (h : LaidOut sites listing program) (hsite : sites[index]? = some site) :
    ∃ block, listing.blocks[index]? = some block ∧ ∃ generator : Generator,
      ((generator.visit site).lower site.command).result = .ok block := by
  obtain ⟨hlt, hget⟩ := List.getElem?_eq_some_iff.mp hsite
  have hlt' : index < listing.blocks.length := h.coded.length_eq ▸ hlt
  have hcoded := h.coded.get hlt hlt'
  rw [List.get_eq_getElem, hget] at hcoded
  exact ⟨_, List.getElem?_eq_getElem hlt', hcoded⟩

/-- The code of a command whose static symbol is one stands in its place, and the next
command follows it. -/
theorem exists_placed (h : LaidOut sites listing program) (hsite : sites[index]? = some site)
    (hstatic : ∀ symbol ∈ site.static?, isSymbol symbol.toList = true) :
    ∃ (generator : Generator) (lines : List Line),
      ((generator.visit site).body site.command).2 = .ok lines ∧
        Placed program (listing.address index) lines ∧
          listing.address (index + 1) = listing.address index + codeSize lines := by
  obtain ⟨block, hblock, generator, hlower⟩ := h.exists_block hsite
  have hsound := sound_of_lower (h.wellPlaced site (List.mem_of_getElem? hsite)) hstatic hlower
  have hassembled := h.assembled
  rw [listing.lines_split hblock, List.flatMap_append, List.flatMap_append] at hassembled
  have hplaced := placed_of_assembled hassembled hsound
  have hnext := listing.address_succ hblock
  rw [instructionCount_of_sound hsound] at hnext
  obtain ⟨lines, hlines, rfl⟩ := lower_of_ok hlower
  rw [placed_append, codeSize_remark] at hplaced
  rw [codeSize_append, codeSize_remark, Nat.zero_add] at hnext
  exact ⟨generator, lines, hlines, hplaced.2, hnext⟩

/-- Sound code that starts a program stands at its start, and the first command follows it. -/
theorem placed_prologue (h : LaidOut sites listing program)
    (hsound : ∀ line ∈ listing.prologue, line.Sound) :
    Placed program 0 listing.prologue ∧ listing.address 0 = codeSize listing.prologue := by
  have hassembled : Assembled ([] ++ listing.prologue.flatMap Line.items ++
      listing.blocks.flatten.flatMap Line.items) program := by
    rw [List.nil_append, ← List.flatMap_append]
    exact h.assembled
  refine ⟨placed_of_assembled hassembled hsound, ?_⟩
  rw [Listing.address, List.take_zero, List.flatten_nil, List.append_nil,
    instructionCount_of_sound hsound]

/-- The bootstrap sets the stack pointer at the start of the program, and its call is followed by
the first command. -/
theorem placed_bootstrap (h : LaidOut sites listing program) {generator : Generator}
    (hsymbol : isSymbol generator.config.entryFunction.toList = true)
    (hlines : generator.bootstrap.result = .ok listing.prologue) :
    ∃ returnLabel, Placed program 0 (setStackPointer generator.config.stackOrigin) ∧
      Placed program (codeSize (setStackPointer generator.config.stackOrigin))
        (callFunction generator.config.entryFunction 0 returnLabel) ∧
      listing.address 0 = codeSize (setStackPointer generator.config.stackOrigin) +
        codeSize (callFunction generator.config.entryFunction 0 returnLabel) := by
  obtain ⟨hplaced, hfirst⟩ := h.placed_prologue (sound_of_bootstrap hsymbol hlines)
  rw [(bootstrap_of_ok hlines).2] at hplaced hfirst
  simp only [placed_append, codeSize_append, codeSize_remark, Nat.zero_add, Nat.add_zero]
    at hplaced hfirst
  obtain ⟨⟨⟨-, hset⟩, -⟩, hcall⟩ := hplaced
  exact ⟨_, hset, hcall, hfirst⟩

/-- A label or a function has the address of the command that declares it. -/
theorem symbol_of_declared (h : LaidOut sites listing program) {name : String}
    (hsite : sites[index]? = some site) (hdeclared : site.declared? = some name) :
    program.symbols[name]? = some (BitVec.ofNat 16 (listing.address index)) := by
  unfold Site.declared? at hdeclared
  split at hdeclared
  · rename_i other locals hcommand
    cases hdeclared
    have hstatic : site.static? = none := by rw [Site.static?, hcommand]
    obtain ⟨generator, lines, hlines, hplaced, -⟩ := h.exists_placed hsite (by simp [hstatic])
    rw [hcommand] at hlines
    cases hlines
    exact hplaced.1
  · rename_i other hcommand
    cases hdeclared
    have hstatic : site.static? = none := by rw [Site.static?, hcommand]
    obtain ⟨generator, lines, hlines, hplaced, -⟩ := h.exists_placed hsite (by simp [hstatic])
    rw [hcommand] at hlines
    obtain ⟨-, rfl⟩ := declare_of_ok hlines
    exact hplaced.1
  · cases hdeclared

/-- The static cell of a command has an address if its symbol is one. -/
theorem exists_cell (h : LaidOut sites listing program) {symbol : String}
    (hsite : sites[index]? = some site) (hstatic : site.static? = some symbol)
    (hsymbol : isSymbol symbol.toList = true) :
    ∃ cell, program.symbols[symbol]? = some cell := by
  obtain ⟨generator, lines, hlines, hplaced, -⟩ :=
    h.exists_placed hsite (by simpa [hstatic] using hsymbol)
  exact exists_value_of_placed hplaced (mem_body_of_static hstatic hlines)

end LaidOut

/-- The address of a command is a word. -/
theorem Installed.toNat_address {sites : List Site} {listing : Listing} {program : Program}
    (h : Installed sites listing program) (index : Nat) :
    (BitVec.ofNat 16 (listing.address index)).toNat = listing.address index := by
  have hle := listing.address_le index
  have hsize := h.size
  rw [h.size_eq] at hsize
  rw [BitVec.toNat_ofNat, Nat.mod_eq_of_lt (by omega)]

/-- The assembler reads the lines of a listing that was written. -/
theorem items_of_outputLines {session : Session} {listing : Listing}
    (h : session.sink.text = String.ofList (written listing.lines)) :
    session.outputLines.filterMap Item.ofLine? = listing.lines.flatMap Line.items := by
  rw [Session.outputLines, h, String.toList_ofList]
  exact items_of_written listing.lines

/-- A program that was written and assembled is laid out. -/
theorem exists_laidOut {config : Config} {bootstrap : Bool} {units : List (String × String)}
    {session : Session} {program : Program}
    (hwritten : Session.writeProgram config bootstrap units {} = (session, .ok ()))
    (hassembled : assemble session.outputLines = .ok program) :
    ∃ listing, Listing.ofSites config bootstrap (Site.ofUnits units) = .ok listing ∧
      session.sink.text = String.ofList (written listing.lines) ∧
        LaidOut (Site.ofUnits units) listing program := by
  obtain ⟨-, listing, hlisting, htext⟩ := Session.exists_listing_of_writeProgram hwritten
  obtain ⟨generator, final, -, hblocks⟩ := Listing.of_ofSites hlisting
  have hitems := assembled_of_assemble hassembled
  rw [items_of_outputLines htext] at hitems
  exact ⟨listing, hlisting, htext, fun _ hsite => Site.wellPlaced_of_mem_ofUnits hsite,
    Generator.lowerSites_coded hblocks, hitems⟩

end HackVm
