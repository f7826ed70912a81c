import HackVm.Proofs.Assemblable

/-!
# Static cells

The symbol of a static cell is the name of its unit, a point and an index. Different
cells have different symbols. As long as no function or label of the program has the
symbol, it is a variable, with a cell of its own from 16 on. But a function may have a
point and digits in its name, and then the symbol stands for the address of its code.
-/

namespace HackVm

open Assembly Codegen

section Symbols

/-- There is no point in a decimal text. -/
theorem point_not_mem_toString (number : Nat) : '.' ∉ (toString number).toList := fun hmem =>
  absurd (Word.isDigit_of_mem_toString hmem) (by decide)

/-- The characters of a static symbol. -/
theorem toList_staticSymbol (unit : String) (index : Word) :
    (staticSymbol unit index).toList = unit.toList ++ '.' :: (toString index.toNat).toList := by
  simp [staticSymbol, Word.decimal]

/-- Different static cells have different symbols. -/
theorem staticSymbol_inj {unit other : String} {index count : Word} :
    staticSymbol unit index = staticSymbol other count ↔ unit = other ∧ index = count := by
  constructor
  · intro h
    have hchars := congrArg String.toList h
    rw [toList_staticSymbol, toList_staticSymbol] at hchars
    obtain ⟨hunit, hindex⟩ := numbered_inj (by decide) hchars
    exact ⟨String.toList_inj.mp hunit, BitVec.eq_of_toNat_eq hindex⟩
  · rintro ⟨rfl, rfl⟩
    rfl

/-- There is a point in a static symbol. -/
theorem point_mem_staticSymbol (unit : String) (index : Word) :
    '.' ∈ (staticSymbol unit index).toList := by
  rw [toList_staticSymbol]
  simp

/-- No predefined symbol is a static one. -/
theorem staticSymbol_not_mem_predefinedNames (unit : String) (index : Word) :
    staticSymbol unit index ∉ predefinedNames := by
  have hplain : ∀ name ∈ predefinedNames, '.' ∉ name.toList := by decide
  exact fun hmem => hplain _ hmem (point_mem_staticSymbol unit index)

/-- No generated label is a static symbol. -/
theorem staticSymbol_ne_label {stem : String} (hstem : stem ∈ stems) (number : Nat)
    (unit : String) (index : Word) :
    staticSymbol unit index ≠ LabelSupply.label stem number := by
  have hplain : ∀ text ∈ stems, '.' ∉ text.toList := by decide
  intro h
  have hpoint := point_mem_staticSymbol unit index
  rw [h, toList_label, List.mem_append, List.mem_cons] at hpoint
  obtain hpoint | hpoint | hpoint := hpoint
  · exact hplain stem hstem hpoint
  · cases hpoint
  · exact point_not_mem_toString number hpoint

end Symbols

/-- The index of the static cell that a command uses. -/
def Site.staticIndex? (site : Site) : Option Word :=
  match site.command with
  | .push .static index | .pop .static index => some index
  | _ => none

/-- The symbol of the static cell that a command uses. -/
theorem Site.static?_of_staticIndex? {site : Site} {index : Word}
    (h : site.staticIndex? = some index) : site.static? = some (staticSymbol site.unit index) := by
  unfold staticIndex? at h
  unfold static?
  revert h
  cases site.command with
  | push segment other | pop segment other =>
    cases segment <;> intro h <;> cases h
    rfl
  | _ =>
    intro h
    cases h

/-- Whether a function or a label of a program has a symbol. -/
def Site.IsDeclared (sites : List Site) (symbol : String) : Prop :=
  ∃ site ∈ sites, site.declared? = some symbol

/-- The names that the code of a command declares are its own or generated. -/
theorem Codegen.Generator.mem_names {generator : Generator} {site : Site} {name : String}
    (h : name ∈ (generator.visit site).names site.command) :
    site.declared? = some name ∨
      ∃ stem ∈ stems, ∃ number, name = LabelSupply.label stem number := by
  unfold Site.declared?
  cases hcommand : site.command with
  | operate operation =>
    rw [hcommand] at h
    cases operation with
    | eq | gt | lt =>
      rw [names, List.mem_cons, List.mem_singleton] at h
      obtain rfl | rfl := h
      · exact .inr ⟨"TRUE", by decide, _, rfl⟩
      · exact .inr ⟨"END", by decide, _, rfl⟩
    | _ => cases h
  | label other =>
    rw [hcommand, names, List.mem_singleton] at h
    exact .inl (congrArg some h.symm)
  | function other locals =>
    rw [hcommand, names, List.mem_singleton] at h
    exact .inl (congrArg some h.symm)
  | call other arguments =>
    rw [hcommand, names, List.mem_singleton] at h
    exact .inr ⟨"RETURN", by decide, _, h⟩
  | push segment index | pop segment index | goto other | ifGoto other | ret =>
    rw [hcommand] at h
    cases h

/-- The symbol of a function or a label is among the names of its code. -/
theorem Codegen.Generator.mem_names_of_declared {site : Site} {name : String}
    (h : site.declared? = some name) (generator : Generator) :
    name ∈ (generator.visit site).names site.command := by
  unfold Site.declared? at h
  split at h
  · rename_i other locals hcommand
    rw [hcommand, names, List.mem_singleton]
    exact (Option.some.inj h).symm
  · rename_i other hcommand
    rw [hcommand, names, List.mem_singleton]
    exact (Option.some.inj h).symm
  · cases h

/-- The labels of a listing are declared by commands or generated. -/
theorem Listing.mem_labelNames {config : Config} {bootstrap : Bool} {sites : List Site}
    {listing : Listing} (h : Listing.ofSites config bootstrap sites = .ok listing) {name : String}
    (hname : name ∈ labelNames listing.lines) :
    Site.IsDeclared sites name ∨
      ∃ stem ∈ stems, ∃ number, name = LabelSupply.label stem number := by
  obtain ⟨generator, final, -, hblocks⟩ := Listing.of_ofSites h
  rw [Listing.lines, labelNames_append, List.mem_append] at hname
  obtain hname | hname := hname
  · right
    cases bootstrap with
    | true =>
      rw [Generator.labelNames_of_bootstrap (Listing.bootstrap_of_ofSites h),
        List.mem_singleton] at hname
      exact ⟨"RETURN", by decide, _, hname⟩
    | false =>
      rw [Listing.prologue_eq_nil h] at hname
      cases hname
  · obtain ⟨line, hline, hlabel⟩ := List.mem_filterMap.mp hname
    obtain ⟨block, hblock, hline⟩ := List.mem_flatten.mp hline
    obtain ⟨site, hsite, earlier, hlower⟩ := Generator.exists_site_of_mem_blocks hblocks hblock
    have hmem : name ∈ labelNames block := List.mem_filterMap.mpr ⟨line, hline, hlabel⟩
    rw [Generator.labelNames_of_lower hlower] at hmem
    exact (Generator.mem_names hmem).imp_left fun hdeclared => ⟨site, hsite, hdeclared⟩

/-- A static symbol is a label of sound lines exactly if a function or a label has it. -/
theorem LaidOut.mem_declarations_iff {config : Config} {bootstrap : Bool} {sites : List Site}
    {listing : Listing} {program : Program} (h : LaidOut sites listing program)
    (hlisting : Listing.ofSites config bootstrap sites = .ok listing)
    (hsound : ∀ line ∈ listing.lines, line.Sound) (unit : String) (index : Word) :
    staticSymbol unit index ∈ declarations (listing.lines.flatMap Line.items) ↔
      Site.IsDeclared sites (staticSymbol unit index) := by
  rw [declarations_of_sound hsound]
  constructor
  · intro hmem
    obtain hdeclared | ⟨stem, hstem, number, hlabel⟩ := Listing.mem_labelNames hlisting hmem
    · exact hdeclared
    · exact absurd hlabel (staticSymbol_ne_label hstem number unit index)
  · rintro ⟨site, hsite, hdeclared⟩
    obtain ⟨place, hplace⟩ := List.getElem?_of_mem hsite
    obtain ⟨block, hblock, generator, hlower⟩ := h.exists_block hplace
    have hname := Generator.mem_names_of_declared hdeclared generator
    rw [← Generator.labelNames_of_lower hlower] at hname
    rw [listing.lines_split hblock, labelNames_append, labelNames_append]
    exact List.mem_append_left _ (List.mem_append_right _ hname)

/-- Static cells. Each static cell that a command uses has an address. If no label of the
assembled text has the symbol of the cell, the address is at least 16, and no other such
cell has it. A function or a label of the program that has the symbol takes the address
instead, and it is that of its code; with a proper entry function these are the only labels
that a static symbol can have. -/
theorem static_cells_disjoint_or_declared {config : Config} {bootstrap : Bool}
    {units : List (String × String)} {session : Session} {program : Program}
    (hnames : ∀ unit ∈ units, isSymbol unit.1.toList = true)
    (hwritten : Session.writeProgram config bootstrap units {} = (session, .ok ()))
    (hassembled : assemble session.outputLines = .ok program) :
    (∀ first ∈ Site.ofUnits units, ∀ index ∈ first.staticIndex?,
      ∃ cell, program.symbols[staticSymbol first.unit index]? = some cell ∧
        (staticSymbol first.unit index ∉
            declarations (session.outputLines.filterMap Item.ofLine?) →
          16 ≤ cell.toNat ∧ ∀ second ∈ Site.ofUnits units, ∀ count ∈ second.staticIndex?,
            staticSymbol second.unit count ∉
                declarations (session.outputLines.filterMap Item.ofLine?) →
              (program.symbols[staticSymbol second.unit count]? = some cell ↔
                first.unit = second.unit ∧ index = count))) ∧
    ∃ listing, Listing.ofSites config bootstrap (Site.ofUnits units) = .ok listing ∧
      session.sink.text = String.ofList (written listing.lines) ∧
      (∀ (place : Nat) site symbol, (Site.ofUnits units)[place]? = some site →
        site.declared? = some symbol →
          program.symbols[symbol]? = some (BitVec.ofNat 16 (listing.address place))) ∧
      ((bootstrap = true → isSymbol config.entryFunction.toList = true) → ∀ unit index,
        (staticSymbol unit index ∈ declarations (session.outputLines.filterMap Item.ofLine?) ↔
          Site.IsDeclared (Site.ofUnits units) (staticSymbol unit index))) := by
  obtain ⟨listing, hlisting, htext, h⟩ := exists_laidOut hwritten hassembled
  have hunits := Site.isSymbol_unit_of_mem hnames
  rw [items_of_outputLines htext]
  have haddress : ∀ site ∈ Site.ofUnits units, ∀ index ∈ site.staticIndex?,
      ∃ cell, program.symbols[staticSymbol site.unit index]? = some cell := by
    intro site hsite index hindex
    obtain ⟨place, hplace⟩ := List.getElem?_of_mem hsite
    exact h.exists_cell hplace (Site.static?_of_staticIndex? hindex)
      (isSymbol_staticSymbol (hunits site hsite) index)
  constructor
  · intro first hfirst index hindex
    obtain ⟨cell, hcell⟩ := haddress first hfirst index hindex
    refine ⟨cell, hcell, fun hfree => ?_⟩
    obtain ⟨hlow, hname⟩ := h.assembled.variable_of_some hfree
      (staticSymbol_not_mem_predefinedNames _ _) hcell
    refine ⟨hlow, fun second hsecond count hcount hother => ⟨fun hsame => ?_, ?_⟩⟩
    · obtain ⟨-, hsecondName⟩ := h.assembled.variable_of_some hother
        (staticSymbol_not_mem_predefinedNames _ _) hsame
      rw [hname, Option.some.injEq] at hsecondName
      exact staticSymbol_inj.mp hsecondName
    · rintro ⟨hunit, rfl⟩
      rw [← hunit, hcell]
  · refine ⟨listing, hlisting, htext, fun place site symbol hsite hdeclared =>
      h.symbol_of_declared hsite hdeclared, fun hentry unit index => ?_⟩
    exact h.mem_declarations_iff hlisting
      (Listing.sound_of_ofSites h.wellPlaced hunits hentry hlisting) unit index

/-- The static cell of the loop is a variable. -/
theorem static_cells_disjoint_or_declared_loop : ∃ session program cell,
    (∀ unit ∈ loopUnits, isSymbol unit.1.toList = true) ∧
      Session.writeProgram {} true loopUnits {} = (session, .ok ()) ∧
      assemble session.outputLines = .ok program ∧
      program.symbols[staticSymbol "Main" 0]? = some cell ∧ 16 ≤ cell.toNat := by
  obtain ⟨session, program, hwritten, hassembled, -⟩ := exists_loopProgram
  have hnames : ∀ unit ∈ loopUnits, isSymbol unit.1.toList = true := by decide
  obtain ⟨hcells, listing, -, -, -, hdeclared⟩ :=
    static_cells_disjoint_or_declared hnames hwritten hassembled
  have hfree : ¬ Site.IsDeclared (Site.ofUnits loopUnits) (staticSymbol "Main" 0) := by
    rw [ofUnits_loopUnits]
    unfold Site.IsDeclared
    decide
  rw [← hdeclared (fun _ => by decide)] at hfree
  have hsite : ⟨"Main", "f", .push .static 0⟩ ∈ Site.ofUnits loopUnits := by
    rw [ofUnits_loopUnits]
    decide
  obtain ⟨cell, hcell, hvariable⟩ := hcells _ hsite 0 rfl
  exact ⟨session, program, cell, hnames, hwritten, hassembled, hcell, (hvariable hfree).1⟩

/-- A unit whose functions have the symbols of its static cells. -/
def overlapUnits : List (String × String) :=
  [("Main", "function Main.0 0\nfunction Main.1 0\npush constant 7\npop static 0\npush static 1")]

/-- The commands of the unit. -/
theorem ofUnits_overlapUnits : Site.ofUnits overlapUnits =
    [⟨"Main", none, .function "Main.0" 0⟩, ⟨"Main", "Main.0", .function "Main.1" 0⟩,
      ⟨"Main", "Main.1", .push .constant 7⟩, ⟨"Main", "Main.1", .pop .static 0⟩,
      ⟨"Main", "Main.1", .push .static 1⟩] := by
  decide +kernel

/-- Two different static cells of a unit can have one address, and it can be that of the
stack pointer: two functions have their symbols, and the first has no instructions. -/
theorem static_cells_overlap : ∃ session program,
    (∀ unit ∈ overlapUnits, isSymbol unit.1.toList = true) ∧
      Session.writeProgram {} false overlapUnits {} = (session, .ok ()) ∧
      assemble session.outputLines = .ok program ∧
      program.symbols[staticSymbol "Main" 0]? = some 0 ∧
      program.symbols[staticSymbol "Main" 1]? = some 0 := by
  have hprogram : ∃ session program,
      Session.writeProgram {} false overlapUnits {} = (session, .ok ()) ∧
        assemble session.outputLines = .ok program ∧ program.code.size ≤ 1000 := by
    refine exists_program_of_small ?_ (by decide) (fun _ => by decide) ofUnits_overlapUnits
      ⟨_, rfl, ?_⟩ (by decide) (by decide)
    · decide +kernel
    · decide +kernel
  obtain ⟨session, program, hwritten, hassembled, -⟩ := hprogram
  obtain ⟨listing, hlisting, -, h⟩ := exists_laidOut hwritten hassembled
  have hstart := Listing.address_zero hlisting
  rw [ofUnits_overlapUnits] at h
  have hnext : listing.address 1 = 0 := by
    obtain ⟨generator, lines, hlines, -, hnext⟩ := h.exists_placed List.getElem?_cons_zero
      (fun symbol hstatic => by cases hstatic)
    cases hlines
    rw [hnext, hstart]
    rfl
  have hfirst := h.symbol_of_declared List.getElem?_cons_zero rfl
  have hsecond := h.symbol_of_declared (List.getElem?_cons_succ.trans List.getElem?_cons_zero) rfl
  rw [hstart] at hfirst
  rw [hnext] at hsecond
  exact ⟨session, program, by decide, hwritten, hassembled, hfirst, hsecond⟩

end HackVm
