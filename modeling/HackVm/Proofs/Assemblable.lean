import HackVm.Proofs.BlockEffect
import HackVm.Proofs.Installed
import HackVm.Proofs.Labels

/-!
# Which programs can be assembled

The code of a program whose units have proper names can be assembled exactly if its
functions have different names and none has the name of a predefined symbol, provided
that there are cells for all variables. The processor knows every computation of it.
-/

namespace HackVm

open Assembly Codegen

section Lines

/-- The instruction of a sound line is well-formed. -/
theorem isEncodable_of_item? {line : Line} {text : String} (h : line.Sound)
    (hitem : line.item? = some (.instruction text)) : isEncodable text = true := by
  cases line with
  | comment remark => cases hitem
  | label name => cases hitem
  | number value =>
    cases hitem
    have hload : value ≤ Word.maxLoad := h
    have hvalue : value ≤ 32767 := h
    have hword : (BitVec.ofNat 16 value).toNat = value := by
      rw [BitVec.toNat_ofNat, Nat.mod_eq_of_lt (by omega)]
    obtain ⟨htext, hdigit⟩ := number_text value
    rw [isEncodable_of_digit htext hdigit]
    exact ⟨_, Word.ofDigits_toString (by omega), by rw [hword]; exact hload⟩
  | symbol name =>
    cases hitem
    obtain ⟨htext, hdigit⟩ := symbol_text h
    rw [isEncodable_of_name htext hdigit]
    exact h
  | compute dest comp jump =>
    cases hitem
    rw [isEncodable_of_compute (compute_text_ne_cons dest jump h)]
    exact ⟨_, decodeCompute_text dest jump h⟩

variable {lines : List Line}

/-- The assembler reads the declarations of sound lines. -/
theorem declarations_of_sound (h : ∀ line ∈ lines, line.Sound) :
    declarations (lines.flatMap Line.items) = labelNames lines := by
  induction lines with
  | nil => rfl
  | cons line lines ih =>
    rw [List.forall_mem_cons] at h
    rw [List.flatMap_cons, declarations_append, ih h.2, items_of_sound h.1]
    cases line <;> rfl

/-- The instructions of sound lines are well-formed. -/
theorem isEncodable_of_sound (h : ∀ line ∈ lines, line.Sound) :
    ∀ text ∈ codeTexts (lines.flatMap Line.items), isEncodable text = true := by
  intro text htext
  obtain ⟨item, hitem, hcode⟩ := List.mem_filterMap.mp htext
  obtain ⟨line, hline, hread⟩ := List.mem_flatMap.mp hitem
  rw [items_of_sound (h line hline), Option.mem_toList] at hread
  cases item with
  | label name => cases hcode
  | instruction other =>
    cases hcode
    exact isEncodable_of_item? (h line hline) hread

/-- The labels of sound lines are symbols. -/
theorem isSymbol_of_mem_labelNames (h : ∀ line ∈ lines, line.Sound) {name : String}
    (hname : name ∈ labelNames lines) : isSymbol name.toList = true := by
  obtain ⟨line, hline, hlabel⟩ := List.mem_filterMap.mp hname
  have hsound := h line hline
  cases line with
  | label other =>
    cases hlabel
    exact hsound
  | _ => cases hlabel

/-- The symbols that sound lines refer to are loaded by one of them. -/
theorem mem_of_mem_references (h : ∀ line ∈ lines, line.Sound) {name : String}
    (hname : name ∈ references (lines.flatMap Line.items)) : .symbol name ∈ lines := by
  obtain ⟨text, htext, hreference⟩ := List.mem_filterMap.mp hname
  obtain ⟨item, hitem, hcode⟩ := List.mem_filterMap.mp htext
  obtain ⟨line, hline, hread⟩ := List.mem_flatMap.mp hitem
  have hsound := h line hline
  rw [items_of_sound hsound, Option.mem_toList] at hread
  cases line with
  | comment remark => cases hread
  | label other =>
    cases hread
    cases hcode
  | number value =>
    cases hread
    cases hcode
    obtain ⟨hnumber, hdigit⟩ := number_text value
    rw [reference?_of_digit hnumber hdigit] at hreference
    cases hreference
  | symbol other =>
    cases hread
    cases hcode
    obtain ⟨hsymbol, hdigit⟩ := symbol_text hsound
    rw [reference?_of_name hsymbol hdigit, String.ofList_toList] at hreference
    cases hreference
    exact hline
  | compute dest comp jump =>
    cases hread
    cases hcode
    rw [reference?_of_compute (compute_text_ne_cons dest jump hsound)] at hreference
    cases hreference

end Lines

/-- A list repeats nothing exactly if neither part of it does, for any way to part it. -/
theorem nodup_iff_filter {α : Type} (part : α → Bool) (list : List α) :
    list.Nodup ↔ (list.filter part).Nodup ∧ (list.filter fun value => !part value).Nodup := by
  rw [← (List.filter_append_perm part list).nodup_iff, List.nodup_append]
  constructor
  · rintro ⟨hfirst, hsecond, -⟩
    exact ⟨hfirst, hsecond⟩
  · rintro ⟨hfirst, hsecond⟩
    refine ⟨hfirst, hsecond, ?_⟩
    rintro value hvalue other hother rfl
    rw [List.mem_filter] at hvalue hother
    simp [hvalue.2] at hother

/-- A command stands in one of the units. -/
theorem Site.exists_unit_of_mem {units : List (String × String)} {site : Site}
    (h : site ∈ ofUnits units) : ∃ unit ∈ units, site.unit = unit.1 := by
  obtain ⟨unit, hunit, hsite⟩ := List.mem_flatMap.mp h
  refine ⟨unit, hunit, ?_⟩
  generalize commandsOf unit.2 = commands at hsite
  generalize (none : Option String) = function at hsite
  induction commands generalizing function with
  | nil => cases hsite
  | cons command commands ih =>
    rw [ofCommands, List.mem_cons] at hsite
    obtain rfl | hsite := hsite
    · rfl
    · exact ih _ hsite

/-- The static symbol of a command in a unit with a proper name is a symbol. -/
theorem Site.isSymbol_of_static {site : Site} {symbol : String}
    (hunit : isSymbol site.unit.toList = true) (h : site.static? = some symbol) :
    isSymbol symbol.toList = true := by
  unfold static? at h
  split at h
  · cases h
    exact isSymbol_staticSymbol hunit _
  · cases h
    exact isSymbol_staticSymbol hunit _
  · cases h

/-- The lines of a program whose units and entry function have proper names are sound. -/
theorem Listing.sound_of_ofSites {config : Config} {bootstrap : Bool} {sites : List Site}
    {listing : Listing} (hsites : ∀ site ∈ sites, site.WellPlaced)
    (hunits : ∀ site ∈ sites, isSymbol site.unit.toList = true)
    (hentry : bootstrap = true → isSymbol config.entryFunction.toList = true)
    (h : Listing.ofSites config bootstrap sites = .ok listing) :
    ∀ line ∈ listing.lines, line.Sound := by
  obtain ⟨generator, final, -, hblocks⟩ := Listing.of_ofSites h
  rw [Listing.lines, List.forall_mem_append]
  constructor
  · cases bootstrap with
    | true => exact sound_of_bootstrap (hentry rfl) (Listing.bootstrap_of_ofSites h)
    | false => simp [Listing.prologue_eq_nil h]
  · intro line hline
    obtain ⟨block, hblock, hline⟩ := List.mem_flatten.mp hline
    obtain ⟨site, hsite, earlier, hresult⟩ := Generator.exists_site_of_mem_blocks hblocks hblock
    refine sound_of_lower (hsites site hsite) (fun symbol hs => ?_) hresult line hline
    exact Site.isSymbol_of_static (hunits site hsite) hs

/-- Removing repetitions does not make a list longer. -/
theorem length_eraseDups_le : ∀ names : List String, names.eraseDups.length ≤ names.length
  | [] => Nat.le_refl _
  | name :: names => by
    have hfilter := List.length_filter_le (fun other => !other == name) names
    have hrest := length_eraseDups_le (names.filter fun other => !other == name)
    rw [List.eraseDups_cons, List.length_cons, List.length_cons]
    omega
termination_by names => names.length

/-- There are no more variables than instructions. -/
theorem length_undeclared_le (items : List Item) :
    (undeclared items).length ≤ (codeTexts items).length := by
  calc (undeclared items).length
      ≤ ((references items).filter fun name =>
          name ∉ declarations items ∧ name ∉ predefinedNames).length :=
        length_eraseDups_le _
    _ ≤ (references items).length := List.length_filter_le _ _
    _ ≤ (codeTexts items).length := List.length_filterMap_le _ _

/-- The lines of a sound listing with cells for all variables can be assembled exactly if
its functions have different names and none has the name of a predefined symbol. No label has
such a name, because it has a dollar sign. -/
theorem Listing.assemble_isOk_iff {config : Config} {bootstrap : Bool} {sites : List Site}
    {listing : Listing} {texts : List String} (hsites : ∀ site ∈ sites, site.WellPlaced)
    (hlisting : Listing.ofSites config bootstrap sites = .ok listing)
    (hsound : ∀ line ∈ listing.lines, line.Sound)
    (htexts : texts.filterMap Item.ofLine? = listing.lines.flatMap Line.items)
    (hroom : firstVariable + (undeclared (listing.lines.flatMap Line.items)).length ≤ 65535) :
    (∃ program, assemble texts = .ok program) ↔
      (sites.filterMap Site.functionName?).Nodup ∧
        ∀ name ∈ sites.filterMap Site.functionName?, name ∉ predefinedNames := by
  obtain ⟨hmarked, hfunctions⟩ := Listing.labelNames_lines hsites hlisting
  have hunmarked : ∀ name ∈ predefinedNames, isMarked name = false := by decide
  rw [Assembly.assemble_isOk_iff, htexts, declarations_of_sound hsound, nodup_iff_filter isMarked,
    hfunctions]
  constructor
  · rintro ⟨⟨hlabels, -, hnodup⟩, -⟩
    refine ⟨hnodup, fun name hname => (hlabels name ?_).2⟩
    rw [← hfunctions] at hname
    exact (List.mem_filter.mp hname).1
  · rintro ⟨hnodup, hnames⟩
    refine ⟨⟨fun name hname => ⟨isSymbol_of_mem_labelNames hsound hname, fun hp => ?_⟩, hmarked,
      hnodup⟩, isEncodable_of_sound hsound, hroom⟩
    refine hnames name ?_ hp
    rw [← hfunctions]
    exact List.mem_filter.mpr ⟨hname, by rw [hunmarked name hp]; rfl⟩

section Computations

variable {program : Program}

/-- Sound code in its place has only computations of the processor. -/
theorem known_of_placed {lines : List Line} {address index : Nat} {dest : Dest} {comp : Comp}
    {jump : Jump} (hplaced : Placed program address lines) (hsound : ∀ line ∈ lines, line.Sound)
    (hlow : address ≤ index) (hhigh : index < address + codeSize lines)
    (hcode : program.code[index]? = some (.compute dest comp jump)) : comp ∈ Comp.known := by
  induction lines generalizing address with
  | nil =>
    rw [codeSize_nil] at hhigh
    omega
  | cons line lines ih =>
    rw [List.forall_mem_cons] at hsound
    rw [codeSize_cons] at hhigh
    cases line with
    | comment remark =>
      rw [Line.size, Nat.zero_add] at hhigh
      exact ih hplaced hsound.2 hlow hhigh
    | label name =>
      rw [Line.size, Nat.zero_add] at hhigh
      exact ih hplaced.2 hsound.2 hlow hhigh
    | number value =>
      rw [Line.size, ← Nat.add_assoc] at hhigh
      obtain rfl | hlater := Nat.eq_or_lt_of_le hlow
      · rw [hplaced.1] at hcode
        cases hcode
      · exact ih hplaced.2 hsound.2 hlater hhigh
    | symbol name =>
      rw [Line.size, ← Nat.add_assoc] at hhigh
      obtain rfl | hlater := Nat.eq_or_lt_of_le hlow
      · obtain ⟨⟨value, -, hload⟩, -⟩ := hplaced
        rw [hload] at hcode
        cases hcode
      · exact ih hplaced.2 hsound.2 hlater hhigh
    | compute otherDest otherComp otherJump =>
      rw [Line.size, ← Nat.add_assoc] at hhigh
      obtain rfl | hlater := Nat.eq_or_lt_of_le hlow
      · rw [hplaced.1] at hcode
        cases hcode
        exact hsound.1
      · exact ih hplaced.2 hsound.2 hlater hhigh

/-- Assembled sound lines have only computations of the processor. -/
theorem known_of_assembled {lines : List Line} {dest : Dest} {comp : Comp} {jump : Jump}
    (h : Assembled (lines.flatMap Line.items) program) (hsound : ∀ line ∈ lines, line.Sound)
    (hcode : .compute dest comp jump ∈ program.code) : comp ∈ Comp.known := by
  obtain ⟨index, hindex, hget⟩ := Array.getElem_of_mem hcode
  have hwhole : Assembled ([] ++ lines.flatMap Line.items ++ []) program := by
    rw [List.nil_append, List.append_nil]
    exact h
  have hplaced : Placed program 0 lines := placed_of_assembled hwhole hsound
  refine known_of_placed hplaced hsound (Nat.zero_le index) ?_
    (Array.getElem?_eq_some_iff.mpr ⟨hindex, hget⟩)
  rw [Nat.zero_add, ← length_codeTexts_of_sound hsound, ← h.size]
  exact hindex

/-- The processor's computations are none of the unknown texts. -/
theorem ne_unknown_of_known {comp : Comp} (h : comp ∈ Comp.known) (text : String) :
    comp ≠ .unknown text := by
  rintro rfl
  simp [Comp.known] at h

end Computations

namespace Machine

/-- A step keeps the program. -/
theorem step_program (machine : Machine) : machine.step.1.program = machine.program := by
  unfold step
  split
  · rename_i instruction hcode
    cases instruction with
    | load value => rfl
    | compute dest comp jump =>
      rw [execute]
      split
      · rfl
      · split
        · split <;> rfl
        · rfl
  · rfl

/-- A computation of the processor is never an unknown one. -/
theorem evaluate_ne_unknownComp {comp : Comp} (h : comp ∈ Comp.known) (address data : Word)
    (ram : Vector Word ramSize) (text : String) :
    evaluate comp address data ram ≠ .error (.unknownComp text) := by
  rw [evaluate_known (ne_unknown_of_known h), Memory.read]
  split
  · split <;> rintro ⟨⟩
  · rintro ⟨⟩

/-- A step through known computations never meets an unknown one. -/
theorem step_ne_unknownComp {machine : Machine} (h : ∀ dest comp jump,
    .compute dest comp jump ∈ machine.program.code → comp ∈ Comp.known) (text : String) :
    machine.step.2 ≠ .error (.unknownComp text) := by
  unfold step
  split
  · rename_i instruction hcode
    cases instruction with
    | load value => simp [execute]
    | compute dest comp jump =>
      have hknown := h dest comp jump (Array.mem_of_getElem? hcode)
      rw [execute]
      split
      · rename_i fault hfault
        rintro hunknown
        cases hunknown
        exact evaluate_ne_unknownComp hknown _ _ _ text hfault
      · split
        · split <;> simp
        · simp
  · simp

/-- A run through known computations never meets an unknown one. -/
theorem steps_ne_unknownComp {machine : Machine} (h : ∀ dest comp jump,
    .compute dest comp jump ∈ machine.program.code → comp ∈ Comp.known) (count : Nat)
    (text : String) : (machine.steps count).2 ≠ .error (.unknownComp text) := by
  induction count generalizing machine with
  | zero => simp [steps]
  | succ count ih =>
    have hprogram := step_program machine
    have hstep := step_ne_unknownComp h text
    rw [steps]
    split
    · rename_i next hnext
      rw [hnext] at hprogram
      refine ih ?_
      rw [hprogram]
      exact h
    · rename_i next fault hnext
      rw [hnext] at hstep
      exact hstep

end Machine

/-- The sites of units with proper names have units with proper names. -/
theorem Site.isSymbol_unit_of_mem {units : List (String × String)}
    (h : ∀ unit ∈ units, isSymbol unit.1.toList = true) :
    ∀ site ∈ Site.ofUnits units, isSymbol site.unit.toList = true := by
  intro site hsite
  obtain ⟨unit, hunit, hname⟩ := Site.exists_unit_of_mem hsite
  rw [hname]
  exact h unit hunit

/-- Units that can be read, with a listing that can be assembled, are a program. -/
theorem exists_program {config : Config} {bootstrap : Bool} {units : List (String × String)}
    {listing : Listing}
    (hunits : ∀ unit ∈ units, ∃ commands, Grammar.parse unit.2 = .ok commands)
    (hnames : ∀ unit ∈ units, isSymbol unit.1.toList = true)
    (hentry : bootstrap = true → isSymbol config.entryFunction.toList = true)
    (hlisting : Listing.ofSites config bootstrap (Site.ofUnits units) = .ok listing)
    (hnodup : ((Site.ofUnits units).filterMap Site.functionName?).Nodup)
    (hpredefined : ∀ name ∈ (Site.ofUnits units).filterMap Site.functionName?,
      name ∉ predefinedNames)
    (hroom : firstVariable + (undeclared (listing.lines.flatMap Line.items)).length ≤ 65535) :
    ∃ session program, Session.writeProgram config bootstrap units {} = (session, .ok ()) ∧
      session.sink.text = String.ofList (written listing.lines) ∧
        assemble session.outputLines = .ok program ∧
          program.code.size = codeSize listing.lines := by
  have hdelivers := Session.delivers_writeProgram config bootstrap hunits
  rw [hlisting] at hdelivers
  obtain ⟨session, hwritten, htext⟩ := hdelivers
  have hsites : ∀ site ∈ Site.ofUnits units, site.WellPlaced := fun _ hsite =>
    Site.wellPlaced_of_mem_ofUnits hsite
  have hsound := Listing.sound_of_ofSites hsites (Site.isSymbol_unit_of_mem hnames) hentry hlisting
  have hitems := items_of_outputLines htext
  obtain ⟨program, hassembled⟩ := (Listing.assemble_isOk_iff hsites hlisting hsound hitems
    hroom).mpr ⟨hnodup, hpredefined⟩
  have hsize := (assembled_of_assemble hassembled).size
  rw [hitems, length_codeTexts_of_sound hsound] at hsize
  exact ⟨session, program, hwritten, htext, hassembled, hsize⟩

/-- A program of few instructions is always small enough for its variables. -/
theorem exists_program_of_small {config : Config} {bootstrap : Bool}
    {units : List (String × String)} {sites : List Site}
    (hread : ∀ unit ∈ units, (Grammar.parse unit.2).isOk = true)
    (hnames : ∀ unit ∈ units, isSymbol unit.1.toList = true)
    (hentry : bootstrap = true → isSymbol config.entryFunction.toList = true)
    (hsites : Site.ofUnits units = sites)
    (hcode : ∃ listing, Listing.ofSites config bootstrap sites = .ok listing ∧
      codeSize listing.lines ≤ 1000)
    (hnodup : (sites.filterMap Site.functionName?).Nodup)
    (hpredefined : ∀ name ∈ sites.filterMap Site.functionName?, name ∉ predefinedNames) :
    ∃ session program, Session.writeProgram config bootstrap units {} = (session, .ok ()) ∧
      assemble session.outputLines = .ok program ∧ program.code.size ≤ 1000 := by
  subst hsites
  have hunits : ∀ unit ∈ units, ∃ commands, Grammar.parse unit.2 = .ok commands :=
    fun unit hunit => exists_eq_ok_of_isOk (hread unit hunit)
  obtain ⟨listing, hlisting, hsize⟩ := hcode
  have hsound := Listing.sound_of_ofSites (fun _ hsite => Site.wellPlaced_of_mem_ofUnits hsite)
    (Site.isSymbol_unit_of_mem hnames) hentry hlisting
  have hroom := length_undeclared_le (listing.lines.flatMap Line.items)
  rw [length_codeTexts_of_sound hsound] at hroom
  obtain ⟨session, program, hwritten, -, hassembled, hcodeSize⟩ := exists_program hunits hnames
    hentry hlisting hnodup hpredefined (by rw [firstVariable]; omega)
  exact ⟨session, program, hwritten, hassembled, by omega⟩

/-- Two units: a function that counts its calls in a static cell, and a loop that calls it. -/
def loopUnits : List (String × String) :=
  [("Main",
      "function f 0\npush static 0\npush constant 1\nadd\npop static 0\npush static 0\nreturn"),
    ("Sys", "function Sys.init 0\nlabel again\ncall f 0\npop temp 0\ngoto again")]

/-- The commands of the loop. -/
theorem ofUnits_loopUnits : Site.ofUnits loopUnits =
    [⟨"Main", none, .function "f" 0⟩, ⟨"Main", "f", .push .static 0⟩,
      ⟨"Main", "f", .push .constant 1⟩, ⟨"Main", "f", .operate .add⟩,
      ⟨"Main", "f", .pop .static 0⟩, ⟨"Main", "f", .push .static 0⟩, ⟨"Main", "f", .ret⟩,
      ⟨"Sys", none, .function "Sys.init" 0⟩, ⟨"Sys", "Sys.init", .label "again"⟩,
      ⟨"Sys", "Sys.init", .call "f" 0⟩, ⟨"Sys", "Sys.init", .pop .temp 0⟩,
      ⟨"Sys", "Sys.init", .goto "again"⟩] := by
  decide +kernel

/-- The loop can be written and assembled. -/
theorem exists_loopProgram : ∃ session program,
    Session.writeProgram {} true loopUnits {} = (session, .ok ()) ∧
      assemble session.outputLines = .ok program ∧ program.code.size ≤ 1000 := by
  refine exists_program_of_small ?_ (by decide) (fun _ => by decide) ofUnits_loopUnits
    ⟨_, rfl, ?_⟩ (by decide) (by decide)
  · decide +kernel
  · decide +kernel

/-- The code of units with proper names, written with a proper entry function if there is a
bootstrap, can be assembled exactly if no two functions have one name and none has the name
of a predefined symbol, as long as there are cells for all variables. The processor has all
computations of the assembled program, so no run of it, from any state of the machine, meets
an unknown one. -/
theorem assembles_iff_functions_distinct {config : Config} {bootstrap : Bool}
    {units : List (String × String)} {session : Session}
    (hnames : ∀ unit ∈ units, isSymbol unit.1.toList = true)
    (hentry : bootstrap = true → isSymbol config.entryFunction.toList = true)
    (hwritten : Session.writeProgram config bootstrap units {} = (session, .ok ()))
    (hroom : (undeclared (session.outputLines.filterMap Item.ofLine?)).length < 65520) :
    ((∃ program, assemble session.outputLines = .ok program) ↔
      ((Site.ofUnits units).filterMap Site.functionName?).Nodup ∧
        ∀ name ∈ (Site.ofUnits units).filterMap Site.functionName?, name ∉ predefinedNames) ∧
    ∀ program, assemble session.outputLines = .ok program →
      (∀ dest comp jump, .compute dest comp jump ∈ program.code →
        ∀ address data cell, (comp.eval? address data cell).isSome) ∧
      ∀ machine : Machine, machine.program = program → ∀ count text,
        (machine.steps count).2 ≠ .error (.unknownComp text) := by
  obtain ⟨-, listing, hlisting, htext⟩ := Session.exists_listing_of_writeProgram hwritten
  have hsites : ∀ site ∈ Site.ofUnits units, site.WellPlaced := fun _ hsite =>
    Site.wellPlaced_of_mem_ofUnits hsite
  have hsound := Listing.sound_of_ofSites hsites (Site.isSymbol_unit_of_mem hnames) hentry hlisting
  have hitems := items_of_outputLines htext
  rw [hitems] at hroom
  refine ⟨Listing.assemble_isOk_iff hsites hlisting hsound hitems ?_, ?_⟩
  · rw [firstVariable]
    omega
  · intro program hassembled
    have hprogram := assembled_of_assemble hassembled
    rw [hitems] at hprogram
    constructor
    · intro dest comp jump hcode address data cell
      exact (Comp.eval?_isSome_iff comp address data cell).mpr
        (ne_unknown_of_known (known_of_assembled hprogram hsound hcode))
    · rintro machine rfl count text
      exact Machine.steps_ne_unknownComp
        (fun dest comp jump hcode => known_of_assembled hprogram hsound hcode) count text

/-- The loop is such a program. -/
theorem assembles_iff_functions_distinct_loop : ∃ session,
    (∀ unit ∈ loopUnits, isSymbol unit.1.toList = true) ∧
      Session.writeProgram {} true loopUnits {} = (session, .ok ()) ∧
      (undeclared (session.outputLines.filterMap Item.ofLine?)).length < 65520 ∧
      (∃ program, assemble session.outputLines = .ok program) ∧
      ∀ program, assemble session.outputLines = .ok program → ∀ count text,
        ((Machine.start program).steps count).2 ≠ .error (.unknownComp text) := by
  obtain ⟨session, program, hwritten, hassembled, hsize⟩ := exists_loopProgram
  have hnames : ∀ unit ∈ loopUnits, isSymbol unit.1.toList = true := by decide
  have hroom := length_undeclared_le (session.outputLines.filterMap Item.ofLine?)
  rw [← (assembled_of_assemble hassembled).size] at hroom
  have hresult := assembles_iff_functions_distinct hnames (fun _ => by decide) hwritten (by omega)
  rw [ofUnits_loopUnits] at hresult
  refine ⟨session, hnames, hwritten, by omega, hresult.1.mpr ⟨by decide, by decide⟩, ?_⟩
  intro other hother count text
  exact (hresult.2 other hother).2 _ rfl count text

end HackVm
