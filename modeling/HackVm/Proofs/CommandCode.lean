import HackVm.Proofs.Listing
import HackVm.Proofs.Placement

/-!
# The code of commands

What the generator writes for a command that it accepts, and that the assembler takes
every line of it for what it is. The only lines that depend on more than the command and
its function are those of static cells, whose symbols start with the name of the unit.
-/

namespace HackVm

open Assembly Codegen

section Names

/-- A name is a symbol. -/
theorem isSymbol_of_isName {chars : List Char} (h : Grammar.isName chars = true) :
    isSymbol chars = true := by
  rw [Grammar.isName, Bool.and_eq_true, List.all_eq_true] at h
  rw [isSymbol, Bool.and_eq_true, List.all_eq_true]
  refine ⟨fun char hc => ?_, h.2⟩
  have hname := h.1 char hc
  simp only [Grammar.isNameChar, isSymbolChar, Bool.or_eq_true] at hname ⊢
  tauto

/-- A symbol followed by characters of symbols is a symbol. -/
theorem isSymbol_append {chars others : List Char} (h : isSymbol chars = true)
    (hothers : ∀ char ∈ others, isSymbolChar char = true) : isSymbol (chars ++ others) = true := by
  rw [isSymbol, Bool.and_eq_true, List.all_eq_true] at h ⊢
  refine ⟨List.forall_mem_append.mpr ⟨h.1, hothers⟩, ?_⟩
  cases chars with
  | nil => exact absurd h.2 (by decide)
  | cons char chars => exact h.2

/-- The characters of a symbol. -/
theorem isSymbolChar_of_isSymbol {chars : List Char} (h : isSymbol chars = true) :
    ∀ char ∈ chars, isSymbolChar char = true := by
  rw [isSymbol, Bool.and_eq_true, List.all_eq_true] at h
  exact h.1

/-- The characters of a decimal text may stand in a symbol. -/
theorem isSymbolChar_of_mem_toString {number : Nat} :
    ∀ char ∈ (toString number).toList, isSymbolChar char = true := by
  intro char hc
  simp [isSymbolChar, Char.isAlphanum, Word.isDigit_of_mem_toString hc]

/-- The symbol of a static cell of a unit with a proper name. -/
theorem isSymbol_staticSymbol {unit : String} (h : isSymbol unit.toList = true) (index : Word) :
    isSymbol (staticSymbol unit index).toList = true := by
  rw [staticSymbol, String.toList_append, String.toList_append]
  exact isSymbol_append (isSymbol_append h (List.all_eq_true.mp (by decide)))
    isSymbolChar_of_mem_toString

/-- The symbol of a generated label. -/
theorem isSymbol_label {stem : String} (h : isSymbol stem.toList = true) (number : Nat) :
    isSymbol (LabelSupply.label stem number).toList = true := by
  rw [LabelSupply.label, String.toList_append, String.toList_append]
  exact isSymbol_append (isSymbol_append h (List.all_eq_true.mp (by decide)))
    isSymbolChar_of_mem_toString

/-- The symbol of a label in a function with a proper name, or outside of every function. -/
theorem isSymbol_labelSymbol {function : Option String} {name : String}
    (hfunction : ∀ outer ∈ function, Grammar.isName outer.toList = true)
    (hname : Grammar.isName name.toList = true) :
    isSymbol (labelSymbol function name).toList = true := by
  have hchars := isSymbolChar_of_isSymbol (isSymbol_of_isName hname)
  rw [labelSymbol, String.toList_append, String.toList_append]
  cases function with
  | none => exact isSymbol_append (by decide) hchars
  | some outer =>
    have houter := isSymbol_of_isName (hfunction outer rfl)
    exact isSymbol_append (isSymbol_append houter (List.all_eq_true.mp (by decide))) hchars

end Names

namespace Codegen

/-- How the code of a push or a pop finds its cell: at an index from a base pointer, or
at an address that a line loads. -/
inductive Access where
  /-- At an index from a base pointer. -/
  | indexed (pointer : BasePointer) (index : Word)
  /-- At the address that a line loads. -/
  | cell (line : Line)

namespace Access

/-- The code that pushes the cell. -/
def pushCode : Access → List Line
  | indexed pointer index => pushIndexed pointer index
  | cell line => pushCell line

/-- The code that pops into the cell. -/
def popCode : Access → List Line
  | indexed pointer index => popIndexed pointer index
  | cell line => popCell line

end Access

/-- The cell of a segment that an accepted push or pop of a unit uses. -/
inductive Accesses (unit : String) : Segment → Word → Access → Prop where
  /-- A segment that moves with its base pointer. -/
  | based {segment : Segment} {pointer : BasePointer} {index : Word}
      (hsegment : segment.basePointer? = some pointer) (hindex : index.toNat ≤ Word.maxLoad) :
      Accesses unit segment index (.indexed pointer index)
  /-- A static cell, which belongs to the unit. -/
  | static {index : Word} (hunit : unit ≠ "") :
      Accesses unit .static index (.cell (.symbol (staticSymbol unit index)))
  /-- A segment that stays in place. -/
  | fixed {segment : Segment} {region : Region} {index : Word}
      (hsegment : segment.fixedRegion? = some region) (hindex : index.toNat < region.length) :
      Accesses unit segment index (.cell (.number (region.base + index.toNat)))

/-- A base pointer that is found belongs to the segment, and the index can be loaded. -/
theorem basePointer_of_ok {command : Command} {segment : Segment} {index : Word}
    {pointer : BasePointer} (h : basePointer command segment index = .ok pointer) :
    segment.basePointer? = some pointer ∧ index.toNat ≤ Word.maxLoad := by
  unfold basePointer at h
  split at h
  · cases h
  · rename_i hindex
    split at h
    · rename_i other hsegment
      cases h
      exact ⟨hsegment, by omega⟩
    · cases h

/-- A cell in a fixed place is inside of its segment. -/
theorem fixedCell_of_ok {command : Command} {segment : Segment} {index : Word} {line : Line}
    (h : fixedCell command segment index = .ok line) :
    ∃ region, segment.fixedRegion? = some region ∧ index.toNat < region.length ∧
      line = .number (region.base + index.toNat) := by
  unfold fixedCell at h
  split at h
  · rename_i region hsegment
    split at h
    · rename_i hindex
      cases h
      exact ⟨region, hsegment, hindex, rfl⟩
    · cases h
  · cases h

/-- A result that was changed comes from a result. -/
theorem exists_of_map_eq_ok {ε α β : Type} {result : Except ε α} {apply : α → β} {value : β}
    (h : result.map apply = .ok value) : ∃ found, result = .ok found ∧ value = apply found := by
  cases result with
  | error error => cases h
  | ok found =>
    cases h
    exact ⟨found, rfl, rfl⟩

namespace Generator

variable {generator : Generator} {segment : Segment} {index : Word} {lines : List Line}

/-- A static cell belongs to a unit. -/
theorem staticCell_of_ok {line : Line} (h : generator.staticCell index = .ok line) :
    generator.unit ≠ "" ∧ line = .symbol (staticSymbol generator.unit index) := by
  unfold staticCell at h
  split at h
  · cases h
  · rename_i hunit
    cases h
    exact ⟨hunit, rfl⟩

/-- The cell that the generator finds for a command. -/
def access (generator : Generator) (command : Command) (segment : Segment) (index : Word) :
    Except Error Access :=
  match segment with
  | .constant => .error (.unsupported command.text .popConstant)
  | .locals | .argument | .this | .that =>
    (basePointer command segment index).map fun pointer => .indexed pointer index
  | .static => (generator.staticCell index).map .cell
  | .pointer | .temp => (fixedCell command segment index).map .cell

/-- A cell that is found is one that the unit may use. -/
theorem accesses_of_ok {command : Command} {access : Access}
    (h : generator.access command segment index = .ok access) :
    Accesses generator.unit segment index access := by
  cases segment with
  | constant => cases h
  | locals | argument | this | that =>
    obtain ⟨pointer, hpointer, rfl⟩ := exists_of_map_eq_ok h
    obtain ⟨hsegment, hindex⟩ := basePointer_of_ok hpointer
    exact .based hsegment hindex
  | static =>
    obtain ⟨line, hline, rfl⟩ := exists_of_map_eq_ok h
    obtain ⟨hunit, rfl⟩ := staticCell_of_ok hline
    exact .static hunit
  | pointer | temp =>
    obtain ⟨line, hline, rfl⟩ := exists_of_map_eq_ok h
    obtain ⟨region, hsegment, hindex, rfl⟩ := fixedCell_of_ok hline
    exact .fixed hsegment hindex

/-- A push of a cell finds the cell first. -/
theorem push_eq_map_access (h : segment ≠ .constant) : generator.push segment index =
    (generator.access (.push segment index) segment index).map Access.pushCode := by
  cases segment with
  | constant => exact absurd rfl h
  | _ =>
    simp only [access, map_map]
    rfl

/-- A pop finds its cell first. -/
theorem pop_eq_map_access : generator.pop segment index =
    (generator.access (.pop segment index) segment index).map Access.popCode := by
  cases segment with
  | constant => rfl
  | _ =>
    simp only [access, map_map]
    rfl

/-- The code of an accepted push. -/
theorem push_of_ok (h : generator.push segment index = .ok lines) :
    (segment = .constant ∧ index.toNat ≤ Word.maxLoad ∧ lines = pushConstant index) ∨
      ∃ access, Accesses generator.unit segment index access ∧ lines = access.pushCode := by
  by_cases hconstant : segment = .constant
  · subst hconstant
    simp only [push] at h
    split at h
    · cases h
    · cases h
      exact .inl ⟨rfl, by omega, rfl⟩
  · rw [push_eq_map_access hconstant] at h
    obtain ⟨access, haccess, rfl⟩ := exists_of_map_eq_ok h
    exact .inr ⟨access, accesses_of_ok haccess, rfl⟩

/-- The code of an accepted pop. -/
theorem pop_of_ok (h : generator.pop segment index = .ok lines) :
    ∃ access, Accesses generator.unit segment index access ∧ lines = access.popCode := by
  rw [pop_eq_map_access] at h
  obtain ⟨access, haccess, rfl⟩ := exists_of_map_eq_ok h
  exact ⟨access, accesses_of_ok haccess, rfl⟩

end Generator

end Codegen

namespace Site

/-- The symbol of the static cell that a command in its place uses. -/
def static? (site : Site) : Option String :=
  match site.command with
  | .push .static index | .pop .static index => some (staticSymbol site.unit index)
  | _ => none

/-- The symbol that a command in its place declares. -/
def declared? (site : Site) : Option String :=
  match site.command with
  | .function name _ => some name
  | .label name => some (labelSymbol site.function name)
  | _ => none

/-- Whether a command and the function it belongs to are such as the reader gives them. -/
structure WellPlaced (site : Site) : Prop where
  /-- The command is grammatical. -/
  command : site.command.Grammatical
  /-- The function has a proper name. -/
  function : ∀ outer ∈ site.function, Grammar.isName outer.toList = true

/-- The sites of commands have these commands. -/
theorem map_command_ofCommands (unit : String) (function : Option String)
    (commands : List Command) :
    (ofCommands unit function commands).map command = commands := by
  induction commands generalizing function with
  | nil => rfl
  | cons command commands ih => rw [ofCommands, List.map_cons, ih]

/-- Grammatical commands are well placed. -/
theorem wellPlaced_of_mem_ofCommands {unit : String} {function : Option String}
    {commands : List Command} {site : Site}
    (hcommands : ∀ command ∈ commands, command.Grammatical)
    (hfunction : ∀ outer ∈ function, Grammar.isName outer.toList = true)
    (h : site ∈ ofCommands unit function commands) : site.WellPlaced := by
  induction commands generalizing function with
  | nil => cases h
  | cons command commands ih =>
    rw [List.forall_mem_cons] at hcommands
    rw [ofCommands, List.mem_cons] at h
    obtain rfl | h := h
    · exact ⟨hcommands.1, hfunction⟩
    · refine ih hcommands.2 ?_ h
      cases command with
      | function name locals =>
        rintro outer ⟨⟩
        exact hcommands.1
      | _ => exact hfunction

/-- The commands of units are well placed. -/
theorem wellPlaced_of_mem_ofUnits {units : List (String × String)} {site : Site}
    (h : site ∈ ofUnits units) : site.WellPlaced := by
  obtain ⟨unit, -, hsite⟩ := List.mem_flatMap.mp h
  refine wellPlaced_of_mem_ofCommands ?_ (by rintro _ ⟨⟩) hsite
  unfold commandsOf
  cases hparse : Grammar.parse unit.2 with
  | error error => simp [Except.toOption]
  | ok commands => exact Grammar.grammatical_of_parse hparse

end Site

namespace Codegen

section Soundness

/-- The line of a base pointer is sound. -/
theorem sound_pointerLine (pointer : BasePointer) : (pointerLine pointer).Sound := by
  cases pointer <;> decide

/-- Pushing D is sound. -/
theorem sound_pushData : ∀ line ∈ pushData, line.Sound := by decide

/-- Popping into D is sound. -/
theorem sound_popData : ∀ line ∈ popData, line.Sound := by decide

/-- The code of a push is sound if the line of its cell is. -/
theorem sound_pushCell {line : Line} (h : line.Sound) : ∀ other ∈ pushCell line, other.Sound := by
  rw [pushCell, List.forall_mem_append, List.forall_mem_cons]
  exact ⟨⟨h, by decide⟩, sound_pushData⟩

/-- The code that pushes or pops a cell is sound if its static symbol is one. -/
theorem sound_access {unit : String} {segment : Segment} {index : Word} {access : Access}
    (h : Accesses unit segment index access)
    (hstatic : segment = .static → isSymbol (staticSymbol unit index).toList = true) :
    (∀ line ∈ access.pushCode, line.Sound) ∧ ∀ line ∈ access.popCode, line.Sound := by
  have hcell : ∀ {line : Line}, line.Sound →
      (∀ other ∈ (Access.cell line).pushCode, other.Sound) ∧
        ∀ other ∈ (Access.cell line).popCode, other.Sound := by
    intro line hline
    refine ⟨sound_pushCell hline, ?_⟩
    rw [Access.popCode, popCell, List.forall_mem_append, List.forall_mem_cons]
    exact ⟨sound_popData, hline, by decide⟩
  cases h with
  | based hsegment hindex =>
    have hnumber : (Line.number index.toNat).Sound := hindex
    simp only [Access.pushCode, Access.popCode, pushIndexed, popIndexed, List.forall_mem_append,
      List.forall_mem_cons]
    refine ⟨⟨⟨sound_pointerLine _, by decide, hnumber, by decide⟩, sound_pushData⟩,
      ⟨⟨sound_pointerLine _, by decide, hnumber, by decide⟩, sound_popData⟩, by decide⟩
  | static hunit => exact hcell (hstatic rfl)
  | @fixed _ region _ hsegment hindex =>
    refine hcell ?_
    have hsmall : region.base + region.length ≤ Word.maxLoad := by
      cases segment <;> cases hsegment <;> decide
    show region.base + index.toNat ≤ Word.maxLoad
    omega

/-- The code of an accepted push is sound if its static symbol is one. -/
theorem sound_push {generator : Generator} {segment : Segment} {index : Word} {lines : List Line}
    (hstatic : segment = .static → isSymbol (staticSymbol generator.unit index).toList = true)
    (h : generator.push segment index = .ok lines) : ∀ line ∈ lines, line.Sound := by
  obtain ⟨-, hindex, rfl⟩ | ⟨access, haccess, rfl⟩ := Generator.push_of_ok h
  · have hnumber : (Line.number index.toNat).Sound := hindex
    simp only [pushConstant, List.forall_mem_append, List.forall_mem_cons]
    exact ⟨⟨hnumber, by decide⟩, sound_pushData⟩
  · exact (sound_access haccess hstatic).1

/-- The code of an accepted pop is sound if its static symbol is one. -/
theorem sound_pop {generator : Generator} {segment : Segment} {index : Word} {lines : List Line}
    (hstatic : segment = .static → isSymbol (staticSymbol generator.unit index).toList = true)
    (h : generator.pop segment index = .ok lines) : ∀ line ∈ lines, line.Sound := by
  obtain ⟨access, haccess, rfl⟩ := Generator.pop_of_ok h
  exact (sound_access haccess hstatic).2

/-- The code of a comparison is sound. -/
theorem sound_comparison (generator : Generator) (jump : Jump) :
    ∀ line ∈ (generator.comparison jump).2, line.Sound := by
  have hsymbol : ∀ stem : String, isSymbol stem.toList = true →
      isSymbol (LabelSupply.label stem generator.labels.allocated).toList = true :=
    fun stem hs => isSymbol_label hs _
  have htaken := hsymbol "TRUE" (by decide)
  have hmerge := hsymbol "END" (by decide)
  have hbranch : (Line.branch (.copy .d) jump).Sound := by
    show Comp.copy .d ∈ Comp.known
    decide
  simp only [Generator.comparison, LabelSupply.allocateBranch, compareTop, List.forall_mem_cons]
  exact ⟨by decide, by decide, by decide, by decide, by decide, htaken, hbranch, by decide,
    hmerge, by decide, htaken, by decide, hmerge, by decide⟩

/-- The code of an operation is sound. -/
theorem sound_operate (generator : Generator) (operation : Operation) :
    ∀ line ∈ (generator.operate operation).2, line.Sound := by
  cases operation with
  | eq | gt | lt => exact sound_comparison generator _
  | add | sub | neg | and | or | not => 
    simp only [Generator.operate]
    decide

/-- The code that starts a function is sound. -/
theorem sound_functionEntry {name : String} (h : Grammar.isName name.toList = true)
    (locals : Word) : ∀ line ∈ functionEntry name locals, line.Sound := by
  have hzeros : ∀ line ∈ (List.replicate locals.toNat pushData).flatten, line.Sound := by
    intro line hline
    obtain ⟨block, hblock, hline⟩ := List.mem_flatten.mp hline
    rw [(List.mem_replicate.mp hblock).2] at hline
    exact sound_pushData line hline
  rw [functionEntry, List.forall_mem_cons]
  refine ⟨isSymbol_of_isName h, ?_⟩
  split
  · simp
  · rw [List.forall_mem_cons]
    exact ⟨by decide, hzeros⟩

/-- The code of a call is sound. -/
theorem sound_callFunction {name returnLabel : String} {arguments : Word}
    (hname : isSymbol name.toList = true) (hreturn : isSymbol returnLabel.toList = true)
    (harguments : arguments.toNat + savedWords ≤ Word.maxLoad) :
    ∀ line ∈ callFunction name arguments returnLabel, line.Sound := by
  have hnumber : (Line.number (arguments.toNat + savedWords)).Sound := harguments
  have hsave : ∀ line ∈ [BasePointer.lcl, .arg, .this, .that].flatMap
      (fun pointer => pushCell (pointerLine pointer)), line.Sound := by decide
  simp only [callFunction, jumpTo, List.forall_mem_append, List.forall_mem_cons]
  exact ⟨⟨⟨⟨⟨⟨hreturn, by decide⟩, sound_pushData⟩, hsave⟩, by decide, by decide, hnumber,
    by decide⟩, hname, by decide⟩, hreturn, by simp⟩

/-- An accepted call has code, and its frame fits an address instruction. -/
theorem call_of_ok {generator : Generator} {name : String} {arguments : Word} {lines : List Line}
    (h : (generator.call name arguments).2 = .ok lines) :
    arguments.toNat + savedWords ≤ Word.maxLoad ∧
      lines = callFunction name arguments
        (LabelSupply.label "RETURN" generator.labels.allocated) := by
  unfold Generator.call at h
  split at h
  · cases h
  · cases h
    exact ⟨by omega, rfl⟩

/-- An accepted label has its declaration as code. -/
theorem declare_of_ok {generator : Generator} {name : String} {lines : List Line}
    (h : (generator.declare name).2 = .ok lines) :
    labelSymbol generator.function name ∉ generator.declared ∧
      lines = [.label (labelSymbol generator.function name)] := by
  unfold Generator.declare at h
  dsimp only at h
  split at h
  · cases h
  · rename_i hnew
    cases h
    exact ⟨hnew, rfl⟩

/-- An accepted return stands inside a function. -/
theorem leave_of_ok {generator : Generator} {lines : List Line}
    (h : generator.leave = .ok lines) : lines = returnBlock := by
  unfold Generator.leave at h
  split at h
  · cases h
    rfl
  · cases h

/-- The code of a well placed command is sound if its static symbol is one. -/
theorem sound_of_body {generator : Generator} {site : Site} {lines : List Line}
    (hsite : site.WellPlaced)
    (hstatic : ∀ symbol ∈ site.static?, isSymbol symbol.toList = true)
    (h : ((generator.visit site).body site.command).2 = .ok lines) :
    ∀ line ∈ lines, line.Sound := by
  obtain ⟨unit, function, command⟩ := site
  obtain ⟨hcommand, hfunction⟩ := hsite
  dsimp only at h hcommand hfunction
  cases command with
  | operate operation =>
    cases h
    exact sound_operate _ operation
  | push segment index => exact sound_push (fun hs => hstatic _ (by rw [hs]; rfl)) h
  | pop segment index => exact sound_pop (fun hs => hstatic _ (by rw [hs]; rfl)) h
  | label name =>
    obtain ⟨-, rfl⟩ := declare_of_ok h
    have hsymbol := isSymbol_labelSymbol hfunction hcommand
    rw [List.forall_mem_singleton]
    exact hsymbol
  | goto name =>
    cases h
    have hsymbol := isSymbol_labelSymbol hfunction hcommand
    simp only [jumpTo, List.forall_mem_cons]
    exact ⟨hsymbol, by decide⟩
  | ifGoto name =>
    cases h
    have hsymbol := isSymbol_labelSymbol hfunction hcommand
    simp only [jumpUnlessZero, List.forall_mem_append, List.forall_mem_cons]
    exact ⟨sound_popData, hsymbol, by decide⟩
  | function name locals =>
    cases h
    exact sound_functionEntry hcommand locals
  | call name arguments =>
    obtain ⟨harguments, rfl⟩ := call_of_ok h
    exact sound_callFunction (isSymbol_of_isName hcommand) (isSymbol_label (by decide) _)
      harguments
  | ret =>
    rw [leave_of_ok h]
    decide

/-- The code of a command loads its static symbol. -/
theorem mem_body_of_static {generator : Generator} {site : Site} {symbol : String}
    {lines : List Line} (hstatic : site.static? = some symbol)
    (h : ((generator.visit site).body site.command).2 = .ok lines) : .symbol symbol ∈ lines := by
  unfold Site.static? at hstatic
  split at hstatic
  · rename_i index hcommand
    cases hstatic
    rw [hcommand] at h
    have hpush : (generator.visit site).push .static index = .ok lines := h
    obtain ⟨hsegment, -⟩ | ⟨access, haccess, rfl⟩ := Generator.push_of_ok hpush
    · cases hsegment
    · cases haccess with
      | based hsegment => cases hsegment
      | static => exact List.mem_cons_self
      | fixed hsegment => cases hsegment
  · rename_i index hcommand
    cases hstatic
    rw [hcommand] at h
    have hpop : (generator.visit site).pop .static index = .ok lines := h
    obtain ⟨access, haccess, rfl⟩ := Generator.pop_of_ok hpop
    cases haccess with
    | based hsegment => cases hsegment
    | static => exact List.mem_append_right _ List.mem_cons_self
    | fixed hsegment => cases hsegment
  · cases hstatic

/-- A remark without a line feed is sound. -/
theorem sound_remark (generator : Generator) {text : String} (h : '\n' ∉ text.toList) :
    ∀ line ∈ generator.remark text, line.Sound := by
  unfold Generator.remark
  split
  · simpa [Line.Sound] using h
  · simp

/-- The text of a grammatical command is one line. -/
theorem not_mem_text_of_grammatical {command : Command} (h : command.Grammatical) :
    '\n' ∉ command.text.toList := fun hfeed =>
  absurd (Grammar.isSpaced_of_mem_text h _ hfeed) (by decide)

/-- The block of a well placed command is its remark and its code. -/
theorem lower_of_ok {generator : Generator} {command : Command} {block : List Line}
    (h : (generator.lower command).result = .ok block) :
    ∃ lines, (generator.body command).2 = .ok lines ∧
      block = generator.remark command.text ++ lines := exists_of_map_eq_ok h

/-- The block of a well placed command is sound if its static symbol is one. -/
theorem sound_of_lower {generator : Generator} {site : Site} {block : List Line}
    (hsite : site.WellPlaced)
    (hstatic : ∀ symbol ∈ site.static?, isSymbol symbol.toList = true)
    (h : ((generator.visit site).lower site.command).result = .ok block) :
    ∀ line ∈ block, line.Sound := by
  obtain ⟨lines, hlines, rfl⟩ := lower_of_ok h
  rw [List.forall_mem_append]
  exact ⟨sound_remark _ (not_mem_text_of_grammatical hsite.command),
    sound_of_body hsite hstatic hlines⟩

/-- The code that starts a program. -/
theorem bootstrap_of_ok {generator : Generator} {prologue : List Line}
    (h : generator.bootstrap.result = .ok prologue) :
    generator.config.stackOrigin.toNat ≤ Word.maxLoad ∧
      prologue = generator.remark "bootstrap" ++ setStackPointer generator.config.stackOrigin ++
        generator.remark (Command.call generator.config.entryFunction 0).text ++
          callFunction generator.config.entryFunction 0
            (LabelSupply.label "RETURN" generator.labels.allocated) := by
  unfold Generator.bootstrap at h
  dsimp only at h
  split at h
  · cases h
  · dsimp only at h
    obtain ⟨lines, hlines, hprologue⟩ := exists_of_map_eq_ok h
    obtain ⟨-, rfl⟩ := call_of_ok hlines
    exact ⟨by omega, hprologue⟩

/-- The code that starts a program is sound if the entry function has a proper name. -/
theorem sound_of_bootstrap {generator : Generator} {prologue : List Line}
    (hentry : isSymbol generator.config.entryFunction.toList = true)
    (h : generator.bootstrap.result = .ok prologue) : ∀ line ∈ prologue, line.Sound := by
  obtain ⟨horigin, rfl⟩ := bootstrap_of_ok h
  have hnumber : (Line.number generator.config.stackOrigin.toNat).Sound := horigin
  have htext : '\n' ∉ (Command.call generator.config.entryFunction 0).text.toList := by
    intro hfeed
    simp only [Command.text, String.toList_append, List.mem_append] at hfeed
    obtain ((hfeed | hfeed) | hfeed) | hfeed := hfeed
    · exact absurd hfeed (by decide)
    · exact absurd (isSymbolChar_of_isSymbol hentry _ hfeed) (by decide)
    · exact absurd hfeed (by decide)
    · exact absurd hfeed (by decide)
  simp only [List.forall_mem_append, setStackPointer, List.forall_mem_cons]
  exact ⟨⟨⟨sound_remark _ (by decide), hnumber, by decide⟩, sound_remark _ htext⟩,
    sound_callFunction hentry (isSymbol_label (by decide) _) (by decide)⟩

end Soundness

end Codegen

end HackVm
