import HackVm.Proofs.Assembled
import HackVm.Proofs.Decimal
import HackVm.Proofs.Spelling

/-!
# What symbols stand for

The two passes of the assembler share one table, and the second pass reads the table while
it still grows. What comes out can be said of the lines alone, without passes and tables:
which lines are instructions, which declare a label, and which symbols are variables.
Assembling agrees with that description, wherever a symbol is used and wherever it is
declared.
-/

namespace HackVm.Assembly

/-- What a line says: its text without the comment and the blanks around it. -/
def said (line : String) : String := String.ofList (Text.content line.toList)

/-- Whether a line declares a label. -/
def DeclaresLabel (line name : String) : Prop := said line = "(" ++ name ++ ")"

instance (line name : String) : Decidable (DeclaresLabel line name) :=
  inferInstanceAs (Decidable (_ = _))

/-- Whether a line is an instruction: it says something and declares no label. -/
def IsInstruction (line : String) : Prop := said line ≠ "" ∧ ∀ name, ¬ DeclaresLabel line name

/-- Whether an instruction loads the value of a symbol, and not a number. -/
def Loads (text name : String) : Prop :=
  text = "@" ++ name ∧ ¬ name.toList.head?.any Char.isDigit = true

/-- A declaration is what it declares, in parentheses. -/
theorem declaredName?_eq_some_iff {chars name : List Char} :
    declaredName? chars = some name ↔ chars = '(' :: (name ++ [')']) := by
  unfold declaredName?
  split
  · rename_i rest
    rw [List.cons.injEq, and_iff_right rfl]
    constructor
    · intro h
      split at h
      · rename_i hlast
        obtain ⟨inner, rfl⟩ := List.getLast?_eq_some_iff.mp hlast
        rw [List.dropLast_concat, Option.some.injEq] at h
        rw [h]
      · cases h
    · rintro rfl
      rw [if_pos List.getLast?_concat, List.dropLast_concat]
  · rename_i hne
    constructor
    · intro h
      cases h
    · intro h
      exact absurd h (hne _)

/-- The declaration of a label, character by character. -/
theorem declaresLabel_iff {line name : String} :
    DeclaresLabel line name ↔ declaredName? (Text.content line.toList) = some name.toList := by
  rw [declaredName?_eq_some_iff, DeclaresLabel, said, ← String.toList_inj, String.toList_ofList]
  simp

/-- A line is taken for a label exactly if it declares it. -/
theorem ofLine?_eq_label_iff {line name : String} :
    Item.ofLine? line = some (.label name) ↔ DeclaresLabel line name := by
  rw [declaresLabel_iff]
  unfold Item.ofLine?
  split
  · rename_i hempty
    simp [hempty, declaredName?]
  · cases declaredName? (Text.content line.toList) with
    | none => simp
    | some inner => simp [← String.toList_inj]

/-- A line is taken for an instruction exactly if it is one, by what it says. -/
theorem ofLine?_eq_instruction_iff {line text : String} :
    Item.ofLine? line = some (.instruction text) ↔ IsInstruction line ∧ said line = text := by
  simp only [IsInstruction, declaresLabel_iff, said]
  unfold Item.ofLine?
  split
  · rename_i hempty
    simp [hempty]
  · rename_i hsome
    have hne : String.ofList (Text.content line.toList) ≠ "" := by
      rw [Ne, String.ofList_eq_empty_iff]
      exact hsome
    cases declaredName? (Text.content line.toList) with
    | none => simp [hne]
    | some inner =>
      constructor
      · rintro ⟨⟩
      · rintro ⟨⟨-, hnone⟩, -⟩
        exact absurd (congrArg some String.toList_ofList.symm) (hnone (String.ofList inner))

/-- A line is an instruction exactly if the assembler takes it for one. -/
theorem isInstruction_iff {line : String} :
    IsInstruction line ↔ Item.ofLine? line = some (.instruction (said line)) := by
  rw [ofLine?_eq_instruction_iff, and_iff_left rfl]

instance : DecidablePred IsInstruction := fun _ => decidable_of_iff' _ isInstruction_iff

/-- What the instructions among lines say, in order. -/
def instructionTexts (lines : List String) : List String := (lines.filter IsInstruction).map said

/-- The variables of lines: the symbols that are loaded, but neither declared anywhere nor
predefined, each once and in the order of their first use. -/
def variableNames (lines : List String) : List String :=
  (((instructionTexts lines).filterMap reference?).filter fun name =>
    (∀ line ∈ lines, ¬ DeclaresLabel line name) ∧ name ∉ predefinedNames).eraseDups

/-- The instructions that a text stands for when symbols have given values. -/
inductive StandsFor (symbols : SymbolTable) : String → Instruction → Prop where
  /-- A number stands for its load, if it is not too large for one. -/
  | number {digits : List Char} {value : Word} (hdigits : Grammar.Numeral digits value)
      (hvalue : value.toNat ≤ 32767) :
      StandsFor symbols ("@" ++ String.ofList digits) (.load value)
  /-- A symbol stands for the load of its value. -/
  | symbol {name : String} {value : Word} (hname : isSymbol name.toList = true)
      (hvalue : symbols[name]? = some value) : StandsFor symbols ("@" ++ name) (.load value)
  /-- Any other text stands for what it is decoded to. -/
  | compute {text : String} {instruction : Instruction} (htext : ∀ operand, text ≠ "@" ++ operand)
      (hdecoded : decodeCompute text = .ok instruction) : StandsFor symbols text instruction

/-- Whether the instruction at an address is the load of an entry of the table: it spells the
name of the entry and loads its value. -/
structure GoesThrough (lines : List String) (program : Program) (address : Nat)
    (entry : String × Word) : Prop where
  /-- The entry is in the table. -/
  listed : entry ∈ program.symbols.toList
  /-- The instruction spells the name of the entry. -/
  spelled : ∃ text, (instructionTexts lines)[address]? = some text ∧ Loads text entry.1
  /-- The instruction loads the value of the entry. -/
  loaded : program.code[address]? = some (.load entry.2)

/-- What lines say about the program that they are assembled to. -/
structure Resolved (lines : List String) (program : Program) : Prop where
  /-- There is one instruction for each instruction line, in order. -/
  code : List.Forall₂ (StandsFor program.symbols) (instructionTexts lines) program.code.toList
  /-- A label stands for the number of instruction lines before its declaration. -/
  label : ∀ before line after name, lines = before ++ line :: after → DeclaresLabel line name →
    program.symbols[name]?.map BitVec.toNat = some (instructionTexts before).length
  /-- Predefined symbols keep their values. -/
  predefined : ∀ entry ∈ predefined, program.symbols[entry.1]? = some entry.2
  /-- The variables have the cells from 16 on, in the order of their first use. -/
  cell : ∀ index name, (variableNames lines)[index]? = some name →
    program.symbols[name]?.map BitVec.toNat = some (16 + index)
  /-- There are no other symbols. -/
  only : ∀ name ∈ program.symbols, (∃ line ∈ lines, DeclaresLabel line name) ∨
    name ∈ predefinedNames ∨ name ∈ variableNames lines
  /-- A load of a symbol goes through the entry of that symbol, wherever it stands. -/
  load : ∀ address text name, (instructionTexts lines)[address]? = some text → Loads text name →
    ∃ value, GoesThrough lines program address (name, value)
  /-- Two loads go through one entry exactly if they spell the same symbol. -/
  shared : ∀ first second entry other, GoesThrough lines program first entry →
    GoesThrough lines program second other →
      (entry = other ↔ (instructionTexts lines)[first]? = (instructionTexts lines)[second]?)

/-- The instruction texts of the assembler are those of the lines. -/
theorem codeTexts_ofLines (lines : List String) :
    codeTexts (lines.filterMap Item.ofLine?) = instructionTexts lines := by
  induction lines with
  | nil => rfl
  | cons line lines ih =>
    unfold instructionTexts at ih ⊢
    by_cases hline : IsInstruction line
    · rw [List.filterMap_cons_some (isInstruction_iff.mp hline), codeTexts_instruction, ih,
        List.filter_cons_of_pos (by simpa using hline), List.map_cons]
    · rw [List.filter_cons_of_neg (by simpa using hline), ← ih]
      cases hitem : Item.ofLine? line with
      | none => rw [List.filterMap_cons_none hitem]
      | some item =>
        cases item with
        | label name => rw [List.filterMap_cons_some hitem, codeTexts_label]
        | instruction text => exact absurd (ofLine?_eq_instruction_iff.mp hitem).1 hline

/-- The labels of the assembler are those that the lines declare. -/
theorem mem_declarations_ofLines {lines : List String} {name : String} :
    name ∈ declarations (lines.filterMap Item.ofLine?) ↔
      ∃ line ∈ lines, DeclaresLabel line name := by
  simp only [← ofLine?_eq_label_iff, declarations, List.mem_filterMap]
  constructor
  · rintro ⟨item, ⟨line, hline, hitem⟩, hname⟩
    cases item with
    | label other =>
      cases hname
      exact ⟨line, hline, hitem⟩
    | instruction text => cases hname
  · rintro ⟨line, hline, hitem⟩
    exact ⟨.label name, ⟨line, hline, hitem⟩, rfl⟩

/-- The variables of the assembler are those of the lines. -/
theorem undeclared_ofLines (lines : List String) :
    undeclared (lines.filterMap Item.ofLine?) = variableNames lines := by
  unfold undeclared variableNames references
  rw [codeTexts_ofLines]
  congr 2
  funext name
  rw [decide_eq_decide, mem_declarations_ofLines]
  simp only [not_exists, not_and]

/-- What is left without repetitions has none. -/
theorem nodup_eraseDups : ∀ names : List String, names.eraseDups.Nodup
  | [] => List.nodup_nil
  | name :: names => by
    rw [List.eraseDups_cons, List.nodup_cons]
    refine ⟨fun hmem => ?_, nodup_eraseDups _⟩
    simpa using List.mem_eraseDups.mp hmem
termination_by names => names.length
decreasing_by
  have hshorter := List.length_filter_le (fun other => !other == name) names
  rw [List.length_cons]
  omega

section Loads

variable {text name : String}

/-- The text of a load, character by character. -/
theorem eq_load_iff : text = "@" ++ name ↔ text.toList = '@' :: name.toList := by
  rw [← String.toList_inj, String.toList_append]
  rfl

/-- A text that starts like a load is one. -/
theorem eq_load_ofList {operand : List Char} (htext : text.toList = '@' :: operand) :
    text = "@" ++ String.ofList operand := by
  rw [eq_load_iff, htext, String.toList_ofList]

/-- A text refers to the symbol that it loads. -/
theorem reference?_eq_some_iff : reference? text = some name ↔ Loads text name := by
  rw [Loads, eq_load_iff]
  obtain ⟨operand, htext, hdigit⟩ | ⟨operand, htext, hdigit⟩ | htext := form_cases text
  · rw [reference?_of_digit htext hdigit, htext]
    constructor
    · rintro ⟨⟩
    · rintro ⟨hspelled, hno⟩
      cases hspelled
      exact absurd hdigit hno
  · rw [reference?_of_name htext hdigit, htext, Option.some.injEq]
    constructor
    · rintro rfl
      rw [String.toList_ofList]
      exact ⟨rfl, hdigit⟩
    · rintro ⟨hspelled, -⟩
      cases hspelled
      exact String.ofList_toList
  · rw [reference?_of_compute htext]
    constructor
    · rintro ⟨⟩
    · rintro ⟨hspelled, -⟩
      exact absurd hspelled (htext name.toList)

/-- A well-formed text stands for what the assembler makes of it. -/
theorem standsFor_of_resolve? {symbols : SymbolTable} {instruction : Instruction}
    (hform : isEncodable text = true) (h : resolve? symbols text = some instruction) :
    StandsFor symbols text instruction := by
  obtain ⟨operand, htext, hdigit⟩ | ⟨operand, htext, hdigit⟩ | htext := form_cases text
  · obtain ⟨value, hvalue, hle⟩ := (isEncodable_of_digit htext hdigit).mp hform
    rw [resolve?_of_digit _ htext hdigit, hvalue] at h
    cases h
    have hdigits := (Word.readDigits_eq_ok_iff (by omega)).mp hvalue
    rw [eq_load_ofList htext]
    refine .number ⟨?_, hdigits.1, hdigits.2⟩ hle
    rintro rfl
    cases hdigit
  · rw [isEncodable_of_name htext hdigit] at hform
    rw [resolve?_of_name _ htext hdigit] at h
    obtain ⟨value, hvalue, rfl⟩ := Option.map_eq_some_iff.mp h
    rw [eq_load_ofList htext]
    refine .symbol ?_ hvalue
    rw [String.toList_ofList]
    exact hform
  · obtain ⟨decoded, hdecoded⟩ := (isEncodable_of_compute htext).mp hform
    rw [resolve?_of_compute _ htext, hdecoded] at h
    cases h
    exact .compute (fun operand hspelled => htext _ (eq_load_iff.mp hspelled)) hdecoded

/-- What a load of a symbol stands for is the load of the symbol's value. A symbol does not start
with a digit, so it is no number. -/
theorem StandsFor.of_loads {symbols : SymbolTable} {instruction : Instruction}
    (h : StandsFor symbols text instruction) (hloads : Loads text name) :
    ∃ value, symbols[name]? = some value ∧ instruction = .load value := by
  obtain ⟨hspelled, hno⟩ := hloads
  cases h with
  | @number digits value hdigits hvalue =>
    have hname := (String.append_right_inj _).mp hspelled
    rw [← hname, String.toList_ofList] at hno
    cases digits with
    | nil => exact absurd rfl hdigits.ne_nil
    | cons first rest => exact absurd (hdigits.digit first List.mem_cons_self) hno
  | @symbol other value hname hvalue =>
    have hsame := (String.append_right_inj _).mp hspelled
    rw [hsame] at hvalue
    exact ⟨value, hvalue, rfl⟩
  | compute htext hdecoded => exact absurd hspelled (htext name)

end Loads

/-- The variables are the symbols that are loaded, but neither declared nor predefined. -/
theorem mem_variableNames_iff {lines : List String} {name : String} :
    name ∈ variableNames lines ↔ (∃ text ∈ instructionTexts lines, Loads text name) ∧
      (∀ line ∈ lines, ¬ DeclaresLabel line name) ∧ name ∉ predefinedNames := by
  rw [variableNames, List.mem_eraseDups, List.mem_filter, List.mem_filterMap, decide_eq_true_eq]
  simp only [reference?_eq_some_iff]

section Resolved

variable {lines : List String} {program : Program}

/-- The instructions of an assembled program are those that the instruction lines stand for. -/
theorem forall₂_standsFor (h : assemble lines = .ok program) :
    List.Forall₂ (StandsFor program.symbols) (instructionTexts lines) program.code.toList := by
  obtain ⟨labels, encoding, -, hencoding, rfl⟩ := (assemble_eq_ok_iff lines program).mp h
  obtain ⟨code, hcode, hall⟩ := Encoding.addAll_code hencoding
  have hforms := Encoding.isEncodable_of_addAll hencoding
  rw [codeTexts_ofLines] at hall hforms
  rw [List.nil_append] at hcode
  dsimp only
  rw [hcode, List.forall₂_iff_get]
  refine ⟨hall.length_eq, fun index hindex hindex' => ?_⟩
  exact standsFor_of_resolve? (hforms _ (List.get_mem _ _)) (hall.get hindex hindex')

/-- A label of an assembled program stands for the number of instructions before it. -/
theorem label_of_assembled (h : Assembled (lines.filterMap Item.ofLine?) program)
    (hsize : (instructionTexts lines).length ≤ 65535) {before after : List String}
    {line name : String} (hsplit : lines = before ++ line :: after)
    (hdeclares : DeclaresLabel line name) :
    program.symbols[name]?.map BitVec.toNat = some (instructionTexts before).length := by
  have hitems : lines.filterMap Item.ofLine? = before.filterMap Item.ofLine? ++
      .label name :: after.filterMap Item.ofLine? := by
    rw [hsplit, List.filterMap_append,
      List.filterMap_cons_some (ofLine?_eq_label_iff.mpr hdeclares)]
  have hfew : (instructionTexts before).length ≤ 65535 := by
    rw [← codeTexts_ofLines, hitems, codeTexts_append, List.length_append,
      codeTexts_ofLines before] at hsize
    omega
  rw [h.label _ name _ hitems, codeTexts_ofLines, Option.map_some, BitVec.toNat_ofNat,
    Nat.mod_eq_of_lt (by omega)]

/-- A variable of an assembled program has the cell of its place among the variables, of which none
is listed twice. -/
theorem cell_of_assembled (h : Assembled (lines.filterMap Item.ofLine?) program) {index : Nat}
    {name : String} (hname : (variableNames lines)[index]? = some name) :
    program.symbols[name]?.map BitVec.toNat = some (16 + index) := by
  have hroom := h.room
  have hcell := h.cell name
  rw [undeclared_ofLines] at hroom hcell
  obtain ⟨hindex, hat⟩ := List.getElem?_eq_some_iff.mp hname
  obtain ⟨-, hnowhere, hpredefined⟩ := mem_variableNames_iff.mp (List.mem_of_getElem? hname)
  have hplace : (variableNames lines).idxOf? name = some index := by
    have hnodup : (variableNames lines).Nodup := nodup_eraseDups _
    refine List.idxOf?_eq_some_iff.mpr ⟨hindex, hat, fun other hother hsame => ?_⟩
    exact absurd (hnodup.getElem_inj_iff.mp (hsame.trans hat.symm)) (Nat.ne_of_lt hother)
  have hdeclared : name ∉ declarations (lines.filterMap Item.ofLine?) := by
    rw [mem_declarations_ofLines]
    rintro ⟨line, hline, hdeclares⟩
    exact hnowhere line hline hdeclares
  rw [hcell hdeclared hpredefined, hplace, Option.map_some, Option.map_some, BitVec.toNat_ofNat,
    Nat.mod_eq_of_lt (by omega)]
  rfl

/-- The symbols of an assembled program are its labels, the predefined ones and its variables. -/
theorem only_of_assembled (h : Assembled (lines.filterMap Item.ofLine?) program) {name : String}
    (hname : name ∈ program.symbols) : (∃ line ∈ lines, DeclaresLabel line name) ∨
      name ∈ predefinedNames ∨ name ∈ variableNames lines := by
  by_cases hdeclared : name ∈ declarations (lines.filterMap Item.ofLine?)
  · exact .inl (mem_declarations_ofLines.mp hdeclared)
  · by_cases hpredefined : name ∈ predefinedNames
    · exact .inr (.inl hpredefined)
    · rw [Std.TreeMap.mem_iff_isSome_getElem?, h.cell name hdeclared hpredefined,
        Option.isSome_map, List.isSome_idxOf?, undeclared_ofLines] at hname
      exact .inr (.inr hname)

/-- The load of a symbol goes through the entry of the symbol. -/
theorem exists_goesThrough (h : assemble lines = .ok program) {address : Nat}
    {text name : String} (htext : (instructionTexts lines)[address]? = some text)
    (hloads : Loads text name) : ∃ value, GoesThrough lines program address (name, value) := by
  have hall := forall₂_standsFor h
  obtain ⟨haddress, hat⟩ := List.getElem?_eq_some_iff.mp htext
  have haddress' : address < program.code.toList.length := hall.length_eq ▸ haddress
  have hstands := hall.get haddress haddress'
  rw [List.get_eq_getElem, hat] at hstands
  obtain ⟨value, hvalue, hload⟩ := hstands.of_loads hloads
  refine ⟨value, Std.TreeMap.mem_toList_iff_getElem?_eq_some.mpr hvalue, ⟨text, htext, hloads⟩, ?_⟩
  rw [← Array.getElem?_toList, List.getElem?_eq_getElem haddress']
  exact congrArg some hload

/-- Loads go through the same entry exactly if they spell the same symbol. -/
theorem GoesThrough.eq_iff {first second : Nat} {entry other : String × Word}
    (hfirst : GoesThrough lines program first entry)
    (hsecond : GoesThrough lines program second other) :
    entry = other ↔ (instructionTexts lines)[first]? = (instructionTexts lines)[second]? := by
  obtain ⟨text, htext, hloads⟩ := hfirst.spelled
  obtain ⟨text', htext', hloads'⟩ := hsecond.spelled
  rw [htext, htext', Option.some.injEq, hloads.1, hloads'.1, String.append_right_inj]
  constructor
  · rintro rfl
    rfl
  · intro hname
    have hvalue := Std.TreeMap.mem_toList_iff_getElem?_eq_some.mp hfirst.listed
    have hvalue' := Std.TreeMap.mem_toList_iff_getElem?_eq_some.mp hsecond.listed
    rw [← hname, hvalue, Option.some.injEq] at hvalue'
    exact Prod.ext hname hvalue'

end Resolved

/-- Lines that can be assembled are assembled to what they say, as far as the addresses of
their instructions are words: one instruction for each instruction line, labels by the
instruction lines before them, variables from 16 on in the order of their first use, no other
symbol, and every load through the entry of the symbol that it spells. -/
theorem assembled_symbols_resolved {lines : List String} {program : Program}
    (h : assemble lines = .ok program) (hsize : (instructionTexts lines).length ≤ 65535) :
    Resolved lines program := by
  have hassembled := assembled_of_assemble h
  exact {
    code := forall₂_standsFor h
    label := fun _ _ _ _ hsplit hdeclares => label_of_assembled hassembled hsize hsplit hdeclares
    predefined := hassembled.predefined
    cell := fun _ _ hname => cell_of_assembled hassembled hname
    only := fun _ hname => only_of_assembled hassembled hname
    load := fun _ _ _ htext hloads => exists_goesThrough h htext hloads
    shared := fun _ _ _ _ hfirst hsecond => hfirst.eq_iff hsecond }

/-- Lines with two variables between a label that is used before its declaration at the end
and one that is used after it. -/
def crossedLines : List String :=
  ["@x // a variable", "(LOOP)", "  // nothing", "@END", "0;JMP", "@y", "@SP", "@007", "@x",
    "@LOOP", "(END)"]

/-- All symbols of such lines are resolved: `LOOP` is 1, `END` is 8, `x` is 16 and `y` is 17. -/
theorem crossedLines_resolved : ∃ program, assemble crossedLines = .ok program ∧
    (instructionTexts crossedLines).length ≤ 65535 ∧ Resolved crossedLines program ∧
      program.symbols["LOOP"]?.map BitVec.toNat = some 1 ∧
      program.symbols["END"]?.map BitVec.toNat = some 8 ∧
      program.symbols["x"]?.map BitVec.toNat = some 16 ∧
      program.symbols["y"]?.map BitVec.toNat = some 17 := by
  obtain ⟨program, h⟩ := (assemble_isOk_iff crossedLines).mpr (by decide +kernel)
  have hsize : (instructionTexts crossedLines).length ≤ 65535 := by decide +kernel
  have hresolved := assembled_symbols_resolved h hsize
  refine ⟨program, h, hsize, hresolved, ?_, ?_, ?_, ?_⟩
  · exact hresolved.label (crossedLines.take 1) "(LOOP)" (crossedLines.drop 2) "LOOP" rfl
      (by decide +kernel)
  · exact hresolved.label (crossedLines.take 10) "(END)" [] "END" rfl (by decide +kernel)
  · exact hresolved.cell 0 "x" (by decide +kernel)
  · exact hresolved.cell 1 "y" (by decide +kernel)

end HackVm.Assembly
