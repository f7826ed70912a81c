import HackVm.Proofs.EncodingPass
import Mathlib.Data.List.Nodup

/-!
# What assembling gives

Both passes together: an assembled program has one instruction for each instruction
text, in which every symbol has its final value; a label stands for the number of
instructions before it; predefined symbols keep their values; and all other symbols
are variables with cells of their own from 16 on.
-/

namespace HackVm.Assembly

/-- The names of the predefined symbols. -/
def predefinedNames : List String := predefined.map Prod.fst

/-- No predefined symbol is listed twice. -/
theorem predefinedNames_nodup : predefinedNames.Nodup := by decide

/-- The predefined names are symbols. -/
theorem isSymbol_of_mem_predefinedNames :
    ∀ name ∈ predefinedNames, isSymbol name.toList = true := by decide

/-- Entries with different names end up in a table, and no other name changes. -/
theorem foldl_insert_getElem? (entries : List (String × Word)) (table : SymbolTable)
    (hnodup : (entries.map Prod.fst).Nodup) :
    (∀ entry ∈ entries, (entries.foldl (fun table entry => table.insert entry.1 entry.2)
      table)[entry.1]? = some entry.2) ∧
    ∀ name ∉ entries.map Prod.fst, (entries.foldl (fun table entry =>
      table.insert entry.1 entry.2) table)[name]? = table[name]? := by
  induction entries generalizing table with
  | nil => exact ⟨by simp, fun _ _ => rfl⟩
  | cons first entries ih =>
    rw [List.map_cons, List.nodup_cons] at hnodup
    have hi := ih (table.insert first.1 first.2) hnodup.2
    rw [List.foldl_cons]
    constructor
    · rw [List.forall_mem_cons]
      refine ⟨?_, hi.1⟩
      rw [hi.2 first.1 hnodup.1, getElem?_insert_name, if_pos rfl]
    · intro name hn
      rw [List.map_cons, List.mem_cons, not_or] at hn
      rw [hi.2 name hn.2, getElem?_insert_name, if_neg (Ne.symm hn.1)]

/-- A predefined symbol has its value in the table before the first pass. -/
theorem predefinedTable_of_mem {entry : String × Word} (h : entry ∈ predefined) :
    predefinedTable[entry.1]? = some entry.2 :=
  (foldl_insert_getElem? predefined {} predefinedNames_nodup).1 entry h

/-- Before the first pass the table knows exactly the predefined symbols. -/
theorem mem_predefinedTable_iff (name : String) :
    name ∈ predefinedTable ↔ name ∈ predefinedNames := by
  rw [Std.TreeMap.mem_iff_isSome_getElem?]
  constructor
  · intro h
    by_contra hn
    have hnone : predefinedTable[name]? = none :=
      (foldl_insert_getElem? predefined {} predefinedNames_nodup).2 name hn
    rw [hnone] at h
    cases h
  · intro h
    obtain ⟨entry, he, rfl⟩ := List.mem_map.mp h
    rw [predefinedTable_of_mem he]
    rfl

/-- The symbols that items refer to without declaring them and that are not
predefined, in the order of their first use. -/
def undeclared (items : List Item) : List String :=
  ((references items).filter fun name =>
    name ∉ declarations items ∧ name ∉ predefinedNames).eraseDups

/-- The items of an assembled program and what became of them. -/
structure Assembled (items : List Item) (program : Program) : Prop where
  /-- There is one instruction for each instruction text. -/
  size : program.code.size = (codeTexts items).length
  /-- An instruction text becomes the instruction it stands for, in its place. -/
  code : ∀ before text after, items = before ++ .instruction text :: after →
    isEncodable text = true ∧ ∃ instruction,
      program.code[(codeTexts before).length]? = some instruction ∧
        resolve? program.symbols text = some instruction
  /-- A label stands for the number of instructions before it. -/
  label : ∀ before name after, items = before ++ .label name :: after →
    program.symbols[name]? = some (BitVec.ofNat 16 (codeTexts before).length)
  /-- Predefined symbols keep their values. -/
  predefined : ∀ entry ∈ predefined, program.symbols[entry.1]? = some entry.2
  /-- All other symbols of the program are its variables, counted from 16 on. -/
  cell : ∀ name ∉ declarations items, name ∉ predefinedNames →
    program.symbols[name]? = ((undeclared items).idxOf? name).map
      fun index => BitVec.ofNat 16 (firstVariable + index)
  /-- The labels are symbols, different from each other and not predefined. -/
  labels : (∀ name ∈ declarations items, isSymbol name.toList = true ∧
    name ∉ predefinedNames) ∧ (declarations items).Nodup
  /-- The variables fit below the last address. -/
  room : firstVariable + (undeclared items).length ≤ 65535

/-- After the first pass the table knows the declared and the predefined names. -/
theorem mem_declareLabels_iff {labels : SymbolTable} {items : List Item}
    (h : declareLabels predefinedTable 0 items = .ok labels) (name : String) :
    name ∈ labels ↔ name ∈ declarations items ∨ name ∈ predefinedNames := by
  by_cases hd : name ∈ declarations items
  · obtain ⟨item, hi, hname⟩ := List.mem_filterMap.mp hd
    obtain ⟨before, after, hsplit⟩ := List.append_of_mem hi
    cases item with
    | instruction text => cases hname
    | label other =>
      cases hname
      rw [hsplit] at h
      have hvalue := declareLabels_of_split h
      refine ⟨fun _ => .inl hd, fun _ => ?_⟩
      rw [Std.TreeMap.mem_iff_isSome_getElem?, hvalue]
      rfl
  · rw [← mem_predefinedTable_iff, Std.TreeMap.mem_iff_isSome_getElem?,
      declareLabels_of_not_mem h hd, ← Std.TreeMap.mem_iff_isSome_getElem?]
    exact ⟨.inr, fun hor => hor.resolve_left hd⟩

/-- The new symbols of the second pass are the undeclared ones. -/
theorem freshSymbols_declareLabels {labels : SymbolTable} {items : List Item}
    (h : declareLabels predefinedTable 0 items = .ok labels) :
    freshSymbols labels items = undeclared items := by
  unfold freshSymbols undeclared
  congr 2
  funext name
  rw [decide_eq_decide, mem_declareLabels_iff h, not_or]

/-- Assembling gives what both passes give. -/
theorem assemble_eq_ok_iff (lines : List String) (program : Program) :
    assemble lines = .ok program ↔ ∃ labels encoding,
      declareLabels predefinedTable 0 (lines.filterMap Item.ofLine?) = .ok labels ∧
        Encoding.addAll ⟨labels, firstVariable, #[]⟩ (lines.filterMap Item.ofLine?) =
          .ok encoding ∧ program = ⟨encoding.code, encoding.symbols⟩ := by
  unfold assemble
  dsimp only
  constructor
  · intro h
    split at h
    · cases h
    · rename_i labels hlabels
      split at h
      · cases h
      · rename_i encoding hencoding
        cases h
        exact ⟨labels, encoding, hlabels, hencoding, rfl⟩
  · rintro ⟨labels, encoding, hlabels, hencoding, rfl⟩
    simp only [hlabels, hencoding]

/-- What is known about every program that could be assembled. -/
theorem assembled_of_assemble {lines : List String} {program : Program}
    (h : assemble lines = .ok program) :
    Assembled (lines.filterMap Item.ofLine?) program := by
  obtain ⟨labels, encoding, hlabels, hencoding, rfl⟩ := (assemble_eq_ok_iff lines program).mp h
  obtain ⟨code, hcode, hall⟩ := Encoding.addAll_code hencoding
  rw [List.nil_append] at hcode
  have hlength : (codeTexts (lines.filterMap Item.ofLine?)).length = code.length := hall.length_eq
  have hsymbols := Encoding.addAll_symbols hencoding (by simp [firstVariable])
  have hforms := Encoding.isEncodable_of_addAll hencoding
  have hdeclared := (declareLabels_isOk_iff _ _ _).mp ⟨labels, hlabels⟩
  dsimp only at hsymbols
  rw [freshSymbols_declareLabels hlabels] at hsymbols
  constructor
  · rw [hlength, ← hcode, Array.length_toList]
  · intro before text after hsplit
    rw [hsplit, codeTexts_append, codeTexts_instruction] at hall hforms
    have hplace : (codeTexts before).length <
        (codeTexts before ++ text :: codeTexts after).length := by simp
    have hplace' := hall.length_eq ▸ hplace
    have hresolve := hall.get hplace hplace'
    rw [List.get_eq_getElem, List.getElem_append_right (Nat.le_refl _)] at hresolve
    simp only [Nat.sub_self, List.getElem_cons_zero] at hresolve
    refine ⟨hforms text (by simp), _, ?_, hresolve⟩
    rw [← Array.getElem?_toList, hcode]
    exact List.getElem?_eq_getElem hplace'
  · intro before name after hsplit
    rw [hsplit] at hlabels
    have hvalue := declareLabels_of_split hlabels
    rw [Nat.zero_add] at hvalue
    exact Encoding.addAll_getElem? hencoding hvalue
  · intro entry he
    have hn : entry.1 ∉ declarations (lines.filterMap Item.ofLine?) := fun hd =>
      (hdeclared.1 entry.1 hd).2
        ((mem_predefinedTable_iff entry.1).mpr (List.mem_map.mpr ⟨entry, he, rfl⟩))
    have hvalue : labels[entry.1]? = some entry.2 := by
      rw [declareLabels_of_not_mem hlabels hn, predefinedTable_of_mem he]
    exact Encoding.addAll_getElem? hencoding hvalue
  · intro name hn hp
    have hnone : labels[name]? = none := by
      have hm := mem_declareLabels_iff hlabels name
      rw [Std.TreeMap.mem_iff_isSome_getElem?] at hm
      have := mt hm.mp (not_or.mpr ⟨hn, hp⟩)
      simpa using this
    rw [hsymbols.2 name, hnone]
    rfl
  · refine ⟨fun name hn => ⟨(hdeclared.1 name hn).1, ?_⟩, hdeclared.2⟩
    rw [← mem_predefinedTable_iff]
    exact (hdeclared.1 name hn).2
  · exact hsymbols.1

/-- Lines can be assembled exactly if the labels are symbols, different from each
other and not predefined, all instructions are well-formed and the variables fit. -/
theorem assemble_isOk_iff (lines : List String) :
    (∃ program, assemble lines = .ok program) ↔
      ((∀ name ∈ declarations (lines.filterMap Item.ofLine?), isSymbol name.toList = true ∧
        name ∉ predefinedNames) ∧ (declarations (lines.filterMap Item.ofLine?)).Nodup) ∧
      (∀ text ∈ codeTexts (lines.filterMap Item.ofLine?), isEncodable text = true) ∧
      firstVariable + (undeclared (lines.filterMap Item.ofLine?)).length ≤ 65535 := by
  constructor
  · rintro ⟨program, h⟩
    obtain ⟨labels, encoding, -, hencoding, -⟩ := (assemble_eq_ok_iff lines program).mp h
    have ha := assembled_of_assemble h
    exact ⟨ha.labels, Encoding.isEncodable_of_addAll hencoding, ha.room⟩
  · rintro ⟨hlabels, hforms, hroom⟩
    obtain ⟨labels, hl⟩ := (declareLabels_isOk_iff predefinedTable 0 _).mpr
      ⟨fun name hn => ⟨(hlabels.1 name hn).1,
        fun hp => (hlabels.1 name hn).2 ((mem_predefinedTable_iff name).mp hp)⟩, hlabels.2⟩
    rw [← freshSymbols_declareLabels hl] at hroom
    have hsecond : ∃ encoding, Encoding.addAll ⟨labels, firstVariable, #[]⟩
        (lines.filterMap Item.ofLine?) = .ok encoding :=
      Encoding.exists_addAll_eq_ok hforms hroom
    obtain ⟨encoding, he⟩ := hsecond
    exact ⟨_, (assemble_eq_ok_iff _ _).mpr ⟨labels, encoding, hl, he, rfl⟩⟩

/-- The symbol that a well-formed instruction refers to is a proper one. -/
theorem isSymbol_of_reference {text name : String} (hform : isEncodable text = true)
    (h : reference? text = some name) : isSymbol name.toList = true := by
  obtain ⟨operand, htext, hdigit⟩ | ⟨operand, htext, hdigit⟩ | htext := form_cases text
  · rw [reference?_of_digit htext hdigit] at h
    cases h
  · rw [reference?_of_name htext hdigit] at h
    rw [isEncodable_of_name htext hdigit] at hform
    cases h
    rw [String.toList_ofList]
    exact hform
  · rw [reference?_of_compute htext] at h
    cases h

/-- The symbols of an assembled program are proper ones. -/
theorem Assembled.isSymbol_of_some {items : List Item} {program : Program}
    (h : Assembled items program) {name : String} {value : Word}
    (hvalue : program.symbols[name]? = some value) : isSymbol name.toList = true := by
  by_cases hd : name ∈ declarations items
  · exact (h.labels.1 name hd).1
  · by_cases hp : name ∈ predefinedNames
    · exact isSymbol_of_mem_predefinedNames name hp
    · rw [h.cell name hd hp] at hvalue
      obtain ⟨index, hindex, -⟩ := Option.map_eq_some_iff.mp hvalue
      have hmem : name ∈ undeclared items := by
        rw [← List.isSome_idxOf?, hindex]
        rfl
      rw [undeclared, List.mem_eraseDups, List.mem_filter, references, List.mem_filterMap] at hmem
      obtain ⟨⟨text, htext, href⟩, -⟩ := hmem
      obtain ⟨item, hitem, hcode⟩ := List.mem_filterMap.mp htext
      cases item with
      | label other => cases hcode
      | instruction other =>
        cases hcode
        obtain ⟨before, after, hsplit⟩ := List.append_of_mem hitem
        exact isSymbol_of_reference (h.code before text after hsplit).1 href

/-- The address of a variable is its place among the variables, counted from 16 on. -/
theorem Assembled.variable_of_some {items : List Item} {program : Program}
    (h : Assembled items program) {name : String} {value : Word}
    (hdeclared : name ∉ declarations items) (hpredefined : name ∉ predefinedNames)
    (hvalue : program.symbols[name]? = some value) :
    firstVariable ≤ value.toNat ∧
      (undeclared items)[value.toNat - firstVariable]? = some name := by
  rw [h.cell name hdeclared hpredefined] at hvalue
  obtain ⟨index, hindex, rfl⟩ := Option.map_eq_some_iff.mp hvalue
  obtain ⟨hlt, hname, -⟩ := List.findIdx?_eq_some_iff_getElem.mp hindex
  have hroom := h.room
  have hword : (BitVec.ofNat 16 (firstVariable + index)).toNat = firstVariable + index := by
    rw [BitVec.toNat_ofNat, Nat.mod_eq_of_lt (by omega)]
  rw [hword, Nat.add_sub_cancel_left, List.getElem?_eq_getElem hlt]
  exact ⟨Nat.le_add_right _ _, congrArg some (beq_iff_eq.mp hname)⟩

end HackVm.Assembly
