import HackVm.Proofs.LineItems

/-!
# Code in its place

A piece of code stands at an address of a program if its instructions do, one after
the other, and its labels have the addresses of the instructions that follow them.
Sound lines that were assembled stand where the instructions before them end.
-/

namespace HackVm.Assembly

open Text

/-- What the assembler makes of a sound line. -/
def Line.item? (line : Line) : Option Item :=
  match line with
  | comment _ => none
  | label name => some (.label name)
  | number _ | symbol _ | compute _ _ _ => some (.instruction line.text)

/-- The number of instructions of a sound line. -/
def Line.size : Line → Nat
  | comment _ | label _ => 0
  | number _ | symbol _ | compute _ _ _ => 1

/-- The number of instructions of sound lines. -/
def codeSize : List Line → Nat
  | [] => 0
  | line :: lines => line.size + codeSize lines

@[simp] theorem codeSize_nil : codeSize [] = 0 := rfl

@[simp] theorem codeSize_cons (line : Line) (lines : List Line) :
    codeSize (line :: lines) = line.size + codeSize lines := rfl

@[simp] theorem codeSize_append (first second : List Line) :
    codeSize (first ++ second) = codeSize first + codeSize second := by
  induction first with
  | nil => rw [List.nil_append, codeSize_nil, Nat.zero_add]
  | cons line first ih => rw [List.cons_append, codeSize_cons, codeSize_cons, ih, Nat.add_assoc]

/-- The text of a sound line is read as what it is. -/
theorem ofLine?_of_sound {line : Line} (h : line.Sound) : Item.ofLine? line.text = line.item? := by
  cases line with
  | comment remark => simp [Item.ofLine?, Line.text, content_comment, Line.item?]
  | label name =>
    have htext : (Line.label name).text.toList = '(' :: (name.toList ++ [')']) := by
      simp [Line.text]
    have hname : declaredName? (Line.label name).text.toList = some name.toList := by
      rw [htext, declaredName?, List.getLast?_concat, if_pos rfl, List.dropLast_concat]
    rw [ofLine?_of_plain (isPlain_of_sound h (by simp)) (by simp [htext]), hname]
    simp [Line.item?]
  | number value =>
    have htext : (Line.number value).text.toList = '@' :: (toString value).toList := by
      simp [Line.text]
    rw [ofLine?_of_plain (isPlain_of_sound h (by simp)) (by simp [htext]),
      declaredName?_eq_none (by simp [htext])]
    rfl
  | symbol name =>
    have htext : (Line.symbol name).text.toList = '@' :: name.toList := by simp [Line.text]
    rw [ofLine?_of_plain (isPlain_of_sound h (by simp)) (by simp [htext]),
      declaredName?_eq_none (by simp [htext])]
    rfl
  | compute dest comp jump =>
    have hnonempty : ∀ comp ∈ Comp.known, comp.text.toList ≠ [] := by decide
    have hne : (Line.compute dest comp jump).text.toList ≠ [] := by
      rw [compute_text]
      intro hnil
      exact hnonempty comp h (List.append_eq_nil_iff.mp (List.append_eq_nil_iff.mp hnil).2).1
    have hopen : (Line.compute dest comp jump).text.toList.head? ≠ some '(' := fun hc =>
      absurd (isCodeChar_of_mem_text dest jump h '(' (List.mem_of_mem_head? hc)) (by decide)
    rw [ofLine?_of_plain (isPlain_of_sound h (by simp)) hne, declaredName?_eq_none hopen]
    rfl

/-- A sound line that is written is read as what it is. -/
theorem items_of_sound {line : Line} (h : line.Sound) : line.items = line.item?.toList := by
  by_cases hcomment : ∃ remark, line = .comment remark
  · obtain ⟨remark, rfl⟩ := hcomment
    exact items_comment h
  · have hplain := isPlain_of_sound h (not_exists.mp hcomment)
    rw [Line.items, lines_single_of_plain hplain, List.map_singleton, String.ofList_toList,
      List.filterMap_cons, ofLine?_of_sound h]
    cases line.item? <;> rfl

/-- Sound lines have as many instructions as they are read to have. -/
theorem length_codeTexts_of_sound {lines : List Line} (h : ∀ line ∈ lines, line.Sound) :
    (codeTexts (lines.flatMap Line.items)).length = codeSize lines := by
  induction lines with
  | nil => rfl
  | cons line lines ih =>
    rw [List.forall_mem_cons] at h
    rw [List.flatMap_cons, codeTexts_append, List.length_append, ih h.2, items_of_sound h.1,
      codeSize_cons]
    cases line <;> rfl

/-- The text of a load of a number. -/
theorem number_text (value : Nat) :
    (Line.number value).text.toList = '@' :: (toString value).toList ∧
      (toString value).toList.head?.any Char.isDigit = true := by
  obtain ⟨digit, rest, hdigits, hdigit⟩ := Word.exists_toString_eq_cons value
  refine ⟨by simp [Line.text], ?_⟩
  rw [hdigits]
  exact hdigit

/-- The text of a load of a symbol. -/
theorem symbol_text {name : String} (h : isSymbol name.toList = true) :
    (Line.symbol name).text.toList = '@' :: name.toList ∧
      ¬ name.toList.head?.any Char.isDigit = true :=
  ⟨by simp [Line.text], by simp [head_of_isSymbol h]⟩

/-- A load of a number stands for that load. -/
theorem resolve?_number {value : Nat} (symbols : SymbolTable) (h : value ≤ Word.maxLoad) :
    resolve? symbols (Line.number value).text = some (.load (BitVec.ofNat 16 value)) := by
  have hword : value ≤ 65535 := by
    unfold Word.maxLoad at h
    omega
  obtain ⟨htext, hdigit⟩ := number_text value
  rw [resolve?_of_digit _ htext hdigit, Word.ofDigits_toString hword]
  rfl

/-- A load of a symbol stands for the load of its value. -/
theorem resolve?_symbol {name : String} (symbols : SymbolTable)
    (h : isSymbol name.toList = true) :
    resolve? symbols (Line.symbol name).text = symbols[name]?.map .load := by
  obtain ⟨htext, hdigit⟩ := symbol_text h
  rw [resolve?_of_name _ htext hdigit, String.ofList_toList]

/-- The text of a compute instruction does not start with an at sign. -/
theorem compute_text_ne_cons {comp : Comp} (dest : Dest) (jump : Jump) (h : comp ∈ Comp.known)
    (operand : List Char) : (Line.compute dest comp jump).text.toList ≠ '@' :: operand := by
  intro htext
  have hat : '@' ∈ (Line.compute dest comp jump).text.toList := htext ▸ List.mem_cons_self
  exact absurd (isCodeChar_of_mem_text dest jump h '@' hat) (by decide)

/-- A compute instruction stands for itself. -/
theorem resolve?_compute {comp : Comp} (symbols : SymbolTable) (dest : Dest) (jump : Jump)
    (h : comp ∈ Comp.known) :
    resolve? symbols (Line.compute dest comp jump).text = some (.compute dest comp jump) := by
  rw [resolve?_of_compute _ (compute_text_ne_cons dest jump h), decodeCompute_text dest jump h]
  rfl

/-- Code stands at an address of a program: its instructions one after the other, and
its labels with the addresses of what follows them. -/
def Placed (program : Program) (address : Nat) : List Line → Prop
  | [] => True
  | .comment _ :: lines => Placed program address lines
  | .label name :: lines =>
    program.symbols[name]? = some (BitVec.ofNat 16 address) ∧ Placed program address lines
  | .number value :: lines =>
    program.code[address]? = some (.load (BitVec.ofNat 16 value)) ∧
      Placed program (address + 1) lines
  | .symbol name :: lines =>
    (∃ value, program.symbols[name]? = some value ∧ program.code[address]? = some (.load value)) ∧
      Placed program (address + 1) lines
  | .compute dest comp jump :: lines =>
    program.code[address]? = some (.compute dest comp jump) ∧
      Placed program (address + 1) lines

/-- Two pieces of code stand one after the other. -/
theorem placed_append {program : Program} {address : Nat} {first second : List Line} :
    Placed program address (first ++ second) ↔
      Placed program address first ∧ Placed program (address + codeSize first) second := by
  induction first generalizing address with
  | nil => simp [Placed]
  | cons line first ih =>
    cases line <;>
      simp only [List.cons_append, Placed, ih, codeSize_cons, Line.size, Nat.zero_add, and_assoc,
        Nat.add_assoc]

/-- A symbol that code in its place loads has a value. -/
theorem exists_value_of_placed {program : Program} {address : Nat} {lines : List Line}
    {name : String} (h : Placed program address lines) (hline : .symbol name ∈ lines) :
    ∃ value, program.symbols[name]? = some value := by
  induction lines generalizing address with
  | nil => cases hline
  | cons line lines ih =>
    rw [List.mem_cons] at hline
    obtain rfl | hline := hline
    · obtain ⟨⟨value, hvalue, -⟩, -⟩ := h
      exact ⟨value, hvalue⟩
    · cases line with
      | comment remark => exact ih h hline
      | _ => exact ih h.2 hline

/-- Sound lines of an assembled program stand after the instructions before them. -/
theorem placed_of_assembled {before after : List Item} {lines : List Line} {program : Program}
    (h : Assembled (before ++ lines.flatMap Line.items ++ after) program)
    (hsound : ∀ line ∈ lines, line.Sound) :
    Placed program (codeTexts before).length lines := by
  induction lines generalizing before with
  | nil => trivial
  | cons line lines ih =>
    rw [List.forall_mem_cons] at hsound
    have hitems := items_of_sound hsound.1
    have hnext : Assembled ((before ++ line.item?.toList) ++ lines.flatMap Line.items ++ after)
        program := by
      rw [List.flatMap_cons, hitems] at h
      simpa only [List.append_assoc] using h
    have hrest := ih hnext hsound.2
    rw [codeTexts_append, List.length_append] at hrest
    rw [List.append_assoc] at hnext
    have hcode : line.item? = some (.instruction line.text) → ∃ instruction,
        program.code[(codeTexts before).length]? = some instruction ∧
          resolve? program.symbols line.text = some instruction := by
      intro hitem
      rw [hitem, Option.toList_some, List.append_assoc, List.singleton_append] at hnext
      exact (hnext.code before line.text _ rfl).2
    cases line with
    | comment remark => exact hrest
    | label name =>
      refine ⟨hnext.label before name (lines.flatMap Line.items ++ after) ?_, hrest⟩
      simp [Line.item?]
    | number value =>
      obtain ⟨instruction, hc, hresolve⟩ := hcode rfl
      rw [resolve?_number _ hsound.1, Option.some.injEq] at hresolve
      exact ⟨by rw [hc, hresolve], hrest⟩
    | symbol name =>
      obtain ⟨instruction, hc, hresolve⟩ := hcode rfl
      rw [resolve?_symbol _ hsound.1] at hresolve
      obtain ⟨value, hvalue, rfl⟩ := Option.map_eq_some_iff.mp hresolve
      exact ⟨⟨value, hvalue, hc⟩, hrest⟩
    | compute dest comp jump =>
      obtain ⟨instruction, hc, hresolve⟩ := hcode rfl
      rw [resolve?_compute _ dest jump hsound.1, Option.some.injEq] at hresolve
      exact ⟨by rw [hc, hresolve], hrest⟩

end HackVm.Assembly
