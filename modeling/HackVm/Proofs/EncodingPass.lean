import HackVm.Proofs.LabelPass
import Mathlib.Data.List.Forall2

/-!
# The second pass of the assembler

The second pass turns every instruction text into the instruction it stands for
once all symbols have their values. The symbols that are new to it are its variables;
they get consecutive cells in the order of their first use.
-/

namespace HackVm.Assembly

/-- The symbol that an instruction text refers to, if its operand is no number. -/
def reference? (text : String) : Option String :=
  match text.toList with
  | '@' :: operand =>
    if operand.head?.any Char.isDigit then none else some (String.ofList operand)
  | _ => none

/-- Whether an instruction text is well-formed. -/
def isEncodable (text : String) : Bool :=
  match text.toList with
  | '@' :: operand =>
    if operand.head?.any Char.isDigit then
      match Word.ofDigits operand with
      | .ok value => value.toNat ≤ Word.maxLoad
      | .error _ => false
    else isSymbol operand
  | _ =>
    match decodeCompute text with
    | .ok _ => true
    | .error _ => false

/-- The instruction that a text stands for when symbols have given values. -/
def resolve? (symbols : SymbolTable) (text : String) : Option Instruction :=
  match text.toList with
  | '@' :: operand =>
    if operand.head?.any Char.isDigit then (Word.ofDigits operand).toOption.map .load
    else symbols[String.ofList operand]?.map .load
  | _ => (decodeCompute text).toOption

/-- The symbols that items refer to, in order and with repetitions. -/
def references (items : List Item) : List String := (codeTexts items).filterMap reference?

/-- The symbols that items refer to and that a table does not know, in the order of
their first use. -/
def freshSymbols (symbols : SymbolTable) (items : List Item) : List String :=
  ((references items).filter fun name => name ∉ symbols).eraseDups

section Forms

variable {text : String} {operand : List Char} (symbols : SymbolTable)

section Number

variable (htext : text.toList = '@' :: operand)
  (hdigit : operand.head?.any Char.isDigit = true)
include htext hdigit

/-- A load of a number refers to nothing. -/
theorem reference?_of_digit : reference? text = none := by
  simp only [reference?, htext]
  rw [if_pos hdigit]

/-- A load of a number is well-formed if the number can be loaded. -/
theorem isEncodable_of_digit : isEncodable text = true ↔
    ∃ value, Word.ofDigits operand = .ok value ∧ value.toNat ≤ Word.maxLoad := by
  simp only [isEncodable, htext]
  rw [if_pos hdigit]
  cases Word.ofDigits operand with
  | error fault => simp
  | ok value => simp

/-- A load of a number stands for the load of that number. -/
theorem resolve?_of_digit :
    resolve? symbols text = (Word.ofDigits operand).toOption.map .load := by
  simp only [resolve?, htext]
  rw [if_pos hdigit]

end Number

section Name

variable (htext : text.toList = '@' :: operand)
  (hdigit : ¬ operand.head?.any Char.isDigit = true)
include htext hdigit

/-- A load of a symbol refers to the symbol. -/
theorem reference?_of_name : reference? text = some (String.ofList operand) := by
  simp only [reference?, htext]
  rw [if_neg hdigit]

/-- A load of a symbol is well-formed if the symbol is one. -/
theorem isEncodable_of_name : isEncodable text = isSymbol operand := by
  simp only [isEncodable, htext]
  rw [if_neg hdigit]

/-- A load of a symbol stands for the load of its value. -/
theorem resolve?_of_name :
    resolve? symbols text = symbols[String.ofList operand]?.map .load := by
  simp only [resolve?, htext]
  rw [if_neg hdigit]

end Name

section Compute

variable (htext : ∀ operand, text.toList ≠ '@' :: operand)
include htext

/-- A compute instruction refers to nothing. -/
theorem reference?_of_compute : reference? text = none := by
  unfold reference?
  split
  · rename_i operand hload
    exact absurd hload (htext operand)
  · rfl

/-- A compute instruction is well-formed if it can be decoded. -/
theorem isEncodable_of_compute : isEncodable text = true ↔
    ∃ instruction, decodeCompute text = .ok instruction := by
  unfold isEncodable
  split
  · rename_i operand hload
    exact absurd hload (htext operand)
  · cases decodeCompute text with
    | error fault => simp
    | ok instruction => simp

/-- A compute instruction stands for what it is decoded to. -/
theorem resolve?_of_compute : resolve? symbols text = (decodeCompute text).toOption := by
  unfold resolve?
  split
  · rename_i operand hload
    exact absurd hload (htext operand)
  · rfl

/-- A compute instruction is encoded as what it is decoded to. -/
theorem add_of_compute (encoding : Encoding) :
    encoding.add text = (decodeCompute text).map encoding.push := by
  unfold Encoding.add
  split
  · rename_i operand hload
    exact absurd hload (htext operand)
  · rfl

end Compute

/-- A load is encoded by its operand. -/
theorem add_of_load (htext : text.toList = '@' :: operand) (encoding : Encoding) :
    encoding.add text = encoding.loadOperand operand := by
  simp only [Encoding.add, htext]

/-- An instruction text is a load of a number, a load of a symbol or a compute instruction. -/
theorem form_cases (text : String) :
    (∃ operand, text.toList = '@' :: operand ∧ operand.head?.any Char.isDigit = true) ∨
      (∃ operand, text.toList = '@' :: operand ∧ ¬ operand.head?.any Char.isDigit = true) ∨
        ∀ operand, text.toList ≠ '@' :: operand := by
  by_cases hload : ∃ operand, text.toList = '@' :: operand
  · obtain ⟨operand, htext⟩ := hload
    by_cases hdigit : operand.head?.any Char.isDigit = true
    · exact .inl ⟨operand, htext, hdigit⟩
    · exact .inr (.inl ⟨operand, htext, hdigit⟩)
  · exact .inr (.inr fun operand htext => hload ⟨operand, htext⟩)

end Forms

/-- A text stands for the same instruction in every larger table. -/
theorem resolve?_mono {small large : SymbolTable} {text : String} {instruction : Instruction}
    (hsub : ∀ (name : String) (value : Word), small[name]? = some value → large[name]? = some value)
    (h : resolve? small text = some instruction) : resolve? large text = some instruction := by
  obtain ⟨operand, htext, hdigit⟩ | ⟨operand, htext, hdigit⟩ | htext := form_cases text
  · rw [resolve?_of_digit _ htext hdigit] at h ⊢
    exact h
  · rw [resolve?_of_name _ htext hdigit] at h ⊢
    obtain ⟨value, hvalue, rfl⟩ := Option.map_eq_some_iff.mp h
    rw [hsub _ value hvalue, Option.map_some]
  · rw [resolve?_of_compute _ htext] at h ⊢
    exact h

/-- An instruction whose symbol is known brings no variable. -/
theorem freshSymbols_known {symbols : SymbolTable} {text : String} (items : List Item)
    (h : ∀ name, reference? text = some name → name ∈ symbols) :
    freshSymbols symbols (.instruction text :: items) = freshSymbols symbols items := by
  unfold freshSymbols references
  rw [codeTexts_instruction, List.filterMap_cons]
  cases hr : reference? text with
  | none => rfl
  | some name =>
    dsimp only
    rw [List.filter_cons_of_neg (by simp [h name hr])]

/-- The first use of an unknown symbol brings the next variable. -/
theorem freshSymbols_new {symbols : SymbolTable} {text name : String} (value : Word)
    (items : List Item) (hr : reference? text = some name) (hn : name ∉ symbols) :
    freshSymbols symbols (.instruction text :: items) =
      name :: freshSymbols (symbols.insert name value) items := by
  unfold freshSymbols references
  rw [codeTexts_instruction, List.filterMap_cons, hr]
  dsimp only
  rw [List.filter_cons_of_pos (by simpa using hn), List.eraseDups_cons, List.filter_filter]
  congr 3
  funext other
  rw [Bool.eq_iff_iff]
  simp only [Bool.and_eq_true, Bool.not_eq_true', beq_eq_false_iff_ne, decide_eq_true_eq,
    mem_insert_name, not_or]
  exact and_congr_left' ⟨Ne.symm, Ne.symm⟩

namespace Encoding

/-- What encoding a text does. -/
structure Added (encoding : Encoding) (text : String) (next : Encoding) : Prop where
  /-- The text is well-formed. -/
  encodable : isEncodable text = true
  /-- The instruction that the text stands for is appended. -/
  code : ∃ instruction, resolve? next.symbols text = some instruction ∧
    next.code = encoding.code.push instruction
  /-- An unknown symbol becomes the next variable, and no other symbol changes. -/
  symbols : (next.symbols = encoding.symbols ∧ next.nextVariable = encoding.nextVariable ∧
      ∀ name, reference? text = some name → name ∈ encoding.symbols) ∨
    ∃ name, reference? text = some name ∧ name ∉ encoding.symbols ∧
      encoding.nextVariable < 65535 ∧
      next.symbols = encoding.symbols.insert name (BitVec.ofNat 16 encoding.nextVariable) ∧
      next.nextVariable = encoding.nextVariable + 1

section Added

variable {encoding next : Encoding} {text : String} {operand : List Char}

/-- Encoding a load of a number. -/
theorem added_of_digit (htext : text.toList = '@' :: operand)
    (hdigit : operand.head?.any Char.isDigit = true) (h : encoding.add text = .ok next) :
    Added encoding text next := by
  rw [add_of_load htext, loadOperand, if_pos hdigit] at h
  cases hw : Word.ofDigits operand with
  | error fault =>
    rw [hw] at h
    cases h
  | ok value =>
    rw [hw] at h
    dsimp only at h
    split at h
    · cases h
    · rename_i hle
      cases h
      refine ⟨(isEncodable_of_digit htext hdigit).mpr ⟨value, hw, Nat.le_of_not_lt hle⟩,
        ⟨.load value, ?_, rfl⟩, .inl ⟨rfl, rfl, ?_⟩⟩
      · rw [resolve?_of_digit _ htext hdigit, hw]
        rfl
      · simp [reference?_of_digit htext hdigit]

/-- Encoding a load of a symbol. -/
theorem added_of_name (htext : text.toList = '@' :: operand)
    (hdigit : ¬ operand.head?.any Char.isDigit = true) (h : encoding.add text = .ok next) :
    Added encoding text next := by
  rw [add_of_load htext, loadOperand, if_neg hdigit] at h
  split at h
  · rename_i hsymbol
    have hform : isEncodable text = true := by rw [isEncodable_of_name htext hdigit, hsymbol]
    have hreference := reference?_of_name htext hdigit
    unfold loadSymbol at h
    cases hv : encoding.symbols[String.ofList operand]? with
    | some value =>
      rw [hv] at h
      cases h
      refine ⟨hform, ⟨.load value, ?_, rfl⟩, .inl ⟨rfl, rfl, ?_⟩⟩
      · rw [resolve?_of_name _ htext hdigit]
        show Option.map Instruction.load encoding.symbols[String.ofList operand]? = _
        rw [hv]
        rfl
      · rw [hreference]
        rintro _ ⟨⟩
        rw [Std.TreeMap.mem_iff_isSome_getElem?, hv]
        rfl
    | none =>
      rw [hv] at h
      dsimp only at h
      split at h
      · rename_i hlt
        cases h
        refine ⟨hform, ⟨.load (BitVec.ofNat 16 encoding.nextVariable), ?_, rfl⟩,
          .inr ⟨_, hreference, ?_, hlt, rfl, rfl⟩⟩
        · rw [resolve?_of_name _ htext hdigit]
          dsimp only
          rw [getElem?_insert_name, if_pos rfl]
          rfl
        · rw [Std.TreeMap.mem_iff_isSome_getElem?, hv]
          simp
      · cases h
  · cases h

/-- Encoding a compute instruction. -/
theorem added_of_compute (htext : ∀ operand, text.toList ≠ '@' :: operand)
    (h : encoding.add text = .ok next) : Added encoding text next := by
  rw [add_of_compute htext] at h
  cases hc : decodeCompute text with
  | error fault =>
    rw [hc] at h
    cases h
  | ok instruction =>
    rw [hc] at h
    cases h
    refine ⟨(isEncodable_of_compute htext).mpr ⟨instruction, hc⟩, ⟨instruction, ?_, rfl⟩,
      .inl ⟨rfl, rfl, ?_⟩⟩
    · rw [resolve?_of_compute _ htext, hc]
      rfl
    · simp [reference?_of_compute htext]

/-- Every text that is encoded is encoded in one of these ways. -/
theorem added_of_add (h : encoding.add text = .ok next) : Added encoding text next := by
  obtain ⟨operand, htext, hdigit⟩ | ⟨operand, htext, hdigit⟩ | htext := form_cases text
  · exact added_of_digit htext hdigit h
  · exact added_of_name htext hdigit h
  · exact added_of_compute htext h

end Added

/-- A well-formed text is encoded if its symbol is known or a cell is left for it. -/
theorem exists_add_eq_ok {encoding : Encoding} {text : String} (hform : isEncodable text = true)
    (hroom : ∀ name, reference? text = some name → name ∉ encoding.symbols →
      encoding.nextVariable < 65535) :
    ∃ next, encoding.add text = .ok next := by
  obtain ⟨operand, htext, hdigit⟩ | ⟨operand, htext, hdigit⟩ | htext := form_cases text
  · obtain ⟨value, hvalue, hle⟩ := (isEncodable_of_digit htext hdigit).mp hform
    rw [add_of_load htext, loadOperand, if_pos hdigit, hvalue]
    exact ⟨_, if_neg (Nat.not_lt.mpr hle)⟩
  · rw [isEncodable_of_name htext hdigit] at hform
    rw [add_of_load htext, loadOperand, if_neg hdigit, if_pos hform, loadSymbol]
    cases hv : encoding.symbols[String.ofList operand]? with
    | some value => exact ⟨_, rfl⟩
    | none =>
      have hn : String.ofList operand ∉ encoding.symbols := by
        rw [Std.TreeMap.mem_iff_isSome_getElem?, hv]
        simp
      exact ⟨_, if_pos (hroom _ (reference?_of_name htext hdigit) hn)⟩
  · obtain ⟨instruction, hdecoded⟩ := (isEncodable_of_compute htext).mp hform
    rw [add_of_compute htext, hdecoded]
    exact ⟨_, rfl⟩

/-- The second pass never changes the value of a symbol that the table knows. -/
theorem add_getElem? {encoding next : Encoding} {text name : String} {value : Word}
    (h : encoding.add text = .ok next) (hv : encoding.symbols[name]? = some value) :
    next.symbols[name]? = some value := by
  obtain ⟨hs, -, -⟩ | ⟨other, -, hn, -, hs, -⟩ := (added_of_add h).symbols
  · rw [hs, hv]
  · rw [hs, getElem?_insert_name, if_neg, hv]
    rintro rfl
    rw [Std.TreeMap.mem_iff_isSome_getElem?, hv] at hn
    exact hn rfl

/-- The second pass goes through the instructions and passes over the labels. -/
theorem addAll_cons_eq_ok {encoding final : Encoding} {text : String} {items : List Item}
    (h : encoding.addAll (.instruction text :: items) = .ok final) :
    ∃ next, encoding.add text = .ok next ∧ next.addAll items = .ok final := by
  rw [addAll] at h
  split at h
  · rename_i next hadd
    exact ⟨next, hadd, h⟩
  · cases h

/-- Values that are in the table before the second pass are in it afterwards. -/
theorem addAll_getElem? {encoding final : Encoding} {items : List Item} {name : String}
    {value : Word} (h : encoding.addAll items = .ok final)
    (hv : encoding.symbols[name]? = some value) : final.symbols[name]? = some value := by
  induction items generalizing encoding with
  | nil =>
    rw [addAll, Except.ok.injEq] at h
    rw [← h, hv]
  | cons item items ih =>
    cases item with
    | label other => exact ih h hv
    | instruction text =>
      obtain ⟨next, hadd, hrest⟩ := addAll_cons_eq_ok h
      exact ih hrest (add_getElem? hadd hv)

/-- Every instruction text becomes the instruction that it stands for at the end. -/
theorem addAll_code {encoding final : Encoding} {items : List Item}
    (h : encoding.addAll items = .ok final) :
    ∃ code, final.code.toList = encoding.code.toList ++ code ∧
      List.Forall₂ (fun text instruction => resolve? final.symbols text = some instruction)
        (codeTexts items) code := by
  induction items generalizing encoding with
  | nil =>
    rw [addAll, Except.ok.injEq] at h
    exact ⟨[], by rw [← h, List.append_nil], .nil⟩
  | cons item items ih =>
    cases item with
    | label other => exact ih h
    | instruction text =>
      obtain ⟨next, hadd, hrest⟩ := addAll_cons_eq_ok h
      obtain ⟨instruction, hresolve, hcode⟩ := (added_of_add hadd).code
      obtain ⟨code, hfinal, hall⟩ := ih hrest
      refine ⟨instruction :: code, ?_, .cons ?_ hall⟩
      · rw [hfinal, hcode, Array.toList_push, List.append_assoc, List.singleton_append]
      · exact resolve?_mono (fun _ _ hv => addAll_getElem? hrest hv) hresolve

/-- The new symbols get consecutive cells in the order of their first use, and the
last cell of the address space is never given away. -/
theorem addAll_symbols {encoding final : Encoding} {items : List Item}
    (h : encoding.addAll items = .ok final) (hbound : encoding.nextVariable ≤ 65535) :
    encoding.nextVariable + (freshSymbols encoding.symbols items).length ≤ 65535 ∧
      ∀ name, final.symbols[name]? = encoding.symbols[name]?.or
        (((freshSymbols encoding.symbols items).idxOf? name).map
          fun index => BitVec.ofNat 16 (encoding.nextVariable + index)) := by
  induction items generalizing encoding with
  | nil =>
    rw [addAll, Except.ok.injEq] at h
    subst h
    refine ⟨hbound, fun name => ?_⟩
    cases encoding.symbols[name]? <;> rfl
  | cons item items ih =>
    cases item with
    | label other => exact ih h hbound
    | instruction text =>
      obtain ⟨next, hadd, hrest⟩ := addAll_cons_eq_ok h
      obtain ⟨hs, hv, hknown⟩ | ⟨other, href, hn, hlt, hs, hv⟩ := (added_of_add hadd).symbols
      · have hi := ih hrest (by omega)
        rw [hs, hv] at hi
        rw [freshSymbols_known items hknown]
        exact hi
      · have hi := ih hrest (by omega)
        rw [hs, hv] at hi
        rw [freshSymbols_new (BitVec.ofNat 16 encoding.nextVariable) items href hn]
        refine ⟨by rw [List.length_cons]; omega, fun name => ?_⟩
        rw [hi.2 name, getElem?_insert_name, List.idxOf?_cons]
        by_cases ho : other = name
        · subst ho
          have hnone : encoding.symbols[other]? = none := by
            rw [Std.TreeMap.mem_iff_isSome_getElem?] at hn
            simpa using hn
          rw [if_pos rfl, hnone, if_pos (beq_self_eq_true other)]
          rfl
        · rw [if_neg ho, if_neg (by simpa using ho), Option.map_map]
          congr 2
          funext index
          simp only [Function.comp_apply]
          congr 1
          omega

/-- The second pass succeeds if all texts are well-formed and there are cells for all
new symbols. -/
theorem exists_addAll_eq_ok {encoding : Encoding} {items : List Item}
    (hform : ∀ text ∈ codeTexts items, isEncodable text = true)
    (hroom : encoding.nextVariable + (freshSymbols encoding.symbols items).length ≤ 65535) :
    ∃ final, encoding.addAll items = .ok final := by
  induction items generalizing encoding with
  | nil => exact ⟨encoding, rfl⟩
  | cons item items ih =>
    cases item with
    | label other => exact ih hform hroom
    | instruction text =>
      rw [codeTexts_instruction, List.forall_mem_cons] at hform
      have hfirst : ∀ name, reference? text = some name → name ∉ encoding.symbols →
          encoding.nextVariable < 65535 := by
        intro name href hn
        rw [freshSymbols_new 0 items href hn, List.length_cons] at hroom
        omega
      obtain ⟨next, hadd⟩ := exists_add_eq_ok hform.1 hfirst
      rw [addAll, hadd]
      refine ih hform.2 ?_
      obtain ⟨hs, hv, hknown⟩ | ⟨other, href, hn, -, hs, hv⟩ := (added_of_add hadd).symbols
      · rw [freshSymbols_known items hknown] at hroom
        rw [hs, hv]
        exact hroom
      · rw [freshSymbols_new (BitVec.ofNat 16 encoding.nextVariable) items href hn,
          List.length_cons] at hroom
        rw [hs, hv]
        omega

/-- A second pass that succeeds has met well-formed texts only. -/
theorem isEncodable_of_addAll {encoding final : Encoding} {items : List Item}
    (h : encoding.addAll items = .ok final) :
    ∀ text ∈ codeTexts items, isEncodable text = true := by
  induction items generalizing encoding with
  | nil => simp
  | cons item items ih =>
    cases item with
    | label other => exact ih h
    | instruction text =>
      obtain ⟨next, hadd, hrest⟩ := addAll_cons_eq_ok h
      rw [codeTexts_instruction, List.forall_mem_cons]
      exact ⟨(added_of_add hadd).encodable, ih hrest⟩

end Encoding

end HackVm.Assembly
