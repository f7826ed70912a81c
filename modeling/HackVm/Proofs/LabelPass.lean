import HackVm.Assembly.Program
import Mathlib.Data.List.Nodup
import Std.Data.TreeMap.Lemmas

/-!
# The first pass of the assembler

The first pass succeeds exactly if every declared name is a symbol, is not in the
table yet and is declared once. A declared name then stands for the number of
instructions before its declaration, and every other name keeps its value.
-/

namespace HackVm.Assembly

/-- The name that an item declares. -/
def Item.declaration? : Item → Option String
  | label name => some name
  | instruction _ => none

/-- The text of an item that is an instruction. -/
def Item.code? : Item → Option String
  | label _ => none
  | instruction text => some text

/-- The names that items declare, in order. -/
def declarations (items : List Item) : List String := items.filterMap Item.declaration?

/-- The texts of the instructions among items, in order. -/
def codeTexts (items : List Item) : List String := items.filterMap Item.code?

@[simp] theorem declarations_nil : declarations [] = [] := rfl

@[simp] theorem declarations_label (name : String) (items : List Item) :
    declarations (.label name :: items) = name :: declarations items := rfl

@[simp] theorem declarations_instruction (text : String) (items : List Item) :
    declarations (.instruction text :: items) = declarations items := rfl

@[simp] theorem declarations_append (first second : List Item) :
    declarations (first ++ second) = declarations first ++ declarations second :=
  List.filterMap_append

@[simp] theorem codeTexts_nil : codeTexts [] = [] := rfl

@[simp] theorem codeTexts_label (name : String) (items : List Item) :
    codeTexts (.label name :: items) = codeTexts items := rfl

@[simp] theorem codeTexts_instruction (text : String) (items : List Item) :
    codeTexts (.instruction text :: items) = text :: codeTexts items := rfl

@[simp] theorem codeTexts_append (first second : List Item) :
    codeTexts (first ++ second) = codeTexts first ++ codeTexts second :=
  List.filterMap_append

/-- A table after a name has been entered. -/
theorem getElem?_insert_name (table : SymbolTable) (name other : String) (value : Word) :
    (table.insert name value)[other]? = if name = other then some value else table[other]? := by
  rw [Std.TreeMap.getElem?_insert]
  by_cases h : name = other
  · rw [if_pos h, if_pos (by rw [h]; exact Std.ReflCmp.compare_self)]
  · rw [if_neg h, if_neg (fun hc => h (Std.LawfulEqCmp.eq_of_compare hc))]

/-- The names of a table after a name has been entered. -/
theorem mem_insert_name (table : SymbolTable) (name other : String) (value : Word) :
    other ∈ table.insert name value ↔ name = other ∨ other ∈ table := by
  rw [Std.TreeMap.mem_insert]
  constructor
  · rintro (h | h)
    · exact .inl (Std.LawfulEqCmp.eq_of_compare h)
    · exact .inr h
  · rintro (rfl | h)
    · exact .inl Std.ReflCmp.compare_self
    · exact .inr h

/-- The first pass succeeds exactly if all declared names are symbols that are new
to the table, and no name is declared twice. -/
theorem declareLabels_isOk_iff (table : SymbolTable) (address : Nat) (items : List Item) :
    (∃ labels, declareLabels table address items = .ok labels) ↔
      (∀ name ∈ declarations items, isSymbol name.toList = true ∧ name ∉ table) ∧
        (declarations items).Nodup := by
  induction items generalizing table address with
  | nil => simp [declareLabels]
  | cons item items ih =>
    cases item with
    | instruction text => rw [declareLabels, ih, declarations_instruction]
    | label name =>
      rw [declareLabels, declarations_label, List.nodup_cons, List.forall_mem_cons]
      by_cases hs : isSymbol name.toList = true
      · by_cases hm : name ∈ table
        · simp [hs, hm]
        · simp only [hs, Bool.not_true, Bool.false_eq_true, if_false, hm, ih, mem_insert_name]
          constructor
          · rintro ⟨hall, hnodup⟩
            refine ⟨⟨⟨trivial, not_false⟩, fun other ho => ?_⟩, fun hn => ?_, hnodup⟩
            · exact ⟨(hall other ho).1, fun ht => (hall other ho).2 (.inr ht)⟩
            · exact (hall name hn).2 (.inl rfl)
          · rintro ⟨⟨-, hall⟩, hn, hnodup⟩
            refine ⟨fun other ho => ⟨(hall other ho).1, ?_⟩, hnodup⟩
            rintro (rfl | ht)
            · exact hn ho
            · exact (hall other ho).2 ht
      · simp [hs]

/-- A name that no item declares keeps its value in the first pass. -/
theorem declareLabels_of_not_mem {table labels : SymbolTable} {address : Nat}
    {items : List Item} {name : String} (h : declareLabels table address items = .ok labels)
    (hn : name ∉ declarations items) : labels[name]? = table[name]? := by
  induction items generalizing table address with
  | nil =>
    rw [declareLabels, Except.ok.injEq] at h
    rw [h]
  | cons item items ih =>
    cases item with
    | instruction text => exact ih h hn
    | label other =>
      rw [declarations_label, List.mem_cons, not_or] at hn
      rw [declareLabels] at h
      split at h
      · cases h
      · split at h
        · cases h
        · rw [ih h hn.2, getElem?_insert_name, if_neg (Ne.symm hn.1)]

/-- A declared name stands for the number of instructions before its declaration. -/
theorem declareLabels_of_split {table labels : SymbolTable} {address : Nat}
    {before after : List Item} {name : String}
    (h : declareLabels table address (before ++ .label name :: after) = .ok labels) :
    labels[name]? = some (BitVec.ofNat 16 (address + (codeTexts before).length)) := by
  induction before generalizing table address with
  | nil =>
    have hiff := (declareLabels_isOk_iff table address (.label name :: after)).mp ⟨labels, h⟩
    have hn : name ∉ declarations after := (List.nodup_cons.mp hiff.2).1
    rw [List.nil_append, declareLabels] at h
    split at h
    · cases h
    · split at h
      · cases h
      · rw [declareLabels_of_not_mem h hn, getElem?_insert_name, if_pos rfl]
        rfl
  | cons item before ih =>
    cases item with
    | instruction text =>
      rw [List.cons_append, declareLabels] at h
      rw [ih h, codeTexts_instruction, List.length_cons]
      congr 2
      omega
    | label other =>
      rw [List.cons_append, declareLabels] at h
      split at h
      · cases h
      · split at h
        · cases h
        · rw [ih h, codeTexts_label]

end HackVm.Assembly
