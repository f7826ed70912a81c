import HackVm.Assembly.Line
import HackVm.Proofs.Assembled
import HackVm.Proofs.Decimal
import HackVm.Proofs.Text
import Mathlib.Data.List.TakeWhile

/-!
# Lines of assembly as the assembler reads them

Generated code is written line by line, and the assembler reads the text again. A
sound line is read as what it is: comments are skipped, labels are declared, and an
instruction stands for itself once its symbol has a value. A line with an unusual
name may fall apart into other items; it still does not disturb the lines around it.
-/

namespace HackVm.Assembly

open Text

/-- The characters of symbols are plain. -/
theorem isPlain_of_isSymbolChar {char : Char} (h : isSymbolChar char = true) :
    isPlain char = true := by
  simp only [isSymbolChar, Bool.or_eq_true, beq_iff_eq] at h
  obtain (((h | rfl) | rfl) | rfl) | rfl := h
  · exact isPlain_of_isAlphanum h
  all_goals decide

/-- The characters of a symbol are plain. -/
theorem isPlain_of_isSymbol {chars : List Char} (h : isSymbol chars = true) :
    ∀ char ∈ chars, isPlain char = true := by
  intro char hc
  rw [isSymbol, Bool.and_eq_true, List.all_eq_true] at h
  exact isPlain_of_isSymbolChar (h.1 char hc)

/-- A symbol does not start with a digit. -/
theorem head_of_isSymbol {chars : List Char} (h : isSymbol chars = true) :
    chars.head?.any Char.isDigit = false := by
  rw [isSymbol, Bool.and_eq_true] at h
  cases chars with
  | nil => rfl
  | cons char rest => simpa using h.2

/-- The items that the assembler reads from the text of a line. -/
def Line.items (line : Line) : List Item :=
  ((lines (line.text.toList ++ ['\n'])).map String.ofList).filterMap Item.ofLine?

/-- The items of text that was written line by line are those of the lines. -/
theorem items_of_written (written : List Line) :
    ((lines (written.flatMap fun line => line.text.toList ++ ['\n'])).map
      String.ofList).filterMap Item.ofLine? = written.flatMap Line.items := by
  have hcut := lines_flatMap_closed (written.map fun line => line.text.toList)
  rw [List.flatMap_map, List.flatMap_map] at hcut
  rw [hcut, List.map_flatMap, List.filterMap_flatMap]
  rfl

/-- Whether the assembler takes a line for what it is. -/
def Line.Sound : Line → Prop
  | comment remark => '\n' ∉ remark.toList
  | label name => isSymbol name.toList = true
  | number value => value ≤ Word.maxLoad
  | symbol name => isSymbol name.toList = true
  | compute _ comp _ => comp ∈ Comp.known

/-- Soundness of a line is decided by its name, its number or its computation. -/
instance (line : Line) : Decidable line.Sound :=
  match line with
  | .comment remark => inferInstanceAs (Decidable ('\n' ∉ remark.toList))
  | .label name | .symbol name => inferInstanceAs (Decidable (isSymbol name.toList = true))
  | .number value => inferInstanceAs (Decidable (value ≤ Word.maxLoad))
  | .compute _ comp _ => inferInstanceAs (Decidable (comp ∈ Comp.known))

/-- Text without blanks and comments is read as a whole. -/
theorem ofLine?_of_plain {text : String} (hplain : ∀ char ∈ text.toList, isPlain char = true)
    (hne : text.toList ≠ []) :
    Item.ofLine? text = some (((declaredName? text.toList).map fun name =>
      Item.label (String.ofList name)).getD (.instruction text)) := by
  unfold Item.ofLine?
  rw [content_of_plain hplain]
  split
  · rename_i hnil
    exact absurd hnil hne
  · cases declaredName? text.toList <;> simp

/-- Only a parenthesis starts the declaration of a label. -/
theorem declaredName?_eq_none {chars : List Char} (h : chars.head? ≠ some '(') :
    declaredName? chars = none := by
  unfold declaredName?
  split
  · exact absurd rfl h
  · rfl

/-- A comment without a line feed is nothing to the assembler. -/
theorem items_comment {remark : String} (h : '\n' ∉ remark.toList) :
    (Line.comment remark).items = [] := by
  have htext : (Line.comment remark).text.toList = '/' :: '/' :: ' ' :: remark.toList := by
    simp [Line.text]
  have hfeed : '\n' ∉ '/' :: '/' :: ' ' :: remark.toList := by simpa using h
  have hstart : ∃ rest, dropReturn ('/' :: '/' :: ' ' :: remark.toList) = '/' :: '/' :: rest := by
    unfold dropReturn
    split
    · exact ⟨(' ' :: remark.toList).dropLast, rfl⟩
    · exact ⟨' ' :: remark.toList, rfl⟩
  obtain ⟨rest, hrest⟩ := hstart
  rw [Line.items, htext, lines_closed, List.splitOn_eq_singleton hfeed, List.map_singleton, hrest]
  simp [Item.ofLine?, content_comment]

/-- A separator that does not stand in the first part divides a text. -/
theorem splitFirst?_append {separator : Char} {before : List Char} (after : List Char)
    (h : separator ∉ before) :
    splitFirst? separator (before ++ separator :: after) = some (before, after) := by
  have hall : ∀ char ∈ before, (char != separator) = true := by
    rintro char hc
    simp only [bne_iff_ne]
    rintro rfl
    exact h hc
  unfold splitFirst?
  rw [List.dropWhile_append_of_pos hall, List.takeWhile_append_of_pos hall,
    List.dropWhile_cons_of_neg (by simp), List.takeWhile_cons_of_neg (by simp), List.append_nil]

/-- A text without the separator is not divided. -/
theorem splitFirst?_eq_none {separator : Char} {chars : List Char} (h : separator ∉ chars) :
    splitFirst? separator chars = none := by
  have hall : ∀ char ∈ chars, (char != separator) = true := by
    rintro char hc
    simp only [bne_iff_ne]
    rintro rfl
    exact h hc
  unfold splitFirst?
  rw [List.dropWhile_eq_nil_iff.mpr hall]

/-- The destination field of a compute instruction with its equals sign, if it has one. -/
def destField (dest : Dest) : List Char :=
  if dest = .nowhere then [] else dest.text.toList ++ ['=']

/-- The jump field of a compute instruction with its semicolon, if it has one. -/
def jumpField (jump : Jump) : List Char :=
  if jump = .never then [] else ';' :: jump.text.toList

/-- The text of a compute instruction is made of its fields. -/
theorem compute_text (dest : Dest) (comp : Comp) (jump : Jump) :
    (Line.compute dest comp jump).text.toList =
      destField dest ++ (comp.text.toList ++ jumpField jump) := by
  simp only [Line.text, destField, jumpField]
  by_cases hd : dest = .nowhere <;> by_cases hj : jump = .never <;> simp [hd, hj]

/-- Whether a character may stand in a compute instruction. -/
def isCodeChar (char : Char) : Bool := isPlain char && char != '(' && char != '@'

/-- The characters of a compute instruction of the processor. -/
theorem isCodeChar_of_mem_text {comp : Comp} (dest : Dest) (jump : Jump) (h : comp ∈ Comp.known) :
    ∀ char ∈ (Line.compute dest comp jump).text.toList, isCodeChar char = true := by
  have hdest : (destField dest).all isCodeChar = true := by
    rcases dest with ⟨address, memory, data⟩
    cases address <;> cases memory <;> cases data <;> decide
  have hcomp : ∀ comp ∈ Comp.known, comp.text.toList.all isCodeChar = true := by decide
  have hjump : (jumpField jump).all isCodeChar = true := by cases jump <;> decide
  rw [← List.all_eq_true, compute_text, List.all_append, List.all_append, hdest, hcomp comp h,
    hjump]
  rfl

/-- A compute instruction is decoded from its text. -/
theorem decodeCompute_text {comp : Comp} (dest : Dest) (jump : Jump) (h : comp ∈ Comp.known) :
    decodeCompute (Line.compute dest comp jump).text = .ok (.compute dest comp jump) := by
  have hfields : ∀ comp ∈ Comp.known, '=' ∉ comp.text.toList ∧ ';' ∉ comp.text.toList := by decide
  obtain ⟨hequals, hsemicolon⟩ := hfields comp h
  have hjump : '=' ∉ jumpField jump := by cases jump <;> decide
  have hdest : '=' ∉ dest.text.toList := by
    rcases dest with ⟨address, memory, data⟩
    cases address <;> cases memory <;> cases data <;> decide
  have hfirst : (splitFirst? '=' (destField dest ++ (comp.text.toList ++ jumpField jump))).getD
      ([], destField dest ++ (comp.text.toList ++ jumpField jump)) =
        (dest.text.toList, comp.text.toList ++ jumpField jump) := by
    unfold destField
    by_cases hd : dest = .nowhere
    · rw [if_pos hd, List.nil_append, splitFirst?_eq_none, hd]
      · rfl
      · rw [List.mem_append, not_or]
        exact ⟨hequals, hjump⟩
    · rw [if_neg hd, List.append_assoc, List.singleton_append, splitFirst?_append _ hdest]
      rfl
  have hsecond : (splitFirst? ';' (comp.text.toList ++ jumpField jump)).getD
      (comp.text.toList ++ jumpField jump, []) = (comp.text.toList, jump.text.toList) := by
    unfold jumpField
    by_cases hj : jump = .never
    · rw [if_pos hj, List.append_nil, splitFirst?_eq_none hsemicolon, hj]
      rfl
    · rw [if_neg hj, splitFirst?_append _ hsemicolon]
      rfl
  unfold decodeCompute
  rw [compute_text, hfirst]
  dsimp only
  rw [hsecond]
  simp only [String.ofList_toList, Dest.ofText?_text, Jump.ofText?_text, Comp.ofText_text comp h]

/-- The text of a sound line is plain unless it is a comment. -/
theorem isPlain_of_sound {line : Line} (h : line.Sound) (hcode : ∀ remark, line ≠ .comment remark) :
    ∀ char ∈ line.text.toList, isPlain char = true := by
  cases line with
  | comment remark => exact absurd rfl (hcode remark)
  | label name =>
    have htext : (Line.label name).text.toList = '(' :: (name.toList ++ [')']) := by
      simp [Line.text]
    rw [htext, List.forall_mem_cons, List.forall_mem_append]
    exact ⟨by decide, isPlain_of_isSymbol h, List.forall_mem_singleton.mpr (by decide)⟩
  | number value =>
    have htext : (Line.number value).text.toList = '@' :: (toString value).toList := by
      simp [Line.text]
    rw [htext, List.forall_mem_cons]
    refine ⟨by decide, fun char hc => isPlain_of_isAlphanum ?_⟩
    simp [Char.isAlphanum, Word.isDigit_of_mem_toString hc]
  | symbol name =>
    have htext : (Line.symbol name).text.toList = '@' :: name.toList := by simp [Line.text]
    rw [htext, List.forall_mem_cons]
    exact ⟨by decide, isPlain_of_isSymbol h⟩
  | compute dest comp jump =>
    intro char hc
    have hcode := isCodeChar_of_mem_text dest jump h char hc
    rw [isCodeChar, Bool.and_eq_true, Bool.and_eq_true] at hcode
    exact hcode.1.1

end HackVm.Assembly
