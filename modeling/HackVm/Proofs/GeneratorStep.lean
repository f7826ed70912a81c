import HackVm.Proofs.CommandCode

/-!
# One step of the generator

Which commands a generator accepts, and what it is afterwards. A refused command leaves the
generator as it was. An accepted one hands out a number for generated labels, declares a label
or starts a function, and most commands do none of this.
-/

namespace HackVm

open Assembly Codegen

/-- Whether an index of a segment can be used in a unit: numbers and offsets fit an address
instruction, static cells belong to a unit with a name, and the other segments have an end. -/
def Segment.InReach (unit : String) (index : Word) : Segment → Prop
  | .constant | .locals | .argument | .this | .that => index.toNat ≤ 32767
  | .static => unit ≠ ""
  | .pointer => index.toNat < 2
  | .temp => index.toNat < 8

/-- A result that is changed is one exactly if there was one before. -/
theorem exists_map_eq_ok_iff {ε α β : Type} {result : Except ε α} {apply : α → β} :
    (∃ value, result.map apply = .ok value) ↔ ∃ value, result = .ok value := by
  constructor
  · rintro ⟨value, h⟩
    obtain ⟨found, hfound, -⟩ := exists_of_map_eq_ok h
    exact ⟨found, hfound⟩
  · rintro ⟨value, rfl⟩
    exact ⟨apply value, rfl⟩

namespace Codegen.Generator

variable {generator : Generator}

/-- The cell of a segment is found exactly if it is in reach. -/
theorem access_isOk_iff {command : Command} {segment : Segment} {index : Word} :
    (∃ access, generator.access command segment index = .ok access) ↔
      segment ≠ .constant ∧ segment.InReach generator.unit index := by
  constructor
  · rintro ⟨access, haccess⟩
    have hsegment : segment ≠ .constant := by
      rintro rfl
      cases haccess
    refine ⟨hsegment, ?_⟩
    obtain hcell := accesses_of_ok haccess
    cases hcell with
    | based hpointer hindex => cases segment <;> cases hpointer <;> exact hindex
    | static hunit => exact hunit
    | fixed hregion hindex => cases segment <;> cases hregion <;> exact hindex
  · rintro ⟨hsegment, hreach⟩
    cases segment with
    | constant => exact absurd rfl hsegment
    | locals | argument | this | that =>
      have hindex : ¬ Word.maxLoad < index.toNat := Nat.not_lt.mpr hreach
      simp only [access, basePointer, if_neg hindex]
      exact ⟨_, rfl⟩
    | static =>
      have hunit : generator.unit ≠ "" := hreach
      simp only [access, staticCell, if_neg hunit]
      exact ⟨_, rfl⟩
    | pointer =>
      have hindex : index.toNat < 2 := hreach
      simp only [access, fixedCell, Segment.fixedRegion?, if_pos hindex]
      exact ⟨_, rfl⟩
    | temp =>
      have hindex : index.toNat < 8 := hreach
      simp only [access, fixedCell, Segment.fixedRegion?, if_pos hindex]
      exact ⟨_, rfl⟩

/-- The place of a command that the generator meets. -/
def place (generator : Generator) (command : Command) : Site :=
  ⟨generator.unit, generator.function, command⟩

/-- Whether a generator accepts a command. -/
def Accepts (generator : Generator) : Command → Prop
  | .push segment index => segment.InReach generator.unit index
  | .pop segment index => segment ≠ .constant ∧ segment.InReach generator.unit index
  | .label name => labelSymbol generator.function name ∉ generator.declared
  | .call _ arguments => arguments.toNat ≤ 32762
  | .ret => generator.function.isSome
  | .operate _ | .goto _ | .ifGoto _ | .function _ _ => True

/-- A command has a block exactly if the generator accepts it. -/
theorem lower_isOk_iff {command : Command} :
    (∃ block, (generator.lower command).result = .ok block) ↔ generator.Accepts command := by
  rw [lower, exists_map_eq_ok_iff]
  cases command with
  | operate operation => exact iff_of_true ⟨_, rfl⟩ trivial
  | push segment index =>
    by_cases hsegment : segment = .constant
    · subst hsegment
      simp only [body, push, Accepts, Segment.InReach]
      split
      · rename_i hlarge
        exact iff_of_false (by rintro ⟨_, ⟨⟩⟩) (Nat.not_le.mpr hlarge)
      · rename_i hsmall
        exact iff_of_true ⟨_, rfl⟩ (Nat.not_lt.mp hsmall)
    · rw [body, push_eq_map_access hsegment, exists_map_eq_ok_iff, access_isOk_iff, Accepts,
        and_iff_right hsegment]
  | pop segment index =>
    rw [body, pop_eq_map_access, exists_map_eq_ok_iff, access_isOk_iff, Accepts]
  | label name =>
    simp only [body, declare, Accepts]
    split
    · rename_i hold
      exact iff_of_false (by rintro ⟨_, ⟨⟩⟩) (not_not.mpr hold)
    · rename_i hnew
      exact iff_of_true ⟨_, rfl⟩ hnew
  | goto name | ifGoto name => exact iff_of_true ⟨_, rfl⟩ trivial
  | function name locals => exact iff_of_true ⟨_, rfl⟩ trivial
  | call name arguments =>
    simp only [body, call, Accepts]
    split
    · rename_i hlarge
      rw [Word.maxLoad, savedWords] at hlarge
      exact iff_of_false (by rintro ⟨_, ⟨⟩⟩) (by omega)
    · rename_i hsmall
      rw [Word.maxLoad, savedWords] at hsmall
      exact iff_of_true ⟨_, rfl⟩ (by omega)
  | ret =>
    simp only [body, leave, Accepts]
    split
    · rename_i outer hfunction
      exact iff_of_true ⟨_, rfl⟩ (by rw [hfunction]; rfl)
    · rename_i hnone
      exact iff_of_false (by rintro ⟨_, ⟨⟩⟩) (by simp [hnone])

/-- The generator after a command that it accepts. -/
def after (generator : Generator) : Command → Generator
  | .operate .eq | .operate .gt | .operate .lt | .call _ _ =>
    { generator with labels := generator.labels.advance }
  | .label name =>
    { generator with
      declared := generator.declared.insert (labelSymbol generator.function name) }
  | .function name _ => { generator with function := some name }
  | _ => generator

/-- What an accepted command changes about the generator. -/
theorem generator_of_lower {command : Command} {block : List Line}
    (h : (generator.lower command).result = .ok block) :
    (generator.lower command).generator = generator.after command := by
  have haccepts := lower_isOk_iff.mp ⟨block, h⟩
  cases command with
  | operate operation => cases operation <;> rfl
  | label name =>
    have hnew : labelSymbol generator.function name ∉ generator.declared := haccepts
    simp only [lower, body, declare, if_neg hnew]
    rfl
  | call name arguments =>
    have hcount : arguments.toNat ≤ 32762 := haccepts
    have hframe : ¬ Word.maxLoad < arguments.toNat + savedWords := by
      rw [Word.maxLoad, savedWords]
      omega
    simp only [lower, body, call, if_neg hframe]
    rfl
  | push segment index | pop segment index => rfl
  | goto name | ifGoto name | ret => rfl
  | function name locals => rfl

/-- A refused command leaves the generator as it was. -/
theorem generator_of_refused {command : Command} {error : Error}
    (h : (generator.lower command).result = .error error) :
    (generator.lower command).generator = generator := by
  have hrefuses : ¬ generator.Accepts command := by
    rw [← lower_isOk_iff, h]
    rintro ⟨_, ⟨⟩⟩
  cases command with
  | operate operation => exact absurd trivial hrefuses
  | label name =>
    have hold : labelSymbol generator.function name ∈ generator.declared := not_not.mp hrefuses
    simp only [lower, body, declare, if_pos hold]
  | call name arguments =>
    have hcount : ¬ arguments.toNat ≤ 32762 := hrefuses
    have hframe : Word.maxLoad < arguments.toNat + savedWords := by
      rw [Word.maxLoad, savedWords]
      omega
    simp only [lower, body, call, if_pos hframe]
  | push segment index | pop segment index => rfl
  | goto name | ifGoto name => exact absurd trivial hrefuses
  | function name locals => exact absurd trivial hrefuses
  | ret => rfl

/-- The code that starts a program exists exactly if the stack pointer can be loaded. -/
theorem bootstrap_isOk_iff :
    (∃ prologue, generator.bootstrap.result = .ok prologue) ↔
      generator.config.stackOrigin.toNat ≤ 32767 := by
  constructor
  · rintro ⟨prologue, h⟩
    exact (bootstrap_of_ok h).1
  · intro h
    have horigin : ¬ Word.maxLoad < generator.config.stackOrigin.toNat := Nat.not_lt.mpr h
    have hframe : ¬ Word.maxLoad < (0 : Word).toNat + savedWords := by decide
    simp only [bootstrap, call, if_neg horigin, if_neg hframe]
    exact ⟨_, rfl⟩

/-- The code that starts a program takes a number for its return label. -/
theorem generator_of_bootstrap {prologue : List Line}
    (h : generator.bootstrap.result = .ok prologue) :
    generator.bootstrap.generator = { generator with labels := generator.labels.advance } := by
  have horigin : ¬ Word.maxLoad < generator.config.stackOrigin.toNat :=
    Nat.not_lt.mpr (bootstrap_of_ok h).1
  have hframe : ¬ Word.maxLoad < (0 : Word).toNat + savedWords := by decide
  simp only [bootstrap, call, if_neg horigin, if_neg hframe]
  rfl

/-- A refused start of a program leaves the generator as it was. -/
theorem generator_of_bootstrap_refused {error : Error}
    (h : generator.bootstrap.result = .error error) :
    generator.bootstrap.generator = generator := by
  have horigin : Word.maxLoad < generator.config.stackOrigin.toNat := by
    by_contra hle
    obtain ⟨prologue, hok⟩ := bootstrap_isOk_iff.mpr (Nat.not_lt.mp hle)
    rw [h] at hok
    cases hok
  simp only [bootstrap, if_pos horigin]

end Codegen.Generator

end HackVm
