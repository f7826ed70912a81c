import HackVm.Proofs.CallProtocol
import HackVm.Proofs.MemoryAccess

/-!
# What comparisons decide

The code of `eq`, `gt` and `lt` subtracts the top word from the deeper one and looks at the sign of
the difference, which wraps around. So exactly one of the three holds of any two words, equality is
decided rightly, and the two orderings are the signed ones as long as the difference of the numbers
fits a word. Where it does not fit, its sign is the opposite one, and both orderings are wrong.
-/

namespace HackVm

open Assembly Codegen Registers

namespace Operation

/-- The operations that compare two words. -/
def comparisons : List Operation := [.eq, .gt, .lt]

/-- The condition on the difference under which a comparison holds. -/
def condition? : Operation → Option Jump
  | .eq => some .eq
  | .gt => some .gt
  | .lt => some .lt
  | _ => none

/-- The code of an operation leaves a result for two words, wherever the code stands and whatever
the rest of the memory is. A machine at its start that has the two words on top of a stack above the
registers gets to the next instruction after the code. The stack is one word shorter then, the
result is where the deeper word was, and no other cell has changed. The last label of a comparison
stands before its twelfth instruction, and its address has to fit a word. -/
def Leaves (operation : Operation) (deeper upper result : Word) : Prop :=
  ∀ (generator : Generator) (before after : List String) (block : List Line) (machine : Machine)
    (top : Nat), (generator.lower (.operate operation)).result = .ok block →
    machine.AtBlock before block after → machine.counter + 11 ≤ 65535 →
    (Memory.top machine.ram).toNat = top → 18 ≤ top → top ≤ 32767 →
    machine.ram[top - 2]? = some deeper → machine.ram[top - 1]? = some upper →
    machine.GetsTo (codeSize block) (machine.counter + codeSize block) fun ram =>
      ram.top.toNat = top - 1 ∧ ram[top - 2]? = some result ∧
        ∀ cell, cell ≠ 0 → cell ≠ top - 2 → ram[cell]? = machine.ram[cell]?

/-- Comparisons are the operations with a condition. -/
theorem mem_comparisons_iff {operation : Operation} :
    operation ∈ comparisons ↔ ∃ jump, operation.condition? = some jump := by
  cases operation <;> simp [comparisons, condition?]

/-- No difference satisfies the conditions of two comparisons. -/
theorem eq_of_taken {first second : Operation} {jump other : Jump} {difference : Word}
    (hfirst : first.condition? = some jump) (hsecond : second.condition? = some other)
    (htaken : jump.taken difference = true) (htaken' : other.taken difference = true) :
    first = second := by
  cases first <;> cases hfirst <;> cases second <;> cases hsecond
  any_goals rfl
  all_goals
    have hsign := of_decide_eq_true htaken
    have hsign' := of_decide_eq_true htaken'
    omega

/-- Every difference satisfies the condition of exactly one comparison. -/
theorem existsUnique_condition (difference : Word) :
    ∃! operation : Operation, ∃ jump, operation.condition? = some jump ∧
      jump.taken difference = true := by
  have hsome : ∃ operation : Operation, ∃ jump, operation.condition? = some jump ∧
      jump.taken difference = true := by
    obtain hsign | hsign | hsign := Int.lt_trichotomy difference.toInt 0
    · exact ⟨.lt, .lt, rfl, decide_eq_true hsign⟩
    · exact ⟨.eq, .eq, rfl, decide_eq_true hsign⟩
    · exact ⟨.gt, .gt, rfl, decide_eq_true hsign⟩
  obtain ⟨operation, jump, hcondition, htaken⟩ := hsome
  refine ⟨operation, ⟨jump, hcondition, htaken⟩, ?_⟩
  rintro second ⟨other, hsecond, htaken'⟩
  exact eq_of_taken hsecond hcondition htaken' htaken

/-- A truth value is minus one exactly if it is true. -/
theorem truth_eq_neg_one_iff (holds : Bool) : truth holds = -1 ↔ holds = true := by
  cases holds <;> decide

end Operation

namespace Machine

/-- The code of a command stands where its remark stood. -/
theorem AtBlock.placed_body {machine : Machine} {generator : Generator} {text : String}
    {lines : List Line} {before after : List String}
    (h : machine.AtBlock before (generator.remark text ++ lines) after)
    (htext : '\n' ∉ text.toList) (hsound : ∀ line ∈ lines, line.Sound) :
    Placed machine.program machine.counter lines := by
  have hplaced := h.placed (List.forall_mem_append.mpr ⟨sound_remark generator htext, hsound⟩)
  have hbody := (placed_append.mp hplaced).2
  rwa [codeSize_remark, Nat.add_zero] at hbody

end Machine

namespace Operation

variable {operation : Operation} {deeper upper : Word}

/-- The code of a comparison leaves the truth value of its condition on the difference. -/
theorem leaves_of_condition {jump : Jump} (h : operation.condition? = some jump) :
    operation.Leaves deeper upper (truth (jump.taken (deeper - upper))) := by
  intro generator before after block machine top hblock hat hfits hpointer hlow hhigh hdeeper hupper
  obtain ⟨lines, hlines, rfl⟩ := lower_of_ok hblock
  obtain ⟨program, memory, a, d, counter⟩ := machine
  have htext : '\n' ∉ (Command.operate operation).text.toList := by
    cases operation <;> decide
  have hcode : lines = (generator.comparison jump).2 := by
    cases operation <;> cases h <;> exact (Except.ok.inj hlines).symm
  have hsize : codeSize (generator.remark (Command.operate operation).text ++ lines) =
      codeSize (generator.comparison jump).2 := by
    rw [codeSize_append, codeSize_remark, Nat.zero_add, hcode]
  have hplaced := hat.placed_body htext (by rw [hcode]; exact sound_comparison generator jump)
  rw [hcode] at hplaced
  have harrives : (machine ⟨memory, a, d⟩ program counter).Arrives 1 _ _ :=
    Machine.arrives_compareTop hat.knowsPredefined hplaced hfits
  have hplace : top - 2 + 2 = top := by omega
  have hnext : top - 2 + 1 = top - 1 := by omega
  have hresult := Memory.pop_replaceTop_eq_updated
    (by rw [hplace]; exact Memory.getElem?_of_toNat hpointer) hdeeper (by rw [hnext]; exact hupper)
    (by omega) fun word popped => truth (jump.taken (word - popped))
  rw [hresult, hnext, map_ok] at harrives
  rw [hsize]
  refine harrives.getsTo ⟨?_, ?_, fun cell hzero hother => ?_⟩
  · have hmoved := Memory.getElem?_updated_cons memory (BitVec.ofNat 16 (top - 1))
      [(top - 2, truth (jump.taken (deeper - upper)))] (Nat.zero_lt_succ _) (by simp; omega)
    rw [Memory.top_eq, (Vector.getElem?_eq_some_iff.mp hmoved).2,
      Memory.toNat_cell (by unfold Machine.ramSize; omega)]
  · rw [Memory.updated_cons]
    exact Memory.getElem?_updated_cons _ _ [] (by unfold Machine.ramSize; omega) (by simp)
  · exact Memory.getElem?_updated_of_not_mem (by simp [hzero, hother])

end Operation

/-- The difference of two words as a number. It wraps around if the difference of the two numbers
does not fit a word, and has the opposite sign then. -/
theorem Word.toInt_sub_cases (first second : Word) :
    (-32768 ≤ first.toInt - second.toInt ∧ first.toInt - second.toInt ≤ 32767 ∧
      (first - second).toInt = first.toInt - second.toInt) ∨
    (32767 < first.toInt - second.toInt ∧ (first - second).toInt < 0) ∨
    (first.toInt - second.toInt < -32768 ∧ 0 < (first - second).toInt) := by
  have hfirst := first.toInt_lt
  have hfirst' := first.le_toInt
  have hsecond := second.toInt_lt
  have hsecond' := second.le_toInt
  rw [BitVec.toInt_sub, Int.bmod_def]
  omega

/-- A machine that has come to the end of its program stays there. -/
theorem Machine.eq_of_halted {machine target other : Machine} {first second : Nat}
    (hfirst : machine.steps first = (target, .ok ())) (hhalted : target.halted = true)
    (hsecond : machine.steps second = (other, .ok ())) (hle : first ≤ second) : target = other := by
  obtain ⟨more, rfl⟩ := Nat.exists_eq_add_of_le hle
  rw [steps_add hfirst] at hsecond
  cases more with
  | zero => exact congrArg Prod.fst hsecond
  | succ more =>
    rw [steps, step_of_halted hhalted] at hsecond
    cases hsecond

namespace Operation

/-- The code of a comparison is a program by itself. -/
theorem exists_comparisonProgram {operation : Operation} (h : operation ∈ comparisons) :
    ∃ block program, (Generator.lower {} (.operate operation)).result = .ok block ∧
      assemble ([] ++ block.map Line.text ++ []) = .ok program ∧
      program.code.size = codeSize block := by
  have haccepts : Generator.Accepts {} (.operate operation) := trivial
  obtain ⟨block, hblock⟩ := Generator.lower_isOk_iff.mpr haccepts
  have hsizes : ∀ compared ∈ comparisons,
      ((Generator.lower {} (.operate compared)).result.toOption.any fun code =>
        (assemble ([] ++ code.map Line.text ++ [])).toOption.any fun program =>
          program.code.size = codeSize code) = true := by
    decide +kernel
  have hsize : (assemble ([] ++ block.map Line.text ++ [])).toOption.any (fun program =>
      program.code.size = codeSize block) = true := by
    have hcode := hsizes operation h
    rwa [hblock] at hcode
  cases hassembled : assemble ([] ++ block.map Line.text ++ []) with
  | error fault =>
    rw [hassembled] at hsize
    cases hsize
  | ok program =>
    rw [hassembled] at hsize
    exact ⟨block, program, hblock, hassembled, of_decide_eq_true hsize⟩

/-- Any two words can be compared: a machine stands at the start of a program that is the code of
the comparison, with the words on its stack. -/
theorem exists_comparingMachine {operation : Operation} (h : operation ∈ comparisons)
    (deeper upper : Word) :
    ∃ (block : List Line) (machine : Machine),
      (Generator.lower {} (.operate operation)).result = .ok block ∧
      machine.AtBlock [] block [] ∧ machine.counter = 0 ∧
      machine.program.code.size = codeSize block ∧ machine.ram[0].toNat = 18 ∧
      machine.ram[16]? = some deeper ∧ machine.ram[17]? = some upper := by
  obtain ⟨block, program, hblock, hassembled, hsize⟩ := exists_comparisonProgram h
  refine ⟨block, ⟨program, Memory.updated (Vector.replicate _ 0)
    [(0, 18), (16, deeper), (17, upper)], 0, 0, 0⟩, hblock, ⟨hassembled, rfl⟩, rfl, hsize, ?_, ?_, ?_⟩
  · simp
  · exact Memory.getElem?_updated_cons _ deeper [(17, upper)] (by decide) (by simp)
  · exact Memory.getElem?_updated_cons _ upper [] (by decide) (by simp)

/-- The code of a comparison leaves no two results, because no machine goes on from the end of the
program. -/
theorem Leaves.unique {operation : Operation} {deeper upper result other : Word}
    (hoperation : operation ∈ comparisons) (h : operation.Leaves deeper upper result)
    (h' : operation.Leaves deeper upper other) : result = other := by
  obtain ⟨block, machine, hblock, hat, hstart, hsize, hpointer, hdeeper, hupper⟩ :=
    exists_comparingMachine hoperation deeper upper
  have hfits : machine.counter + 11 ≤ 65535 := by omega
  obtain ⟨first, target, -, hfirst, hprogram, hcounter, -, hresult, -⟩ :=
    h {} [] [] block machine 18 hblock hat hfits hpointer (by decide) (by decide) hdeeper hupper
  obtain ⟨second, goal, -, hsecond, hprogram', hcounter', -, hother, -⟩ :=
    h' {} [] [] block machine 18 hblock hat hfits hpointer (by decide) (by decide) hdeeper hupper
  have hends {reached : Machine} (hcode : reached.program = machine.program)
      (hplace : reached.counter = machine.counter + codeSize block) : reached.halted = true := by
    rw [Machine.halted, hcode, hplace]
    exact decide_eq_true (by omega)
  have hsame : target = goal := by
    obtain hle | hle := Nat.le_total first second
    · exact Machine.eq_of_halted hfirst (hends hprogram hcounter) hsecond hle
    · exact (Machine.eq_of_halted hsecond (hends hprogram' hcounter') hfirst hle).symm
  rw [hsame, hother] at hresult
  exact (Option.some.inj hresult).symm

/-- A comparison leaves minus one exactly if its condition holds of the difference. -/
theorem leaves_neg_one_iff {operation : Operation} {jump : Jump} {deeper upper : Word}
    (h : operation.condition? = some jump) :
    operation.Leaves deeper upper (-1) ↔ jump.taken (deeper - upper) = true := by
  have hleaves : operation.Leaves deeper upper _ := leaves_of_condition h
  rw [← truth_eq_neg_one_iff]
  constructor
  · intro hminus
    exact hleaves.unique (mem_comparisons_iff.mpr ⟨jump, h⟩) hminus
  · intro htrue
    rwa [htrue] at hleaves

/-- A comparison leaves minus one or zero. -/
theorem leaves_neg_one_or_zero {operation : Operation} (h : operation ∈ comparisons)
    (deeper upper : Word) :
    operation.Leaves deeper upper (-1) ∨ operation.Leaves deeper upper 0 := by
  obtain ⟨jump, hcondition⟩ := mem_comparisons_iff.mp h
  have hleaves : operation.Leaves deeper upper _ := leaves_of_condition hcondition
  cases htaken : jump.taken (deeper - upper) with
  | true =>
    rw [htaken] at hleaves
    exact .inl hleaves
  | false =>
    rw [htaken] at hleaves
    exact .inr hleaves

/-- Exactly one comparison leaves minus one. -/
theorem existsUnique_leaves_neg_one (deeper upper : Word) :
    ∃! operation, operation ∈ comparisons ∧ operation.Leaves deeper upper (-1) := by
  have hiff (operation : Operation) :
      (operation ∈ comparisons ∧ operation.Leaves deeper upper (-1)) ↔
        ∃ jump, operation.condition? = some jump ∧ jump.taken (deeper - upper) = true := by
    rw [mem_comparisons_iff]
    constructor
    · rintro ⟨⟨jump, hcondition⟩, hleaves⟩
      exact ⟨jump, hcondition, (leaves_neg_one_iff hcondition).mp hleaves⟩
    · rintro ⟨jump, hcondition, htaken⟩
      exact ⟨⟨jump, hcondition⟩, (leaves_neg_one_iff hcondition).mpr htaken⟩
  simp only [hiff]
  exact existsUnique_condition (deeper - upper)

end Operation

open Operation

/-- What the code of a comparison decides about two words. Each of the three leaves minus one or
zero, and exactly one of them leaves minus one; equality leaves it exactly for equal words. Each of
the two orderings agrees with the signed one if and only if the difference of the two numbers fits
a word. -/
theorem comparisons_decide_by_wrapping_difference (deeper upper : Word) :
    (∀ operation ∈ comparisons,
      operation.Leaves deeper upper (-1) ∨ operation.Leaves deeper upper 0) ∧
    (∃! operation, operation ∈ comparisons ∧ operation.Leaves deeper upper (-1)) ∧
    (Leaves .eq deeper upper (-1) ↔ deeper = upper) ∧
    ((Leaves .gt deeper upper (-1) ↔ upper.toInt < deeper.toInt) ↔
      -32768 ≤ deeper.toInt - upper.toInt ∧ deeper.toInt - upper.toInt ≤ 32767) ∧
    ((Leaves .lt deeper upper (-1) ↔ deeper.toInt < upper.toInt) ↔
      -32768 ≤ deeper.toInt - upper.toInt ∧ deeper.toInt - upper.toInt ≤ 32767) := by
  have heq : Leaves .eq deeper upper (-1) ↔ (deeper - upper).toInt = 0 := by
    rw [leaves_neg_one_iff rfl, Jump.taken, decide_eq_true_iff]
  have hgt : Leaves .gt deeper upper (-1) ↔ 0 < (deeper - upper).toInt := by
    rw [leaves_neg_one_iff rfl, Jump.taken, decide_eq_true_iff]
  have hlt : Leaves .lt deeper upper (-1) ↔ (deeper - upper).toInt < 0 := by
    rw [leaves_neg_one_iff rfl, Jump.taken, decide_eq_true_iff]
  have hwraps := Word.toInt_sub_cases deeper upper
  refine ⟨fun operation h => leaves_neg_one_or_zero h deeper upper,
    existsUnique_leaves_neg_one deeper upper, ?_, ?_, ?_⟩
  · rw [heq, ← BitVec.toInt_inj]
    omega
  · rw [hgt]
    omega
  · rw [hlt]
    omega

end HackVm
