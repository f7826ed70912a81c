import HackVm.Proofs.Execution
import Mathlib.Data.Nat.Find

/-!
# Runs with a budget of steps

A run asks before each of its rounds whether the machine has arrived, and the budget counts the
rounds. So a run comes back with the first machine that has arrived if this takes fewer steps
than the budget has, and a larger budget gives the same machine. A machine that arrives with
the last step of its budget is not asked again and is reported as late.
-/

namespace HackVm.Machine

open Assembly

/-! ## Steps one after the other -/

/-- A machine that takes a number of steps without a fault takes fewer without one. -/
theorem exists_steps_of_le {machine target : Machine} {count fewer : Nat}
    (hsteps : machine.steps count = (target, .ok ())) (hle : fewer ≤ count) :
    ∃ earlier, machine.steps fewer = (earlier, .ok ()) := by
  induction fewer generalizing machine count with
  | zero => exact ⟨machine, rfl⟩
  | succ fewer ih =>
    obtain ⟨rest, rfl⟩ : ∃ rest, count = rest + 1 := ⟨count - 1, by omega⟩
    rw [steps] at hsteps ⊢
    split at hsteps
    · exact ih hsteps (by omega)
    · cases hsteps

/-- A machine comes to a place after a number of steps: none of the steps is at fault, and before
each of them there is an instruction to execute. -/
structure ComesTo (machine : Machine) (goal : Machine → Bool) (count : Nat)
    (target : Machine) : Prop where
  /-- The steps lead there. -/
  steps : machine.steps count = (target, .ok ())
  /-- The machine is inside of the program before each of them. -/
  inside : ∀ fewer < count, (machine.steps fewer).1.halted = false
  /-- It has arrived after them. -/
  arrived : goal target = true

variable {arrived : Machine → Bool} {machine target : Machine}

/-- Steps without a fault are taken inside of the program. -/
theorem comesTo_of_steps {count : Nat} (hsteps : machine.steps count = (target, .ok ()))
    (harrived : arrived target = true) : machine.ComesTo arrived count target := by
  refine ⟨hsteps, fun fewer hlt => ?_, harrived⟩
  obtain ⟨rest, rfl⟩ := Nat.exists_eq_add_of_lt hlt
  obtain ⟨earlier, hearlier⟩ := exists_steps_of_le hsteps (Nat.le_of_lt hlt)
  rw [hearlier, ← Bool.not_eq_true]
  intro hhalted
  rw [Nat.add_assoc, steps_add hearlier, steps, step_of_halted hhalted] at hsteps
  cases hsteps

/-- A machine that has arrived is there after no step. -/
theorem comesTo_zero_iff :
    machine.ComesTo arrived 0 target ↔ arrived machine = true ∧ target = machine := by
  constructor
  · rintro ⟨hsteps, -, harrived⟩
    cases hsteps
    exact ⟨harrived, rfl⟩
  · rintro ⟨harrived, rfl⟩
    exact comesTo_of_steps rfl harrived

/-- A machine that takes a step has the rest of its way before it. -/
theorem comesTo_succ_iff {next : Machine} {count : Nat} (hstep : machine.step = (next, .ok ())) :
    machine.ComesTo arrived (count + 1) target ↔ next.ComesTo arrived count target := by
  have hsteps : machine.steps (count + 1) = next.steps count := by rw [steps, hstep]
  constructor
  · intro h
    exact comesTo_of_steps (hsteps ▸ h.steps) h.arrived
  · intro h
    exact comesTo_of_steps (hsteps.trans h.steps) h.arrived

/-- A machine that comes somewhere in at least one step takes this step. -/
theorem ComesTo.exists_step {count : Nat} (h : machine.ComesTo arrived (count + 1) target) :
    ∃ next, machine.step = (next, .ok ()) := by
  have hsteps := h.steps
  rw [Machine.steps] at hsteps
  split at hsteps
  · rename_i next hstep
    exact ⟨next, hstep⟩
  · cases hsteps

/-- A machine comes to a place for the first time. -/
structure FirstComesTo (machine : Machine) (goal : Machine → Bool) (count : Nat)
    (target : Machine) : Prop extends ComesTo machine goal count target where
  /-- It has not been there after fewer steps. -/
  first : ∀ fewer < count, ∀ earlier, ¬ machine.ComesTo goal fewer earlier

/-- A machine that has not arrived comes to a place for the first time if it does so after its
first step. -/
theorem firstComesTo_succ_iff {next : Machine} {count : Nat}
    (hstep : machine.step = (next, .ok ())) (haway : arrived machine = false) :
    machine.FirstComesTo arrived (count + 1) target ↔ next.FirstComesTo arrived count target := by
  constructor
  · rintro ⟨hcomes, hfirst⟩
    refine ⟨(comesTo_succ_iff hstep).mp hcomes, fun fewer hlt earlier h => ?_⟩
    exact hfirst (fewer + 1) (by omega) earlier ((comesTo_succ_iff hstep).mpr h)
  · rintro ⟨hcomes, hfirst⟩
    refine ⟨(comesTo_succ_iff hstep).mpr hcomes, fun fewer hlt earlier h => ?_⟩
    cases fewer with
    | zero => exact absurd (comesTo_zero_iff.mp h).1 (by simp [haway])
    | succ fewer => exact hfirst fewer (by omega) earlier ((comesTo_succ_iff hstep).mp h)

/-- Away from its goal, a machine has to take a step first. -/
theorem exists_firstComesTo_iff {budget : Nat} (haway : arrived machine = false) :
    (∃ count < budget + 1, machine.FirstComesTo arrived count target) ↔
      ∃ next, machine.step = (next, .ok ()) ∧
        ∃ count < budget, next.FirstComesTo arrived count target := by
  constructor
  · rintro ⟨count, hlt, hcomes⟩
    cases count with
    | zero => exact absurd (comesTo_zero_iff.mp hcomes.toComesTo).1 (by simp [haway])
    | succ count =>
      obtain ⟨next, hstep⟩ := hcomes.toComesTo.exists_step
      exact ⟨next, hstep, count, by omega, (firstComesTo_succ_iff hstep haway).mp hcomes⟩
  · rintro ⟨next, hstep, count, hlt, hcomes⟩
    exact ⟨count + 1, by omega, (firstComesTo_succ_iff hstep haway).mpr hcomes⟩

/-- A machine that comes to a place comes there for the first time, possibly in fewer steps. -/
theorem ComesTo.exists_first {count : Nat} (h : machine.ComesTo arrived count target) :
    ∃ least ≤ count, ∃ found, machine.FirstComesTo arrived least found := by
  classical
  have hsome : ∃ steps found, machine.ComesTo arrived steps found := ⟨count, target, h⟩
  obtain ⟨found, hfound⟩ := Nat.find_spec hsome
  refine ⟨Nat.find hsome, Nat.find_min' hsome ⟨target, h⟩, found, hfound, ?_⟩
  exact fun fewer hlt earlier hearlier => Nat.find_min hsome hlt ⟨earlier, hearlier⟩

/-! ## Rounds -/

section Rounds

variable {obstacle? : Machine → Option Fault} {late : Fault}

/-- A run comes back with a machine exactly if it is the first one that has arrived and there are
fewer steps before it than rounds. -/
theorem runUntil_eq_ok_iff (hobstacle : ∀ machine fault, obstacle? machine = some fault →
      machine.halted = true) {budget : Nat} :
    runUntil arrived obstacle? late machine budget = (target, .ok ()) ↔
      ∃ count < budget, machine.FirstComesTo arrived count target := by
  induction budget generalizing machine with
  | zero => simp [runUntil]
  | succ budget ih =>
    rw [runUntil]
    by_cases hhere : arrived machine = true
    · rw [if_pos hhere]
      constructor
      · intro hback
        cases hback
        exact ⟨0, by omega, comesTo_zero_iff.mpr ⟨hhere, rfl⟩, fun _ hlt => absurd hlt (by omega)⟩
      · rintro ⟨count, -, hcomes, hfirst⟩
        cases count with
        | zero => rw [(comesTo_zero_iff.mp hcomes).2]
        | succ count =>
          exact absurd (comesTo_zero_iff.mpr ⟨hhere, rfl⟩) (hfirst 0 (by omega) machine)
    · have haway : arrived machine = false := by simpa using hhere
      rw [if_neg hhere, exists_firstComesTo_iff haway]
      cases hblocked : obstacle? machine with
      | some fault =>
        have hhalted := step_of_halted (hobstacle machine fault hblocked)
        simp [hhalted]
      | none =>
        rcases hstep : machine.step with ⟨next, fault | _⟩
        · simp
        · simp [ih]

/-- A run whose rounds are as many as the steps to its goal is late, and the machine stands at the
goal. -/
theorem runUntil_eq_late (hobstacle : ∀ machine fault, obstacle? machine = some fault →
      machine.halted = true) {count : Nat} (h : machine.FirstComesTo arrived count target) :
    runUntil arrived obstacle? late machine count = (target, .error late) := by
  induction count generalizing machine with
  | zero => rw [runUntil, (comesTo_zero_iff.mp h.toComesTo).2]
  | succ count ih =>
    have haway : arrived machine = false := by
      rw [← Bool.not_eq_true]
      exact fun hhere => h.first 0 (by omega) machine (comesTo_zero_iff.mpr ⟨hhere, rfl⟩)
    obtain ⟨next, hstep⟩ := h.toComesTo.exists_step
    have hfree : obstacle? machine = none := by
      cases hblocked : obstacle? machine with
      | none => rfl
      | some fault =>
        rw [step_of_halted (hobstacle machine fault hblocked)] at hstep
        cases hstep
    rw [runUntil, if_neg (by simp [haway]), hfree]
    dsimp only
    rw [hstep]
    exact ih ((firstComesTo_succ_iff hstep haway).mp h)

end Rounds

/-- What a budget means to an attempt to bring a machine to a place. -/
structure HonoursBudget (machine : Machine) (goal : Machine → Bool) (late : Nat → Fault)
    (attempt : Nat → Machine × Except Fault Unit) : Prop where
  /-- The attempt succeeds exactly if the machine comes there in fewer steps than the budget has. -/
  succeeds_iff : ∀ budget, (∃ target, attempt budget = (target, .ok ())) ↔
    ∃ count < budget, ∃ target, machine.ComesTo goal count target
  /-- It gives the machine after the least number of such steps. -/
  least : ∀ budget target, attempt budget = (target, .ok ()) →
    ∃ count < budget, machine.FirstComesTo goal count target
  /-- A larger budget gives the same machine. -/
  stable : ∀ budget more target, budget ≤ more → attempt budget = (target, .ok ()) →
    attempt more = (target, .ok ())
  /-- A budget that ends with the step to the place is reported as too small. -/
  spent : ∀ count target, machine.FirstComesTo goal count target →
    attempt count = (target, .error (late count))

/-- Rounds that stop at no other place than the end of the program honour their budget. -/
theorem honoursBudget_runUntil {obstacle? : Machine → Option Fault}
    (hobstacle : ∀ machine fault, obstacle? machine = some fault → machine.halted = true)
    (late : Nat → Fault) :
    HonoursBudget machine arrived late fun budget =>
      runUntil arrived obstacle? (late budget) machine budget where
  succeeds_iff budget := by
    simp only [runUntil_eq_ok_iff hobstacle]
    constructor
    · rintro ⟨target, count, hlt, hcomes⟩
      exact ⟨count, hlt, target, hcomes.toComesTo⟩
    · rintro ⟨count, hlt, target, hcomes⟩
      obtain ⟨least, hle, found, hfound⟩ := hcomes.exists_first
      exact ⟨found, least, by omega, hfound⟩
  least budget target h := (runUntil_eq_ok_iff hobstacle).mp h
  stable budget more target hle h := by
    obtain ⟨count, hlt, hcomes⟩ := (runUntil_eq_ok_iff hobstacle).mp h
    exact (runUntil_eq_ok_iff hobstacle).mpr ⟨count, by omega, hcomes⟩
  spent count target h := runUntil_eq_late hobstacle h

/-- A run to the end of the program and a run to a label that the program knows honour their
budgets: they succeed exactly if the machine gets there in fewer steps than the budget has. -/
theorem runs_honour_budgets (machine : Machine) :
    HonoursBudget machine halted .unfinished machine.run ∧
    ∀ label address, machine.symbol label = .ok address →
      HonoursBudget machine (fun current => current.counter == address.toNat)
        (.notReached label) (machine.runToLabel label) := by
  refine ⟨honoursBudget_runUntil (fun _ _ h => by cases h) .unfinished, ?_⟩
  intro label address hsymbol
  have hruns : machine.runToLabel label = fun budget =>
      runUntil (fun current => current.counter == address.toNat)
        (fun current => if current.halted then some .fellOff else none)
        (.notReached label budget) machine budget := by
    funext budget
    rw [runToLabel, hsymbol]
  rw [hruns]
  refine honoursBudget_runUntil (fun current fault hblocked => ?_) (.notReached label)
  simp only [Option.ite_none_right_eq_some] at hblocked
  exact hblocked.1

/-- A program of one instruction, with a label at its end. -/
theorem exists_singleProgram : ∃ program, assemble ["@1", "(END)"] = .ok program ∧
    program.code = #[.load 1] ∧ program.symbols["END"]? = some 1 := by
  cases hassembled : assemble ["@1", "(END)"] with
  | error fault =>
    have hok : (assemble ["@1", "(END)"]).isOk = true := by decide +kernel
    rw [hassembled] at hok
    cases hok
  | ok program =>
    have hparts : (assemble ["@1", "(END)"]).toOption.any (fun program =>
        program.code = #[.load 1] ∧ program.symbols["END"]? = some 1) = true := by
      decide +kernel
    rw [hassembled] at hparts
    exact ⟨program, rfl, of_decide_eq_true hparts⟩

/-- One step brings a machine to the end of this program, and to its label. -/
theorem steps_start_of_single {program : Program} (hcode : program.code = #[.load 1]) :
    (start program).steps 1 = ({ start program with address := 1, counter := 1 }, .ok ()) := by
  simp [steps, step, start, hcode, execute]

/-- The run to the label finds it with two rounds and gives the same machine with nine. -/
theorem runs_honour_budgets_single : ∃ program, assemble ["@1", "(END)"] = .ok program ∧
    (start program).symbol "END" = .ok 1 ∧ ∃ target,
      (start program).runToLabel "END" 2 = (target, .ok ()) ∧ target.counter = 1 ∧
      (start program).runToLabel "END" 9 = (target, .ok ()) := by
  obtain ⟨program, hassembled, hcode, hlabel⟩ := exists_singleProgram
  have hsymbol : (start program).symbol "END" = .ok 1 := by simp [symbol, start, hlabel]
  have hhonours := (runs_honour_budgets (start program)).2 "END" 1 hsymbol
  obtain ⟨target, hfound⟩ := (hhonours.succeeds_iff 2).mpr
    ⟨1, by omega, _, comesTo_of_steps (steps_start_of_single hcode) rfl⟩
  obtain ⟨count, -, hcomes⟩ := hhonours.least 2 target hfound
  exact ⟨program, hassembled, hsymbol, target, hfound, by simpa using hcomes.arrived,
    hhonours.stable 2 9 target (by omega) hfound⟩

/-- One round is too few for one step: the machine comes to the end of the program, and to its
label, but both runs report that it does not. -/
theorem runs_late_with_last_step : ∃ program target, assemble ["@1", "(END)"] = .ok program ∧
    (start program).ComesTo halted 1 target ∧
    (start program).run 1 = (target, .error (.unfinished 1)) ∧
    (start program).symbol "END" = .ok 1 ∧
    (start program).ComesTo (fun current => current.counter == 1) 1 target ∧
    (start program).runToLabel "END" 1 = (target, .error (.notReached "END" 1)) := by
  obtain ⟨program, hassembled, hcode, hlabel⟩ := exists_singleProgram
  have hsteps := steps_start_of_single hcode
  have hsymbol : (start program).symbol "END" = .ok 1 := by simp [symbol, start, hlabel]
  refine ⟨program, _, hassembled, comesTo_of_steps hsteps ?_, ?_, hsymbol,
    comesTo_of_steps hsteps rfl, ?_⟩
  · simp [halted, start, hcode]
  · simp [run, runUntil, halted, step, start, hcode, execute]
  · rw [runToLabel, hsymbol]
    simp [runUntil, halted, step, start, hcode, execute]

end HackVm.Machine
