import HackVm.Proofs.Labels

/-!
# Labels with any stems

A supply of labels is asked for labels with any stems and for the labels of comparisons, in any
order and as often as one likes. A stem may be empty, be one that comparisons and calls use, or
look like a label itself. All labels differ: those of one call share a number and have different
stems, and those of different calls have different numbers. The numbers stay below the count of
the calls, so a counter of 64 bits does for fewer than 2 ^ 64 calls.
-/

namespace HackVm.Codegen

/-- What a supply can be asked for. -/
inductive LabelCall where
  /-- A label with a stem. -/
  | allocate (stem : String)
  /-- The labels of a comparison. -/
  | allocateBranch
  deriving DecidableEq, Repr

/-- How many labels come of a call. -/
def LabelCall.labelCount : LabelCall → Nat
  | allocate _ => 1
  | allocateBranch => 2

namespace LabelSupply

/-- Answer a call: the labels, and the supply afterwards. -/
def answer (supply : LabelSupply) : LabelCall → List String × LabelSupply
  | .allocate stem =>
    let single := supply.allocate stem
    ([single.1], single.2)
  | .allocateBranch =>
    let branch := supply.allocateBranch
    ([branch.1.taken, branch.1.merge], branch.2)

/-- Answer calls one after the other: the labels of each, and the supply after all of them. -/
def answerAll (supply : LabelSupply) : List LabelCall → List (List String) × LabelSupply
  | [] => ([], supply)
  | call :: calls =>
    let first := supply.answer call
    let rest := first.2.answerAll calls
    (first.1 :: rest.1, rest.2)

/-- Labels that a supply hands out until it has become another one. -/
structure HandsOut (before after : LabelSupply) (labels : List String) : Prop where
  /-- Numbers count up. -/
  grows : before.allocated ≤ after.allocated
  /-- No label is handed out twice. -/
  nodup : labels.Nodup
  /-- The numbers of the labels are handed out meanwhile; nothing is said about the stems. -/
  numbered : ∀ name ∈ labels, ∃ stem number,
    before.allocated ≤ number ∧ number < after.allocated ∧ name = label stem number

/-- Handing out nothing. -/
theorem HandsOut.refl (supply : LabelSupply) : HandsOut supply supply [] :=
  ⟨Nat.le_refl _, .nil, by simp⟩

/-- Handing out labels and then others. No label is among both, because a label determines its
number and the numbers lie on different sides of the middle. -/
theorem HandsOut.append {before middle after : LabelSupply} {first second : List String}
    (hfirst : HandsOut before middle first) (hsecond : HandsOut middle after second) :
    HandsOut before after (first ++ second) := by
  refine ⟨Nat.le_trans hfirst.grows hsecond.grows, ?_, ?_⟩
  · rw [List.nodup_append]
    refine ⟨hfirst.nodup, hsecond.nodup, ?_⟩
    rintro name hname other hother rfl
    obtain ⟨stem, number, -, hhigh, rfl⟩ := hfirst.numbered name hname
    obtain ⟨later, count, hlow, -, hsame⟩ := hsecond.numbered _ hother
    have := (label_inj hsame).2
    omega
  · intro name hname
    obtain hname | hname := List.mem_append.mp hname
    · obtain ⟨stem, number, hlow, hhigh, rfl⟩ := hfirst.numbered name hname
      exact ⟨stem, number, hlow, Nat.lt_of_lt_of_le hhigh hsecond.grows, rfl⟩
    · obtain ⟨stem, number, hlow, hhigh, rfl⟩ := hsecond.numbered name hname
      exact ⟨stem, number, Nat.le_trans hfirst.grows hlow, hhigh, rfl⟩

/-- A supply hands out its next number with different stems. -/
theorem handsOut_advance (supply : LabelSupply) {used : List String} (hused : used.Nodup) :
    HandsOut supply supply.advance (used.map fun stem => label stem supply.allocated) := by
  refine ⟨Nat.le_succ _, nodup_map_label hused _, ?_⟩
  intro name hname
  obtain ⟨stem, -, rfl⟩ := List.mem_map.mp hname
  exact ⟨stem, supply.allocated, Nat.le_refl _, Nat.lt_succ_self _, rfl⟩

section Calls

variable (supply : LabelSupply) (call : LabelCall) (calls : List LabelCall)

/-- The labels of a call are handed out. -/
theorem handsOut_answer :
    HandsOut supply (supply.answer call).2 (supply.answer call).1 := by
  cases call with
  | allocate stem => exact supply.handsOut_advance (List.nodup_singleton stem)
  | allocateBranch =>
    have hstems : ["TRUE", "END"].Nodup := by decide
    exact supply.handsOut_advance hstems

/-- A call takes one number. -/
theorem allocated_answer : (supply.answer call).2.allocated = supply.allocated + 1 := by
  cases call <;> rfl

/-- A call gives as many labels as its kind says. -/
theorem length_answer : (supply.answer call).1.length = call.labelCount := by
  cases call <;> rfl

/-- The labels of calls are handed out. -/
theorem handsOut_answerAll :
    HandsOut supply (supply.answerAll calls).2 (supply.answerAll calls).1.flatten := by
  induction calls generalizing supply with
  | nil => exact .refl supply
  | cons call calls ih => exact (supply.handsOut_answer call).append (ih (supply.answer call).2)

/-- Calls take one number each. -/
theorem allocated_answerAll :
    (supply.answerAll calls).2.allocated = supply.allocated + calls.length := by
  induction calls generalizing supply with
  | nil => rfl
  | cons call calls ih =>
    rw [answerAll, ih, allocated_answer, List.length_cons]
    omega

/-- Calls give as many labels as their kinds say. -/
theorem map_length_answerAll :
    (supply.answerAll calls).1.map List.length = calls.map LabelCall.labelCount := by
  induction calls generalizing supply with
  | nil => rfl
  | cons call calls ih => rw [answerAll, List.map_cons, List.map_cons, ih, length_answer]

end Calls

/-- The labels of a new supply, one for each stem and two for each comparison, differ from each
other. The supply counts the calls, and all numbers in labels are below this count. -/
theorem labels_of_calls_distinct (calls : List LabelCall) :
    let answers := answerAll {} calls
    answers.1.flatten.Nodup ∧
      answers.1.map List.length = calls.map LabelCall.labelCount ∧
      answers.2.allocated = calls.length ∧
      ∀ name ∈ answers.1.flatten, ∃ stem, ∃ number < calls.length, name = label stem number := by
  intro answers
  have hhands : HandsOut {} answers.2 answers.1.flatten := handsOut_answerAll {} calls
  have hcount : answers.2.allocated = calls.length := by
    rw [allocated_answerAll, Nat.zero_add]
  refine ⟨hhands.nodup, map_length_answerAll {} calls, hcount, ?_⟩
  intro name hname
  obtain ⟨stem, number, -, hhigh, rfl⟩ := hhands.numbered name hname
  exact ⟨stem, number, hcount ▸ hhigh, rfl⟩

example : (answerAll {} [.allocate "TRUE", .allocateBranch, .allocate "TRUE$1", .allocate "",
    .allocate "$2"]).1 = [["TRUE$0"], ["TRUE$1", "END$1"], ["TRUE$1$2"], ["$3"], ["$2$4"]] := by
  decide

end LabelSupply

end HackVm.Codegen
