/-!
# Generated labels

Comparisons and calls need labels of their own. A label is a stem, a dollar sign
and a number; numbers count up and are never used twice, so labels never repeat.
-/

namespace HackVm.Codegen

/-- A source of fresh labels. -/
structure LabelSupply where
  /-- How many numbers have been handed out; also the next number. -/
  allocated : Nat := 0
  deriving DecidableEq, Repr

/-- The two labels of a comparison. -/
structure BranchLabels where
  /-- Where the comparison goes on if it holds. -/
  taken : String
  /-- Where both cases meet. -/
  merge : String
  deriving DecidableEq, Repr

namespace LabelSupply

/-- The label with a given stem and number. -/
def label (stem : String) (number : Nat) : String := stem ++ "$" ++ toString number

/-- The supply with one more number handed out. -/
def advance (supply : LabelSupply) : LabelSupply := ⟨supply.allocated + 1⟩

/-- Hand out a label with a given stem. -/
def allocate (supply : LabelSupply) (stem : String) : String × LabelSupply :=
  (label stem supply.allocated, supply.advance)

/-- Hand out the two labels of a comparison, which share a number. -/
def allocateBranch (supply : LabelSupply) : BranchLabels × LabelSupply :=
  (⟨label "TRUE" supply.allocated, label "END" supply.allocated⟩, supply.advance)

end LabelSupply

end HackVm.Codegen
