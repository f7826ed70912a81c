import HackVm.Pattern.Fault

/-!
# Nesting of a written pattern

Sequences, choices, groups, repetitions and sets hold other parts of a pattern. The
depth to which they may be nested is bounded. For each depth the first part at it is
kept, from the outside to the inside, so that the first one beyond the bound is known.
-/

namespace HackVm.Pattern

/-- The first part at each depth, the outermost first. -/
abbrev Nesting := List PatternPart

namespace Nesting

/-- The nesting of two things side by side. -/
def beside : Nesting → Nesting → Nesting
  | [], second => second
  | first, [] => first
  | part :: first, _ :: second => part :: beside first second

/-- The nesting of some things side by side. -/
def ofAll (all : List Nesting) : Nesting := all.foldl beside []

/-- The greatest depth. -/
def deepest : Nat := 250

/-- The first part that is nested too deeply. -/
def excess? (nesting : Nesting) : Option PatternPart := nesting[deepest]?

/-- The nesting of a part around others. What lies beyond the first excess is left out. -/
def around (part : PatternPart) (inner : Nesting) : Nesting := part :: inner.take deepest

end Nesting

end HackVm.Pattern
