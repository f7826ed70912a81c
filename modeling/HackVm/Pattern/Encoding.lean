import Std.Data.TreeMap.Basic

/-!
# Byte sequences of character ranges

Characters are written as one to four bytes. A range of characters is cut into blocks
such that the bytes of a block are all those in a sequence of byte ranges. The sequences
of a set form an automaton, forward or backward. States that are alike are shared as far
as they are remembered: the memory has a fixed number of slots, and a state takes the
place of the one that was in its slot before.
-/

namespace HackVm.Encoding

/-- The closed range of a byte. -/
abbrev ByteRange := Nat × Nat

/-- The bytes of a code point. -/
def bytes (code : Nat) : List Nat :=
  if code < 0x80 then [code]
  else if code < 0x800 then [0xC0 + code / 0x40, 0x80 + code % 0x40]
  else if code < 0x10000 then
    [0xE0 + code / 0x1000, 0x80 + code / 0x40 % 0x40, 0x80 + code % 0x40]
  else
    [0xF0 + code / 0x40000, 0x80 + code / 0x1000 % 0x40, 0x80 + code / 0x40 % 0x40,
      0x80 + code % 0x40]

/-- The last code points with one, two and three bytes. -/
def lastOfWidth : List Nat := [0x7F, 0x7FF, 0xFFFF]

/-- The sizes of the blocks of code points that share all bytes but the last ones. -/
def blockSizes : List Nat := [0x40, 0x1000, 0x40000]

/-- Where a range has to be cut for a block size: its first part ends there. -/
def cutAt? (low high size : Nat) : Option Nat :=
  if low / size = high / size then none
  else if low % size ≠ 0 then some (low / size * size + size - 1)
  else if high % size ≠ size - 1 then some (high / size * size - 1)
  else none

/-- The sequences of byte ranges for a range of characters, in ascending order. The
fuel is a bound on the number of nested cuts. -/
def sequencesWithin : Nat → Nat → Nat → List (List ByteRange)
  | 0, _, _ => []
  | fuel + 1, low, high =>
    let cut (stop start : Nat) :=
      sequencesWithin fuel low stop ++ sequencesWithin fuel start high
    if high < low then []
    else if low < 0xE000 ∧ 0xD7FF < high then cut 0xD7FF 0xE000
    else
      match lastOfWidth.find? fun last => low ≤ last && last < high with
      | some last => cut last (last + 1)
      | none =>
        if high ≤ 0x7F then [[(low, high)]]
        else
          match blockSizes.findSome? (cutAt? low high) with
          | some stop => cut stop (stop + 1)
          | none => [(bytes low).zip (bytes high)]

/-- The sequences of byte ranges for a range of characters; less than forty cuts are
nested, as each leaves a width, a block or the surrogates behind. -/
def sequences (range : Nat × Nat) : List (List ByteRange) :=
  sequencesWithin 40 range.1 range.2

/-- Mix a number into a hash. -/
def mix (hash : UInt64) (value : Nat) : UInt64 := (hash ^^^ value.toUInt64) * 1099511628211

/-- The slot of some numbers in a memory with so many slots. -/
def slot (size : Nat) (values : List Nat) : Nat :=
  (values.foldl mix 14695981039346656037).toNat % size

/-- A memory of states: its slots, with what a state was made for and its number. -/
abbrev Memory (Key : Type) := Std.TreeMap Nat (Key × Nat)

/-- The state that was made for a key, if its slot still remembers it. -/
def Memory.find? {Key : Type} [BEq Key] (memory : Memory Key) (slot : Nat) (key : Key) :
    Option Nat :=
  match memory[slot]? with
  | some (kept, state) => if kept == key then some state else none
  | none => none

/-- A branching: byte ranges with the states that they lead to. -/
abbrev Branching := List (ByteRange × Nat)

/-- An automaton that is being built forward. -/
structure Forward where
  /-- The number of the next state. -/
  next : Nat
  /-- The number of arrows so far. -/
  arrows : Nat := 0
  /-- The branchings that are remembered. -/
  memory : Memory Branching := ∅

/-- The number of slots for branchings. -/
def branchingSlots : Nat := 10000

/-- The state for a branching, and the automaton with it. -/
def Forward.state (built : Forward) (branching : Branching) : Forward × Nat :=
  let slot := slot branchingSlots
    (branching.flatMap fun (range, target) => [range.1, range.2, target])
  match built.memory.find? slot branching with
  | some state => (built, state)
  | none =>
    (⟨built.next + 1, built.arrows + branching.length,
      built.memory.insert slot (branching, built.next)⟩, built.next)

/-- Build the states for some sequences that lead to a last state. The depth is a bound
on the length of the sequences. -/
def Forward.add (last : Nat) : Nat → Forward → List (List ByteRange) → Forward × Nat
  | 0, built, _ => (built, last)
  | depth + 1, built, sequences =>
    let families := sequences.splitBy fun first second => first.head? == second.head?
    let grown := families.foldl
      (fun (state : Forward × Branching) family =>
        match family with
        | [] | [] :: _ => state
        | (range :: rest) :: others =>
          let (built, target) :=
            if rest.isEmpty then (state.1, last)
            else Forward.add last depth state.1 (rest :: others.map List.tail)
          (built, state.2 ++ [(range, target)]))
      (built, [])
    grown.1.state grown.2

/-- The numbers of states and of arrows of the forward automaton for some sequences,
whose states are counted from a first number. -/
def forwardSize (first : Nat) (sequences : List (List ByteRange)) : Nat × Nat :=
  let built := (Forward.add first 4 { next := first + 1 } sequences).1
  (built.next - first, built.arrows)

/-- An automaton that is being built backward: the number of the next state, and the
remembered states with the state and the byte range that they lead to. -/
structure Backward where
  /-- The number of the next state. -/
  next : Nat
  /-- The states that are remembered. -/
  memory : Memory (Nat × ByteRange) := ∅

/-- The number of slots for backward states. -/
def backwardSlots : Nat := 1000

/-- Build the states for a sequence that leads to a state. -/
def Backward.add (built : Backward) (target : Nat) : List ByteRange → Backward
  | [] => built
  | range :: ranges =>
    let slot := slot backwardSlots [target, range.1, range.2]
    match built.memory.find? slot (target, range) with
    | some state => built.add state ranges
    | none =>
      Backward.add ⟨built.next + 1, built.memory.insert slot ((target, range), built.next)⟩
        built.next ranges

/-- The number of states of the backward automaton for some sequences, whose states are
counted from a first number: a fork, an end, and those between them. -/
def backwardSize (first : Nat) (sequences : List (List ByteRange)) : Nat :=
  (sequences.foldl (fun built sequence => built.add (first + 1) sequence)
    { next := first + 2 : Backward }).next - first

end HackVm.Encoding
