import HackVm.Pattern.Basic
import HackVm.Pattern.Encoding

/-!
# Size of a pattern's automaton

A pattern can be run as an automaton over bytes, forward or backward. Its size in bytes
is worked out here without building it, and patterns with too large an automaton are
refused. A state takes 32 bytes, each arrow of a state with several byte ranges takes
8 more, and each link of a fork takes 4 more. The states of a set of characters depend
on the number of states before them, so that the states are counted in their order.
-/

namespace HackVm.Pattern

/-- The bytes of a state. -/
def stateBytes : Nat := 32

/-- The bytes of an arrow for a byte range. -/
def arrowBytes : Nat := 8

/-- The bytes of a link of a fork. -/
def linkBytes : Nat := 4

/-- The largest size of an automaton in bytes. -/
def largest : Nat := 10485760

/-- What an automaton has so far. -/
structure Tally where
  /-- The number of states. -/
  states : Nat
  /-- The bytes of arrows and links. -/
  extra : Nat
  deriving DecidableEq, Repr

namespace Tally

/-- The size of the automaton in bytes. -/
def bytes (tally : Tally) : Nat := tally.states * stateBytes + tally.extra

/-- Whether the automaton is too large. -/
def isTooLarge (tally : Tally) : Bool := largest < tally.bytes

/-- Grow an automaton a number of times, or until it is too large. -/
def grow (round : Tally → Tally) : Nat → Tally → Tally
  | 0, tally => tally
  | count + 1, tally => if tally.isTooLarge then tally else grow round count (round tally)

end Tally

/-- The states of an automaton in their order. -/
inductive Layout where
  /-- A number of states, with the bytes of their arrows and links. -/
  | block (states extra : Nat)
  /-- The states for some sequences of byte ranges. -/
  | set (backward : Bool) (sequences : List (List Encoding.ByteRange))
  /-- Some states after others. -/
  | both (first second : Layout)
  /-- The same states a number of times. -/
  | copies (layout : Layout) (count : Nat)

namespace Layout

/-- A number of states. -/
def states (count : Nat) : Layout := block count 0

/-- A number of links of forks. -/
def links (count : Nat) : Layout := block 0 (count * linkBytes)

/-- Some states after others. -/
def andThen : Layout → Layout → Layout
  | block states extra, block moreStates moreExtra =>
    block (states + moreStates) (extra + moreExtra)
  | first, second => both first second

/-- The same states a number of times. -/
def times (count : Nat) : Layout → Layout
  | block states extra => block (count * states) (count * extra)
  | layout => copies layout count

/-- Add states to an automaton. Once it is too large, what follows need not be known. -/
def addTo : Layout → Tally → Tally
  | block states extra, tally => ⟨tally.states + states, tally.extra + extra⟩
  | set backward sequences, tally =>
    if backward then
      ⟨tally.states + Encoding.backwardSize tally.states sequences,
        tally.extra + sequences.length * linkBytes⟩
    else
      let (states, arrows) := Encoding.forwardSize tally.states sequences
      ⟨tally.states + states, tally.extra + arrows * arrowBytes⟩
  | both first second, tally =>
    let grown := first.addTo tally
    if grown.isTooLarge then grown else second.addTo grown
  | copies layout count, tally => Tally.grow (fun tally => layout.addTo tally) count tally

end Layout

/-- The states that the automaton of a pattern takes. -/
structure Room where
  /-- The states in their order. -/
  layout : Layout
  /-- Whether the last state is a fork, which gets a link to what follows. -/
  forks : Bool

namespace Room

/-- The states of an automaton that goes on to something. -/
def onward (room : Room) : Layout :=
  if room.forks then room.layout.andThen (.links 1) else room.layout

/-- A number of states without forks. -/
def states (count : Nat) : Room := ⟨.states count, false⟩

/-- Automata one after another. -/
def inTurn : List Room → Room
  | [] => states 1
  | [room] => room
  | room :: rooms =>
    let rest := inTurn rooms
    ⟨room.onward.andThen rest.layout, rest.forks⟩

/-- An automaton so many times. -/
def exactly (room : Room) : Nat → Room
  | 0 => states 1
  | count + 1 => ⟨(room.onward.times count).andThen room.layout, room.forks⟩

/-- A choice: a fork to all automata, which join at a last state. The fork and that
state come behind the first two automata. -/
def choice : List Room → Room
  | first :: second :: rest =>
    let branch (room : Room) : Layout := room.onward.andThen (.links 1)
    let start := ((branch first).andThen (branch second)).andThen (.states 2)
    ⟨rest.foldl (fun before room => before.andThen (branch room)) start, false⟩
  | [room] => room
  | [] => states 1

/-- An automaton that is run any number of times. If each round takes a byte, one fork
is enough. -/
def many (room : Room) (takesBytes : Bool) : Room :=
  if takesBytes then ⟨(Layout.block 1 linkBytes).andThen room.onward, true⟩
  else ⟨room.onward.andThen (.block 3 (4 * linkBytes)), false⟩

/-- An automaton that is run so many times at least, and at least once. -/
def atLeast (room : Room) (least : Nat) : Room :=
  ⟨(room.onward.times least).andThen (.block 1 linkBytes), true⟩

/-- An automaton behind a fork that can go on without it. -/
def behindFork (room : Room) : Layout :=
  (Layout.block 1 (2 * linkBytes)).andThen room.onward

/-- An automaton that can be left out. -/
def optional (room : Room) : Room := ⟨room.behindFork.andThen (.states 1), false⟩

/-- An automaton that is run between so many times and so many. -/
def between (room : Room) (least most : Nat) : Room :=
  let first := (room.exactly least).onward.andThen (.states 1)
  ⟨first.andThen (room.behindFork.times (most - least)), false⟩

/-- A repetition. -/
def times (room : Room) (takesBytes : Bool) : Nat → Option Nat → Room
  | 0, some 1 => room.optional
  | 0, none => room.many takesBytes
  | least, none => room.atLeast least
  | least, some most =>
    if least = most then room.exactly least else room.between least most

end Room

/-- The states of a set of characters: an automaton for all the byte sequences of its
characters, or two states if they are single bytes. -/
def setLayout (backward byte : Bool) (ranges : List (Nat × Nat)) : Layout :=
  if byte || ranges.all (·.2 ≤ 0x7F) then .block 2 (ranges.length * arrowBytes)
  else .set backward (ranges.flatMap Encoding.sequences)

/-- The states of a tree of plain texts. A node of the tree is a fork to a state for the
texts up to each one that ends at the node, and to the end for each of those. The fuel
is a bound on the length of the texts. -/
def treeLayout : Nat → List (List Nat) → Layout
  | 0, _ => .states 0
  | fuel + 1, texts =>
    let longer := texts.dropWhile List.isEmpty
    if longer.isEmpty then .states 0
    else
      let texts := if longer.length = texts.length then texts else [] :: longer
      let families := (texts.splitOn []).filter fun family => !family.isEmpty
      let finished := (texts.filter List.isEmpty).length
      let family (before : Layout) (members : List (List Nat)) : Layout :=
        let heads := (members.filterMap List.head?).eraseDups
        let arrows := if heads.length = 1 then 0 else heads.length
        heads.foldl (fun before head => before.andThen
            (treeLayout fuel ((members.filter fun member => member.head? == some head).map
              List.tail)))
          (before.andThen (.block 1 (arrows * arrowBytes)))
      families.foldl family (.block 1 ((families.length + finished) * linkBytes))

/-- The bytes of a plain text. -/
def textBytes (chars : List Char) : List Nat :=
  chars.flatMap fun char => Encoding.bytes char.toNat

/-- The bytes of a plain text; other patterns have none. -/
def plainBytes? : Pattern → Option (List Nat)
  | text chars => some (textBytes chars)
  | _ => none

mutual

/-- The states that the automaton of a pattern takes. Groups are marked forward only. -/
def room (backward : Bool) : Pattern → Room
  | empty => Room.states 1
  | text chars => Room.states (byteLength chars)
  | oneOf byte ranges => ⟨setLayout backward byte ranges, false⟩
  | anchor _ _ => Room.states 1
  | repeated pattern least most _ =>
    (pattern.room backward).times (pattern.shortest.any (0 < ·)) least most
  | group _ pattern =>
    let inner := pattern.room backward
    if backward then inner
    else ⟨((Layout.states 1).andThen inner.onward).andThen (.states 1), false⟩
  | sequence parts =>
    let inner := rooms backward parts
    Room.inTurn (if backward then inner.reverse else inner)
  | either choices =>
    match choices.mapM plainBytes? with
    | some texts =>
      let texts := if backward then texts.map List.reverse else texts
      let depth := (texts.map List.length).foldl max 0 + 1
      ⟨(Layout.states 1).andThen (treeLayout depth texts), false⟩
    | none => Room.choice (rooms backward choices)

/-- The states that the automata of some patterns take. -/
def rooms (backward : Bool) : List Pattern → List Room
  | [] => []
  | pattern :: patterns => pattern.room backward :: rooms backward patterns

end

mutual

/-- Whether a pattern can only start at the start of a text, as its form shows, or end
at the end of one. -/
def isBound (side : Anchor) : Pattern → Bool
  | anchor condition _ => condition == side
  | repeated pattern least _ _ => 0 < least && pattern.isBound side
  | group _ pattern => pattern.isBound side
  | sequence parts =>
    let bounds := boundsOf side parts
    isBoundInTurn (if side = .textEnd then bounds.reverse else bounds)
  | either choices => (boundsOf side choices).all Prod.fst
  | _ => false

/-- For some patterns, whether they are bound to a side and whether they are always
empty. -/
def boundsOf (side : Anchor) : List Pattern → List (Bool × Bool)
  | [] => []
  | pattern :: patterns => (pattern.isBound side, pattern.isEmptyOnly) :: boundsOf side patterns

/-- Whether one of the first patterns is bound, up to the first that is not always
empty. -/
def isBoundInTurn : List (Bool × Bool) → Bool
  | [] => false
  | (bound, emptyOnly) :: rest => bound || (emptyOnly && isBoundInTurn rest)

end

/-- The states of the whole automaton of a pattern. Before it stands a state, or a loop
over any bytes; behind it stands the state of a match; forward, it is marked as a
group. -/
def automaton (backward : Bool) (pattern : Pattern) : Layout :=
  let inner := (pattern.room backward).onward
  let bound := pattern.isBound (if backward then .textEnd else .textStart)
  let before : Layout :=
    if bound then .states 1 else .block 3 (2 * linkBytes + arrowBytes)
  let marked :=
    if backward then inner else ((Layout.states 1).andThen inner).andThen (.states 1)
  (before.andThen marked).andThen (.states 1)

/-- Whether the automaton of a pattern is too large. -/
def isTooLarge (backward : Bool) (pattern : Pattern) : Bool :=
  ((pattern.automaton backward).addTo ⟨0, 0⟩).isTooLarge

end HackVm.Pattern
