import HackVm.Pattern.CharRanges

/-!
# Patterns

A pattern describes texts: it is built from plain texts, sets of characters, conditions
on a place between two characters, repetitions, groups, sequences and choices. The
functions that build patterns keep them simple: a sequence has no empty parts and no
neighbouring plain texts, a choice of single characters is a set, and what all choices
start with stands before them.
-/

namespace HackVm

/-- A place in a text: the characters on both sides of it. -/
structure Place where
  /-- The character before the place; none at the start of the text. -/
  before : Option Char
  /-- The character after the place; none at the end of the text. -/
  after : Option Char
  deriving DecidableEq, Repr

/-- Whether a character is a letter or digit of the basic alphabet, or an underscore. -/
def isWordChar (char : Char) : Bool := char.isAlphanum || char == '_'

namespace Place

/-- Whether a word reaches the place from the left. -/
def wordBefore (place : Place) : Bool := place.before.any isWordChar

/-- Whether a word starts or goes on to the right of the place. -/
def wordAfter (place : Place) : Bool := place.after.any isWordChar

end Place

/-- A condition on a place. -/
inductive Anchor where
  /-- The start of the text. -/
  | textStart
  /-- The end of the text. -/
  | textEnd
  /-- The start of a line; lines end in a line feed. -/
  | lineStart
  /-- The end of a line. -/
  | lineEnd
  /-- The start of a line, where a carriage return also ends lines. -/
  | returnLineStart
  /-- The end of a line, where a carriage return also ends lines. -/
  | returnLineEnd
  /-- One side belongs to a word and the other does not. -/
  | wordBoundary
  /-- Both sides belong to words, or none does. -/
  | noWordBoundary
  /-- A word starts. -/
  | wordStart
  /-- A word ends. -/
  | wordEnd
  /-- No word reaches the place from the left. -/
  | wordStartHalf
  /-- No word goes on to the right. -/
  | wordEndHalf
  deriving DecidableEq, Repr

/-- Whether a condition holds at a place. -/
def Anchor.holds (place : Place) : Anchor → Bool
  | textStart => place.before.isNone
  | textEnd => place.after.isNone
  | lineStart => place.before.isNone || place.before == some '\n'
  | lineEnd => place.after.isNone || place.after == some '\n'
  | returnLineStart =>
    place.before.isNone || place.before == some '\n' ||
      (place.before == some '\r' && place.after != some '\n')
  | returnLineEnd =>
    place.after.isNone || place.after == some '\r' ||
      (place.after == some '\n' && place.before != some '\r')
  | wordBoundary => place.wordBefore != place.wordAfter
  | noWordBoundary => place.wordBefore == place.wordAfter
  | wordStart => !place.wordBefore && place.wordAfter
  | wordEnd => place.wordBefore && !place.wordAfter
  | wordStartHalf => !place.wordBefore
  | wordEndHalf => !place.wordAfter

/-- A pattern of texts. -/
inductive Pattern where
  /-- The empty text. -/
  | empty
  /-- A plain text. -/
  | text (chars : List Char)
  /-- One character of some ranges; it may be meant as a byte. -/
  | oneOf (byte : Bool) (ranges : List (Nat × Nat))
  /-- The empty text at a place where a condition holds, perhaps for words of all
  scripts. -/
  | anchor (condition : Anchor) (allScripts : Bool)
  /-- A pattern so many times at least and, if there is a bound, so many at most. -/
  | repeated (pattern : Pattern) (least : Nat) (most : Option Nat) (greedy : Bool)
  /-- A pattern in a group with a number. -/
  | group (number : Nat) (pattern : Pattern)
  /-- Patterns one after another. -/
  | sequence (parts : List Pattern)
  /-- One of some patterns. -/
  | either (choices : List Pattern)

namespace Pattern

mutual

/-- Whether two patterns are written alike. -/
def same : Pattern → Pattern → Bool
  | empty, empty => true
  | text first, text second => first == second
  | oneOf byte ranges, oneOf otherByte otherRanges =>
    byte == otherByte && ranges == otherRanges
  | anchor condition allScripts, anchor other otherScripts =>
    condition == other && allScripts == otherScripts
  | repeated first least most greedy, repeated second otherLeast otherMost otherGreedy =>
    least == otherLeast && most == otherMost && greedy == otherGreedy && first.same second
  | group number first, group other second => number == other && first.same second
  | sequence first, sequence second => sameAll first second
  | either first, either second => sameAll first second
  | _, _ => false

/-- Whether two lists of patterns are written alike. -/
def sameAll : List Pattern → List Pattern → Bool
  | [], [] => true
  | first :: firsts, second :: seconds => first.same second && sameAll firsts seconds
  | _, _ => false

end

/-- The number of bytes of a character. -/
def byteWidth (code : Nat) : Nat :=
  if code < 0x80 then 1 else if code < 0x800 then 2 else if code < 0x10000 then 3 else 4

/-- The sum of some numbers. -/
def total (counts : List Nat) : Nat := counts.foldl (fun sum count => sum + count) 0

/-- The number of bytes of a plain text. -/
def byteLength (chars : List Char) : Nat := total (chars.map fun char => byteWidth char.toNat)

mutual

/-- The length in bytes of the shortest text, if the pattern describes one and no part
of it describes none. -/
def shortest : Pattern → Option Nat
  | empty => some 0
  | text chars => some (byteLength chars)
  | oneOf _ ranges => ranges.head?.map fun range => byteWidth range.1
  | anchor _ _ => some 0
  | repeated pattern least _ _ => pattern.shortest.map (· * least)
  | group _ pattern => pattern.shortest
  | sequence parts =>
    (shortestOf parts).foldl (fun found length => found.bind fun sum => length.map (sum + ·))
      (some 0)
  | either choices =>
    match shortestOf choices with
    | [] => none
    | first :: rest =>
      rest.foldl (fun found length => found.bind fun least => length.map (min least ·)) first

/-- The lengths of the shortest texts of some patterns. -/
def shortestOf : List Pattern → List (Option Nat)
  | [] => []
  | pattern :: patterns => pattern.shortest :: shortestOf patterns

end

mutual

/-- The length in bytes of the longest text, if there is one and no part of the pattern
describes none. -/
def longest : Pattern → Option Nat
  | empty => some 0
  | text chars => some (byteLength chars)
  | oneOf _ ranges => ranges.getLast?.map fun range => byteWidth range.2
  | anchor _ _ => some 0
  | repeated pattern _ most _ => most.bind fun count => pattern.longest.map (· * count)
  | group _ pattern => pattern.longest
  | sequence parts =>
    (longestOf parts).foldl (fun found length => found.bind fun sum => length.map (sum + ·))
      (some 0)
  | either choices =>
    match longestOf choices with
    | [] => none
    | first :: rest =>
      rest.foldl (fun found length => found.bind fun most => length.map (max most ·)) first

/-- The lengths of the longest texts of some patterns. -/
def longestOf : List Pattern → List (Option Nat)
  | [] => []
  | pattern :: patterns => pattern.longest :: longestOf patterns

end

/-- Whether a pattern describes no text but the empty one. -/
def isEmptyOnly (pattern : Pattern) : Bool := pattern.longest == some 0

/-- The pattern that describes no text. -/
def nothing : Pattern := oneOf true []

/-- The pattern for one character of some ranges. -/
def ofRanges (byte : Bool) : List (Nat × Nat) → Pattern
  | [] => nothing
  | [(low, high)] => if low = high then text [Char.ofNat low] else oneOf byte [(low, high)]
  | ranges => oneOf byte ranges

/-- A pattern so many times. What is always empty is repeated once at most. -/
def times (pattern : Pattern) (least : Nat) (most : Option Nat) (greedy : Bool) : Pattern :=
  let bound : Nat × Option Nat :=
    if pattern.isEmptyOnly then (min least 1, some (min (most.getD 1) 1)) else (least, most)
  match bound with
  | (0, some 0) => empty
  | (1, some 1) => pattern
  | (least, most) => repeated pattern least most greedy

/-- The parts of sequences among some patterns, without empty ones. -/
def flatParts (parts : List Pattern) : List Pattern :=
  parts.flatMap fun part =>
    match part with
    | empty => []
    | sequence inner => inner
    | _ => [part]

/-- Join neighbouring plain texts. -/
def joinTexts : List Pattern → List Pattern
  | [] => []
  | part :: parts =>
    match part, joinTexts parts with
    | text first, text second :: rest => text (first ++ second) :: rest
    | _, rest => part :: rest

/-- Patterns one after another. -/
def sequenceOf (parts : List Pattern) : Pattern :=
  match joinTexts (flatParts parts) with
  | [] => empty
  | [part] => part
  | parts => sequence parts

/-- The range of a plain text of one character. -/
def singleRange? : Pattern → Option (List (Nat × Nat))
  | text [char] => some [(char.toNat, char.toNat)]
  | _ => none

/-- The ranges of a pattern for one character. -/
def setRanges? : Pattern → Option (List (Nat × Nat))
  | oneOf _ ranges => some ranges
  | _ => none

/-- The parts of a sequence; other patterns have none. -/
def partsOf : Pattern → List Pattern
  | sequence parts => parts
  | _ => []

/-- The number of patterns that two lists have in common at their start. -/
def commonCount : List Pattern → List Pattern → Nat
  | first :: firsts, second :: seconds =>
    if first.same second then commonCount firsts seconds + 1 else 0
  | _, _ => 0

/-- One of some patterns, if it is a set of characters or there is no choice. -/
def simpleChoice? (choices : List Pattern) : Option Pattern :=
  match choices with
  | [] => some nothing
  | [choice] => some choice
  | _ =>
    match choices.mapM singleRange?, choices.mapM setRanges? with
    | some ranges, _ => some (ofRanges false (CharRanges.tidy ranges.flatten))
    | _, some ranges => some (ofRanges false (CharRanges.tidy ranges.flatten))
    | none, none => none

/-- The choices among some patterns, with those inside them. -/
def flatChoices (choices : List Pattern) : List Pattern :=
  choices.flatMap fun choice =>
    match choice with
    | either inner => inner
    | _ => [choice]

/-- One of some patterns. What they all start with stands before the choice. -/
def eitherOf (choices : List Pattern) : Pattern :=
  let choices := flatChoices choices
  match simpleChoice? choices, choices with
  | some simple, _ => simple
  | none, [] => nothing
  | none, first :: rest =>
    let shared := rest.foldl (fun count choice => min count (commonCount first.partsOf
      choice.partsOf)) first.partsOf.length
    if shared = 0 then either choices
    else
      let endings := flatChoices (choices.map fun choice =>
        sequenceOf (choice.partsOf.drop shared))
      sequenceOf (first.partsOf.take shared ++
        [(simpleChoice? endings).getD (either endings)])

mutual

/-- Whether a pattern speaks of words of all scripts. -/
def asksForWords : Pattern → Bool
  | anchor _ allScripts => allScripts
  | repeated pattern _ _ _ => pattern.asksForWords
  | group _ pattern => pattern.asksForWords
  | sequence parts => anyAsksForWords parts
  | either choices => anyAsksForWords choices
  | _ => false

/-- Whether one of some patterns speaks of words of all scripts. -/
def anyAsksForWords : List Pattern → Bool
  | [] => false
  | pattern :: patterns => pattern.asksForWords || anyAsksForWords patterns

end

end Pattern

end HackVm
