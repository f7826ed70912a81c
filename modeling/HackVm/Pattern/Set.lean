import HackVm.Pattern.Atom
import HackVm.Pattern.Nesting

/-!
# Sets of characters in a written pattern

A set stands in brackets. It lists characters, ranges and classes, can hold other sets,
and can join what it lists by intersection and difference. Open sets are kept on a
stack, the innermost first. Letters in any case are asked for by each named class, by
each operand of an operation and by each set in brackets.
-/

namespace HackVm.Pattern

/-- How two sets of characters are joined. -/
inductive SetOperation where
  /-- The characters of both. -/
  | meet
  /-- The characters of the first that are not in the second. -/
  | difference
  /-- The characters of exactly one. -/
  | symmetric
  deriving DecidableEq, Repr

/-- Join two sets of characters. -/
def SetOperation.apply (left right : CharRanges) : SetOperation → CharRanges
  | meet => left.meet right
  | difference => left.difference right
  | symmetric => left.symmetric right

/-- A part of a set of characters. -/
structure SetPiece where
  /-- Where it stands. -/
  part : PatternPart
  /-- Its characters. -/
  set : CharRanges
  /-- The parts that are nested in it. -/
  nesting : Nesting := []

/-- An open set of characters. -/
structure OpenSet where
  /-- The point where the set opens. -/
  start : List Char
  /-- The part that opens the set. -/
  opening : PatternPart
  /-- Whether the characters outside are meant. -/
  negated : Bool
  /-- A finished operand that waits for the one being read. -/
  operand : Option (SetPiece × SetOperation) := none
  /-- The pieces of the operand being read, the last first. -/
  pieces : List SetPiece := []
  /-- The point where the operand being read starts. -/
  origin : List Char

/-- A set with its letters in any case, if that is asked for, and what has been
noted. -/
def foldCase (flags : Flags) (noted : Option PatternFault) (place : PatternPart)
    (set : CharRanges) : CharRanges × Option PatternFault :=
  if !flags.ignoreCase then (set, noted)
  else if !flags.allScripts then (set.eitherCase, noted)
  else if set.folded || set.isEmpty then ({ set with folded := true }, noted)
  else (set, note noted .caseData place)

/-- The characters of a whole class or set, and what has been noted. Bytes beyond the
basic alphabet need not be text. -/
def finishSet (flags : Flags) (noted : Option PatternFault) (place : PatternPart)
    (negated : Bool) (set : CharRanges) : CharRanges × Option PatternFault :=
  let (set, noted) := foldCase flags noted place set
  let set :=
    if negated then set.complement (if flags.allScripts then lastChar else lastByte) else set
  (set, if flags.allScripts || set.isBasic then noted else note noted .notText place)

namespace OpenSet

/-- Add a piece to the operand being read. -/
def add (set : OpenSet) (piece : SetPiece) : OpenSet :=
  { set with pieces := piece :: set.pieces }

/-- The operand being read as one piece. -/
def lastOperand (set : OpenSet) : SetPiece :=
  match set.pieces with
  | [] => ⟨⟨set.origin, set.origin⟩, .empty, []⟩
  | [piece] => { piece with set := CharRanges.empty.union piece.set }
  | last :: earlier =>
    let pieces := (last :: earlier).reverse
    let place : PatternPart :=
      ⟨((pieces.head?.map fun piece => piece.part.start).getD set.origin), last.part.stop⟩
    ⟨place, CharRanges.empty.unionAll (pieces.map (·.set)),
      Nesting.around place (Nesting.ofAll (pieces.map (·.nesting)))⟩

/-- The operands read so far as one piece, and what has been noted. -/
def joined (set : OpenSet) (flags : Flags) (noted : Option PatternFault) :
    SetPiece × Option PatternFault :=
  let right := set.lastOperand
  match set.operand with
  | none => (right, noted)
  | some (left, operation) =>
    let (second, noted) := foldCase flags noted right.part right.set
    let (first, noted) := foldCase flags noted left.part left.set
    let place : PatternPart := ⟨left.part.start, right.part.stop⟩
    (⟨place, CharRanges.empty.union (operation.apply first second),
      Nesting.around place (left.nesting.beside right.nesting)⟩, noted)

/-- The piece for a set that closes before a point, and what has been noted. -/
def close (set : OpenSet) (flags : Flags) (noted : Option PatternFault) (stop : List Char) :
    SetPiece × Option PatternFault :=
  let (inner, noted) := set.joined flags noted
  let place := part set.start stop
  let (members, noted) := finishSet flags noted place set.negated inner.set
  (⟨place, members, Nesting.around place inner.nesting⟩, noted)

end OpenSet

/-- Take the minus signs at the start of a set, which stand for themselves. -/
def takeMinus (spaced comment : Bool) (start : List Char) (pieces : List SetPiece) :
    List Char → Reading (List SetPiece)
  | [] => .error (fault .setUnclosed start start)
  | char :: rest =>
    if isSkipped spaced comment char then
      takeMinus spaced (isComment comment char) start pieces rest
    else if char = '-' then
      let piece : SetPiece := { part := charPart (char :: rest), set := .single '-' }
      takeMinus spaced false start (piece :: pieces) rest
    else .ok (pieces, char :: rest)

/-- Open a set of characters; it starts at a bracket. -/
def openSet (spaced : Bool) (start : List Char) : Reading OpenSet :=
  let afterBracket := skip spaced start.tail
  let negated := afterBracket.head? == some '^'
  let inner := if negated then skip spaced afterBracket.tail else afterBracket
  if inner = [] then .error (fault .setUnclosed start [])
  else
    match takeMinus spaced false start [] inner with
    | .error flaw => .error flaw
    | .ok ([], ']' :: rest) =>
      let piece : SetPiece := { part := charPart inner, set := .single ']' }
      match skip spaced rest with
      | [] => .error (fault .setUnclosed start [])
      | after => .ok (⟨start, part start after, negated, none, [piece], inner⟩, after)
    | .ok (pieces, rest) =>
      .ok (⟨start, part start rest, negated, none, pieces, inner⟩, rest)

/-- Read the name of a class of the basic alphabet, if one stands here. -/
def readNamed? (flags : Flags) (noted : Option PatternFault) (start : List Char) :
    Option ((SetPiece × Option PatternFault) × List Char) :=
  match start with
  | '[' :: ':' :: chars =>
    let negated := chars.head? == some '^'
    let named := if negated then chars.tail else chars
    match named.dropWhile (· != ':') with
    | ':' :: ']' :: rest =>
      (namedSet? (String.ofList (named.takeWhile (· != ':')))).map fun set =>
        let place := part start rest
        let (members, noted) := finishSet flags noted place negated set
        (({ part := place, set := members }, noted), rest)
    | _ => none
  | _ => none

/-- Read one character or class of a set. -/
def readItem (spaced : Bool) (rest : List Char) : Reading Atom :=
  match rest with
  | '\\' :: chars => readEscape spaced rest chars
  | char :: chars => .ok (.literal char false, chars)
  | [] => .error (fault .setUnclosed [] [])

/-- The sign that decides on a minus sign: the next one. Where blanks and comments do
not count it is the next one behind blanks and a hash sign, if there is one. -/
def decisive? (spaced : Bool) (rest : List Char) : Option Char :=
  if !spaced then rest.head?
  else
    let visible := rest.dropWhile Text.isBlank
    let visible :=
      if visible.head? = some '#' then visible.tail.dropWhile Text.isBlank else visible
    visible.head?.or rest.head?

/-- Read a range of characters, or one item of a set. -/
def readRange (flags : Flags) (noted : Option PatternFault) (opening : PatternPart)
    (rest : List Char) : Reading (SetPiece × Option PatternFault) :=
  match readItem flags.spaced rest with
  | .error flaw => .error flaw
  | .ok (first, left) =>
    let unclosed : PatternFault := ⟨.setUnclosed, opening, none⟩
    let here := part rest left
    let next := skip flags.spaced left
    let alone : Reading (SetPiece × Option PatternFault) :=
      match atomSet? flags noted here first with
      | some (set, noted) => .ok (({ part := here, set }, noted), next)
      | none => .error ⟨.setEscape, here, none⟩
    match next with
    | [] => .error unclosed
    | '-' :: behind =>
      match decisive? flags.spaced behind with
      | some ']' | some '-' => alone
      | _ =>
        match skip flags.spaced behind with
        | [] => .error unclosed
        | second =>
          match readItem flags.spaced second with
          | .error flaw => .error flaw
          | .ok (last, after) =>
            let there := part second after
            match first, last with
            | .literal low _, .literal high _ =>
              let place := part rest after
              if high < low then .error ⟨.setRangeOrder, place, none⟩
              else
                let noted := ((atomSet? flags noted here first).map Prod.snd).getD noted
                let noted := ((atomSet? flags noted there last).map Prod.snd).getD noted
                .ok (({ part := place, set := .range low.toNat high.toNat }, noted), after)
            | .literal _ _, _ => .error ⟨.setRangeEnds, there, none⟩
            | _, _ => .error ⟨.setRangeEnds, here, none⟩
    | _ => alone

/-- The operation that stands here between two sets. -/
def operation? : List Char → Option SetOperation
  | '&' :: '&' :: _ => some .meet
  | '-' :: '-' :: _ => some .difference
  | '~' :: '~' :: _ => some .symmetric
  | _ => none

/-- Read a set of characters that is open inside others. The fuel is a bound on the
number of items, for which the length of the pattern is enough. -/
def readSet (flags : Flags) : Nat → List OpenSet → OpenSet → Option PatternFault → List Char →
    Reading (SetPiece × Option PatternFault)
  | 0, _, set, _, _ => .error ⟨.setUnclosed, set.opening, none⟩
  | fuel + 1, outer, set, noted, left =>
    let rest := skip flags.spaced left
    match rest with
    | [] => .error ⟨.setUnclosed, set.opening, none⟩
    | ']' :: after =>
      let (piece, noted) := set.close flags noted after
      match outer with
      | [] => .ok ((piece, noted), after)
      | enclosing :: outer => readSet flags fuel outer (enclosing.add piece) noted after
    | '[' :: _ =>
      match readNamed? flags noted rest with
      | some ((piece, noted), after) => readSet flags fuel outer (set.add piece) noted after
      | none =>
        match openSet flags.spaced rest with
        | .error flaw => .error flaw
        | .ok (inner, after) => readSet flags fuel (set :: outer) inner noted after
    | _ =>
      match operation? rest with
      | some operation =>
        let after := rest.drop 2
        let (piece, noted) := set.joined flags noted
        let next := { set with
          operand := some (piece, operation), pieces := [], origin := after }
        readSet flags fuel outer next noted after
      | none =>
        match readRange flags noted set.opening rest with
        | .error flaw => .error flaw
        | .ok ((piece, noted), after) => readSet flags fuel outer (set.add piece) noted after

end HackVm.Pattern
