import HackVm.Pattern.Literal
import HackVm.Pattern.Set
import HackVm.Text.Letter
import Std.Data.TreeMap.Basic

/-!
# Reading a pattern

A written pattern is read from the left. Most characters stand for themselves; the
others group, choose, repeat, anchor, open a set of characters or escape what follows.
Open groups are kept on a stack, the innermost first.
-/

namespace HackVm.Pattern

/-- Take the digits of a number; what does not count is skipped behind each of them. -/
def takeDigits (spaced comment : Bool) : List Char → List Char × List Char
  | [] => ([], [])
  | char :: rest =>
    if isSkipped spaced comment char then takeDigits spaced (isComment comment char) rest
    else if char.isDigit then
      let (digits, left) := takeDigits spaced false rest
      (char :: digits, left)
    else ([], char :: rest)

/-- A number in the bounds of a repetition, with the blanks around it. -/
def readBound (spaced : Bool) (rest : List Char) : Except PatternFault Nat × List Char :=
  let start := rest.dropWhile Text.isBlank
  let (digits, stop) :=
    if start.head?.any Char.isDigit then takeDigits spaced false start else ([], start)
  let value : Nat := digits.foldl (fun value digit => value * 10 + (digit.toNat - 0x30)) 0
  let result : Except PatternFault Nat :=
    if digits = [] then .error (fault .countEmpty start stop)
    else if value < 4294967296 then .ok value
    else .error (fault .numberTooLarge start stop)
  let blanks := stop.takeWhile Text.isBlank
  (result, if blanks.isEmpty then stop else skip spaced (stop.dropWhile Text.isBlank))

/-- How often a pattern is repeated. -/
structure Bounds where
  /-- The least number of times. -/
  least : Nat
  /-- The greatest number of times, if there is one. -/
  most : Option Nat
  /-- Whether the repetition is marked to take as little as it can, or as much if that
  is the rule. -/
  marked : Bool

/-- Close the bounds of a repetition. -/
def closeBounds (spaced : Bool) (start : List Char) (least : Nat) (most : Option Nat)
    (rest : List Char) : Reading Bounds :=
  match rest with
  | '\x7d' :: closed =>
    let next := skip spaced closed
    let marked := next.head? == some '?'
    let after := if marked then next.tail else next
    if most.any (· < least) then .error (fault .countOrder start after)
    else .ok (⟨least, most, marked⟩, after)
  | _ => .error (fault .countUnclosed start rest)

/-- Read the bounds of a repetition; they start at a brace. -/
def readBounds (spaced : Bool) (start : List Char) : Reading Bounds :=
  let unclosed : Reading Bounds := .error (fault .countUnclosed start [])
  match skip spaced start.tail with
  | [] => unclosed
  | inner =>
    let (least?, rest) := readBound spaced inner
    match rest with
    | [] => unclosed
    | ',' :: behind =>
      match skip spaced behind, least? with
      | [], _ => unclosed
      | _, .error flaw => .error flaw
      | '\x7d' :: after, .ok least =>
        closeBounds spaced start least none ('\x7d' :: after)
      | upper, .ok least =>
        match readBound spaced upper with
        | (.error flaw, _) => .error flaw
        | (.ok most, after) => closeBounds spaced start least (some most) after
    | _ =>
      match least? with
      | .error flaw => .error flaw
      | .ok least => closeBounds spaced start least (some least) rest

/-- Read a group's name up to its closing bracket. The characters so far are given from
the last to the first. -/
def readName (start name : List Char) : List Char → Reading String
  | [] => .error (fault .nameCut [] [])
  | char :: rest =>
    let first := name.isEmpty
    let letter := char == '_' || Text.isLetter char
    let valid := letter ||
      (!first && (Text.isNumber char || char == '.' || char == '[' || char == ']'))
    if char = '>' then
      if first then .error (fault .nameEmpty start start)
      else .ok (String.ofList name.reverse, char :: rest)
    else if valid then readName start (char :: name) rest
    else .error ⟨.nameInvalid, charPart (char :: rest), none⟩

/-- A letter or the minus sign among the flags, with its place. -/
abbrev FlagItem := Char × PatternPart

/-- Read flags up to the colon or the bracket that ends them. -/
def readFlags (items : List FlagItem) : List Char → Reading (List FlagItem)
  | [] => .error (fault .flagCut [] [])
  | char :: rest =>
    let here := charPart (char :: rest)
    if char = ':' ∨ char = ')' then
      match items.getLast? with
      | some ('-', dangling) => .error ⟨.flagDanglingMinus, dangling, none⟩
      | _ => .ok (items, char :: rest)
    else if char != '-' && !"imsURux".toList.contains char then
      .error ⟨.flagUnknown, here, none⟩
    else
      match items.find? (·.1 == char) with
      | some (_, earlier) =>
        .error ⟨if char = '-' then .flagSecondMinus else .flagTwice, here, some earlier⟩
      | none => readFlags (items ++ [(char, here)]) rest

/-- The flags after the items of a group: those behind the minus sign are put out. -/
def Flags.apply (flags : Flags) (value : Bool) : List FlagItem → Flags
  | [] => flags
  | ('-', _) :: items => flags.apply false items
  | (letter, _) :: items => (flags.set letter value).apply value items

/-- A piece of a pattern: something that can be repeated, or a setting of flags. -/
structure Piece where
  /-- The point where the piece starts. -/
  start : List Char
  /-- The pattern; empty for a setting of flags. -/
  pattern : Pattern
  /-- The parts that are nested in the piece. -/
  nesting : Nesting := []
  /-- Whether the piece sets flags. -/
  isSetting : Bool := false

/-- A pattern, unless parts are nested too deeply in it: then it is refused, and need not
be known. -/
def unlessDeep (nesting : Nesting) (pattern : Unit → Pattern) : Pattern :=
  if nesting.excess?.isSome then .empty else pattern ()

/-- A pattern with the parts that are nested in it. -/
abbrev Nested := Pattern × Nesting

/-- What is being read of a group, or of the whole pattern. -/
structure Body where
  /-- The point where the group's contents start. -/
  start : List Char
  /-- The finished choices, the last first. -/
  choices : List Nested := []
  /-- The point where the choice being read starts. -/
  origin : List Char
  /-- The pieces of the choice being read, the last first. -/
  pieces : List Piece := []

namespace Body

/-- The choice being read as one pattern that ends at a point. -/
def choice (body : Body) (stop : List Char) : Nested :=
  match body.pieces.reverse with
  | [] => (.empty, [])
  | [piece] => (piece.pattern, piece.nesting)
  | pieces =>
    (sequenceOf (pieces.map (·.pattern)),
      Nesting.around ⟨body.origin, stop⟩ (Nesting.ofAll (pieces.map (·.nesting))))

/-- All choices as one pattern that ends at a point. -/
def close (body : Body) (stop : List Char) : Nested :=
  let last := body.choice stop
  match body.choices with
  | [] => last
  | _ =>
    let choices := (last :: body.choices).reverse
    (eitherOf (choices.map Prod.fst),
      Nesting.around ⟨body.start, stop⟩ (Nesting.ofAll (choices.map Prod.snd)))

/-- Begin the next choice. -/
def alternate (body : Body) (stop start : List Char) : Body :=
  { body with choices := body.choice stop :: body.choices, origin := start, pieces := [] }

/-- Add a piece. -/
def push (body : Body) (piece : Piece) : Body := { body with pieces := piece :: body.pieces }

/-- Whether the last piece can be repeated. -/
def canRepeat (body : Body) : Bool := body.pieces.head?.any (!·.isSetting)

/-- Repeat the last piece; the repetition ends at a point. -/
def repeatLast (body : Body) (flags : Flags) (bounds : Bounds) (stop : List Char) : Body :=
  match body.pieces with
  | [] => body
  | piece :: pieces =>
    let greedy := bounds.marked == flags.modest
    let nesting := Nesting.around ⟨piece.start, stop⟩ piece.nesting
    let pattern := unlessDeep nesting fun _ =>
      piece.pattern.times bounds.least bounds.most greedy
    { body with pieces := { piece with pattern, nesting } :: pieces }

end Body

/-- An open group. -/
structure OpenGroup where
  /-- The bracket that opens the group. -/
  bracket : PatternPart
  /-- The number of the group, if it has one. -/
  number : Option Nat
  /-- What is being read around the group. -/
  outside : Body
  /-- The flags before the group. -/
  flags : Flags

/-- What has been read of a pattern. -/
structure Draft where
  /-- The open groups, the innermost first. -/
  groups : List OpenGroup := []
  /-- What is being read of the innermost group. -/
  body : Body
  /-- The flags in force. -/
  flags : Flags := {}
  /-- The number of numbered groups so far. -/
  count : Nat := 0
  /-- The names of groups. -/
  names : Std.TreeMap String PatternPart := ∅
  /-- The first thing that the pattern asks for and cannot have. -/
  noted : Option PatternFault := none

namespace Draft

/-- Add a piece and what has been noted at it. -/
def push (draft : Draft) (piece : Piece) (noted : Option PatternFault) : Draft :=
  { draft with body := draft.body.push piece, noted }

/-- Open a group, whose contents start at a point. -/
def openGroup (draft : Draft) (bracket : PatternPart) (numbered : Bool) (flags : Flags)
    (start : List Char) : Draft :=
  let count := if numbered then draft.count + 1 else draft.count
  let number := if numbered then some count else none
  { draft with
    groups := ⟨bracket, number, draft.body, draft.flags⟩ :: draft.groups
    body := { start, origin := start }
    count
    flags }

/-- Read the start of a group, or a setting of flags. -/
def readOpening (draft : Draft) (start : List Char) : Reading Draft :=
  let bracket := charPart start
  let inner := skip draft.flags.spaced start.tail
  let named (rest : List Char) : Reading Draft :=
    match readName rest [] rest with
    | .error flaw => .error flaw
    | .ok (name, stop) =>
      let place := part rest stop
      match draft.names[name]? with
      | some earlier => .error ⟨.nameTwice, place, some earlier⟩
      | none =>
        let opened := draft.openGroup bracket true draft.flags stop.tail
        .ok ({ opened with names := draft.names.insert name place }, stop.tail)
  match inner with
  | '?' :: '=' :: rest | '?' :: '!' :: rest => .error (fault .lookAround start rest)
  | '?' :: '<' :: '=' :: rest | '?' :: '<' :: '!' :: rest => .error (fault .lookAround start rest)
  | '?' :: 'P' :: '<' :: rest => named rest
  | '?' :: '<' :: rest => named rest
  | ['?'] => .error ⟨.groupUnclosed, bracket, none⟩
  | '?' :: rest =>
    match readFlags [] rest with
    | .error flaw => .error flaw
    | .ok (items, after) =>
      let flags := draft.flags.apply true items
      match after with
      | ':' :: after => .ok (draft.openGroup bracket false flags after, after)
      | _ =>
        if items.isEmpty then .error (fault .nothingToRepeat inner inner)
        else
          let piece : Piece := { start, pattern := .empty, isSetting := true }
          .ok ({ draft.push piece draft.noted with flags }, after.tail)
  | _ => .ok (draft.openGroup bracket true draft.flags inner, inner)

/-- Close the innermost group. -/
def closeGroup (draft : Draft) (start : List Char) : Reading Draft :=
  match draft.groups with
  | [] => .error ⟨.groupUnopened, charPart start, none⟩
  | innermost :: groups =>
    let (inner, nested) := draft.body.close start
    let place : PatternPart := ⟨innermost.bracket.start, start.tail⟩
    let nesting := Nesting.around place nested
    let pattern := unlessDeep nesting fun _ =>
      (innermost.number.map fun number => Pattern.group number inner).getD inner
    let piece : Piece := { start := place.start, pattern, nesting }
    .ok ({ draft with
      groups, body := innermost.outside.push piece, flags := innermost.flags }, start.tail)

/-- Read the next piece of a pattern, whose first character is given. The fuel is a bound
on the number of characters left. -/
def readPiece (draft : Draft) (fuel : Nat) (char : Char) (rest : List Char) : Reading Draft :=
  let start := char :: rest
  let flags := draft.flags
  let nothing : Reading Draft := .error (fault .nothingToRepeat start start)
  let repeated (least : Nat) (most : Option Nat) : Reading Draft :=
    let marked := rest.head? == some '?'
    let after := if marked then rest.tail else rest
    if !draft.body.canRepeat then nothing
    else
      .ok ({ draft with
        body := draft.body.repeatLast flags ⟨least, most, marked⟩ after }, after)
  let atom (atom : Atom) (after : List Char) : Reading Draft :=
    let (pattern, noted) := ofAtom flags draft.noted (part start after) atom
    .ok (draft.push { start, pattern } noted, after)
  match char with
  | '(' => draft.readOpening start
  | ')' => draft.closeGroup start
  | '|' => .ok ({ draft with body := draft.body.alternate start rest }, rest)
  | '[' =>
    match openSet flags.spaced start with
    | .error flaw => .error flaw
    | .ok (set, after) =>
      match readSet flags fuel [] set draft.noted after with
      | .error flaw => .error flaw
      | .ok ((piece, noted), after) =>
        let pattern := ofRanges (!flags.allScripts) piece.set.ranges
        .ok (draft.push { start, pattern, nesting := piece.nesting } noted, after)
  | '?' => repeated 0 (some 1)
  | '*' => repeated 0 none
  | '+' => repeated 1 none
  | '\x7b' =>
    if !draft.body.canRepeat then nothing
    else
      match readBounds flags.spaced start with
      | .error flaw => .error flaw
      | .ok (bounds, after) =>
        .ok ({ draft with body := draft.body.repeatLast flags bounds after }, after)
  | '\\' =>
    match readEscape flags.spaced start rest with
    | .error flaw => .error flaw
    | .ok (read, after) => atom read after
  | '.' => atom .dot rest
  | '^' =>
    atom (.anchor (if !flags.multiLine then .textStart
      else if flags.returns then .returnLineStart else .lineStart)) rest
  | '$' =>
    atom (.anchor (if !flags.multiLine then .textEnd
      else if flags.returns then .returnLineEnd else .lineEnd)) rest
  | _ => atom (.literal char false) rest

/-- Read pieces up to the end of a pattern. The fuel is a bound on their number, for
which the length of the pattern is enough. -/
def read (draft : Draft) (fuel : Nat) (left : List Char) : Except PatternFault Draft :=
  match fuel, skip draft.flags.spaced left with
  | _, [] =>
    match draft.groups with
    | [] => .ok draft
    | innermost :: _ => .error ⟨.groupUnclosed, innermost.bracket, none⟩
  | 0, rest => .error (fault .groupUnclosed rest rest)
  | fuel + 1, char :: rest =>
    match draft.readPiece (fuel + 1) char rest with
    | .error flaw => .error flaw
    | .ok (next, after) => next.read fuel after

end Draft

/-- Why a written pattern cannot be used. -/
inductive Defect where
  /-- It has a fault. -/
  | faulty (pattern : String) (fault : PatternFault)
  /-- It asks for words of all scripts, for which no data is at hand. -/
  | wordData
  /-- Its automaton is too large. -/
  | tooLarge
  deriving DecidableEq, Repr

/-- The wording of a defect. -/
def Defect.message : Defect → String
  | faulty pattern fault => fault.report pattern
  | wordData => "error building NFA"
  | tooLarge => "Compiled regex exceeds size limit of 10485760 bytes."

/-- Why the automata of a pattern cannot be built, if so. One is needed in each direction,
the forward one first. -/
def automatonDefect? (pattern : Pattern) : Option Defect :=
  if pattern.isTooLarge false then some .tooLarge
  else if pattern.asksForWords then some .wordData
  else if pattern.isTooLarge true then some .tooLarge
  else none

/-- Why a well-formed pattern cannot be run, if so. Plain texts need no automata. -/
def defect? (pattern : Pattern) : Option Defect :=
  pattern.automatonDefect?.filter fun _ => !pattern.isPlain

/-- Read a pattern. -/
def ofString (written : String) : Except Defect Pattern :=
  let chars := written.toList
  let start : Draft := { body := { start := chars, origin := chars } }
  match start.read chars.length chars with
  | .error flaw => .error (.faulty written flaw)
  | .ok draft =>
    let (pattern, nesting) := draft.body.close []
    let deep := nesting.excess?.map fun place => (⟨.nestedTooDeep, place, none⟩ : PatternFault)
    match deep.or draft.noted with
    | some flaw => .error (.faulty written flaw)
    | none =>
      match pattern.defect? with
      | some defect => .error defect
      | none => .ok pattern

end HackVm.Pattern
