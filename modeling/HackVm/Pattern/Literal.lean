import HackVm.Pattern.Size

/-!
# Patterns for a few plain texts

A pattern may stand for a few plain texts only. Such texts are searched for directly,
so that no automaton is needed, however large it would be. The texts are collected up
to some bounds; a text that may go on is kept as the start of texts.
-/

namespace HackVm.Pattern

/-- A text that a pattern can start with. -/
structure Literal where
  /-- The bytes of the text. -/
  bytes : List Nat
  /-- Whether the pattern can end with the text. -/
  whole : Bool
  deriving DecidableEq, Repr

/-- The texts that a pattern can start with, the preferred ones first; none if there
are too many. -/
abbrev Literals := Option (List Literal)

namespace Literals

/-- The greatest number of characters of a set whose texts are collected. -/
def mostChars : Nat := 10

/-- The greatest number of rounds of a repetition that are followed. -/
def mostRounds : Nat := 10

/-- The greatest number of bytes of a text. -/
def mostBytes : Nat := 100

/-- The greatest number of texts. -/
def mostTexts : Nat := 250

/-- The empty text. -/
def emptyText : Literals := some [⟨[], true⟩]

/-- Whether no text is whole. -/
def isOpen (literals : Literals) : Bool := literals.all fun texts => texts.all (!·.whole)

/-- Keep texts as starts only. -/
def opened (literals : Literals) : Literals :=
  literals.map fun texts => texts.map fun literal => { literal with whole := false }

/-- Cut a text to a number of bytes. -/
def cut (count : Nat) (literal : Literal) : Literal :=
  if count < literal.bytes.length then ⟨literal.bytes.take count, false⟩ else literal

/-- Join neighbouring texts that are equal. -/
def joinEqual : List Literal → List Literal
  | [] => []
  | literal :: others =>
    match joinEqual others with
    | [] => [literal]
    | next :: rest =>
      if literal.bytes == next.bytes then ⟨literal.bytes, literal.whole && next.whole⟩ :: rest
      else literal :: next :: rest

/-- Texts continued by others. -/
def andThen (first second : Literals) : Literals :=
  let tooMany : Bool :=
    match first, second with
    | some texts, some others => mostTexts < texts.length * others.length
    | _, _ => false
  match first, if tooMany then none else second with
  | none, _ => none
  | some texts, none =>
    if texts.any (·.bytes.isEmpty) then none else opened (some texts)
  | some texts, some others =>
    let continued := texts.flatMap fun literal =>
      if literal.whole then others.map fun other => ⟨literal.bytes ++ other.bytes, other.whole⟩
      else [literal]
    some ((joinEqual continued).map (cut mostBytes))

/-- The texts of either kind. -/
def orElse (first second : Literals) : Literals :=
  match first, second with
  | some texts, some others =>
    if texts.length + others.length ≤ mostTexts then some (joinEqual (texts ++ others))
    else
      let texts := joinEqual (texts.map (cut 4))
      let others := joinEqual (others.map (cut 4))
      if texts.length + others.length ≤ mostTexts then some (joinEqual (texts ++ others))
      else none
  | _, _ => none

/-- Texts one after another, up to the first that are all open. -/
def inTurn : List Literals → Literals → Literals
  | [], before => before
  | next :: rest, before =>
    if before.isOpen then before else inTurn rest (before.andThen next)

/-- The texts of a set of characters. -/
def ofSet (byte : Bool) (ranges : List (Nat × Nat)) : Literals :=
  if mostChars < total (ranges.map fun range => range.2 + 1 - range.1) then none
  else
    some (ranges.flatMap fun range =>
      (List.range (range.2 + 1 - range.1)).map fun offset =>
        let code := range.1 + offset
        ⟨if byte then [code] else Encoding.bytes code, true⟩)

/-- The texts of a repetition. -/
def times (literals : Literals) (least : Nat) (most : Option Nat) (greedy : Bool) : Literals :=
  if least = 0 then
    let once := if most = some 1 then literals else literals.opened
    if greedy then once.orElse emptyText else emptyText.orElse once
  else
    let rounds := inTurn (List.replicate (min least mostRounds) literals) emptyText
    if most = some least ∧ least ≤ mostRounds then rounds else rounds.opened

end Literals

mutual

/-- The texts that a pattern can start with. -/
def literals : Pattern → Literals
  | empty => Literals.emptyText
  | text chars => some [Literals.cut Literals.mostBytes ⟨textBytes chars, true⟩]
  | oneOf byte ranges => Literals.ofSet byte ranges
  | anchor _ _ => Literals.emptyText
  | repeated pattern least most greedy => pattern.literals.times least most greedy
  | group _ pattern => pattern.literals
  | sequence parts => Literals.inTurn (literalsOf parts) Literals.emptyText
  | either choices =>
    (literalsOf choices).foldl (fun found next => found.bind fun texts =>
      Literals.orElse (some texts) next) (some [])

/-- The texts that some patterns can start with. -/
def literalsOf : List Pattern → List Literals
  | [] => []
  | pattern :: patterns => pattern.literals :: literalsOf patterns

end

mutual

/-- Whether a pattern has neither groups nor conditions. -/
def isUnmarked : Pattern → Bool
  | anchor _ _ => false
  | group _ _ => false
  | repeated pattern _ _ _ => pattern.isUnmarked
  | sequence parts => allUnmarked parts
  | either choices => allUnmarked choices
  | _ => true

/-- Whether none of some patterns has groups or conditions. -/
def allUnmarked : List Pattern → Bool
  | [] => true
  | pattern :: patterns => pattern.isUnmarked && allUnmarked patterns

end

/-- The texts of which none starts with an earlier one. -/
def withoutLonger (texts : List Literal) : List Literal :=
  (texts.foldl (fun kept next =>
    if kept.any fun earlier => earlier.bytes.isPrefixOf next.bytes then kept
    else next :: kept) []).reverse

/-- What two texts have in common at their start. -/
def commonStart : List Nat → List Nat → List Nat
  | first :: firsts, second :: seconds =>
    if first = second then first :: commonStart firsts seconds else []
  | _, _ => []

/-- The bytes that are frequent in texts: few of them tell a place. -/
def isFrequent (byte : Nat) : Bool :=
  0xC0 ≤ byte || ("\n\r (),-./0129:_abcdefghilmnoprstuvxy|".toList.map Char.toNat).contains byte

/-- Whether some texts, which are many, are looked for by their starts: those are cut to
fewer bytes as long as there are more of them than a bound. -/
def areShortened : List (Nat × Nat) → List Literal → Bool
  | [], texts =>
    texts.any (!·.whole) && texts.all (2 < ·.bytes.length) && texts.length ≤ 64
  | (count, bound) :: attempts, texts =>
    if texts.length ≤ bound then areShortened [] texts
    else areShortened attempts (withoutLonger (texts.map (Literals.cut count)))

/-- Whether some texts are looked for as such, and not by what they start with. All of
them have to be whole, but for those that start with a preferred one. -/
def areNeedles (texts : List Literal) : Bool :=
  let kept := withoutLonger texts
  let needles := kept.map (·.bytes)
  let shared := needles.tail.foldl commonStart (needles.head?.getD [])
  let count := shared.length
  let rare := shared.head?.any fun byte => !isFrequent byte
  if !kept.all (·.whole) then false
  else if 1 < texts.length ∧ count ≤ 3 ∧ rare then needles.all (·.length ≤ 1)
  else if 4 < count ∨ (1 < count ∧ 16 < needles.length) then needles.length ≤ 1
  else !areShortened [(5, 10), (4, 10), (3, 64), (2, 64), (1, 10)] kept

/-- Whether a pattern stands for a few plain texts that are searched for directly. -/
def isPlain (pattern : Pattern) : Bool :=
  pattern.isUnmarked &&
    match pattern.literals with
    | none => false
    | some texts =>
      !texts.isEmpty && texts.all (fun literal => !literal.bytes.isEmpty) && areNeedles texts

end HackVm.Pattern
