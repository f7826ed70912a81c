import HackVm.Pattern.Basic
import HackVm.Pattern.Fault
import HackVm.Text.Blank

/-!
# Atoms of a written pattern

An atom is a character, a class of characters or a condition, often written as an
escape. What an atom stands for depends on the flags in force. What it asks for and
cannot get, such as data on all scripts, is noted and reported only if the pattern is
well formed. A flag lets blanks and comments stand between the signs of a pattern; they
are then skipped behind most signs.
-/

namespace HackVm.Pattern

/-- The flags in force. -/
structure Flags where
  /-- Letters stand for both cases. -/
  ignoreCase : Bool := false
  /-- Line anchors look for lines and not for the whole text. -/
  multiLine : Bool := false
  /-- The dot stands for line ends as well. -/
  dotAll : Bool := false
  /-- Carriage returns end lines. -/
  returns : Bool := false
  /-- Classes of characters cover all scripts. -/
  allScripts : Bool := true
  /-- Blanks and comments in the pattern are skipped. -/
  spaced : Bool := false
  /-- Repetitions take as little as they can, unless they are marked. -/
  modest : Bool := false
  deriving DecidableEq, Repr

/-- Set a flag by its letter. -/
def Flags.set (flags : Flags) (letter : Char) (value : Bool) : Flags :=
  match letter with
  | 'i' => { flags with ignoreCase := value }
  | 'm' => { flags with multiLine := value }
  | 's' => { flags with dotAll := value }
  | 'R' => { flags with returns := value }
  | 'u' => { flags with allScripts := value }
  | 'x' => { flags with spaced := value }
  | 'U' => { flags with modest := value }
  | _ => flags

/-- The part of a pattern between two points of reading. -/
def part (start stop : List Char) : PatternPart := ⟨start, stop⟩

/-- The part that is the next character. -/
def charPart (rest : List Char) : PatternPart := ⟨rest, rest.tail⟩

/-- A fault between two points of reading. -/
def fault (flaw : PatternFlaw) (start stop : List Char) : PatternFault :=
  ⟨flaw, part start stop, none⟩

/-- Skip blanks and comments; a comment starts at a hash sign and ends with its line. -/
def skipSpace (comment : Bool) : List Char → List Char
  | [] => []
  | char :: rest =>
    if comment then skipSpace (char != '\n') rest
    else if Text.isBlank char then skipSpace false rest
    else if char = '#' then skipSpace true rest
    else char :: rest

/-- Skip blanks and comments where they do not count. -/
def skip (spaced : Bool) (rest : List Char) : List Char :=
  if spaced then skipSpace false rest else rest

/-- A piece of a pattern that stands for a character, a class of characters or a
condition. -/
inductive Atom where
  /-- A character; it may be written as a byte. -/
  | literal (char : Char) (byte : Bool)
  /-- A class of characters with a letter of its own, or its complement. -/
  | classOf (letter : Char) (negated : Bool)
  /-- A class of characters with a property, or with a value of the general category. -/
  | property (category : Bool)
  /-- Any character. -/
  | dot
  /-- A condition on a place. -/
  | anchor (anchor : Anchor)
  /-- A condition on a place that is about words. -/
  | wordAnchor (anchor : Anchor)
  deriving DecidableEq, Repr

/-- A reading of something, with the rest of the pattern. -/
abbrev Reading (Result : Type) := Except PatternFault (Result × List Char)

/-- The characters that an escape makes stand for themselves: of the basic alphabet all
but letters, digits and angle brackets. -/
def isEscapable (char : Char) : Bool :=
  char.toNat < 0x80 && !char.isAlphanum && char != '<' && char != '>'

/-- The value of a digit of base sixteen. -/
def hexDigit? (char : Char) : Option Nat :=
  if char.isDigit then some (char.toNat - 0x30)
  else if 'a' ≤ char ∧ char ≤ 'f' then some (char.toNat - 0x57)
  else if 'A' ≤ char ∧ char ≤ 'F' then some (char.toNat - 0x37)
  else none

/-- The character with a code point. -/
def charOf? (code : Nat) : Option Char :=
  if code.isValidChar then some (Char.ofNat code) else none

/-- Read a fixed number of digits of base sixteen. -/
def readHexDigits (spaced : Bool) (start : List Char) : Nat → Nat → List Char → Reading Char
  | 0, code, rest =>
    match charOf? code with
    | some char => .ok (char, rest)
    | none => .error (fault .codeInvalid start rest)
  | _ + 1, _, [] => .error (fault .escapeCut [] [])
  | count + 1, code, char :: rest =>
    match hexDigit? char with
    | some digit => readHexDigits spaced start count (code * 16 + digit) (skip spaced rest)
    | none => .error ⟨.codeDigit, charPart (char :: rest), none⟩

/-- Whether a character does not count, be it in a comment or not. -/
def isSkipped (spaced comment : Bool) (char : Char) : Bool :=
  spaced && (comment || Text.isBlank char || char == '#')

/-- Whether a comment goes on behind a character that does not count. -/
def isComment (comment : Bool) (char : Char) : Bool :=
  if comment then char != '\n' else char == '#'

/-- Read digits of base sixteen up to a closing brace. -/
def readHexBraces (spaced : Bool) (brace : List Char) (comment filled : Bool) (code : Nat) :
    List Char → Reading Char
  | [] => .error (fault .escapeCut brace [])
  | char :: rest =>
    if isSkipped spaced comment char then
      readHexBraces spaced brace (isComment comment char) filled code rest
    else if char = '\x7d' then
      let after := skip spaced rest
      if !filled then .error (fault .codeEmpty brace after)
      else
        match charOf? code with
        | some char => .ok (char, after)
        | none => .error (fault .codeInvalid brace.tail (char :: rest))
    else
      match hexDigit? char with
      | some digit => readHexBraces spaced brace false true (code * 16 + digit) rest
      | none => .error ⟨.codeDigit, charPart (char :: rest), none⟩

/-- Read a code point after its letter. -/
def readCode (spaced : Bool) (letter : Char) (rest : List Char) : Reading Atom :=
  match skip spaced rest with
  | [] => .error (fault .escapeCut [] [])
  | '\x7b' :: inner =>
    (readHexBraces spaced ('\x7b' :: inner) false false 0 inner).map fun (char, left) =>
      (.literal char false, left)
  | start =>
    let count := if letter = 'x' then 2 else if letter = 'u' then 4 else 8
    (readHexDigits spaced start count 0 start).map fun (char, left) =>
      (.literal char (letter == 'x'), left)

/-- Take the characters up to a closing brace, without those that do not count. -/
def takeBraced (spaced comment : Bool) : List Char → Option (List Char × List Char)
  | [] => none
  | char :: rest =>
    if isSkipped spaced comment char then takeBraced spaced (isComment comment char) rest
    else if char = '\x7d' then some ([], rest)
    else (takeBraced spaced false rest).map fun (chars, left) => (char :: chars, left)

/-- Whether a name is taken for a value of the general category at once. The names of
properties are compared without blanks, hyphens and underscores, in lower case and
without a leading "is". -/
def isCategory (name : List Char) : Bool :=
  let bare := if (name.take 2).map Char.toLower = ['i', 's'] then name.drop 2 else name
  let letters := bare.filter fun char =>
    char.toNat < 0x80 && char != ' ' && char != '-' && char != '_'
  ["cf", "sc", "lc"].contains (String.ofList (letters.map Char.toLower))

/-- Read the name of a character property. -/
def readProperty (spaced : Bool) (rest : List Char) : Reading Atom :=
  match skip spaced rest with
  | [] => .error (fault .escapeCut [] [])
  | '\x7b' :: inner =>
    match takeBraced spaced false inner with
    | none => .error (fault .escapeCut [] [])
    | some (name, left) => .ok (.property (isCategory name), left)
  | '\\' :: inner => .error ⟨.propertyInvalid, charPart ('\\' :: inner), none⟩
  | _ :: inner => .ok (.property false, skip spaced inner)

/-- Whether a character can stand in the name of a special word boundary. -/
def isBoundaryChar (char : Char) : Bool := char.isAlpha || char == '-'

/-- Take the name of a special word boundary, without characters that do not count. -/
def takeBoundary (spaced comment : Bool) : List Char → List Char × List Char
  | [] => ([], [])
  | char :: rest =>
    if isSkipped spaced comment char then takeBoundary spaced (isComment comment char) rest
    else if isBoundaryChar char then
      let (name, left) := takeBoundary spaced false rest
      (char :: name, left)
    else ([], char :: rest)

/-- Read what may follow the escape for a word boundary: a name in braces. A brace that
does not open a name is left for a repetition. -/
def readBoundary (spaced : Bool) (start : List Char) : List Char → Reading Atom
  | '\x7b' :: inner =>
    let contents := skip spaced inner
    match contents with
    | [] => .error (fault .boundaryCut start [])
    | char :: _ =>
      if !isBoundaryChar char then .ok (.wordAnchor .wordBoundary, '\x7b' :: inner)
      else
        match takeBoundary spaced false contents with
        | (name, '\x7d' :: rest) =>
          match String.ofList name with
          | "start" => .ok (.wordAnchor .wordStart, rest)
          | "end" => .ok (.wordAnchor .wordEnd, rest)
          | "start-half" => .ok (.wordAnchor .wordStartHalf, rest)
          | "end-half" => .ok (.wordAnchor .wordEndHalf, rest)
          | _ => .error (fault .boundaryUnknown contents ('\x7d' :: rest))
        | (_, rest) => .error (fault .boundaryUnclosed ('\x7b' :: inner) rest)
  | rest => .ok (.wordAnchor .wordBoundary, rest)

/-- Read an escape; it starts at a backslash. -/
def readEscape (spaced : Bool) (start : List Char) : List Char → Reading Atom
  | [] => .error (fault .escapeCut start [])
  | char :: rest =>
    if char.isDigit then .error (fault .backReference start rest)
    else if char = 'x' ∨ char = 'u' ∨ char = 'U' then readCode spaced char rest
    else if char = 'p' ∨ char = 'P' then readProperty spaced rest
    else if isEscapable char then .ok (.literal char false, rest)
    else
      match char with
      | 'd' | 's' | 'w' => .ok (.classOf char false, rest)
      | 'D' | 'S' | 'W' => .ok (.classOf char.toLower true, rest)
      | 'a' => .ok (.literal '\x07' false, rest)
      | 'f' => .ok (.literal '\x0c' false, rest)
      | 't' => .ok (.literal '\t' false, rest)
      | 'n' => .ok (.literal '\n' false, rest)
      | 'r' => .ok (.literal '\r' false, rest)
      | 'v' => .ok (.literal '\x0b' false, rest)
      | 'A' => .ok (.anchor .textStart, rest)
      | 'z' => .ok (.anchor .textEnd, rest)
      | 'b' => readBoundary spaced start rest
      | 'B' => .ok (.wordAnchor .noWordBoundary, rest)
      | '<' => .ok (.wordAnchor .wordStart, rest)
      | '>' => .ok (.wordAnchor .wordEnd, rest)
      | _ => .error (fault .escapeUnknown start rest)

/-- Note something that a pattern asks for and cannot have; the first one stays. -/
def note (noted : Option PatternFault) (flaw : PatternFlaw) (place : PatternPart) :
    Option PatternFault :=
  noted.or (some ⟨flaw, place, none⟩)

/-- The last code point of all characters. -/
def lastChar : Nat := 0x10FFFF

/-- The last byte. -/
def lastByte : Nat := 0xFF

/-- The characters of a class with a letter of its own. -/
def classSet (letter : Char) : CharRanges :=
  match letter with
  | 'd' => .ofRanges [(0x30, 0x39)]
  | 's' => .ofRanges [(0x09, 0x0D), (0x20, 0x20)]
  | _ => .ofRanges [(0x30, 0x39), (0x41, 0x5A), (0x5F, 0x5F), (0x61, 0x7A)]

/-- The characters of a named class of the basic alphabet. -/
def namedSet? : String → Option CharRanges
  | "alnum" => some (.ofRanges [(0x30, 0x39), (0x41, 0x5A), (0x61, 0x7A)])
  | "alpha" => some (.ofRanges [(0x41, 0x5A), (0x61, 0x7A)])
  | "ascii" => some (.ofRanges [(0x00, 0x7F)])
  | "blank" => some (.ofRanges [(0x09, 0x09), (0x20, 0x20)])
  | "cntrl" => some (.ofRanges [(0x00, 0x1F), (0x7F, 0x7F)])
  | "digit" => some (classSet 'd')
  | "graph" => some (.ofRanges [(0x21, 0x7E)])
  | "lower" => some (.ofRanges [(0x61, 0x7A)])
  | "print" => some (.ofRanges [(0x20, 0x7E)])
  | "punct" => some (.ofRanges [(0x21, 0x2F), (0x3A, 0x40), (0x5B, 0x60), (0x7B, 0x7E)])
  | "space" => some (classSet 's')
  | "upper" => some (.ofRanges [(0x41, 0x5A)])
  | "word" => some (classSet 'w')
  | "xdigit" => some (.ofRanges [(0x30, 0x39), (0x41, 0x46), (0x61, 0x66)])
  | _ => none

/-- The fault of a character property. -/
def propertyFlaw (flags : Flags) (category : Bool) : PatternFlaw :=
  if !flags.allScripts then .beyondBytes
  else if category then .categoryData else .propertyData

/-- The pattern for an atom under some flags, with what has been noted. -/
def ofAtom (flags : Flags) (noted : Option PatternFault) (place : PatternPart) :
    Atom → Pattern × Option PatternFault
  | .literal char byte =>
    let noted :=
      if !flags.allScripts && byte && 0x7F < char.toNat then note noted .notText place else noted
    if flags.ignoreCase then
      if flags.allScripts then (text [char], note noted .caseData place)
      else (ofRanges true (CharRanges.single char).eitherCase.ranges, noted)
    else (text [char], noted)
  | .classOf letter negated =>
    if flags.allScripts then (empty, note noted .classData place)
    else if negated then (empty, note noted .notText place)
    else (ofRanges true (classSet letter).ranges, noted)
  | .property category => (empty, note noted (propertyFlaw flags category) place)
  | .dot =>
    let excluded : CharRanges :=
      if flags.dotAll then .empty
      else if flags.returns then .ofRanges [(0x0A, 0x0A), (0x0D, 0x0D)]
      else .single '\n'
    (ofRanges false (excluded.complement lastChar).ranges,
      if flags.allScripts then noted else note noted .notText place)
  | .anchor condition => (anchor condition false, noted)
  | .wordAnchor condition => (anchor condition flags.allScripts, noted)

/-- The characters of an atom in a set, if it can stand there, with what has been
noted. -/
def atomSet? (flags : Flags) (noted : Option PatternFault) (place : PatternPart) :
    Atom → Option (CharRanges × Option PatternFault)
  | .literal char byte =>
    some (.single char,
      if flags.allScripts || char.toNat ≤ 0x7F then noted
      else note noted (if byte then .notText else .beyondBytes) place)
  | .classOf letter negated =>
    let set := classSet letter
    some (if negated then set.complement lastByte else set,
      if flags.allScripts then note noted .classData place
      else if negated then note noted .notText place else noted)
  | .property category => some (.empty, note noted (propertyFlaw flags category) place)
  | _ => none

end HackVm.Pattern
