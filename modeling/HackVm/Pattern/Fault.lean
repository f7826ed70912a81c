import HackVm.Text.Line

/-!
# Faults of a written pattern

A fault has a cause and the part of the written pattern that it is about. Its report
shows the pattern with that part marked underneath. A point of a pattern is given by
what is left to read there.
-/

namespace HackVm

/-- A part of a written pattern. -/
structure PatternPart where
  /-- What is left to read at the start of the part. -/
  start : List Char
  /-- What is left to read at the end of the part. -/
  stop : List Char
  deriving DecidableEq, Repr

/-- What is wrong with a written pattern. -/
inductive PatternFlaw where
  /-- An escape that no set of characters can hold. -/
  | setEscape
  /-- A range of characters that ends before it starts. -/
  | setRangeOrder
  /-- A range of characters whose ends are no characters. -/
  | setRangeEnds
  /-- A set of characters that is not closed. -/
  | setUnclosed
  /-- A number that is too large. -/
  | numberTooLarge
  /-- A code point without digits. -/
  | codeEmpty
  /-- A number that is no code point of a character. -/
  | codeInvalid
  /-- A code point with something that is no digit. -/
  | codeDigit
  /-- An escape that the pattern's end cuts off. -/
  | escapeCut
  /-- An unknown escape. -/
  | escapeUnknown
  /-- A minus sign without flags after it. -/
  | flagDanglingMinus
  /-- A flag that is given twice. -/
  | flagTwice
  /-- A second minus sign between flags. -/
  | flagSecondMinus
  /-- Flags that the pattern's end cuts off. -/
  | flagCut
  /-- An unknown flag. -/
  | flagUnknown
  /-- A name that two groups have. -/
  | nameTwice
  /-- A group name without characters. -/
  | nameEmpty
  /-- A group name with a character that names cannot have. -/
  | nameInvalid
  /-- A group name that the pattern's end cuts off. -/
  | nameCut
  /-- A group that is not closed. -/
  | groupUnclosed
  /-- A group that is closed and was not opened. -/
  | groupUnopened
  /-- Bounds of a repetition whose upper one is the smaller. -/
  | countOrder
  /-- A bound of a repetition without digits. -/
  | countEmpty
  /-- Bounds of a repetition that are not closed. -/
  | countUnclosed
  /-- A repetition of nothing. -/
  | nothingToRepeat
  /-- A special word boundary that is not closed. -/
  | boundaryUnclosed
  /-- An unknown special word boundary. -/
  | boundaryUnknown
  /-- A special word boundary that the pattern's end cuts off. -/
  | boundaryCut
  /-- A character property without a name. -/
  | propertyInvalid
  /-- A reference back to a group. -/
  | backReference
  /-- A condition on the text around. -/
  | lookAround
  /-- A character that stands beyond bytes where only bytes can. -/
  | beyondBytes
  /-- Bytes that need not be text. -/
  | notText
  /-- A character property, for which no data is at hand. -/
  | propertyData
  /-- A value of the general category, for which no data is at hand. -/
  | categoryData
  /-- A class of characters, for which no data is at hand. -/
  | classData
  /-- Letters in any case, for which no data is at hand. -/
  | caseData
  /-- Parts that are nested too deeply. -/
  | nestedTooDeep
  deriving DecidableEq, Repr

/-- The wording of a flaw. -/
def PatternFlaw.message : PatternFlaw → String
  | setEscape => "invalid escape sequence found in character class"
  | setRangeOrder => "invalid character class range, the start must be <= the end"
  | setRangeEnds => "invalid range boundary, must be a literal"
  | setUnclosed => "unclosed character class"
  | numberTooLarge => "decimal literal invalid"
  | codeEmpty => "hexadecimal literal empty"
  | codeInvalid => "hexadecimal literal is not a Unicode scalar value"
  | codeDigit => "invalid hexadecimal digit"
  | escapeCut => "incomplete escape sequence, reached end of pattern prematurely"
  | escapeUnknown => "unrecognized escape sequence"
  | flagDanglingMinus => "dangling flag negation operator"
  | flagTwice => "duplicate flag"
  | flagSecondMinus => "flag negation operator repeated"
  | flagCut => "expected flag but got end of regex"
  | flagUnknown => "unrecognized flag"
  | nameTwice => "duplicate capture group name"
  | nameEmpty => "empty capture group name"
  | nameInvalid => "invalid capture group character"
  | nameCut => "unclosed capture group name"
  | groupUnclosed => "unclosed group"
  | groupUnopened => "unopened group"
  | countOrder => "invalid repetition count range, the start must be <= the end"
  | countEmpty => "repetition quantifier expects a valid decimal"
  | countUnclosed => "unclosed counted repetition"
  | nothingToRepeat => "repetition operator missing expression"
  | boundaryUnclosed =>
    "special word boundary assertion is either unclosed or contains an invalid character"
  | boundaryUnknown =>
    "unrecognized special word boundary assertion, valid choices are: " ++
      "start, end, start-half or end-half"
  | boundaryCut =>
    "found either the beginning of a special word boundary or a bounded repetition on a " ++
      "\\b with an opening brace, but no closing brace"
  | propertyInvalid => "invalid Unicode character class"
  | backReference => "backreferences are not supported"
  | lookAround => "look-around, including look-ahead and look-behind, is not supported"
  | beyondBytes => "Unicode not allowed here"
  | notText => "pattern can match invalid UTF-8"
  | propertyData => "Unicode property not found"
  | categoryData => "Unicode property value not found"
  | classData =>
    "Unicode-aware Perl class not found (make sure the unicode-perl feature is enabled)"
  | caseData =>
    "Unicode-aware case insensitivity matching is not available " ++
      "(make sure the unicode-case feature is enabled)"
  | nestedTooDeep => "exceed the maximum number of nested parentheses/brackets (250)"

/-- A fault of a written pattern. -/
structure PatternFault where
  /-- What is wrong. -/
  flaw : PatternFlaw
  /-- The part that it is about. -/
  part : PatternPart
  /-- An earlier part that it is in conflict with. -/
  earlier : Option PatternPart := none
  deriving DecidableEq, Repr

/-- Where a part stands: the lines and columns of its two ends, counted from one. -/
structure PatternSpan where
  /-- The line of the start. -/
  firstLine : Nat
  /-- The column of the start. -/
  firstColumn : Nat
  /-- The line of the end. -/
  lastLine : Nat
  /-- The column of the end. -/
  lastColumn : Nat
  deriving DecidableEq, Repr

namespace PatternPart

/-- The line and the column of a point of a pattern. -/
def location (pattern left : List Char) : Nat × Nat :=
  let pieces := (pattern.take (pattern.length - left.length)).splitOn '\n'
  (pieces.length, ((pieces.getLast?).getD []).length + 1)

/-- Where a part of a pattern stands. -/
def span (pattern : List Char) (part : PatternPart) : PatternSpan :=
  let first := location pattern part.start
  let last := location pattern part.stop
  ⟨first.1, first.2, last.1, last.2⟩

end PatternPart

/-- Whether a part stands on one line. -/
def PatternSpan.isOneLine (span : PatternSpan) : Bool := span.firstLine == span.lastLine

namespace PatternFault

/-- The parts of a pattern that a fault is about, from the left. -/
def parts (fault : PatternFault) : List PatternPart :=
  match fault.earlier with
  | none => [fault.part]
  | some earlier => [earlier, fault.part]

/-- The marks under a line, for parts from the left that stand on it. A part without
characters is marked like one of a single character. -/
def marks (column : Nat) : List PatternSpan → List Char
  | [] => []
  | span :: spans =>
    let width := max 1 (span.lastColumn - span.firstColumn)
    List.replicate (span.firstColumn - column) ' ' ++ List.replicate width '^' ++
      marks (max column span.firstColumn + width) spans

/-- What stands before a line: blanks, or its number if there are several lines. -/
def margin (digits : Nat) (number : Nat) : List Char :=
  if digits = 0 then List.replicate 4 ' '
  else
    let text := (toString number).toList
    List.replicate (digits - text.length) ' ' ++ text ++ [':', ' ']

/-- The lines of a pattern, each followed by the marks under it. -/
def marked (pattern : List Char) (spans : List PatternSpan) : List (List Char) :=
  let lines := Text.lines pattern
  let count := if pattern.getLast? = some '\n' then lines.length + 1 else lines.length
  let digits := if count ≤ 1 then 0 else (toString count).length
  (lines.zipIdx 1).flatMap fun (line, number) =>
    let here := spans.filter fun span => span.isOneLine && span.firstLine == number
    let shown := margin digits number ++ line
    if here.isEmpty then [shown]
    else
      let indent := if digits = 0 then 4 else digits + 2
      [shown, List.replicate indent ' ' ++ marks 1 here]

/-- The lines that say where parts are that go over several lines. -/
def longParts (spans : List PatternSpan) : List (List Char) :=
  (spans.filter fun span => !span.isOneLine).map fun span =>
    ("on line " ++ toString span.firstLine ++ " (column " ++ toString span.firstColumn ++
      ") through line " ++ toString span.lastLine ++ " (column " ++
      toString (span.lastColumn - 1) ++ ")").toList

/-- The report of a fault in a written pattern. -/
def report (pattern : String) (fault : PatternFault) : String :=
  let chars := pattern.toList
  let spans := fault.parts.map fun part => part.span chars
  let body := marked chars spans
  let ruler := List.replicate 79 '~'
  let lines :=
    if chars.contains '\n' then ruler :: body ++ [ruler] ++ longParts spans else body
  "regex parse error:\n" ++ String.join (lines.map fun line => String.ofList line ++ "\n") ++
    "error: " ++ fault.flaw.message

end PatternFault

end HackVm
