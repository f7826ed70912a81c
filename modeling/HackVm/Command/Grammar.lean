import HackVm.Error
import HackVm.Text.Line

/-!
# Reading commands

A line is read by the first of five forms that matches its beginning; the whole
line has to be used up. Tokens are separated by spaces and tabs only, letters and
digits are ASCII, and a name is a run of letters, digits and `_`, `.`, `:` that
does not start with a digit. A line that is no command is reported with its number
and reading goes on with the next line.
-/

namespace HackVm.Grammar

/-- A reader takes the beginning of a text and leaves the rest, or refuses. -/
abbrev Reader := StateT (List Char) Option

/-- What follows a word at the beginning of a text. -/
def after? : List Char → List Char → Option (List Char)
  | [], chars => some chars
  | _ :: _, [] => none
  | expected :: word, char :: chars => if char = expected then after? word chars else none

/-- Take the characters of a word that has to stand here. -/
def keyword (word : String) : Reader Unit := fun chars =>
  (after? word.toList chars).map ((), ·)

/-- Take the longest run of characters of a class, which must not be empty. -/
def run (inClass : Char → Bool) : Reader (List Char) := fun chars =>
  match chars.takeWhile inClass with
  | [] => none
  | taken => some (taken, chars.dropWhile inClass)

/-- Whether a character separates tokens. -/
def isGap (char : Char) : Bool := char == ' ' || char == '\t'

/-- Whether a character may stand in a name. -/
def isNameChar (char : Char) : Bool :=
  char.isAlphanum || char == '_' || char == '.' || char == ':'

/-- Whether a text is a name: not empty, only name characters, no digit in front. -/
def isName (chars : List Char) : Bool :=
  chars.all isNameChar && (chars.head?.any fun char => !char.isDigit)

/-- Take the spaces and tabs between two tokens. -/
def gap : Reader Unit := do
  let _ ← run isGap

/-- Take the name of a segment. -/
def segment : Reader Segment := do
  let letters ← run Char.isAlpha
  Segment.ofName? (String.ofList letters)

/-- Take a number of at most 65535. -/
def number : Reader Word := do
  let digits ← run Char.isDigit
  (Word.ofDigits digits).toOption

/-- Take a name. -/
def name : Reader String := do
  let chars ← run isNameChar
  guard (isName chars)
  return String.ofList chars

/-- Take a push; a pushed number has to fit an address instruction. -/
def push : Reader Command := do
  keyword "push"
  gap
  let segment ← segment
  gap
  let index ← number
  guard (segment ≠ .constant ∨ index.toNat ≤ Word.maxLoad)
  return .push segment index

/-- Take a pop, which never goes to a number. -/
def pop : Reader Command := do
  keyword "pop"
  gap
  let segment ← segment
  gap
  let index ← number
  guard (segment ≠ .constant)
  return .pop segment index

/-- Take a keyword and a name. -/
def named (word : String) (build : String → Command) : Reader Command := do
  keyword word
  gap
  return build (← name)

/-- Take a keyword, a name and a count. -/
def counted (word : String) (build : String → Word → Command) : Reader Command := do
  keyword word
  gap
  let name ← name
  gap
  return build name (← number)

/-- Take a label or one of the two branches. -/
def branch : Reader Command :=
  named "label" .label <|> named "goto" .goto <|> named "if-goto" .ifGoto

/-- Take the start of a function, a call or a return. -/
def linkage : Reader Command :=
  counted "function" .function <|> counted "call" .call <|> (do keyword "return"; return .ret)

/-- Take a stack operation. -/
def operation : Reader Command := do
  let letters ← run Char.isAlpha
  let operation ← Operation.ofMnemonic? (String.ofList letters)
  return .operate operation

/-- Take a command: the first form that matches wins. -/
def command : Reader Command := push <|> pop <|> branch <|> linkage <|> operation

/-- The words that start a command other than a return. -/
def keywords : List String :=
  ["push", "pop", "add", "sub", "neg", "eq", "gt", "lt", "and", "or", "not",
    "label", "goto", "if-goto", "function", "call"]

/-- The reason for a line that no form matches, by its first word. -/
def misfit (line : List Char) : SyntaxFault :=
  let word := String.ofList (Text.firstWord line)
  if word = "return" then .returnArguments
  else if word ∈ keywords then .arguments word
  else .unknown word

/-- Read a trimmed line without comment as one command. -/
def classify (line : List Char) : Except SyntaxFault Command :=
  match command.run line with
  | some (command, []) => .ok command
  | some (_, rest) => .error (.trailing (String.ofList (Text.trim rest)))
  | none => .error (misfit line)

/-- What a line with a given number says: nothing, a command, or an error. -/
def readLine (lineNumber : Nat) (line : List Char) : Option (Except Error Command) :=
  match Text.content line with
  | [] => none
  | content =>
    match classify content with
    | .ok command => some (.ok command)
    | .error fault => some (.error (.malformed lineNumber (String.ofList content) fault))

/-- Read lines, the first of which has a given number. -/
def readLines (lines : List (List Char)) (firstNumber : Nat) : List (Except Error Command) :=
  (lines.zipIdx firstNumber).filterMap fun (line, lineNumber) => readLine lineNumber line

/-- What the lines of a text say: one item for each line that is not blank, in order. -/
def items (text : String) : List (Except Error Command) := readLines (Text.lines text.toList) 1

/-- The commands among items, or the first error. -/
def collect : List (Except Error Command) → Except Error (List Command) := List.mapM id

/-- The commands of a text, or its first error. -/
def parse (text : String) : Except Error (List Command) := collect (items text)

end HackVm.Grammar
