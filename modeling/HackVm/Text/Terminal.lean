/-!
# Text for a terminal, without its control sequences

A text meant for a terminal can hold sequences that move the cursor or set colours. A
reader of the text passes through a few states: a sequence opens with the escape
character, and depending on the next character it ends at a letter, at a bell, or at
the byte `0x9C`. What stands outside every sequence is kept, apart from control
characters that are no blanks.
-/

namespace HackVm.Text.Terminal

/-- Where a reader of terminal text stands. -/
inductive State where
  /-- Outside every sequence. -/
  | ground
  /-- After the escape character. -/
  | escape
  /-- In a sequence with intermediate characters and one final character. -/
  | intermediate
  /-- In a control sequence, which ends at its letter. -/
  | control
  /-- At the start of a device control sequence. -/
  | device
  /-- In the parameters of a device control sequence. -/
  | deviceParameter
  /-- In the intermediate characters of a device control sequence. -/
  | deviceIntermediate
  /-- In a string that ends at the byte `0x9C`. -/
  | string
  /-- In a command of the operating system, which ends at a bell. -/
  | command
  deriving DecidableEq, Repr

/-- Whether a code lies between two codes, both included. -/
def between (low high code : Nat) : Bool := low ≤ code && code ≤ high

/-- Whether a control character is a blank: tab, line feed, form feed and carriage
return. -/
def isBlankControl (code : Nat) : Bool :=
  code == 0x09 || code == 0x0A || code == 0x0C || code == 0x0D

/-- Whether one of the bytes after the first that encode a character is `0x9C`. -/
def endsString (code : Nat) : Bool :=
  0x80 ≤ code && (code % 64 == 28 || (0x800 ≤ code && code / 64 % 64 == 28) ||
    (0x10000 ≤ code && code / 4096 % 64 == 28))

namespace State

/-- Whether a character is part of the text in a state. -/
def keeps (state : State) (code : Nat) : Bool :=
  match state with
  | ground => isBlankControl code || (0x20 ≤ code && code != 0x7F)
  | escape | intermediate | control => isBlankControl code
  | _ => false

/-- The state after the character that follows the escape character. -/
def afterEscape (code : Nat) : State :=
  if between 0x20 0x2F code then intermediate
  else if code = 0x5B then control
  else if code = 0x5D then command
  else if code = 0x50 then device
  else if code = 0x58 ∨ code = 0x5E ∨ code = 0x5F then string
  else if between 0x30 0x7E code then ground
  else escape

/-- The state after a character. -/
def next (state : State) (code : Nat) : State :=
  if code = 0x18 ∨ code = 0x1A then ground
  else if code = 0x1B then escape
  else
    match state with
    | ground => ground
    | escape => afterEscape code
    | intermediate => if between 0x30 0x7E code then ground else intermediate
    | control => if between 0x40 0x7E code then ground else control
    | device =>
      if between 0x20 0x2F code then deviceIntermediate
      else if between 0x30 0x3F code then deviceParameter
      else if between 0x40 0x7E code then string
      else device
    | deviceParameter =>
      if between 0x20 0x2F code then deviceIntermediate
      else if between 0x3C 0x7E code then string
      else deviceParameter
    | deviceIntermediate => if between 0x30 0x7E code then string else deviceIntermediate
    | string => if endsString code then ground else string
    | command => if code = 0x07 then ground else command

end State

/-- The text that is kept from a state on. A blank control character inside a sequence
interrupts it: what follows is kept up to the next character that is no text, and from
there on the sequence is continued. -/
def strip (reading : Bool) (state : State) : List Char → List Char
  | [] => []
  | char :: rest =>
    let code := char.toNat
    if reading && State.ground.keeps code then
      char :: strip true (if code < 0x80 then state else .ground) rest
    else if state.keeps code then char :: strip true (state.next code) rest
    else strip false (state.next code) rest

/-- A text without its control sequences. -/
def plain (text : List Char) : List Char := strip true .ground text

end HackVm.Text.Terminal
