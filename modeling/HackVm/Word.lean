/-!
# Sixteen-bit words

The word is the one number type of the platform: a memory cell, a register, an
index or a count in a command, an address. Its unsigned reading names addresses
and its signed reading decides jumps. Decimal text is read from the left, so the
first character that spoils a number is the one that is reported.
-/

namespace HackVm

/-- A sixteen-bit word; arithmetic wraps around. -/
abbrev Word := BitVec 16

namespace Word

/-- The largest number an address instruction can load. -/
def maxLoad : Nat := 32767

/-- The unsigned decimal text of a word. -/
def decimal (word : Word) : String := toString word.toNat

/-- Why a text is not the decimal form of a word. -/
inductive DecimalFault where
  /-- A character that is not a decimal digit. -/
  | notDigit
  /-- The digits up to some point exceed 65535. -/
  | tooLarge
  deriving DecidableEq, Repr

/-- Read decimal digits after `value`; the first character that is no digit, or
that takes the value past 65535, ends the reading. -/
def readDigits (value : Nat) : List Char → Except DecimalFault Word
  | [] => .ok (BitVec.ofNat 16 value)
  | char :: rest =>
    if char.isDigit then
      let next := value * 10 + (char.toNat - '0'.toNat)
      if next ≤ 65535 then readDigits next rest else .error .tooLarge
    else .error .notDigit

/-- The word a list of decimal digits denotes; leading zeros are allowed. -/
def ofDigits (digits : List Char) : Except DecimalFault Word := readDigits 0 digits

end Word

end HackVm
