import HackVm.Text.Visible

/-!
# Quoted text

A quoted text stands between quotation marks. Quotation marks and backslashes in it
are marked by a backslash, the usual control characters have a letter, and every
other character that is not visible on its own is written by its code point.
-/

namespace HackVm.Text

/-- A character of a quoted text. -/
def quotedChar (char : Char) : String :=
  match char with
  | '"' => "\\\""
  | '\\' => "\\\\"
  | '\n' => "\\n"
  | '\r' => "\\r"
  | '\t' => "\\t"
  | _ =>
    if char.toNat = 0 then "\\0"
    else if isVisible char then char.toString
    else "\\u\x7b" ++ String.ofList (Nat.toDigits 16 char.toNat) ++ "\x7d"

/-- A text in quotation marks. -/
def quoted (text : String) : String :=
  "\"" ++ String.join (text.toList.map quotedChar) ++ "\""

end HackVm.Text
