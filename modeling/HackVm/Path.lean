/-!
# Paths

A path is a text whose components are separated by slashes. Its file name is the
last component, where slashes and single dots at the end do not count. A file name
has an extension after its last dot, unless that dot is its first character.
-/

namespace HackVm

/-- A path, as it was written. -/
structure Path where
  /-- The text of the path. -/
  text : String
  deriving DecidableEq, Repr

namespace Path

/-- Drop slashes and components that are a single dot from the front of a reversed
path. -/
def dropIdle : List Char → List Char
  | '/' :: rest => dropIdle rest
  | ['.'] => []
  | '.' :: '/' :: rest => dropIdle rest
  | chars => chars

/-- The text of a path up to its file name, and the file name. A path that is empty
or ends in the root, the current or the parent directory has no file name. -/
def splitName? (chars : List Char) : Option (List Char × List Char) :=
  let reversed := dropIdle chars.reverse
  let name := (reversed.takeWhile (· != '/')).reverse
  if name = [] ∨ name = ['.', '.'] then none
  else some ((reversed.dropWhile (· != '/')).reverse, name)

/-- The stem of a file name, and its extension if it has one. -/
def splitExtension (name : List Char) : List Char × Option (List Char) :=
  match name.reverse.dropWhile (· != '.') with
  | [] | ['.'] => (name, none)
  | _ :: stem => (stem.reverse, some (name.reverse.takeWhile (· != '.')).reverse)

/-- The file name of a path. -/
def fileName? (path : Path) : Option String :=
  (splitName? path.text.toList).map fun split => String.ofList split.2

/-- The stem of a path's file name. -/
def stem? (path : Path) : Option String :=
  (splitName? path.text.toList).map fun split => String.ofList (splitExtension split.2).1

/-- The extension of a path's file name. -/
def extension? (path : Path) : Option String :=
  (splitName? path.text.toList).bind fun split =>
    (splitExtension split.2).2.map String.ofList

/-- Replace the extension. As many characters as the old extension has are cut off
the end of the text; then everything after the stem of what is left gives way to a
dot and the new extension. Where no file name is left, nothing is added. -/
def withExtension (path : Path) (extension : String) : Path :=
  let chars := path.text.toList
  let oldLength := (path.extension?.map String.length).getD 0
  let kept := chars.take (chars.length - oldLength)
  match splitName? kept with
  | none => ⟨String.ofList kept⟩
  | some (directory, name) =>
    ⟨String.ofList (directory ++ (splitExtension name).1) ++ "." ++ extension⟩

/-- The path of a name in a directory; a slash is added only if it is needed. -/
def join (path : Path) (name : String) : Path :=
  if path.text.isEmpty || path.text.toList.getLast? = some '/' then ⟨path.text ++ name⟩
  else ⟨path.text ++ "/" ++ name⟩

/-- The components of a path, empty ones included. -/
def components (path : Path) : List String :=
  (path.text.toList.splitOn '/').map String.ofList

/-- Whether a path starts at the root. -/
def isAbsolute (path : Path) : Bool := path.text.toList.head? = some '/'

end Path

end HackVm
