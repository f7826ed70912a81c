import HackVm.Error
import HackVm.Path

/-!
# File systems

A file system maps locations to files, directories and symbolic links, with a
working directory where relative paths start. A path is walked component by
component: every component but the last has to lead to a directory, a slash or a dot
after a name asks for a directory, and two dots lead to the parent. A link is
followed from the directory in which it stands, and a path may lead through a
bounded number of links. A file is written where its parent directory exists and no
directory stands in its place; a name followed by a slash can only be a directory.
A link in the place of the file is followed, whether a file stands there or not.
Names and whole paths have a greatest length in bytes.

Every file has one location: a second name for the same file, which is not a
symbolic link, is left out. So are the rights of users, devices, and failures of the
system that have nothing to do with the path, such as a full disk.
-/

namespace HackVm

/-- The greatest length of a name in bytes. -/
def longestName : Nat := 255

/-- The greatest length of a path in bytes. -/
def longestPath : Nat := 4095

/-- The greatest number of links that a path leads through. -/
def mostLinks : Nat := 40

/-- Whether a name is longer than any entry's. -/
def isTooLongName (name : String) : Bool := longestName < name.utf8ByteSize

/-- What is wrong with a path wherever it starts: it has a zero character, is too long,
or is empty. -/
def Path.fault? (path : Path) : Option IoFault :=
  if path.text.toList.contains (Char.ofNat 0) then some .zeroInName
  else if longestPath < path.text.utf8ByteSize then some .nameTooLong
  else if path.text = "" then some .notFound
  else none

/-- The place of an entry: the names on the way up to the root, its own first. -/
abbrev Location := List String

/-- What stands at a location. -/
inductive Entry where
  /-- A file with its bytes. -/
  | file (bytes : ByteArray)
  /-- A directory. -/
  | directory
  /-- A symbolic link with the path that it stands for. -/
  | link (target : Path)

/-- A file system. The root is always a directory and has no entry of its own. -/
structure FileSystem where
  /-- The entries below the root, in the order in which directories list them. -/
  entries : List (Location × Entry)
  /-- The directory in which relative paths start. -/
  workingDirectory : Location
  /-- Each location has at most one entry. -/
  locations_nodup : (entries.map Prod.fst).Nodup

/-- What is found at a path: a file, or a directory with the names in it, each with the
answer to whether its path leads to a file. -/
inductive Finding where
  /-- A file. -/
  | file
  /-- A directory and what is in it. -/
  | directory (names : List (String × Except IoFault Bool))

namespace FileSystem

/-- The file system that has nothing but a working directory. -/
def ofWorkingDirectory (name : String) : FileSystem :=
  ⟨[([name], .directory)], [name], by simp⟩

/-- What stands at a location. -/
def get? (files : FileSystem) : Location → Option Entry
  | [] => some .directory
  | location => files.entries.lookup location

/-- Take away what stands at a location. -/
def erase (files : FileSystem) (location : Location) : FileSystem :=
  { files with
    entries := files.entries.filter fun entry => entry.1 != location
    locations_nodup := files.locations_nodup.sublist (List.filter_sublist.map _) }

/-- Put an entry at a location, in place of what stood there. -/
def put (files : FileSystem) (location : Location) (entry : Entry) : FileSystem :=
  { files with
    entries := (location, entry) :: (files.erase location).entries
    locations_nodup := by
      refine List.nodup_cons.mpr ⟨?_, (files.erase location).locations_nodup⟩
      simp [erase] }

/-- What was put at a location stands there. -/
theorem get?_put_self (files : FileSystem) (name : String) (parent : Location) (entry : Entry) :
    (files.put (name :: parent) entry).get? (name :: parent) = some entry := by
  simp [get?, put]

/-- Other locations keep what stands there. -/
theorem get?_put_of_ne (files : FileSystem) {location other : Location} (entry : Entry)
    (hne : other ≠ location) : (files.put location entry).get? other = files.get? other := by
  cases other with
  | nil => rfl
  | cons name parent =>
    have hunequal : (name :: parent == location) = false := beq_eq_false_iff_ne.mpr hne
    simp only [get?, put, erase, List.lookup_cons, hunequal]
    induction files.entries with
    | nil => rfl
    | cons first entries ih =>
      by_cases htaken : first.1 = location
      · have hskipped : (name :: parent == first.1) = false := by rw [htaken]; exact hunequal
        rw [List.filter_cons_of_neg (by simp [htaken]), ih]
        rcases first with ⟨firstLocation, firstEntry⟩
        rw [List.lookup_cons, hskipped]
      · rcases first with ⟨firstLocation, firstEntry⟩
        rw [List.filter_cons_of_pos (by simpa using htaken), List.lookup_cons, List.lookup_cons, ih]

/-- The name of a location that lies directly in a directory. -/
def nameIn? (directory : Location) : Location → Option String
  | [] => none
  | name :: parent => if parent = directory then some name else none

/-- How far components lead from a location without following a link. -/
inductive Stride where
  /-- They all lead on, to a location. -/
  | arrived (location : Location)
  /-- One of them is a link in a directory, and others are left after it. -/
  | atLink (directory : Location) (target : Path) (rest : List String)

/-- Walk along components from a location up to the first link. -/
def stride (files : FileSystem) (location : Location) : List String → Except IoFault Stride
  | [] => .ok (.arrived location)
  | component :: components =>
    match files.get? location with
    | none => .error .notFound
    | some (.file _) | some (.link _) => .error .notDirectory
    | some .directory =>
      if component = "" ∨ component = "." then files.stride location components
      else if component = ".." then files.stride location.tail components
      else if isTooLongName component then .error .nameTooLong
      else
        match files.get? (component :: location) with
        | none => .error .notFound
        | some (.link target) => .ok (.atLink location target components)
        | some (.file _) | some .directory => files.stride (component :: location) components

/-- The location where a path starts that is looked up from a directory. -/
def start (directory : Location) (path : Path) : Location :=
  if path.isAbsolute then [] else directory

/-- Walk along components from a location and follow at most the given number of links.
The result has the number of links that could still be followed. -/
def walk (files : FileSystem) (links : Nat) (location : Location) (components : List String) :
    Except IoFault (Location × Nat) :=
  match files.stride location components with
  | .error fault => .error fault
  | .ok (.arrived found) => .ok (found, links)
  | .ok (.atLink directory target rest) =>
    match links with
    | 0 => .error .tooManyLinks
    | links + 1 => files.walk links (start directory target) (target.components ++ rest)

/-- The location of the entry a path leads to. -/
def resolve (files : FileSystem) (path : Path) : Except IoFault Location :=
  match path.fault? with
  | some fault => .error fault
  | none =>
    (files.walk mostLinks (start files.workingDirectory path) path.components).map Prod.fst

/-- Whether a path leads to a file. -/
def isFile (files : FileSystem) (path : Path) : Except IoFault Bool := do
  let location ← files.resolve path
  match files.get? location with
  | some (.file _) => .ok true
  | some .directory => .ok false
  | some (.link _) | none => .error .notFound

/-- The names in a directory that a path leads to, each with the answer to whether its
own path leads to a file. -/
def list (files : FileSystem) (path : Path) (directory : Location) :
    List (String × Except IoFault Bool) :=
  (files.entries.filterMap fun entry => nameIn? directory entry.1).map fun name =>
    (name, files.isFile (path.join name))

/-- What is found at a path. -/
def find (files : FileSystem) (path : Path) : Except IoFault Finding := do
  let location ← files.resolve path
  match files.get? location with
  | some (.file _) => .ok .file
  | some .directory => .ok (.directory (files.list path location))
  | some (.link _) | none => .error .notFound

/-- The bytes of the file at a path. -/
def read (files : FileSystem) (path : Path) : Except IoFault ByteArray := do
  let location ← files.resolve path
  match files.get? location with
  | some (.file bytes) => .ok bytes
  | some .directory => .error .isDirectory
  | some (.link _) | none => .error .notFound

/-- What stands where a file is to be written. -/
inductive Spot where
  /-- A file, or nothing. -/
  | free (location : Location)
  /-- A link in a directory, with the number of links that can still be followed after it. -/
  | atLink (directory : Location) (target : Path) (left : Nat)

/-- What stands at a name in a directory, where at most the given number of links is followed. -/
def spotAt (files : FileSystem) (directory : Location) (name : String) (links : Nat) :
    Except IoFault Spot :=
  match files.get? (name :: directory), links with
  | none, _ | some (.file _), _ => .ok (.free (name :: directory))
  | some .directory, _ => .error .isDirectory
  | some (.link _), 0 => .error .tooManyLinks
  | some (.link target), left + 1 => .ok (.atLink directory target left)

/-- What stands at the last of some components, where they lead through at most the given number
of links. -/
def spot (files : FileSystem) (links : Nat) (location : Location) (components : List String) :
    Except IoFault Spot :=
  match components.reverse.dropWhile (· == "") with
  | [] => .error .isDirectory
  | name :: parents => do
    let (directory, left) ← files.walk links location parents.reverse
    match files.get? directory with
    | none => .error .notFound
    | some (.file _) | some (.link _) => .error .notDirectory
    | some .directory =>
      if name = "." ∨ name = ".." ∨ components.getLast? = some "" then .error .isDirectory
      else if isTooLongName name then .error .nameTooLong
      else files.spotAt directory name left

/-- The location of the file that components name for writing. The fuel is spent on links in
the place of the file; it is enough if it is not less than the number of links. -/
def place (files : FileSystem) (fuel links : Nat) (location : Location)
    (components : List String) : Except IoFault Location :=
  match files.spot links location components with
  | .error fault => .error fault
  | .ok (.free found) => .ok found
  | .ok (.atLink directory target left) =>
    match fuel with
    | 0 => .error .tooManyLinks
    | fuel + 1 => files.place fuel left (start directory target) target.components

/-- The location of the file that a path names for writing, whether the file is
there or not. -/
def writeLocation (files : FileSystem) (path : Path) : Except IoFault Location :=
  match path.fault? with
  | some fault => .error fault
  | none =>
    files.place mostLinks mostLinks (start files.workingDirectory path) path.components

/-- Write a file: the whole content, or nothing. -/
def write (files : FileSystem) (path : Path) (bytes : ByteArray) : Except IoFault FileSystem :=
  (files.writeLocation path).map fun location => files.put location (.file bytes)

end FileSystem

end HackVm
