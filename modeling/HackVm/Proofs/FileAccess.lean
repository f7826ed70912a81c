import HackVm.FileSystem
import Mathlib.Data.List.Nodup

/-!
# Reading, listing and writing files

What stands at a location is the one entry there, and a directory lists each of its names once,
with what the path of the name leads to. A walk is a number of steps, each of which stays, goes
up, goes down or follows a link. A file that is written is read back through the path it was
written to, also where this path leads through links. Every path that led somewhere before still
leads there, and every other location keeps its entry.
-/

namespace HackVm.FileSystem

variable {files : FileSystem}

/-! ## Entries -/

/-- Below the root, what stands at a location is the entry recorded for it. -/
theorem get?_eq_some_iff {name : String} {parent : Location} {entry : Entry} :
    files.get? (name :: parent) = some entry ↔ (name :: parent, entry) ∈ files.entries := by
  have hnodup := files.locations_nodup
  simp only [get?, List.lookup_eq_some_iff]
  constructor
  · rintro ⟨before, after, hsplit, -⟩
    simp [hsplit]
  · intro hmem
    obtain ⟨before, after, hsplit⟩ := List.append_of_mem hmem
    refine ⟨before, after, hsplit, fun other hbefore => ?_⟩
    rw [hsplit, List.map_append, List.map_cons] at hnodup
    have hne := (List.nodup_append.mp hnodup).2.2 other.1 (List.mem_map_of_mem hbefore)
      (name :: parent) List.mem_cons_self
    exact bne_iff_ne.mpr hne.symm

/-- A directory lists the names of the entries in it, each with what is known of its path. -/
theorem mem_list_iff {path : Path} {directory : Location} {name : String}
    {answer : Except IoFault Bool} :
    (name, answer) ∈ files.list path directory ↔
      (∃ entry, files.get? (name :: directory) = some entry) ∧
        answer = files.isFile (path.join name) := by
  have hnames : name ∈ files.entries.filterMap (fun entry => nameIn? directory entry.1) ↔
      ∃ entry, files.get? (name :: directory) = some entry := by
    simp only [List.mem_filterMap, get?_eq_some_iff]
    constructor
    · rintro ⟨⟨location, entry⟩, hmem, hname⟩
      cases location with
      | nil => simp [nameIn?] at hname
      | cons first parent =>
        simp only [nameIn?, Option.ite_none_right_eq_some, Option.some.injEq] at hname
        obtain ⟨rfl, rfl⟩ := hname
        exact ⟨entry, hmem⟩
    · rintro ⟨entry, hmem⟩
      exact ⟨_, hmem, by simp [nameIn?]⟩
  rw [← hnames, list, List.mem_map]
  constructor
  · rintro ⟨other, hother, heq⟩
    obtain ⟨rfl, rfl⟩ := Prod.mk.inj heq
    exact ⟨hother, rfl⟩
  · rintro ⟨hlisted, rfl⟩
    exact ⟨name, hlisted, rfl⟩

/-- A directory lists each name once. -/
theorem nodup_list (files : FileSystem) (path : Path) (directory : Location) :
    ((files.list path directory).map Prod.fst).Nodup := by
  have hnames : (files.list path directory).map Prod.fst =
      (files.entries.map Prod.fst).filterMap (nameIn? directory) := by
    rw [list, List.map_map, List.filterMap_map]
    exact List.map_id _
  rw [hnames]
  refine files.locations_nodup.filterMap fun left right name hleft hright => ?_
  cases left <;> cases right <;> simp_all [nameIn?]

/-! ## Walks -/

/-- Whether a component names an entry of the directory in which it is looked up. -/
def IsEntryName (component : String) : Prop :=
  component ≠ "" ∧ component ≠ "." ∧ component ≠ ".." ∧ isTooLongName component = false

/-- Whether components lead from a location to another one, with a number of links that may be
followed before and the number that is left after. -/
inductive Walks (files : FileSystem) : Nat → Location → List String → Location → Nat → Prop
  /-- Nothing is left to walk along. -/
  | done (links : Nat) (location : Location) : Walks files links location [] location links
  /-- Nothing and a dot stay in the directory. -/
  | stay {links left : Nat} {location found : Location} {component : String}
    {components : List String} (hthere : files.get? location = some .directory)
    (hidle : component = "" ∨ component = ".")
    (hrest : Walks files links location components found left) :
    Walks files links location (component :: components) found left
  /-- Two dots lead to the parent. -/
  | up {links left : Nat} {location found : Location} {component : String}
    {components : List String} (hthere : files.get? location = some .directory)
    (hup : component = "..") (hrest : Walks files links location.tail components found left) :
    Walks files links location (component :: components) found left
  /-- A name leads to its entry. -/
  | down {links left : Nat} {location found : Location} {component : String}
    {components : List String} {entry : Entry} (hthere : files.get? location = some .directory)
    (hname : IsEntryName component) (hentry : files.get? (component :: location) = some entry)
    (hplain : ∀ target, entry ≠ .link target)
    (hrest : Walks files links (component :: location) components found left) :
    Walks files links location (component :: components) found left
  /-- The name of a link leads along the path that it stands for. -/
  | follow {links left : Nat} {location found : Location} {component : String}
    {components : List String} {target : Path} (hthere : files.get? location = some .directory)
    (hname : IsEntryName component)
    (hentry : files.get? (component :: location) = some (.link target))
    (hrest : Walks files links (start location target) (target.components ++ components) found
      left) :
    Walks files (links + 1) location (component :: components) found left

/-- A walk along nothing. -/
theorem walk_nil (files : FileSystem) (links : Nat) (location : Location) :
    files.walk links location [] = .ok (location, links) := by
  rw [walk.eq_def, stride]

/-- One step of a walk. -/
theorem walk_cons (files : FileSystem) (links : Nat) (location : Location) (component : String)
    (components : List String) :
    files.walk links location (component :: components) =
      match files.get? location with
      | none => .error .notFound
      | some (.file _) | some (.link _) => .error .notDirectory
      | some .directory =>
        if component = "" ∨ component = "." then files.walk links location components
        else if component = ".." then files.walk links location.tail components
        else if isTooLongName component then .error .nameTooLong
        else
          match files.get? (component :: location) with
          | none => .error .notFound
          | some (.link target) =>
            match links with
            | 0 => .error .tooManyLinks
            | links + 1 =>
              files.walk links (start location target) (target.components ++ components)
          | some (.file _) | some .directory =>
            files.walk links (component :: location) components := by
  rw [walk.eq_def, stride]
  cases files.get? location with
  | none => rfl
  | some entry =>
  cases entry with
  | file bytes => rfl
  | link target => rfl
  | directory =>
  by_cases hidle : component = "" ∨ component = "."
  · simp only [if_pos hidle, ← walk.eq_def]
  by_cases hup : component = ".."
  · simp only [if_neg hidle, if_pos hup, ← walk.eq_def]
  by_cases hlong : isTooLongName component = true
  · simp only [if_neg hidle, if_neg hup, if_pos hlong]
  simp only [if_neg hidle, if_neg hup, if_neg hlong]
  cases files.get? (component :: location) with
  | none => rfl
  | some entry =>
  cases entry with
  | file bytes => simp only [← walk.eq_def]
  | link target => rfl
  | directory => simp only [← walk.eq_def]

/-- A walk succeeds if its steps lead on. -/
theorem walk_eq_ok_iff {links left : Nat} {location found : Location} {components : List String} :
    files.walk links location components = .ok (found, left) ↔
      files.Walks links location components found left := by
  constructor
  · intro hwalk
    induction links using Nat.strongRecOn generalizing location components with
    | ind links ihLinks =>
    induction components generalizing location with
    | nil =>
      rw [walk_nil] at hwalk
      cases hwalk
      exact .done _ _
    | cons component components ih =>
      rw [walk_cons] at hwalk
      split at hwalk
      · cases hwalk
      · cases hwalk
      · cases hwalk
      rename_i hthere
      split at hwalk
      · exact .stay hthere ‹_› (ih hwalk)
      rename_i hmoves
      split at hwalk
      · exact .up hthere ‹_› (ih hwalk)
      rename_i hforward
      split at hwalk
      · cases hwalk
      rename_i hshort
      have hname : IsEntryName component := by
        rw [not_or] at hmoves
        exact ⟨hmoves.1, hmoves.2, hforward, Bool.eq_false_iff.mpr hshort⟩
      split at hwalk
      · cases hwalk
      · rename_i target hentry
        cases links with
        | zero => cases hwalk
        | succ links =>
          exact .follow hthere hname hentry (ihLinks links (Nat.lt_succ_self links) hwalk)
      · exact .down hthere hname ‹_› (by rintro _ ⟨⟩) (ih hwalk)
      · exact .down hthere hname ‹_› (by rintro _ ⟨⟩) (ih hwalk)
  · intro hwalks
    induction hwalks with
    | done links location => exact walk_nil files links location
    | stay hthere hidle hrest ih => rw [walk_cons, hthere, ← ih, if_pos hidle]
    | up hthere hup hrest ih =>
      subst hup
      simp [walk_cons, hthere, ih]
    | @down _ _ _ _ _ _ entry hthere hname hentry hplain hrest ih =>
      obtain ⟨hne, hdot, hdots, hshort⟩ := hname
      cases entry with
      | link target => exact absurd rfl (hplain target)
      | file bytes => simp [walk_cons, hthere, hne, hdot, hdots, hshort, hentry, ih]
      | directory => simp [walk_cons, hthere, hne, hdot, hdots, hshort, hentry, ih]
    | follow hthere hname hentry hrest ih =>
      obtain ⟨hne, hdot, hdots, hshort⟩ := hname
      simp [walk_cons, hthere, hne, hdot, hdots, hshort, hentry, ih]

/-- A walk along two lists of components is a walk along the second after the first. -/
theorem walk_append (files : FileSystem) (links : Nat) (location : Location)
    (components rest : List String) :
    files.walk links location (components ++ rest) =
      (files.walk links location components).bind fun arrival =>
        files.walk arrival.2 arrival.1 rest := by
  induction links using Nat.strongRecOn generalizing location components with
  | ind links ihLinks =>
  induction components generalizing location with
  | nil => rw [List.nil_append, walk_nil, Except.bind]
  | cons component components ih =>
    rw [List.cons_append, walk_cons, walk_cons]
    rcases files.get? location with _ | _ | _ | _
    · rfl
    · rfl
    · dsimp only
      split_ifs
      · exact ih location
      · exact ih location.tail
      · rfl
      · rcases files.get? (component :: location) with _ | _ | _ | target
        · rfl
        · exact ih (component :: location)
        · exact ih (component :: location)
        · cases links with
          | zero => rfl
          | succ links =>
            dsimp only
            rw [← List.append_assoc]
            exact ihLinks links (Nat.lt_succ_self links) _ _
    · rfl

/-- A walk along two lists of components passes a place between them. -/
theorem walks_append_iff {links left : Nat} {location found : Location}
    {components rest : List String} :
    files.Walks links location (components ++ rest) found left ↔
      ∃ reached middle, files.Walks links location components reached middle ∧
        files.Walks middle reached rest found left := by
  simp only [← walk_eq_ok_iff, walk_append]
  cases files.walk links location components with
  | error fault => simp [Except.bind]
  | ok arrival =>
    obtain ⟨reached, middle⟩ := arrival
    simp [Except.bind]

/-- A path leads where its components do, if nothing else is wrong with it. -/
theorem resolve_eq_ok_iff {path : Path} {location : Location} :
    files.resolve path = .ok location ↔ path.fault? = none ∧
      ∃ left, files.Walks mostLinks (start files.workingDirectory path) path.components location
        left := by
  unfold resolve
  simp only [← walk_eq_ok_iff]
  cases path.fault? with
  | some fault => simp
  | none =>
    cases files.walk mostLinks (start files.workingDirectory path) path.components with
    | error fault => simp [Except.map]
    | ok arrival =>
      obtain ⟨found, left⟩ := arrival
      simp [Except.map]

/-! ## Reading -/

/-- What is read at a path is the file it leads to. -/
theorem read_eq_ok_iff {path : Path} {bytes : ByteArray} :
    files.read path = .ok bytes ↔
      ∃ location, files.resolve path = .ok location ∧ files.get? location = some (.file bytes) := by
  cases hresolve : files.resolve path with
  | error fault => simp [read, hresolve, bind, Except.bind]
  | ok location =>
    simp only [read, hresolve, bind, Except.bind, Except.ok.injEq, exists_eq_left']
    rcases files.get? location with _ | _ | _ | _ <;> simp

/-- A path leads to a directory if its listing is found there. -/
theorem find_eq_directory_iff {path : Path} {names : List (String × Except IoFault Bool)} :
    files.find path = .ok (.directory names) ↔
      ∃ location, files.resolve path = .ok location ∧ files.get? location = some .directory ∧
        names = files.list path location := by
  cases hresolve : files.resolve path with
  | error fault => simp [find, hresolve, bind, Except.bind]
  | ok location =>
    simp only [find, hresolve, bind, Except.bind, Except.ok.injEq, exists_eq_left']
    rcases files.get? location with _ | _ | _ | _ <;> simp [eq_comm]

/-- A path leads to a file if one can be read there. -/
theorem find_eq_file_iff {path : Path} :
    files.find path = .ok .file ↔ ∃ bytes, files.read path = .ok bytes := by
  cases hresolve : files.resolve path with
  | error fault => simp [find, read, hresolve, bind, Except.bind]
  | ok location =>
    simp only [find, read, hresolve, bind, Except.bind]
    rcases files.get? location with _ | _ | _ | _ <;> simp

/-- The answer for a path is that it leads to a file if one can be read there. -/
theorem isFile_eq_true_iff {path : Path} :
    files.isFile path = .ok true ↔ ∃ bytes, files.read path = .ok bytes := by
  cases hresolve : files.resolve path with
  | error fault => simp [isFile, read, hresolve, bind, Except.bind]
  | ok location =>
    simp only [isFile, read, hresolve, bind, Except.bind]
    rcases files.get? location with _ | _ | _ | _ <;> simp

/-! ## Places for files -/

/-- Whether a file can be put at a location: there is a file already, or nothing. -/
def Free (files : FileSystem) (location : Location) : Prop :=
  ∀ entry, files.get? location = some entry → ∃ bytes, entry = .file bytes

/-- Whether the last of some components names an entry in a directory to which the others lead. -/
structure Ends (files : FileSystem) (links : Nat) (location : Location) (components : List String)
    (directory : Location) (name : String) (left : Nat) : Prop where
  /-- The components before the last lead to the directory. -/
  walks : ∃ parents, components = parents ++ [name] ∧
    files.Walks links location parents directory left
  /-- The directory is there. -/
  there : files.get? directory = some .directory
  /-- The last component can be a name. -/
  name : IsEntryName name

/-- Whether components name a location for a file, with a number of links that may be followed. -/
inductive Places (files : FileSystem) : Nat → Location → List String → Location → Prop
  /-- The last component is the name of the file. -/
  | here {links left : Nat} {location directory : Location} {components : List String}
    {name : String} (hends : files.Ends links location components directory name left)
    (hfree : files.Free (name :: directory)) :
    Places files links location components (name :: directory)
  /-- The last component is the name of a link to the file. -/
  | follow {links left : Nat} {location directory found : Location} {components : List String}
    {name : String} {target : Path}
    (hends : files.Ends links location components directory name (left + 1))
    (hentry : files.get? (name :: directory) = some (.link target))
    (hrest : Places files left (start directory target) target.components found) :
    Places files links location components found

/-- Where the last component is not empty, dropping empty ones from the end drops nothing. -/
theorem eq_concat_of_dropWhile {components parents : List String} {name : String}
    (htrimmed : components.reverse.dropWhile (· == "") = name :: parents)
    (hclosed : components.getLast? ≠ some "") :
    components = parents.reverse ++ [name] ∧ name ≠ "" := by
  rcases List.eq_nil_or_concat' components with rfl | ⟨front, last, rfl⟩
  · simp at htrimmed
  · have hne : last ≠ "" := by
      rintro rfl
      simp at hclosed
    simp only [List.reverse_append, List.reverse_singleton, List.singleton_append,
      List.dropWhile_cons, beq_iff_eq, if_neg hne, List.cons.injEq] at htrimmed
    obtain ⟨rfl, rfl⟩ := htrimmed
    exact ⟨by simp, hne⟩

/-- What is found at the end of components: a place for a file, or a link that can be followed. -/
inductive Spotted (files : FileSystem) (links : Nat) (location : Location)
    (components : List String) : Spot → Prop
  /-- The place is free. -/
  | free {left : Nat} {directory : Location} {name : String}
    (hends : files.Ends links location components directory name left)
    (hfree : files.Free (name :: directory)) :
    Spotted files links location components (.free (name :: directory))
  /-- There is a link. -/
  | atLink {left : Nat} {directory : Location} {name : String} {target : Path}
    (hends : files.Ends links location components directory name (left + 1))
    (hentry : files.get? (name :: directory) = some (.link target)) :
    Spotted files links location components (.atLink directory target left)

/-- A spot is looked up at the end of components that lead to a directory. -/
theorem spot_of_ends {links left : Nat} {location directory : Location} {components : List String}
    {name : String} (hends : files.Ends links location components directory name left) :
    files.spot links location components = files.spotAt directory name left := by
  obtain ⟨parents, rfl, hwalks⟩ := hends.walks
  obtain ⟨hne, hdot, hdots, hshort⟩ := hends.name
  have hwalk := walk_eq_ok_iff.mpr hwalks
  simp [spot, hne, hwalk, bind, Except.bind, hends.there, hdot, hdots, hshort]

/-- Where a spot is found, the components lead to a directory. -/
theorem exists_ends_of_spot {links : Nat} {location : Location} {components : List String}
    {spot : Spot} (hspot : files.spot links location components = .ok spot) :
    ∃ directory name left, files.Ends links location components directory name left := by
  unfold FileSystem.spot at hspot
  split at hspot
  · cases hspot
  rename_i name parents htrimmed
  simp only [bind, Except.bind] at hspot
  split at hspot
  · cases hspot
  rename_i arrival hwalk
  split at hspot
  · cases hspot
  · cases hspot
  · cases hspot
  rename_i hthere
  split at hspot
  · cases hspot
  rename_i hproper
  split at hspot
  · cases hspot
  rename_i hshort
  simp only [not_or] at hproper
  obtain ⟨hcomponents, hne⟩ := eq_concat_of_dropWhile htrimmed hproper.2.2
  exact ⟨arrival.1, name, arrival.2, ⟨parents.reverse, hcomponents, walk_eq_ok_iff.mp hwalk⟩,
    hthere, hne, hproper.1, hproper.2.1, Bool.eq_false_iff.mpr hshort⟩

/-- A spot is found at the end of components that lead to a directory. -/
theorem spot_eq_ok_iff {links : Nat} {location : Location} {components : List String}
    {spot : Spot} :
    files.spot links location components = .ok spot ↔
      files.Spotted links location components spot := by
  constructor
  · intro hspot
    obtain ⟨directory, name, left, hends⟩ := exists_ends_of_spot hspot
    rw [spot_of_ends hends, spotAt.eq_def] at hspot
    split at hspot
    · rename_i hentry
      cases hspot
      exact .free hends (by simp [Free, hentry])
    · rename_i hentry
      cases hspot
      exact .free hends (by simp [Free, hentry])
    · cases hspot
    · cases hspot
    · rename_i hentry
      cases hspot
      exact .atLink hends hentry
  · intro hspotted
    cases hspotted with
    | @free left directory name hends hfree =>
      rw [spot_of_ends hends, spotAt.eq_def]
      cases hentry : files.get? (name :: directory) with
      | none => rfl
      | some entry =>
        obtain ⟨bytes, rfl⟩ := hfree entry hentry
        rfl
    | atLink hends hentry => rw [spot_of_ends hends, spotAt.eq_def, hentry]

/-- A walk leaves no more links than there were. -/
theorem Walks.left_le {links left : Nat} {location found : Location} {components : List String}
    (hwalks : files.Walks links location components found left) : left ≤ links := by
  induction hwalks with
  | done links location => exact Nat.le_refl links
  | stay hthere hidle hrest ih => exact ih
  | up hthere hup hrest ih => exact ih
  | down hthere hname hentry hplain hrest ih => exact ih
  | follow hthere hname hentry hrest ih => exact Nat.le_succ_of_le ih

/-- Following a link at the end of components uses it up. -/
theorem Ends.left_le {links left : Nat} {location directory : Location} {components : List String}
    {name : String} (hends : files.Ends links location components directory name left) :
    left ≤ links := by
  obtain ⟨parents, -, hwalks⟩ := hends.walks
  exact hwalks.left_le

/-- The place of a file is found if there is fuel for all links. -/
theorem place_eq_ok_iff {fuel links : Nat} {location found : Location} {components : List String}
    (hfuel : links ≤ fuel) :
    files.place fuel links location components = .ok found ↔
      files.Places links location components found := by
  constructor
  · intro hplace
    induction fuel using Nat.strongRecOn generalizing links location components with
    | ind fuel ih =>
    rw [place.eq_def] at hplace
    split at hplace
    · cases hplace
    · rename_i hspot
      cases hplace
      cases spot_eq_ok_iff.mp hspot with
      | free hends hfree => exact .here hends hfree
    · rename_i hspot
      cases spot_eq_ok_iff.mp hspot with
      | atLink hends hentry =>
        cases fuel with
        | zero => cases hplace
        | succ fuel =>
          have hle := hends.left_le
          exact .follow hends hentry (ih fuel (Nat.lt_succ_self fuel) (by omega) hplace)
  · intro hplaces
    induction hplaces generalizing fuel with
    | here hends hfree => rw [place.eq_def, spot_eq_ok_iff.mpr (.free hends hfree)]
    | follow hends hentry hrest ih =>
      have hle := hends.left_le
      obtain ⟨fuel, rfl⟩ : ∃ other, fuel = other + 1 := ⟨fuel - 1, by omega⟩
      rw [place.eq_def, spot_eq_ok_iff.mpr (.atLink hends hentry)]
      exact ih (by omega)

/-- A path names a place for writing if its components do and nothing else is wrong with it. -/
theorem writeLocation_eq_ok_iff {path : Path} {location : Location} :
    files.writeLocation path = .ok location ↔ path.fault? = none ∧
      files.Places mostLinks (start files.workingDirectory path) path.components location := by
  unfold writeLocation
  rw [← place_eq_ok_iff (Nat.le_refl mostLinks)]
  cases path.fault? <;> simp

/-- The place that components name for a file is free, and it is not the root. -/
theorem Places.free {links : Nat} {location found : Location} {components : List String}
    (hplaces : files.Places links location components found) :
    files.Free found ∧ ∃ name directory, found = name :: directory := by
  induction hplaces with
  | here hends hfree => exact ⟨hfree, _, _, rfl⟩
  | follow hends hentry hrest ih => exact ih

/-! ## Writing -/

section Writing

variable {target : Location} (bytes : ByteArray)

/-- A directory or a link stays where a file is put in a free place. -/
theorem get?_put_of_free (hfree : files.Free target) {location : Location} {entry : Entry}
    (hthere : files.get? location = some entry) (hother : ∀ content, entry ≠ .file content) :
    (files.put target (.file bytes)).get? location = some entry := by
  rw [get?_put_of_ne files _ ?_, hthere]
  rintro rfl
  obtain ⟨content, rfl⟩ := hfree entry hthere
  exact hother content rfl

/-- A directory stays. -/
theorem get?_put_directory (hfree : files.Free target) {location : Location}
    (hthere : files.get? location = some .directory) :
    (files.put target (.file bytes)).get? location = some .directory :=
  get?_put_of_free bytes hfree hthere (by rintro _ ⟨⟩)

/-- A link stays. -/
theorem get?_put_link (hfree : files.Free target) {location : Location} {path : Path}
    (hthere : files.get? location = some (.link path)) :
    (files.put target (.file bytes)).get? location = some (.link path) :=
  get?_put_of_free bytes hfree hthere (by rintro _ ⟨⟩)

/-- An entry that is no link gives way to one that is none. -/
theorem exists_get?_put {location : Location} {entry : Entry}
    (hthere : files.get? location = some entry) (hplain : ∀ path, entry ≠ .link path) :
    ∃ now, (files.put target (.file bytes)).get? location = some now ∧
      ∀ path, now ≠ .link path := by
  by_cases hsame : location = target
  · cases location with
    | nil => exact ⟨.directory, rfl, by rintro _ ⟨⟩⟩
    | cons name parent =>
      subst hsame
      exact ⟨_, get?_put_self files name parent _, by rintro _ ⟨⟩⟩
  · exact ⟨entry, (get?_put_of_ne files _ hsame).trans hthere, hplain⟩

/-- A walk is not disturbed by a file that is put in a free place. -/
theorem Walks.put (hfree : files.Free target) {links left : Nat} {location found : Location}
    {components : List String} (hwalks : files.Walks links location components found left) :
    (files.put target (.file bytes)).Walks links location components found left := by
  induction hwalks with
  | done links location => exact .done links location
  | stay hthere hidle hrest ih => exact .stay (get?_put_directory bytes hfree hthere) hidle ih
  | up hthere hup hrest ih => exact .up (get?_put_directory bytes hfree hthere) hup ih
  | down hthere hname hentry hplain hrest ih =>
    obtain ⟨now, hnow, hplain'⟩ := exists_get?_put bytes hentry hplain
    exact .down (get?_put_directory bytes hfree hthere) hname hnow hplain' ih
  | follow hthere hname hentry hrest ih =>
    exact .follow (get?_put_directory bytes hfree hthere) hname
      (get?_put_link bytes hfree hentry) ih

/-- A walk that starts at a file stays there. -/
theorem Walks.eq_of_file {links left : Nat} {location found : Location} {components : List String}
    {content : ByteArray} (hwalks : files.Walks links location components found left)
    (hfile : files.get? location = some (.file content)) : found = location := by
  cases hwalks with
  | done => rfl
  | stay hthere => simp [hfile] at hthere
  | up hthere => simp [hfile] at hthere
  | down hthere => simp [hfile] at hthere
  | follow hthere => simp [hfile] at hthere

/-- A walk after a file was put in place, which does not lead to this file, was one before. -/
theorem Walks.of_put {name : String} {parent : Location} {links left : Nat}
    {location found : Location} {components : List String}
    (hwalks : (files.put (name :: parent) (.file bytes)).Walks links location components found left)
    (hne : found ≠ name :: parent) : files.Walks links location components found left := by
  have hput := get?_put_self files name parent (.file bytes)
  have hkept {other : Location} {entry : Entry}
      (hentry : (files.put (name :: parent) (.file bytes)).get? other = some entry)
      (hother : entry ≠ .file bytes) : files.get? other = some entry := by
    rwa [get?_put_of_ne files _ ?_] at hentry
    rintro rfl
    exact hother (Option.some.inj (hentry.symm.trans hput))
  induction hwalks with
  | done links location => exact .done links location
  | stay hthere hidle hrest ih => exact .stay (hkept hthere (by rintro ⟨⟩)) hidle (ih hne)
  | up hthere hup hrest ih => exact .up (hkept hthere (by rintro ⟨⟩)) hup (ih hne)
  | @down _ _ location found component _ _ hthere hname hentry hplain hrest ih =>
    have hother : component :: location ≠ name :: parent := by
      intro hsame
      rw [hsame] at hrest
      exact hne (hrest.eq_of_file hput)
    rw [get?_put_of_ne files _ hother] at hentry
    exact .down (hkept hthere (by rintro ⟨⟩)) hname hentry hplain (ih hne)
  | follow hthere hname hentry hrest ih =>
    exact .follow (hkept hthere (by rintro ⟨⟩)) hname (hkept hentry (by rintro ⟨⟩)) (ih hne)

/-- Neither is the end of components. -/
theorem Ends.put (hfree : files.Free target) {links left : Nat} {location directory : Location}
    {components : List String} {name : String}
    (hends : files.Ends links location components directory name left) :
    (files.put target (.file bytes)).Ends links location components directory name left := by
  obtain ⟨parents, hcomponents, hwalks⟩ := hends.walks
  exact ⟨⟨parents, hcomponents, hwalks.put bytes hfree⟩,
    get?_put_directory bytes hfree hends.there, hends.name⟩

/-- A place for a file stays one when a file is put there, and then the components lead to it. -/
theorem Places.put {links : Nat} {location : Location} {components : List String}
    (hplaces : files.Places links location components target) :
    (files.put target (.file bytes)).Places links location components target ∧
      ∃ left, (files.put target (.file bytes)).Walks links location components target left := by
  have hfree := hplaces.free.1
  induction hplaces with
  | @here links left location directory components name hends _ =>
    have hends' := hends.put bytes hfree
    have hentry := get?_put_self files name directory (.file bytes)
    obtain ⟨parents, rfl, hwalks⟩ := hends'.walks
    refine ⟨.here hends' (by simp [Free, hentry]), left, walks_append_iff.mpr ⟨_, _, hwalks, ?_⟩⟩
    exact .down hends'.there hends'.name hentry (by rintro _ ⟨⟩) (.done _ _)
  | @follow links left location directory found components name path hends hentry hrest ih =>
    have hends' := hends.put bytes hfree
    have hentry' := get?_put_link bytes hfree hentry
    obtain ⟨hplaces', left', hwalks'⟩ := ih hfree
    obtain ⟨parents, rfl, hwalks⟩ := hends'.walks
    refine ⟨.follow hends' hentry' hplaces', left', walks_append_iff.mpr ⟨_, _, hwalks, ?_⟩⟩
    exact .follow hends'.there hends'.name hentry' (by rwa [List.append_nil])

/-- A file system after a file was written at a path: the file is read back there, and nothing
else is different. -/
structure Rewritten (before after : FileSystem) (path : Path) (location : Location) : Prop where
  /-- The path names the location for writing. -/
  place : before.writeLocation path = .ok location
  /-- The file is there. -/
  entry : after.get? location = some (.file bytes)
  /-- The path leads to the file. -/
  read : after.read path = .ok bytes
  /-- Other locations keep what stood there. -/
  others : ∀ other, other ≠ location → after.get? other = before.get? other
  /-- Paths that led somewhere lead to the same place. -/
  paths : ∀ path found, before.resolve path = .ok found → after.resolve path = .ok found
  /-- Relative paths start in the same place. -/
  workingDirectory : after.workingDirectory = before.workingDirectory

/-- A path that led somewhere leads to the same place when a file is put in a free place. -/
theorem resolve_put (hfree : files.Free target) {path : Path} {found : Location}
    (hresolve : files.resolve path = .ok found) :
    (files.put target (.file bytes)).resolve path = .ok found := by
  obtain ⟨husable, left, hwalks⟩ := resolve_eq_ok_iff.mp hresolve
  exact resolve_eq_ok_iff.mpr ⟨husable, left, hwalks.put bytes hfree⟩

/-- A path that leads to another place after a file was put in place led there before. -/
theorem resolve_of_put {name : String} {parent : Location} {path : Path} {found : Location}
    (hresolve : (files.put (name :: parent) (.file bytes)).resolve path = .ok found)
    (hne : found ≠ name :: parent) : files.resolve path = .ok found := by
  obtain ⟨husable, left, hwalks⟩ := resolve_eq_ok_iff.mp hresolve
  exact resolve_eq_ok_iff.mpr ⟨husable, left, hwalks.of_put bytes hne⟩

/-- A file that was put where a path names it for writing is found through this path. -/
theorem resolve_put_self {path : Path} {location : Location}
    (hplace : files.writeLocation path = .ok location) :
    (files.put location (.file bytes)).resolve path = .ok location := by
  obtain ⟨husable, hplaces⟩ := writeLocation_eq_ok_iff.mp hplace
  exact resolve_eq_ok_iff.mpr ⟨husable, (hplaces.put bytes).2⟩

/-- Putting a file where a path names it for writing is a write in the sense above. -/
theorem rewritten_put {path : Path} {location : Location}
    (hplace : files.writeLocation path = .ok location) :
    Rewritten bytes files (files.put location (.file bytes)) path location := by
  obtain ⟨hfree, name, directory, rfl⟩ := (writeLocation_eq_ok_iff.mp hplace).2.free
  have hentry := get?_put_self files name directory (.file bytes)
  exact {
    place := hplace
    entry := hentry
    read := read_eq_ok_iff.mpr ⟨_, resolve_put_self bytes hplace, hentry⟩
    others := fun _ hne => get?_put_of_ne files _ hne
    paths := fun _ _ hresolve => resolve_put bytes hfree hresolve
    workingDirectory := rfl }

end Writing

end HackVm.FileSystem
