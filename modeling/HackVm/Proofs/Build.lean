import HackVm.Project
import HackVm.Proofs.FileAccess
import Mathlib.Data.List.Forall2
import Mathlib.Data.List.Sort

/-!
# What a build does to a file system

A build has several points of failure: the input, each source, each command of each source and
the output. Only the last of them touches the file system. So a build that fails leaves all
files as they were, and one that succeeds replaces the output by the code of what the sources
held before, also where the output is one of the sources.
-/

namespace HackVm.Project

open Codegen

variable {files : FileSystem} {input : Path}

/-! ## Sources -/

/-- Whether a name in the input directory is that of a source: its path leads to a file, and it
has the right extension. -/
structure IsSourceName (files : FileSystem) (input : Path) (directory : Location) (name : String) :
    Prop where
  /-- An entry of the directory has this name. -/
  listed : ∃ entry, files.get? (name :: directory) = some entry
  /-- The path of the name leads to a file. -/
  file : ∃ bytes, files.read (input.join name) = .ok bytes
  /-- The path has the extension of sources. -/
  source : isSource (input.join name) = true

/-- The sources of an input. -/
inductive Discovered (files : FileSystem) (input : Path) : List Path → Prop
  /-- The input is a source file. -/
  | single {bytes : ByteArray} (hread : files.read input = .ok bytes)
    (hsource : isSource input = true) : Discovered files input [input]
  /-- The input is a directory, and its sources are all there are, in the order of their names. -/
  | listed {directory : Location} {names : List String}
    (hresolve : files.resolve input = .ok directory)
    (hthere : files.get? directory = some .directory) (hne : names ≠ [])
    (hascending : names.Pairwise (· < ·))
    (hcomplete : ∀ name, name ∈ names ↔ IsSourceName files input directory name) :
    Discovered files input (names.map input.join)

/-- The names of the sources among the names in a directory, in order. -/
def sourceNames (input : Path) (names : List (String × Except IoFault Bool)) : List String :=
  ((names.filter fun name => isFile name.2 && isSource (input.join name.1)).map
    Prod.fst).mergeSort fun left right => decide (left ≤ right)

/-- The sources of a directory are the paths of its source names. -/
theorem sources_directory_eq_ok_iff {names : List (String × Except IoFault Bool)}
    {found : List Path} :
    sources input (.ok (.directory names)) = .ok found ↔
      sourceNames input names ≠ [] ∧ found = (sourceNames input names).map input.join := by
  unfold sources sourceNames
  dsimp only
  generalize (names.filter _) = chosen
  cases chosen with
  | nil => simp
  | cons first rest =>
    have hne : (((first :: rest).map Prod.fst).mergeSort fun left right =>
        decide (left ≤ right)) ≠ [] := by
      rw [ne_eq, ← List.length_eq_zero_iff, List.length_mergeSort]
      simp
    simp only [Except.ok.injEq, hne, ne_eq, not_false_eq_true, true_and]
    exact eq_comm

/-- A name is that of a source if the answer is that there is a file, and it has the extension
of sources. -/
theorem mem_sourceNames_iff {names : List (String × Except IoFault Bool)} {name : String} :
    name ∈ sourceNames input names ↔
      (name, .ok true) ∈ names ∧ isSource (input.join name) = true := by
  simp only [sourceNames, List.mem_mergeSort, List.mem_map, List.mem_filter, Bool.and_eq_true]
  constructor
  · rintro ⟨⟨_, answer⟩, ⟨hlisted, hfile, hsource⟩, rfl⟩
    cases answer with
    | error fault => cases hfile
    | ok found =>
      cases (hfile : found = true)
      exact ⟨hlisted, hsource⟩
  · rintro ⟨hlisted, hsource⟩
    exact ⟨(name, .ok true), ⟨hlisted, rfl, hsource⟩, rfl⟩

/-- The source names of a directory's listing. -/
theorem mem_sourceNames_list_iff {directory : Location} {name : String} :
    name ∈ sourceNames input (files.list input directory) ↔
      IsSourceName files input directory name := by
  rw [mem_sourceNames_iff, FileSystem.mem_list_iff, eq_comm, FileSystem.isFile_eq_true_iff]
  constructor
  · rintro ⟨⟨hlisted, hfile⟩, hsource⟩
    exact ⟨hlisted, hfile, hsource⟩
  · rintro ⟨hlisted, hfile, hsource⟩
    exact ⟨⟨hlisted, hfile⟩, hsource⟩

/-- Source names ascend strictly if no name is listed twice. -/
theorem ascending_sourceNames_of_nodup {names : List (String × Except IoFault Bool)}
    (hnodup : (names.map Prod.fst).Nodup) : (sourceNames input names).Pairwise (· < ·) := by
  have hordered : (sourceNames input names).Pairwise (· ≤ ·) := by
    refine (List.pairwise_mergeSort ?_ ?_ _).imp of_decide_eq_true
    · intro left middle right hfirst hsecond
      exact decide_eq_true (String.le_trans (of_decide_eq_true hfirst) (of_decide_eq_true hsecond))
    · intro left right
      simpa using String.le_total left right
  have honce : (sourceNames input names).Nodup := by
    refine (List.mergeSort_perm _ _).nodup_iff.mpr ?_
    exact hnodup.sublist (List.filter_sublist.map Prod.fst)
  exact (hordered.and honce).imp fun hboth => Std.lt_of_le_of_ne hboth.1 hboth.2

/-- Source names ascend strictly, because a directory lists no name twice. -/
theorem ascending_sourceNames (directory : Location) :
    (sourceNames input (files.list input directory)).Pairwise (· < ·) :=
  ascending_sourceNames_of_nodup (files.nodup_list input directory)

/-- The sources that are found at the input are those of the file system. -/
theorem sources_find_eq_ok_iff {found : List Path} :
    sources input (files.find input) = .ok found ↔ Discovered files input found := by
  constructor
  · intro hsources
    cases hfind : files.find input with
    | error fault => simp [hfind, sources] at hsources
    | ok finding =>
      cases finding with
      | file =>
        obtain ⟨bytes, hread⟩ := FileSystem.find_eq_file_iff.mp hfind
        rw [hfind, sources] at hsources
        split at hsources
        · rename_i hsource
          cases hsources
          exact .single hread hsource
        · cases hsources
      | directory names =>
        obtain ⟨directory, hresolve, hthere, rfl⟩ := FileSystem.find_eq_directory_iff.mp hfind
        rw [hfind, sources_directory_eq_ok_iff] at hsources
        obtain ⟨hne, rfl⟩ := hsources
        exact .listed hresolve hthere hne (ascending_sourceNames directory)
          fun _ => mem_sourceNames_list_iff
  · intro hdiscovered
    cases hdiscovered with
    | single hread hsource =>
      rw [FileSystem.find_eq_file_iff.mpr ⟨_, hread⟩, sources, if_pos hsource]
    | @listed directory names hresolve hthere hne hascending hcomplete =>
      have hsame : names = sourceNames input (files.list input directory) :=
        hascending.eq_of_mem_iff (ascending_sourceNames directory)
          fun name => (hcomplete name).trans mem_sourceNames_list_iff.symm
      rw [FileSystem.find_eq_directory_iff.mpr ⟨_, hresolve, hthere, rfl⟩,
        sources_directory_eq_ok_iff]
      exact ⟨hsame ▸ hne, by rw [hsame]⟩

/-! ## Units -/

/-- Whether a unit is the one in a source file: it has the file's stem as its name and the
file's content as its text. -/
def HoldsUnit (files : FileSystem) (source : Path) (unit : String × String) : Prop :=
  unit.1 = unitName source ∧ files.read source = .ok unit.2.toUTF8

/-- Bytes are a text if they are its encoding. -/
theorem fromUTF8?_eq_some_iff {bytes : ByteArray} {text : String} :
    String.fromUTF8? bytes = some text ↔ bytes = text.toUTF8 := by
  unfold String.fromUTF8?
  constructor
  · intro hdecoded
    split at hdecoded
    · cases hdecoded
      rfl
    · cases hdecoded
  · rintro rfl
    rw [String.toUTF8_eq_toByteArray, dif_pos text.isValidUTF8]
    rfl

/-- The text of a file. -/
theorem fileText_eq_ok_iff {content : Except IoFault ByteArray} {text : String} :
    fileText content = .ok text ↔ content = .ok text.toUTF8 := by
  cases content with
  | error fault => simp [fileText]
  | ok bytes =>
    rw [fileText, Except.ok.injEq, ← fromUTF8?_eq_some_iff]
    cases String.fromUTF8? bytes <;> simp

/-- The units of source files are read if each of them is. -/
theorem units_eq_ok_iff {paths : List Path} {found : List (String × String)} :
    (units (paths.zip (paths.map files.read))).2 = .ok found ↔
      List.Forall₂ (HoldsUnit files) paths found := by
  induction paths generalizing found with
  | nil => simp [units, eq_comm]
  | cons path paths ih =>
    rw [List.map_cons, List.zip_cons_cons, units, List.forall₂_cons_left_iff]
    dsimp only
    cases htext : fileText (files.read path) with
    | error fault =>
      refine iff_of_false (by simp) ?_
      rintro ⟨unit, others, ⟨-, hread⟩, -⟩
      rw [fileText_eq_ok_iff.mpr hread] at htext
      cases htext
    | ok text =>
      constructor
      · intro hunits
        cases hrest : (units (paths.zip (paths.map files.read))).2 with
        | error error =>
          rw [hrest] at hunits
          cases hunits
        | ok others =>
          rw [hrest] at hunits
          cases hunits
          exact ⟨_, others, ⟨rfl, fileText_eq_ok_iff.mp htext⟩, ih.mp hrest, rfl⟩
      · rintro ⟨⟨name, held⟩, others, ⟨rfl, hread⟩, hrest, rfl⟩
        cases htext.symm.trans (fileText_eq_ok_iff.mpr hread)
        rw [ih.mpr hrest]
        rfl

/-! ## Builds -/

/-- Whether a program starts with a bootstrap: always, or, if it is left open, where the input
is a directory with more than one source. -/
def StartsWithBootstrap (files : FileSystem) (input : Path) (policy : BootstrapPolicy)
    (sources : List Path) : Prop :=
  policy = .always ∨ policy = .auto ∧ (∃ names, files.find input = .ok (.directory names)) ∧
    1 < sources.length

/-- What a build makes of a file system: sources that can be found and read, code that can be
generated from them, and a place for the output. -/
structure Production (files : FileSystem) (input : Path) (options : BuildOptions) where
  /-- The sources. -/
  sources : List Path
  /-- They are the sources of the input. -/
  discovered : Discovered files input sources
  /-- The units in the sources. -/
  units : List (String × String)
  /-- Each source holds its unit. -/
  held : List.Forall₂ (HoldsUnit files) sources units
  /-- Whether the program starts with a bootstrap. -/
  bootstrap : Bool
  /-- The user or the number of sources decides this. -/
  bootstrap_iff : bootstrap = true ↔ StartsWithBootstrap files input options.bootstrap sources
  /-- The session that has generated the code. -/
  session : Session
  /-- It has done so without an error. -/
  generated : Session.writeProgram options.config bootstrap units {} = (session, .ok ())
  /-- Where the output is written. -/
  location : Location
  /-- The output can be written there. -/
  place : files.writeLocation (options.output.getD (defaultOutput input sources)) = .ok location

/-- The output of a build: the one the user chose, or the usual one. -/
def Production.output {options : BuildOptions} (production : Production files input options) :
    Path := options.output.getD (defaultOutput input production.sources)

section

variable {options : BuildOptions}

/-- A plan names the sources of the input, the output and whether there is a bootstrap. -/
theorem exists_plan_iff {found : List Path} {output : Path} {bootstrap : Bool} :
    (∃ log, plan input options (files.find input) = .ok ⟨found, output, bootstrap, log⟩) ↔
      Discovered files input found ∧ output = options.output.getD (defaultOutput input found) ∧
        (bootstrap = true ↔ StartsWithBootstrap files input options.bootstrap found) := by
  have hdirectory : isDirectory (files.find input) = true ↔
      ∃ names, files.find input = .ok (.directory names) := by
    unfold isDirectory
    split <;> simp_all
  rw [← sources_find_eq_ok_iff, StartsWithBootstrap, ← hdirectory, plan]
  cases sources input (files.find input) with
  | error error => simp
  | ok others =>
    constructor
    · rintro ⟨log, hplan⟩
      cases hplan
      refine ⟨rfl, rfl, ?_⟩
      cases options.bootstrap <;> simp
    · rintro ⟨hsame, rfl, hbootstrap⟩
      cases hsame
      simp only [Except.ok.injEq, Plan.mk.injEq, true_and, exists_and_left, exists_eq', and_true]
      rw [Bool.eq_iff_iff, hbootstrap]
      cases options.bootstrap <;> simp

/-- Code is generated from sources that can be read, by a session that ends without an error. -/
theorem exists_generate_iff (planned : Plan) {config : Config} {bytes : ByteArray} :
    (∃ log, generate planned config (planned.sources.map files.read) = (log, .ok bytes)) ↔
      ∃ units session, List.Forall₂ (HoldsUnit files) planned.sources units ∧
        Session.writeProgram config planned.bootstrap units {} = (session, .ok ()) ∧
        session.sink.held = bytes := by
  simp only [← units_eq_ok_iff, generate]
  cases (units (planned.sources.zip (planned.sources.map files.read))).2 with
  | error error => simp
  | ok found =>
    rcases hended : Session.writeProgram config planned.bootstrap found {} with ⟨session, _ | _⟩
    · simp [hended]
    · simp [hended]

/-- A build succeeds and puts its code in place if nothing is wrong with its plan, its code or
its output. -/
theorem build_of_located {planned : Plan} {log : Log} {bytes : ByteArray} {location : Location}
    (hplan : plan input options (files.find input) = .ok planned)
    (hcode : generate planned options.config (planned.sources.map files.read) = (log, .ok bytes))
    (hplace : files.writeLocation planned.output = .ok location) :
    (build files input options).result = .ok planned.output ∧
      (build files input options).files = files.put location (.file bytes) := by
  simp [build, hplan, hcode, FileSystem.write, hplace, Except.map, conclude]

/-- Otherwise it fails and leaves all files as they were. -/
theorem build_cases (files : FileSystem) (input : Path) (options : BuildOptions) :
    (∃ error, (build files input options).result = .error error ∧
      (build files input options).files = files) ∨
    ∃ planned log bytes location, plan input options (files.find input) = .ok planned ∧
      generate planned options.config (planned.sources.map files.read) = (log, .ok bytes) ∧
      files.writeLocation planned.output = .ok location := by
  unfold build
  split
  · exact .inl ⟨_, rfl, rfl⟩
  rename_i planned hplan
  split
  · exact .inl ⟨_, rfl, rfl⟩
  rename_i log bytes hcode
  split
  · exact .inl ⟨_, rfl, rfl⟩
  rename_i written hwritten
  cases hplace : files.writeLocation planned.output with
  | error fault => simp [FileSystem.write, hplace, Except.map] at hwritten
  | ok location => exact .inr ⟨planned, log, bytes, location, hplan, hcode, hplace⟩

/-- A build does all that its production says. -/
theorem build_of_production (production : Production files input options) :
    (build files input options).result = .ok production.output ∧
      (build files input options).files =
        files.put production.location (.file production.session.sink.held) := by
  obtain ⟨planLog, hplan⟩ :=
    exists_plan_iff.mpr ⟨production.discovered, rfl, production.bootstrap_iff⟩
  obtain ⟨log, hcode⟩ :=
    (exists_generate_iff ⟨production.sources, production.output, production.bootstrap, planLog⟩).mpr
      ⟨_, _, production.held, production.generated, rfl⟩
  exact build_of_located hplan hcode production.place

/-- A build without a production fails and leaves all files as they were. -/
theorem build_of_isEmpty (options : BuildOptions)
    (hempty : IsEmpty (Production files input options)) :
    ∃ error, (build files input options).result = .error error ∧
      (build files input options).files = files := by
  refine (build_cases files input options).resolve_right ?_
  rintro ⟨planned, log, bytes, location, hplan, hcode, hplace⟩
  obtain ⟨hdiscovered, houtput, hbootstrap⟩ := exists_plan_iff.mp ⟨planned.log, hplan⟩
  obtain ⟨units, session, hheld, hgenerated, -⟩ := (exists_generate_iff planned).mp ⟨log, hcode⟩
  exact hempty.false {
    sources := planned.sources
    discovered := hdiscovered
    units
    held := hheld
    bootstrap := planned.bootstrap
    bootstrap_iff := hbootstrap
    session
    generated := hgenerated
    location
    place := houtput ▸ hplace }

end

/-- A build is all or nothing. It fails if no production exists, and then all files are as they
were. If there is one, the build returns its output and replaces this file, and no other, by the
code of what the sources held before. -/
theorem build_all_or_nothing (files : FileSystem) (input : Path) (options : BuildOptions) :
    (∀ error, (build files input options).result = .error error →
      (build files input options).files = files) ∧
    (∀ output, (build files input options).result = .ok output ↔
      ∃ production : Production files input options, production.output = output) ∧
    ∀ production : Production files input options,
      FileSystem.Rewritten production.session.sink.held files (build files input options).files
        production.output production.location := by
  refine ⟨fun error hfailed => ?_, fun output => ⟨fun hbuilt => ?_, ?_⟩, fun production => ?_⟩
  · have hempty : IsEmpty (Production files input options) := by
      refine ⟨fun production => ?_⟩
      rw [(build_of_production production).1] at hfailed
      cases hfailed
    obtain ⟨_, -, hkept⟩ := build_of_isEmpty options hempty
    exact hkept
  · by_contra habsent
    obtain ⟨error, hfailed, -⟩ := build_of_isEmpty options ⟨fun production =>
      habsent ⟨production, Except.ok.inj ((build_of_production production).1.symm.trans hbuilt)⟩⟩
    rw [hbuilt] at hfailed
    cases hfailed
  · rintro ⟨production, rfl⟩
    exact (build_of_production production).1
  · rw [(build_of_production production).2]
    exact FileSystem.rewritten_put _ production.place

/-- A directory with two sources, which it lists in descending order. -/
def pairFiles : FileSystem where
  entries := [(["w"], .directory), (["B.vm", "w"], .file "push constant 7\n".toUTF8),
    (["A.vm", "w"], .file "function Sys.init 0\nreturn\n".toUTF8)]
  workingDirectory := ["w"]
  locations_nodup := by decide

/-- The units in the directory. -/
def pairUnits : List (String × String) :=
  [("A", "function Sys.init 0\nreturn\n"), ("B", "push constant 7\n")]

/-- Its sources, in ascending order. -/
theorem discovered_pairFiles : Discovered pairFiles ⟨"."⟩ [⟨"./A.vm"⟩, ⟨"./B.vm"⟩] := by
  have hcomplete (name : String) :
      name ∈ ["A.vm", "B.vm"] ↔ IsSourceName pairFiles ⟨"."⟩ ["w"] name := by
    have hchosen : ((pairFiles.list ⟨"."⟩ ["w"]).filter fun name =>
        isFile name.2 && isSource (Path.join ⟨"."⟩ name.1)).map Prod.fst = ["B.vm", "A.vm"] := by
      decide +kernel
    rw [← mem_sourceNames_list_iff, sourceNames, List.mem_mergeSort, hchosen]
    simp [or_comm]
  exact .listed rfl rfl (List.cons_ne_nil _ _) (by decide) hcomplete

/-- The code of the units is generated. -/
theorem writeProgram_pairUnits : Session.writeProgram {} true pairUnits {} =
    ((Session.writeProgram {} true pairUnits {}).1, .ok ()) := by
  have hended : (Session.writeProgram {} true pairUnits {}).2 = .ok () := by decide +kernel
  rw [← hended]

/-- A build of the directory into one of its sources. -/
def pairProduction : Production pairFiles ⟨"."⟩ { output := some ⟨"B.vm"⟩ } where
  sources := [⟨"./A.vm"⟩, ⟨"./B.vm"⟩]
  discovered := discovered_pairFiles
  units := pairUnits
  held := .cons ⟨rfl, FileSystem.read_eq_ok_iff.mpr ⟨["A.vm", "w"], rfl, rfl⟩⟩
    (.cons ⟨rfl, FileSystem.read_eq_ok_iff.mpr ⟨["B.vm", "w"], rfl, rfl⟩⟩ .nil)
  bootstrap := true
  bootstrap_iff := by simpa [StartsWithBootstrap] using ⟨_, rfl⟩
  session := (Session.writeProgram {} true pairUnits {}).1
  generated := writeProgram_pairUnits
  location := ["B.vm", "w"]
  place := rfl

/-- The output takes the place of a source, whose text is translated first. -/
theorem build_all_or_nothing_overSource :
    (build pairFiles ⟨"."⟩ { output := some ⟨"B.vm"⟩ }).result = .ok ⟨"B.vm"⟩ ∧
    (build pairFiles ⟨"."⟩ { output := some ⟨"B.vm"⟩ }).files.get? ["B.vm", "w"] =
      some (.file (Session.writeProgram {} true pairUnits {}).1.sink.held) ∧
    (build pairFiles ⟨"."⟩ { output := some ⟨"B.vm"⟩ }).files.get? ["A.vm", "w"] =
      pairFiles.get? ["A.vm", "w"] := by
  obtain ⟨-, hresults, hrewritten⟩ :=
    build_all_or_nothing pairFiles ⟨"."⟩ { output := some ⟨"B.vm"⟩ }
  have hwritten := hrewritten pairProduction
  exact ⟨(hresults _).mpr ⟨pairProduction, rfl⟩, hwritten.entry, hwritten.others _ (by decide)⟩

end HackVm.Project
