import HackVm.Proofs.Build
import HackVm.Proofs.PathNames

/-!
# Building again into the usual output

The usual output of a build has an extension of its own, whatever the names of the input and of
its sources are. So it is none of the sources, and without links it takes the place of no source:
a file with the extension of sources is never changed, and the next build finds the same sources
with the same texts. It writes the same code to the same place, and the files stay as they are.

With links this needs one more condition, that neither a name nor a path with the extension of
sources leads to the file that was written. An output that is a link to its source does not meet
it: the build destroys the source.
-/

namespace HackVm

namespace FileSystem

variable {files : FileSystem} {path : Path} {location : Location}

/-- Putting an entry where it stands already changes nothing. -/
theorem put_put (files : FileSystem) (location : Location) (entry : Entry) :
    (files.put location entry).put location entry = files.put location entry := by
  simp [put, erase]

/-- A path that names a location for writing still names it when the file is there. -/
theorem writeLocation_put (hplace : files.writeLocation path = .ok location) (bytes : ByteArray) :
    (files.put location (.file bytes)).writeLocation path = .ok location := by
  obtain ⟨husable, hplaces⟩ := writeLocation_eq_ok_iff.mp hplace
  exact writeLocation_eq_ok_iff.mpr ⟨husable, (hplaces.put bytes).1⟩

/-- A path whose last component names an entry ends in this name. -/
theorem exists_named_of_concat {parents : List String} {name : String}
    (hcomponents : path.components = parents ++ [name]) (hname : IsEntryName name) :
    ∃ front, path.Named front name :=
  Path.exists_named_of_components hcomponents hname.1 hname.2.1 hname.2.2.1

/-- The location that a path names for writing ends in a file name. -/
theorem Places.exists_isFileName {links : Nat} {start : Location}
    (hplaces : files.Places links start path.components location) :
    ∃ name directory, location = name :: directory ∧ Path.IsFileName name.toList := by
  generalize hcomponents : path.components = components at hplaces
  induction hplaces generalizing path with
  | here hends hfree =>
    obtain ⟨parents, rfl, -⟩ := hends.walks
    obtain ⟨front, hnamed⟩ := exists_named_of_concat hcomponents hends.name
    exact ⟨_, _, rfl, hnamed.name⟩
  | follow hends hentry hrest ih => exact ih rfl

/-- Whether a path ends in the name of a location or in that of a link. -/
def EndsAt (files : FileSystem) (path : Path) (location : Location) : Prop :=
  ∃ front name directory, path.Named front name ∧
    (location = name :: directory ∨ ∃ target, files.get? (name :: directory) = some (.link target))

/-- A path that can be written ends in the name of the file or of a link. -/
theorem endsAt_of_writeLocation (hplace : files.writeLocation path = .ok location) :
    files.EndsAt path location := by
  cases (writeLocation_eq_ok_iff.mp hplace).2 with
  | here hends hfree =>
    obtain ⟨parents, hcomponents, -⟩ := hends.walks
    obtain ⟨front, hnamed⟩ := exists_named_of_concat hcomponents hends.name
    exact ⟨front, _, _, hnamed, .inl rfl⟩
  | follow hends hentry hrest =>
    obtain ⟨parents, hcomponents, -⟩ := hends.walks
    obtain ⟨front, hnamed⟩ := exists_named_of_concat hcomponents hends.name
    exact ⟨front, _, _, hnamed, .inr ⟨_, hentry⟩⟩

/-- A path with an extension that leads to a file ends in the name of the file or of a link. -/
theorem endsAt_of_resolve {extension : String} {bytes : ByteArray}
    (hresolve : files.resolve path = .ok location)
    (hfile : files.get? location = some (.file bytes))
    (hextension : path.extension? = some extension) : files.EndsAt path location := by
  have hne : path.components ≠ [] := by simp [Path.components, List.splitOn_ne_nil]
  obtain ⟨parents, last, hcomponents⟩ := (List.eq_nil_or_concat' path.components).resolve_left hne
  obtain ⟨-, left, hwalks⟩ := resolve_eq_ok_iff.mp hresolve
  rw [hcomponents] at hwalks
  obtain ⟨reached, middle, -, hlast⟩ := walks_append_iff.mp hwalks
  cases hlast with
  | stay hthere hidle hrest =>
    cases hrest
    rw [hthere] at hfile
    cases hfile
  | up hthere hup hrest =>
    subst hup
    rw [Path.extension?_of_parent hcomponents] at hextension
    cases hextension
  | down hthere hname hentry hplain hrest =>
    cases hrest
    obtain ⟨front, hnamed⟩ := exists_named_of_concat hcomponents hname
    exact ⟨front, last, reached, hnamed, .inl rfl⟩
  | follow hthere hname hentry hrest =>
    obtain ⟨front, hnamed⟩ := exists_named_of_concat hcomponents hname
    exact ⟨front, last, reached, hnamed, .inr ⟨_, hentry⟩⟩

/-! ## Without links -/

/-- Whether a file system has no links. -/
def LinkFree (files : FileSystem) : Prop :=
  ∀ location target, files.get? location ≠ some (.link target)

/-- There is no link if no entry is one. -/
theorem linkFree_of_entries (hentries : ∀ entry ∈ files.entries, ∀ target, entry.2 ≠ .link target) :
    files.LinkFree := by
  intro location target hlink
  cases location with
  | nil => cases hlink
  | cons name parent => exact hentries _ (get?_eq_some_iff.mp hlink) target rfl

/-- A file that is put in place is no link. -/
theorem LinkFree.put (hlinks : files.LinkFree) (name : String) (parent : Location)
    (bytes : ByteArray) : (files.put (name :: parent) (.file bytes)).LinkFree := by
  intro other target hlink
  by_cases hsame : other = name :: parent
  · rw [hsame, get?_put_self] at hlink
    cases hlink
  · rw [get?_put_of_ne files _ hsame] at hlink
    exact hlinks other target hlink

/-- Without links, a path ends in the name of its location. -/
theorem LinkFree.exists_named (hlinks : files.LinkFree) (hends : files.EndsAt path location) :
    ∃ front name directory, path.Named front name ∧ location = name :: directory := by
  obtain ⟨front, name, directory, hnamed, hlocation | ⟨target, hentry⟩⟩ := hends
  · exact ⟨front, name, directory, hnamed, hlocation⟩
  · exact absurd hentry (hlinks _ _)

end FileSystem

namespace Project

open FileSystem

variable {files : FileSystem} {input : Path} {found : List Path}

/-! ## The usual output -/

/-- The output of a single source has the extension of outputs, if a file can be written there. -/
theorem extension?_of_single {source : Path} {location place : Location} {bytes : ByteArray}
    (hextension : source.extension? = some sourceExtension)
    (hresolve : files.resolve source = .ok location)
    (hfile : files.get? location = some (.file bytes))
    (hplace : files.writeLocation (source.withExtension outputExtension) = .ok place) :
    (source.withExtension outputExtension).extension? = some outputExtension := by
  obtain ⟨front, name, directory, hnamed, -⟩ := endsAt_of_resolve hresolve hfile hextension
  obtain ⟨stem, hstem, hpoint, rfl⟩ := hnamed.extension?_eq_some_iff.mp hextension
  by_cases hdot : stem = "."
  · subst hdot
    obtain ⟨before, last, _, hends, -⟩ := endsAt_of_writeLocation hplace
    have hsplit := hends.splitName?
    rw [hnamed.withExtension_of_dot hpoint, Path.splitName?_append hnamed.front (by decide)
      (by decide) (by decide)] at hsplit
    cases hsplit
  · have hslash : '/' ∉ stem.toList := by
      have hclear := hnamed.name.slash
      simp only [String.toList_append, List.mem_append, not_or] at hclear
      exact hclear.1.1
    have hrenamed : (source.withExtension outputExtension).Named front
        (stem ++ "." ++ outputExtension) :=
      ⟨hnamed.withExtension hstem hpoint hdot outputExtension, hnamed.front,
        Path.isFileName_of_stem hstem (by decide) hslash (by decide)⟩
    exact hrenamed.extension?_eq_some_iff.mpr ⟨stem, hstem, by decide, rfl⟩

/-- The output of a directory with several sources has the extension of outputs. -/
theorem extension?_of_directory (input : Path) :
    (input.join ((input.fileName?.getD "out") ++ "." ++ outputExtension)).extension? =
      some outputExtension := by
  have hstem : input.fileName?.getD "out" ≠ "" ∧ '/' ∉ (input.fileName?.getD "out").toList := by
    cases hname : input.fileName? with
    | none => decide
    | some name => exact Path.of_fileName?_eq_some hname
  obtain ⟨front, hjoined⟩ := Path.exists_named_join input
    (Path.isFileName_of_stem hstem.1 (by decide) hstem.2 (by decide : '/' ∉ outputExtension.toList))
  exact hjoined.extension?_eq_some_iff.mpr ⟨_, hstem.1, by decide, rfl⟩

section

variable {options : BuildOptions}

/-- Each source of a production has the extension of sources. -/
theorem Production.extension?_source (production : Production files input options) :
    ∀ source ∈ production.sources, source.extension? = some sourceExtension := by
  intro source hmem
  revert hmem
  generalize production.sources = found, production.discovered = hdiscovered
  cases hdiscovered with
  | single hread hsource =>
    intro hmem
    rw [List.mem_singleton.mp hmem]
    exact of_decide_eq_true hsource
  | listed hresolve hthere hne hascending hcomplete =>
    intro hmem
    obtain ⟨name, hname, rfl⟩ := List.mem_map.mp hmem
    exact of_decide_eq_true ((hcomplete name).mp hname).source

/-- Each source of a production leads to a file. -/
theorem Production.exists_resolve (production : Production files input options) :
    ∀ source ∈ production.sources, ∃ location bytes, files.resolve source = .ok location ∧
      files.get? location = some (.file bytes) := by
  intro source hmem
  obtain ⟨index, hlt, rfl⟩ := List.getElem_of_mem hmem
  have hunit := (List.forall₂_iff_get.mp production.held).2 index hlt
    (production.held.length_eq ▸ hlt)
  obtain ⟨location, hresolve, hfile⟩ := read_eq_ok_iff.mp hunit.2
  exact ⟨location, _, hresolve, hfile⟩

/-- The usual output has the extension of outputs. -/
theorem Production.extension?_output (production : Production files input options)
    (husual : options.output = none) : production.output.extension? = some outputExtension := by
  have hplace := production.place
  have hextension := production.extension?_source
  have hresolve := production.exists_resolve
  rw [husual, Option.getD_none] at hplace
  rw [Production.output, husual, Option.getD_none]
  generalize production.sources = found at hplace hextension hresolve ⊢
  rcases found with _ | ⟨source, _ | ⟨second, rest⟩⟩
  · exact extension?_of_directory input
  · obtain ⟨location, bytes, hsource, hfile⟩ := hresolve source List.mem_cons_self
    rw [defaultOutput] at hplace ⊢
    exact extension?_of_single (hextension source List.mem_cons_self) hsource hfile hplace
  · exact extension?_of_directory input

end

/-! ## The files after a build -/

/-- Whether a location is apart from all sources: the name there has not the extension of
sources, and no path with this extension leads there. -/
structure ApartFromSources (files : FileSystem) (location : Location) : Prop where
  /-- The location is not named like a source. -/
  name : ∀ name directory, location = name :: directory →
    (⟨name⟩ : Path).extension? ≠ some sourceExtension
  /-- No path that is named like a source leads there. -/
  paths : ∀ path : Path, path.extension? = some sourceExtension → files.resolve path ≠ .ok location

section Apart

variable {name : String} {directory : Location} {bytes : ByteArray}
  (hapart : ApartFromSources (files.put (name :: directory) (.file bytes)) (name :: directory))
  (hfree : files.Free (name :: directory))
include hapart hfree

/-- A file that is named like a source is read as before. -/
theorem ApartFromSources.read_put_iff {path : Path} {content : ByteArray}
    (hextension : path.extension? = some sourceExtension) :
    (files.put (name :: directory) (.file bytes)).read path = .ok content ↔
      files.read path = .ok content := by
  simp only [read_eq_ok_iff]
  constructor
  · rintro ⟨location, hresolve, hfile⟩
    have hne : location ≠ name :: directory := by
      rintro rfl
      exact hapart.paths path hextension hresolve
    rw [get?_put_of_ne files _ hne] at hfile
    exact ⟨location, resolve_of_put bytes hresolve hne, hfile⟩
  · rintro ⟨location, hresolve, hfile⟩
    have hresolve' := resolve_put bytes hfree hresolve
    have hne : location ≠ name :: directory := by
      rintro rfl
      exact hapart.paths path hextension hresolve'
    exact ⟨location, hresolve', (get?_put_of_ne files _ hne).trans hfile⟩

variable (hname : Path.IsFileName name.toList)
include hname

/-- A file apart from the sources leaves the source names of a directory as they are. -/
theorem ApartFromSources.isSourceName_put_iff {place : Location} {other : String} :
    IsSourceName (files.put (name :: directory) (.file bytes)) input place other ↔
      IsSourceName files input place other := by
  by_cases hsame : other :: place = name :: directory
  · cases hsame
    obtain ⟨front, hjoined⟩ := Path.exists_named_join input hname
    have hforeign : isSource (input.join name) = false := by
      rw [isSource, hjoined.extension?]
      exact decide_eq_false (hapart.name name directory rfl)
    refine iff_of_false (fun hsource => ?_) (fun hsource => ?_)
    · exact absurd hsource.source (by simp [hforeign])
    · exact absurd hsource.source (by simp [hforeign])
  · have hkept := get?_put_of_ne files (.file bytes) hsame
    constructor
    · rintro ⟨hlisted, ⟨content, hread⟩, hsource⟩
      have hread' := (hapart.read_put_iff hfree (of_decide_eq_true hsource)).mp hread
      exact ⟨hkept ▸ hlisted, ⟨content, hread'⟩, hsource⟩
    · rintro ⟨hlisted, ⟨content, hread⟩, hsource⟩
      have hread' := (hapart.read_put_iff hfree (of_decide_eq_true hsource)).mpr hread
      exact ⟨hkept.symm ▸ hlisted, ⟨content, hread'⟩, hsource⟩

/-- A file apart from the sources leaves the sources of an input as they are. -/
theorem ApartFromSources.discovered_put (hdiscovered : Discovered files input found) :
    Discovered (files.put (name :: directory) (.file bytes)) input found := by
  cases hdiscovered with
  | single hread hsource =>
    exact .single ((hapart.read_put_iff hfree (of_decide_eq_true hsource)).mpr hread) hsource
  | listed hresolve hthere hne hascending hcomplete =>
    exact .listed (resolve_put bytes hfree hresolve) (get?_put_directory bytes hfree hthere) hne
      hascending fun other => (hcomplete other).trans
        (hapart.isSourceName_put_iff hfree hname).symm

end Apart

/-- The input leads to a directory as before, when a file is put in a free place. -/
theorem Discovered.exists_find_put_iff {name : String} {directory : Location} (bytes : ByteArray)
    (hfree : files.Free (name :: directory)) (hdiscovered : Discovered files input found) :
    (∃ names, (files.put (name :: directory) (.file bytes)).find input = .ok (.directory names)) ↔
      ∃ names, files.find input = .ok (.directory names) := by
  have hresolve : ∃ location, files.resolve input = .ok location := by
    cases hdiscovered with
    | single hread hsource =>
      obtain ⟨location, hresolve, -⟩ := read_eq_ok_iff.mp hread
      exact ⟨location, hresolve⟩
    | listed hresolve => exact ⟨_, hresolve⟩
  obtain ⟨location, hresolve⟩ := hresolve
  have hresolve' := resolve_put bytes hfree hresolve
  simp only [find_eq_directory_iff, hresolve, hresolve', Except.ok.injEq, exists_eq_left',
    exists_and_left, exists_eq, and_true]
  constructor
  · intro hthere
    by_cases hsame : location = name :: directory
    · rw [hsame, get?_put_self] at hthere
      cases hthere
    · rwa [get?_put_of_ne files _ hsame] at hthere
  · exact get?_put_directory bytes hfree

section

variable {options : BuildOptions}

/-- The file system that a production leaves. -/
def Production.result (production : Production files input options) : FileSystem :=
  files.put production.location (.file production.session.sink.held)

/-- The output of a production goes to a free place with a file name. -/
theorem Production.exists_free (production : Production files input options) :
    ∃ name directory, production.location = name :: directory ∧
      Path.IsFileName name.toList ∧ files.Free (name :: directory) := by
  have hplaces := (writeLocation_eq_ok_iff.mp production.place).2
  obtain ⟨name, directory, hlocation, hname⟩ := hplaces.exists_isFileName
  exact ⟨name, directory, hlocation, hname, hlocation ▸ hplaces.free.1⟩

/-- After a build into a place apart from the sources there is everything that the same build
needs again. -/
def Production.again (production : Production files input options)
    (hapart : ApartFromSources production.result production.location) :
    Production production.result input options where
  sources := production.sources
  discovered := by
    obtain ⟨name, directory, hlocation, hname, hfree⟩ := production.exists_free
    rw [Production.result, hlocation] at hapart ⊢
    exact hapart.discovered_put hfree hname production.discovered
  units := production.units
  held := by
    obtain ⟨name, directory, hlocation, hname, hfree⟩ := production.exists_free
    rw [Production.result, hlocation] at hapart ⊢
    refine ((List.forall₂_and_left _ _).mpr ⟨production.extension?_source, production.held⟩).imp ?_
    rintro source unit ⟨hextension, hunit⟩
    exact ⟨hunit.1, (hapart.read_put_iff hfree hextension).mpr hunit.2⟩
  bootstrap := production.bootstrap
  bootstrap_iff := by
    obtain ⟨name, directory, hlocation, hname, hfree⟩ := production.exists_free
    rw [production.bootstrap_iff, StartsWithBootstrap, StartsWithBootstrap, Production.result,
      hlocation, production.discovered.exists_find_put_iff _ hfree]
  session := production.session
  generated := production.generated
  location := production.location
  place := writeLocation_put production.place _

/-- Without links, the usual output is apart from the sources. -/
theorem Production.apart_of_linkFree (production : Production files input options)
    (husual : options.output = none) (hlinks : files.LinkFree) :
    ApartFromSources production.result production.location := by
  obtain ⟨front, name, directory, hnamed, hlocation⟩ :=
    hlinks.exists_named (endsAt_of_writeLocation production.place)
  have hextension : (⟨name⟩ : Path).extension? = some outputExtension := by
    rw [← hnamed.extension?]
    exact production.extension?_output husual
  have hforeign : (⟨name⟩ : Path).extension? ≠ some sourceExtension := by
    rw [hextension]
    decide
  rw [Production.result, hlocation]
  refine ⟨?_, fun path hsource hresolve => ?_⟩
  · rintro other place ⟨⟩
    exact hforeign
  · obtain ⟨front', name', directory', hnamed', hlocation'⟩ :=
      (hlinks.put name directory _).exists_named
        (endsAt_of_resolve hresolve (get?_put_self files name directory _) hsource)
    cases hlocation'
    rw [hnamed'.extension?] at hsource
    exact hforeign hsource

/-- A build that succeeds has a production. -/
theorem exists_production {output : Path}
    (hbuilt : (build files input options).result = .ok output) :
    ∃ production : Production files input options, production.output = output ∧
      (build files input options).files = production.result := by
  by_contra habsent
  have hempty : IsEmpty (Production files input options) := by
    refine ⟨fun production => habsent ⟨production, ?_, (build_of_production production).2⟩⟩
    exact Except.ok.inj ((build_of_production production).1.symm.trans hbuilt)
  obtain ⟨error, hfailed, -⟩ := build_of_isEmpty options hempty
  rw [hbuilt] at hfailed
  cases hfailed

end

/-- A build into the usual output that succeeds. The output has the extension of outputs and is
none of the sources. It is written to a place apart from all sources, if there are no links. If
it is written to such a place, it does not lead to a source, nothing with the extension of sources
is different afterwards, and the same build gives the same output and changes nothing. -/
theorem usual_build_repeatable {files : FileSystem} {input output : Path} {options : BuildOptions}
    (husual : options.output = none)
    (hbuilt : (build files input options).result = .ok output) :
    output.extension? = some "asm" ∧
    ∃ found location, sources input (files.find input) = .ok found ∧ output ∉ found ∧
      files.writeLocation output = .ok location ∧
      (files.LinkFree → ApartFromSources (build files input options).files location) ∧
      (ApartFromSources (build files input options).files location →
        (∀ source ∈ found, (build files input options).files.resolve source ≠
          (build files input options).files.resolve output) ∧
        (∀ name directory, (⟨name⟩ : Path).extension? = some "vm" →
          (build files input options).files.get? (name :: directory) =
            files.get? (name :: directory)) ∧
        (∀ path content, path.extension? = some "vm" →
          ((build files input options).files.read path = .ok content ↔
            files.read path = .ok content)) ∧
        (build (build files input options).files input options).result = .ok output ∧
        (build (build files input options).files input options).files =
          (build files input options).files) := by
  obtain ⟨production, rfl, hafter⟩ := exists_production hbuilt
  have hextension := production.extension?_output husual
  rw [hafter]
  refine ⟨hextension, production.sources, production.location,
    sources_find_eq_ok_iff.mpr production.discovered, fun hmem => ?_, production.place,
    production.apart_of_linkFree husual, fun hapart => ⟨fun source hmem hsame => ?_,
      fun other place hsource => ?_, fun path content hsource => ?_, ?_⟩⟩
  · have hsource := production.extension?_source _ hmem
    rw [hextension] at hsource
    exact absurd hsource (by decide)
  · have hplaced : production.result.resolve production.output = .ok production.location :=
      resolve_put_self _ production.place
    exact hapart.paths source (production.extension?_source source hmem) (hsame.trans hplaced)
  · refine get?_put_of_ne files _ fun hsame => ?_
    exact hapart.name other place hsame.symm hsource
  · obtain ⟨name, directory, hlocation, hname, hfree⟩ := production.exists_free
    rw [Production.result, hlocation] at hapart ⊢
    exact hapart.read_put_iff hfree hsource
  · have hrepeated := build_of_production (production.again hapart)
    exact ⟨hrepeated.1, hrepeated.2.trans (put_put files _ _)⟩

/-- A build of the directory with two sources into its usual output. -/
def pairUsualProduction : Production pairFiles ⟨"."⟩ {} where
  sources := [⟨"./A.vm"⟩, ⟨"./B.vm"⟩]
  discovered := discovered_pairFiles
  units := pairUnits
  held := pairProduction.held
  bootstrap := true
  bootstrap_iff := pairProduction.bootstrap_iff
  session := pairProduction.session
  generated := writeProgram_pairUnits
  location := ["out.asm", "w"]
  place := rfl

/-- The working directory has no name of its own, so its output is called out; the second build
leaves the files as the first one. -/
theorem usual_build_repeatable_pairFiles :
    (build pairFiles ⟨"."⟩ {}).result = .ok ⟨"./out.asm"⟩ ∧
    (build (build pairFiles ⟨"."⟩ {}).files ⟨"."⟩ {}).result = .ok ⟨"./out.asm"⟩ ∧
    (build (build pairFiles ⟨"."⟩ {}).files ⟨"."⟩ {}).files = (build pairFiles ⟨"."⟩ {}).files := by
  have hbuilt : (build pairFiles ⟨"."⟩ {}).result = .ok ⟨"./out.asm"⟩ :=
    (build_of_production pairUsualProduction).1
  have hlinks : pairFiles.LinkFree := linkFree_of_entries (by simp [pairFiles])
  obtain ⟨-, found, location, -, -, -, hapart, hrepeat⟩ := usual_build_repeatable rfl hbuilt
  obtain ⟨-, -, -, hagain, hkept⟩ := hrepeat (hapart hlinks)
  exact ⟨hbuilt, hagain, hkept⟩

/-! ## An output that is a link to its source -/

/-- A source, and a link to it that is named like its output. -/
def linkedFiles : FileSystem where
  entries := [(["w"], .directory), (["Foo.vm", "w"], .file "push constant 7\n".toUTF8),
    (["Foo.asm", "w"], .link ⟨"Foo.vm"⟩)]
  workingDirectory := ["w"]
  locations_nodup := by decide

/-- The build writes its code through the link in place of the source, and the next build reads
the code and refuses it. -/
theorem usual_build_destroys_linked_source :
    (build linkedFiles ⟨"Foo.vm"⟩ {}).result = .ok ⟨"Foo.asm"⟩ ∧
    linkedFiles.read ⟨"Foo.vm"⟩ = .ok "push constant 7\n".toUTF8 ∧
    (build linkedFiles ⟨"Foo.vm"⟩ {}).files.read ⟨"Foo.vm"⟩ =
      .ok "// push constant 7\n@7\nD=A\n@SP\nM=M+1\nA=M-1\nM=D\n".toUTF8 ∧
    (build (build linkedFiles ⟨"Foo.vm"⟩ {}).files ⟨"Foo.vm"⟩ {}).result =
      .error (.malformed 2 "@7" (.unknown "@7")) := by
  refine ⟨?_, ?_, ?_, ?_⟩ <;> decide +kernel

end Project

end HackVm
