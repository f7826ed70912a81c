import HackVm.Proofs.PathNames
import HackVm.Proofs.Build
import HackVm.Proofs.Statics

/-!
# Finding the sources of a directory

A name in a directory is that of a source if it is a stem with the extension of sources and the
system answers that its path leads to a file. The sources that are found do not depend on the
order in which the names are listed, and they are in ascending order of the bytes of their names.
Different sources are units with different names, and no static cell of one has the symbol of a
static cell of the other.

A name for which the system has no answer is passed over, whatever the reason. So a file is not
found by a path to its directory that is not too long itself but makes the path of the file so.
-/

namespace HackVm

open Codegen

/-! ## The order of names and the order of their bytes -/

namespace Text

/-- A smaller character is encoded by bytes that come first, whatever follows. The bytes after the
first are digits to the base 64. -/
theorem encode_append_lt {char other : Char} (hlt : char < other) (rest others : List UInt8) :
    String.utf8EncodeChar char ++ rest < String.utf8EncodeChar other ++ others := by
  have hvalue : char.val.toNat < other.val.toNat := hlt
  have hbound : other.val.toNat < 1114112 := by
    have hvalid := other.valid
    simp only [UInt32.isValidChar, Nat.isValidChar] at hvalid
    omega
  have hdigits : ∀ code : Nat,
      code / 4096 = code / 64 / 64 ∧ code / 262144 = code / 64 / 64 / 64 := by
    omega
  unfold String.utf8EncodeChar
  generalize char.val.toNat = code, other.val.toNat = greater at hvalue hbound
  simp only [hdigits]
  split_ifs <;> first
    | omega
    | simp only [List.cons_append, List.nil_append, List.cons_lt_cons_iff, UInt8.lt_iff_toNat_lt,
        ← UInt8.toNat_inj, UInt8.toNat_ofNat', Nat.reducePow]
      omega

/-- Texts are ordered as their encodings are. -/
theorem encode_lt {chars others : List Char} (hlt : chars < others) :
    chars.flatMap String.utf8EncodeChar < others.flatMap String.utf8EncodeChar := by
  induction chars generalizing others with
  | nil =>
    cases others with
    | nil => exact absurd hlt (List.lt_irrefl [])
    | cons other others =>
      have hne : (other :: others).flatMap String.utf8EncodeChar ≠ [] := by
        rw [List.flatMap_cons, ne_eq, List.append_eq_nil_iff, not_and_or]
        exact .inl String.utf8EncodeChar_ne_nil
      obtain ⟨byte, rest, hencoded⟩ := List.exists_cons_of_ne_nil hne
      rw [hencoded]
      exact List.nil_lt_cons byte rest
  | cons char chars ih =>
    cases others with
    | nil => exact absurd hlt (List.not_lt_nil _)
    | cons other others =>
      rw [List.flatMap_cons, List.flatMap_cons]
      obtain hfirst | ⟨rfl, hrest⟩ := List.cons_lt_cons_iff.mp hlt
      · exact encode_append_lt hfirst _ _
      · exact List.append_left_lt (ih hrest)

/-- The bytes of a text. -/
def bytes (text : String) : List UInt8 := text.toUTF8.data.toList

/-- The bytes of a text are those of its characters. -/
theorem bytes_eq_flatMap (text : String) :
    bytes text = text.toList.flatMap String.utf8EncodeChar := by
  rw [bytes, String.toUTF8_eq_toByteArray, ← String.utf8Encode_toList, List.utf8Encode,
    List.toList_data_toByteArray]

/-- Texts are ordered as their bytes are. -/
theorem bytes_lt {text other : String} (hlt : text < other) : bytes text < bytes other := by
  rw [bytes_eq_flatMap, bytes_eq_flatMap]
  exact encode_lt (String.lt_iff.mp hlt)

end Text

/-! ## Names and paths -/

/-- A path is usable if it has no zero character, is not too long and not empty. -/
theorem Path.fault?_eq_none_iff {path : Path} :
    path.fault? = none ↔
      Char.ofNat 0 ∉ path.text.toList ∧ path.text.utf8ByteSize ≤ 4095 ∧ path.text ≠ "" := by
  unfold fault? longestPath
  split_ifs <;> simp_all

/-- The characters of the path of a name in a directory. -/
theorem Path.mem_join_iff {path : Path} {name : String} {char : Char} (hne : char ≠ '/') :
    char ∈ (path.join name).text.toList ↔ char ∈ path.text.toList ∨ char ∈ name.toList := by
  unfold join
  split <;> simp [hne]

namespace FileSystem

variable {files : FileSystem} {path : Path} {directory : Location} {name : String}

/-- Whether a name is one that an entry can have: a file name without a zero character that is
not too long. -/
def IsProperName (name : String) : Prop :=
  Path.IsFileName name.toList ∧ Char.ofNat 0 ∉ name.toList ∧ isTooLongName name = false

/-- Whether the entries of a file system have names that an entry can have. -/
def ProperNames (files : FileSystem) : Prop :=
  ∀ entry ∈ files.entries, ∀ name ∈ entry.1, IsProperName name

/-- Whether the names in a file system are proper can be decided. -/
instance decidableProperNames (files : FileSystem) : Decidable files.ProperNames :=
  inferInstanceAs (Decidable (∀ entry ∈ files.entries, ∀ name ∈ entry.1,
    Path.IsFileName name.toList ∧ Char.ofNat 0 ∉ name.toList ∧ isTooLongName name = false))

/-- The name of an entry is proper. -/
theorem ProperNames.of_get? (hproper : files.ProperNames) {entry : Entry}
    (hentry : files.get? (name :: directory) = some entry) : IsProperName name :=
  hproper _ (get?_eq_some_iff.mp hentry) name List.mem_cons_self

/-- A proper name is looked up in its directory. -/
theorem IsProperName.isEntryName (hname : IsProperName name) : IsEntryName name := by
  obtain ⟨⟨hne, hdot, hdots, -⟩, -, hshort⟩ := hname
  refine ⟨?_, ?_, ?_, hshort⟩
  · rintro rfl
    exact hne rfl
  · rintro rfl
    exact hdot rfl
  · rintro rfl
    exact hdots rfl

/-- The path of an entry in a directory leads to it, if it is no link and the path can be used. -/
theorem resolve_join (hresolve : files.resolve path = .ok directory)
    (hthere : files.get? directory = some .directory) (hname : IsProperName name) {entry : Entry}
    (hentry : files.get? (name :: directory) = some entry) (hplain : ∀ target, entry ≠ .link target)
    (husable : (path.join name).fault? = none) :
    files.resolve (path.join name) = .ok (name :: directory) := by
  obtain ⟨hpath, left, hwalks⟩ := resolve_eq_ok_iff.mp hresolve
  have hne := (Path.fault?_eq_none_iff.mp hpath).2.2
  obtain ⟨parents, hcomponents, hparents⟩ := Path.exists_components_join hne hname.1.slash
  have hstart : start files.workingDirectory (path.join name) =
      start files.workingDirectory path := by
    rw [start, start, Path.isAbsolute_join hne]
  have hdirectory : files.Walks mostLinks (start files.workingDirectory path) parents directory
      left := by
    obtain hsame | hempty := hparents
    · exact hsame ▸ hwalks
    · rw [hempty] at hwalks
      obtain ⟨reached, middle, hfirst, hlast⟩ := walks_append_iff.mp hwalks
      cases hlast with
      | stay _ _ hrest =>
        cases hrest
        exact hfirst
      | up _ hup => exact absurd hup (by decide)
      | down _ hname => exact absurd rfl hname.1
      | follow _ hname => exact absurd rfl hname.1
  refine resolve_eq_ok_iff.mpr ⟨husable, left, ?_⟩
  rw [hcomponents, hstart]
  exact walks_append_iff.mpr ⟨directory, left, hdirectory,
    .down hthere hname.isEntryName hentry hplain (.done _ _)⟩

/-- The path of a name in a directory can be used if it is not too long. -/
theorem fault?_join_eq_none_iff (hresolve : files.resolve path = .ok directory)
    (hname : IsProperName name) :
    (path.join name).fault? = none ↔ (path.join name).text.utf8ByteSize ≤ 4095 := by
  have hpath := Path.fault?_eq_none_iff.mp (resolve_eq_ok_iff.mp hresolve).1
  have hzero : Char.ofNat 0 ∉ (path.join name).text.toList := by
    rw [Path.mem_join_iff (by decide), not_or]
    exact ⟨hpath.1, hname.2.1⟩
  have hne : (path.join name).text ≠ "" := by
    obtain ⟨front, hnamed⟩ := Path.exists_named_join path hname.1
    rw [ne_eq, ← String.toList_eq_nil_iff, hnamed.text, List.append_eq_nil_iff]
    exact fun hboth => hname.1.ne_nil hboth.2
  rw [Path.fault?_eq_none_iff, and_iff_right hzero, and_iff_left hne]

/-- A file in a directory is read through its path if the path is not too long. -/
theorem exists_read_join_iff (hresolve : files.resolve path = .ok directory)
    (hthere : files.get? directory = some .directory) (hname : IsProperName name)
    {bytes : ByteArray} (hfile : files.get? (name :: directory) = some (.file bytes)) :
    (∃ content, files.read (path.join name) = .ok content) ↔
      (path.join name).text.utf8ByteSize ≤ 4095 := by
  rw [← fault?_join_eq_none_iff hresolve hname]
  constructor
  · rintro ⟨content, hread⟩
    obtain ⟨location, hlocation, -⟩ := read_eq_ok_iff.mp hread
    exact (resolve_eq_ok_iff.mp hlocation).1
  · intro husable
    exact ⟨bytes, read_eq_ok_iff.mpr ⟨_, resolve_join hresolve hthere hname hfile
      (by rintro _ ⟨⟩) husable, hfile⟩⟩

end FileSystem

namespace Project

variable {files : FileSystem} {input : Path} {directory : Location}

/-- A stem with the extension of sources. -/
theorem append_sourceExtension (stem : String) :
    stem ++ "." ++ sourceExtension = stem ++ ".vm" := by
  rw [String.append_assoc]
  rfl

/-- A path is that of a source if its name is a stem with the extension of sources. -/
theorem isSource_join_iff {name : String} (hname : Path.IsFileName name.toList) :
    isSource (input.join name) = true ↔ ∃ stem : String, stem ≠ "" ∧ name = stem ++ ".vm" := by
  obtain ⟨front, hnamed⟩ := Path.exists_named_join input hname
  have hpoint : '.' ∉ sourceExtension.toList := by decide
  rw [isSource, decide_eq_true_eq, hnamed.extension?_eq_some_iff]
  simp only [append_sourceExtension, hpoint, not_false_eq_true, true_and]

/-- The unit of a source is its stem. -/
theorem unitName_join (input : Path) {stem : String}
    (hname : Path.IsFileName (stem ++ ".vm").toList) (hstem : stem ≠ "") :
    unitName (input.join (stem ++ ".vm")) = stem := by
  obtain ⟨front, hnamed⟩ := Path.exists_named_join input hname
  rw [← append_sourceExtension] at hnamed ⊢
  rw [unitName, hnamed.stem? hstem (by decide), Option.getD_some]

/-! ## The order of a listing -/

/-- The order in which names are listed does not matter. -/
theorem sourceNames_of_perm {listing names : List (String × Except IoFault Bool)}
    (hperm : listing.Perm names) (hnodup : (names.map Prod.fst).Nodup) :
    sourceNames input listing = sourceNames input names := by
  have honce : (listing.map Prod.fst).Nodup := (hperm.map Prod.fst).nodup_iff.mpr hnodup
  refine (ascending_sourceNames_of_nodup honce).eq_of_mem_iff
    (ascending_sourceNames_of_nodup hnodup) fun name => ?_
  rw [mem_sourceNames_iff, mem_sourceNames_iff, hperm.mem_iff]

/-- The sources of a directory, or that there are none. -/
theorem sources_directory_eq (names : List (String × Except IoFault Bool)) :
    sources input (.ok (.directory names)) =
      if sourceNames input names = [] then .error (.noSources input.text)
      else .ok ((sourceNames input names).map input.join) := by
  split
  · rename_i hnone
    cases hresult : sources input (.ok (.directory names)) with
    | ok found => exact absurd hnone (sources_directory_eq_ok_iff.mp hresult).1
    | error error =>
      unfold sources at hresult
      dsimp only at hresult
      split at hresult
      · exact hresult.symm
      · cases hresult
  · rename_i hsome
    exact sources_directory_eq_ok_iff.mpr ⟨hsome, rfl⟩

/-! ## Units -/

/-- Whether two sources are different units whose static cells all have different symbols. -/
structure UnitsApart (source other : Path) : Prop where
  /-- The units have different names. -/
  names : unitName source ≠ unitName other
  /-- Each of them has static cells, and none of the one is a cell of the other. -/
  cells : ∀ (generator : Generator) (index count : Word), ∃ symbol symbol',
    (generator.enterUnit (unitName source)).staticCell index = .ok (.symbol symbol) ∧
      (generator.enterUnit (unitName other)).staticCell count = .ok (.symbol symbol') ∧
      symbol ≠ symbol'

/-- Two units with different names are apart. -/
theorem unitsApart_of_ne {source other : Path} (hsource : unitName source ≠ "")
    (hother : unitName other ≠ "") (hne : unitName source ≠ unitName other) :
    UnitsApart source other := by
  refine ⟨hne, fun generator index count => ⟨staticSymbol (unitName source) index,
    staticSymbol (unitName other) count, if_neg hsource, if_neg hother, fun hsame => ?_⟩⟩
  exact hne (staticSymbol_inj.mp hsame).1

/-- The names of the sources among the listed names of a directory, each of which comes with the
answer to whether its path leads to a file. -/
structure SourcesOf (input : Path) (listing : List (String × Except IoFault Bool))
    (names : List String) : Prop where
  /-- The names are in strictly ascending order of their bytes. -/
  ascending : names.Pairwise fun name other => Text.bytes name < Text.bytes other
  /-- They are the names with the right answer and the right extension. -/
  complete : ∀ name, name ∈ names ↔
    (name, .ok true) ∈ listing ∧ ∃ stem : String, stem ≠ "" ∧ name = stem ++ ".vm"
  /-- The sources are their paths, in whatever order the names are listed. -/
  sources : ∀ other, other.Perm listing → Project.sources input (.ok (.directory other)) =
    if names = [] then .error (.noSources input.text) else .ok (names.map input.join)
  /-- Different sources are units apart. -/
  apart : ∀ source ∈ names.map input.join, ∀ other ∈ names.map input.join, source ≠ other →
    UnitsApart source other

/-- A listing of different file names has sources, whatever the answers are. -/
theorem exists_sourcesOf (input : Path) {listing : List (String × Except IoFault Bool)}
    (hnodup : (listing.map Prod.fst).Nodup)
    (hnames : ∀ name ∈ listing, Path.IsFileName name.1.toList) :
    ∃ names, SourcesOf input listing names := by
  have hcomplete : ∀ name, name ∈ sourceNames input listing ↔
      (name, .ok true) ∈ listing ∧ ∃ stem : String, stem ≠ "" ∧ name = stem ++ ".vm" := by
    intro name
    rw [mem_sourceNames_iff]
    exact and_congr_right fun hlisted => isSource_join_iff (hnames _ hlisted)
  refine ⟨sourceNames input listing, ?_, hcomplete, ?_, ?_⟩
  · exact (ascending_sourceNames_of_nodup hnodup).imp Text.bytes_lt
  · intro other hperm
    rw [sources_directory_eq, sourceNames_of_perm hperm hnodup]
  · intro source hsource other hother hne
    obtain ⟨name, hname, rfl⟩ := List.mem_map.mp hsource
    obtain ⟨name', hname', rfl⟩ := List.mem_map.mp hother
    obtain ⟨hlisted, stem, hstem, rfl⟩ := (hcomplete name).mp hname
    obtain ⟨hlisted', stem', hstem', rfl⟩ := (hcomplete name').mp hname'
    have hunit := unitName_join input (hnames _ hlisted) hstem
    have hunit' := unitName_join input (hnames _ hlisted') hstem'
    refine unitsApart_of_ne (by rwa [hunit]) (by rwa [hunit']) ?_
    rw [hunit, hunit']
    rintro rfl
    exact hne rfl

/-- The names in a directory are different file names. -/
theorem isFileName_of_mem_list (hproper : files.ProperNames)
    {name : String × Except IoFault Bool} (hname : name ∈ files.list input directory) :
    Path.IsFileName name.1.toList := by
  obtain ⟨⟨entry, hentry⟩, -⟩ := FileSystem.mem_list_iff.mp hname
  exact (hproper.of_get? hentry).1

/-- The sources of a directory. What is found there lists its names, and the answer for a name is
that there is a file if its path leads to one; for an entry that is a file itself, if the path has
at most 4095 bytes. The sources are the names with this answer that are a stem with the extension
of sources, in ascending order and in whatever order they are listed, and units apart. This holds
of all answers that a system may give, and a name without an answer is none of the sources. In
general, a static symbol determines the unit and the index. -/
theorem sources_of_any_listing (files : FileSystem) (hproper : files.ProperNames) (input : Path)
    (directory : Location) (hresolve : files.resolve input = .ok directory)
    (hthere : files.get? directory = some .directory) :
    (files.find input = .ok (.directory (files.list input directory)) ∧
      (∀ name, (name, .ok true) ∈ files.list input directory ↔
        (∃ entry, files.get? (name :: directory) = some entry) ∧
          ∃ bytes, files.read (input.join name) = .ok bytes) ∧
      (∀ name bytes, files.get? (name :: directory) = some (.file bytes) →
        ((name, .ok true) ∈ files.list input directory ↔
          (input.join name).text.utf8ByteSize ≤ 4095)) ∧
      ∃ names, SourcesOf input (files.list input directory) names) ∧
    (∀ (path : Path) (listing : List (String × Except IoFault Bool)),
      (listing.map Prod.fst).Nodup → (∀ name ∈ listing, Path.IsFileName name.1.toList) →
        ∃ names, SourcesOf path listing names ∧
          ∀ name fault, (name, .error fault) ∈ listing → name ∉ names) ∧
    (∀ (generator other : Generator) index count line, generator.staticCell index = .ok line →
      other.staticCell count = .ok line → generator.unit = other.unit ∧ index = count) ∧
    ∀ unit other index count, staticSymbol unit index = staticSymbol other count →
      unit = other ∧ index = count := by
  have hanswer : ∀ name, (name, .ok true) ∈ files.list input directory ↔
      (∃ entry, files.get? (name :: directory) = some entry) ∧
        ∃ bytes, files.read (input.join name) = .ok bytes := by
    intro name
    rw [FileSystem.mem_list_iff, eq_comm, FileSystem.isFile_eq_true_iff]
  refine ⟨⟨?_, hanswer, ?_, ?_⟩, ?_, ?_, ?_⟩
  · exact FileSystem.find_eq_directory_iff.mpr ⟨directory, hresolve, hthere, rfl⟩
  · intro name bytes hfile
    rw [hanswer, and_iff_right ⟨_, hfile⟩]
    exact FileSystem.exists_read_join_iff hresolve hthere (hproper.of_get? hfile) hfile
  · exact exists_sourcesOf input (files.nodup_list input directory)
      fun _ hname => isFileName_of_mem_list hproper hname
  · intro path listing hnodup hnames
    obtain ⟨names, hsources⟩ := exists_sourcesOf path hnodup hnames
    refine ⟨names, hsources, fun name fault hlisted hname => ?_⟩
    have hsame := List.inj_on_of_nodup_map hnodup hlisted ((hsources.complete name).mp hname).1 rfl
    cases hsame
  · intro generator other index count line hcell hother
    obtain ⟨-, rfl⟩ := Generator.staticCell_of_ok hcell
    obtain ⟨-, hsame⟩ := Generator.staticCell_of_ok hother
    exact staticSymbol_inj.mp (Assembly.Line.symbol.inj hsame)
  · exact fun unit other index count hsame => staticSymbol_inj.mp hsame

/-- A directory with points at odd places in its names, a directory named like a source, and two
links named like sources, one of them to a file and one to nothing. -/
def oddFiles : FileSystem where
  entries := [(["w"], .directory), (["a.vm.vm", "w"], .file "add\n".toUTF8),
    ([".vm", "w"], .file "sub\n".toUTF8), (["..vm", "w"], .file "neg\n".toUTF8),
    (["d.vm", "w"], .directory), (["l.vm", "w"], .link ⟨".vm"⟩), (["n.vm", "w"], .link ⟨"none"⟩)]
  workingDirectory := ["w"]
  locations_nodup := by decide

/-- Three of its names are those of sources, in whatever order they are listed. -/
theorem sources_of_any_listing_oddFiles :
    oddFiles.ProperNames ∧ ∃ names : List String,
      (∀ listing, listing.Perm (oddFiles.list ⟨"."⟩ ["w"]) →
        sources ⟨"."⟩ (.ok (.directory listing)) = .ok (names.map (Path.join ⟨"."⟩))) ∧
      "..vm" ∈ names ∧ "a.vm.vm" ∈ names ∧ "l.vm" ∈ names ∧ ".vm" ∉ names ∧ "d.vm" ∉ names ∧
      "n.vm" ∉ names ∧ UnitsApart ⟨"./..vm"⟩ ⟨"./a.vm.vm"⟩ := by
  have hproper : oddFiles.ProperNames := by decide +kernel
  obtain ⟨⟨-, hanswer, hlength, names, hsources⟩, -, -, -⟩ :=
    sources_of_any_listing oddFiles hproper ⟨"."⟩ ["w"] rfl rfl
  have hfirst : "..vm" ∈ names := (hsources.complete _).mpr
    ⟨(hlength _ _ rfl).mpr (by decide +kernel), ".", by decide, by decide⟩
  have hsecond : "a.vm.vm" ∈ names := (hsources.complete _).mpr
    ⟨(hlength _ _ rfl).mpr (by decide +kernel), "a.vm", by decide, by decide⟩
  have hlink : "l.vm" ∈ names := (hsources.complete _).mpr
    ⟨(hanswer _).mpr ⟨⟨_, rfl⟩, _, rfl⟩, "l", by decide, by decide⟩
  refine ⟨hproper, names, fun listing hperm => ?_, hfirst, hsecond, hlink, fun hname => ?_,
    fun hname => ?_, fun hname => ?_, ?_⟩
  · rw [hsources.sources listing hperm, if_neg (List.ne_nil_of_mem hfirst)]
  · obtain ⟨-, stem, hstem, hsame⟩ := (hsources.complete _).mp hname
    have hwhole : "" ++ ".vm" = stem ++ ".vm" := hsame
    exact hstem ((String.append_left_inj _).mp hwhole).symm
  · obtain ⟨-, bytes, hread⟩ := (hanswer _).mp ((hsources.complete _).mp hname).1
    cases hread
  · obtain ⟨-, bytes, hread⟩ := (hanswer _).mp ((hsources.complete _).mp hname).1
    cases hread
  · exact hsources.apart _ (List.mem_map.mpr ⟨_, hfirst, by decide +kernel⟩) _
      (List.mem_map.mpr ⟨_, hsecond, by decide +kernel⟩) (by decide)

/-! ## Paths that are too long -/

/-- The working directory, with slashes after it. -/
def slashed (count : Nat) : Path := ⟨String.ofList ('.' :: List.replicate count '/')⟩

/-- The length of the path in bytes. -/
theorem utf8ByteSize_slashed (count : Nat) : (slashed count).text.utf8ByteSize = count + 1 := by
  have hlength : (slashed count).text.utf8ByteSize = (Text.bytes (slashed count).text).length := rfl
  have hslash : '/'.utf8Size = 1 := rfl
  have hdot : '.'.utf8Size = 1 := rfl
  rw [hlength, Text.bytes_eq_flatMap, slashed, String.toList_ofList, List.length_flatMap]
  simp [hslash, hdot, Nat.add_comm]

/-- The components of the path are a dot and nothing. -/
theorem components_slashed {count : Nat} {component : String}
    (h : component ∈ (slashed count).components) : component = "" ∨ component = "." := by
  have hslashes : ∀ count : Nat, ∀ piece ∈ (List.replicate count '/').splitOn '/', piece = [] := by
    intro count
    induction count with
    | zero => simp
    | succ count ih =>
      have hsplit : (List.replicate (count + 1) '/').splitOn '/' =
          [].splitOn '/' ++ (List.replicate count '/').splitOn '/' :=
        List.splitOn_append_cons_self [] (List.replicate count '/')
      rw [hsplit, List.splitOn_nil, List.singleton_append, List.forall_mem_cons]
      exact ⟨rfl, ih⟩
  rw [Path.components, slashed, String.toList_ofList] at h
  obtain ⟨piece, hpiece, rfl⟩ := List.mem_map.mp h
  cases count with
  | zero =>
    rw [List.replicate_zero, List.splitOn_eq_singleton (by decide), List.mem_singleton] at hpiece
    exact .inr (by rw [hpiece])
  | succ count =>
    have hsplit : ('.' :: List.replicate (count + 1) '/').splitOn '/' =
        ['.'].splitOn '/' ++ (List.replicate count '/').splitOn '/' :=
      List.splitOn_append_cons_self ['.'] (List.replicate count '/')
    rw [hsplit, List.splitOn_eq_singleton (by decide), List.mem_append,
      List.mem_singleton] at hpiece
    obtain rfl | hempty := hpiece
    · exact .inr rfl
    · exact .inl (by rw [hslashes count piece hempty])

/-- Dots and nothing lead nowhere else. -/
theorem walks_of_idle (links : Nat) {location : Location}
    (hthere : files.get? location = some .directory) {components : List String}
    (hidle : ∀ component ∈ components, component = "" ∨ component = ".") :
    files.Walks links location components location links := by
  induction components with
  | nil => exact .done links location
  | cons component components ih =>
    rw [List.forall_mem_cons] at hidle
    exact .stay hthere hidle.1 (ih hidle.2)

/-- The path leads to the working directory, as long as it is not too long. -/
theorem resolve_slashed {count : Nat} (hshort : count ≤ 4094)
    (hthere : files.get? files.workingDirectory = some .directory) :
    files.resolve (slashed count) = .ok files.workingDirectory := by
  have husable : (slashed count).fault? = none := by
    refine Path.fault?_eq_none_iff.mpr ⟨?_, ?_, ?_⟩
    · rw [slashed, String.toList_ofList]
      simp
    · rw [utf8ByteSize_slashed]
      omega
    · rw [ne_eq, ← String.toList_eq_nil_iff, slashed, String.toList_ofList]
      simp
  have hrelative : (slashed count).isAbsolute = false := by
    rw [Path.isAbsolute, slashed, String.toList_ofList]
    rfl
  refine FileSystem.resolve_eq_ok_iff.mpr ⟨husable, mostLinks, ?_⟩
  rw [FileSystem.start, hrelative]
  exact walks_of_idle mostLinks hthere fun component => components_slashed

/-- The path of a name in a directory is not shorter than the two together. -/
theorem utf8ByteSize_le_join (path : Path) (name : String) :
    path.text.utf8ByteSize + name.utf8ByteSize ≤ (path.join name).text.utf8ByteSize := by
  unfold Path.join
  split
  · rw [String.utf8ByteSize_append]
  · rw [String.utf8ByteSize_append, String.utf8ByteSize_append]
    omega

/-- A directory with one source. -/
def singleFiles : FileSystem where
  entries := [(["w"], .directory), (["A.vm", "w"], .file "add".toUTF8)]
  workingDirectory := ["w"]
  locations_nodup := by decide

/-- The source is not found by a path to its directory that it makes too long. -/
theorem sources_of_slashed_empty :
    singleFiles.ProperNames ∧ singleFiles.resolve (slashed 4093) = .ok ["w"] ∧
    singleFiles.get? ["w"] = some .directory ∧
    singleFiles.get? ["A.vm", "w"] = some (.file "add".toUTF8) ∧
    (⟨"A.vm"⟩ : Path).extension? = some "vm" ∧
    sources (slashed 4093) (singleFiles.find (slashed 4093)) =
      .error (.noSources (slashed 4093).text) := by
  have hproper : singleFiles.ProperNames := by decide +kernel
  have hresolve : singleFiles.resolve (slashed 4093) = .ok ["w"] := resolve_slashed (by decide) rfl
  refine ⟨hproper, hresolve, rfl, rfl, by decide +kernel, ?_⟩
  have hnone : sourceNames (slashed 4093) (singleFiles.list (slashed 4093) ["w"]) = [] := by
    rw [List.eq_nil_iff_forall_not_mem]
    intro name hname
    obtain ⟨⟨entry, hentry⟩, hread, -⟩ := mem_sourceNames_list_iff.mp hname
    have honly : name = "A.vm" ∧ entry = .file "add".toUTF8 := by
      have hmem := FileSystem.get?_eq_some_iff.mp hentry
      simpa [singleFiles] using hmem
    obtain ⟨rfl, rfl⟩ := honly
    have hshort := (FileSystem.exists_read_join_iff hresolve rfl (hproper.of_get? hentry)
      hentry).mp hread
    have hlong := utf8ByteSize_le_join (slashed 4093) "A.vm"
    have hfour : "A.vm".utf8ByteSize = 4 := rfl
    rw [utf8ByteSize_slashed, hfour] at hlong
    omega
  rw [FileSystem.find_eq_directory_iff.mpr ⟨["w"], hresolve, rfl, rfl⟩, sources_directory_eq,
    if_pos hnone]

end Project

end HackVm
