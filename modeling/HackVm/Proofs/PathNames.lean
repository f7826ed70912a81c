import HackVm.Path
import Mathlib.Data.List.Basic
import Mathlib.Data.List.TakeWhile

/-!
# File names at the end of paths

A path that ends in a file name is a front part, which is empty or ends in a slash, and the
name. Then the extension and the stem of the path are those of the name, and they make up the
name with a point between them. The path of a name in a directory is of this form, and so is a
path whose last component is a file name. Another extension leaves the front part and the stem
as they are, unless the stem is a single point: then the path ends in the parent directory.
-/

namespace HackVm.Path

/-- Whether characters are a file name: there is one, none is a slash, and it is neither the
directory itself nor its parent. -/
structure IsFileName (name : List Char) : Prop where
  /-- There is a character. -/
  ne_nil : name ≠ []
  /-- The name is not that of the directory itself. -/
  ne_dot : name ≠ ['.']
  /-- The name is not that of the parent directory. -/
  ne_dots : name ≠ ['.', '.']
  /-- There is no slash. -/
  slash : '/' ∉ name

/-- Whether characters are a file name can be decided. -/
instance decidableIsFileName (name : List Char) : Decidable (IsFileName name) :=
  decidable_of_iff (name ≠ [] ∧ name ≠ ['.'] ∧ name ≠ ['.', '.'] ∧ '/' ∉ name)
    ⟨fun ⟨hne, hdot, hdots, hslash⟩ => ⟨hne, hdot, hdots, hslash⟩,
      fun h => ⟨h.ne_nil, h.ne_dot, h.ne_dots, h.slash⟩⟩

/-- Whether a text can stand in front of a file name. -/
def IsFront (front : List Char) : Prop := front = [] ∨ ∃ parents, front = parents ++ ['/']

/-! ## The last name -/

/-- A name at the front of a reversed path is not passed over, unless it is a single point. Its
first two characters decide, or its only one. -/
theorem dropIdle_append {name : List Char} (hne : name ≠ []) (hdot : name ≠ ['.'])
    (hslash : '/' ∉ name) (rest : List Char) : dropIdle (name ++ rest) = name ++ rest := by
  rcases name with _ | ⟨first, _ | ⟨second, others⟩⟩
  · exact absurd rfl hne
  · unfold dropIdle
    split <;> simp_all
  · unfold dropIdle
    split <;> simp_all

/-- The characters after the last slash are the name at the end of a path. -/
theorem splitName?_append {front name : List Char} (hfront : IsFront front) (hne : name ≠ [])
    (hdot : name ≠ ['.']) (hslash : '/' ∉ name) :
    splitName? (front ++ name) = if name = ['.', '.'] then none else some (front, name) := by
  have hclear : ∀ char ∈ name.reverse, (char != '/') = true := by
    intro char hmem
    rw [bne_iff_ne]
    rintro rfl
    exact hslash (List.mem_reverse.mp hmem)
  have hstop : front.reverse.takeWhile (· != '/') = [] ∧
      front.reverse.dropWhile (· != '/') = front.reverse := by
    rcases hfront with rfl | ⟨parents, rfl⟩
    · exact ⟨rfl, rfl⟩
    · simp
  have htake : (name.reverse ++ front.reverse).takeWhile (· != '/') = name.reverse := by
    rw [List.takeWhile_append_of_pos hclear, hstop.1, List.append_nil]
  have hdrop : (name.reverse ++ front.reverse).dropWhile (· != '/') = front.reverse := by
    rw [List.dropWhile_append_of_pos hclear, hstop.2]
  have hreversed : dropIdle (name.reverse ++ front.reverse) = name.reverse ++ front.reverse := by
    refine dropIdle_append (mt List.reverse_eq_nil_iff.mp hne) ?_
      (fun hmem => hslash (List.mem_reverse.mp hmem)) front.reverse
    exact fun heq => hdot (List.reverse_eq_iff.mp heq)
  simp only [splitName?, List.reverse_append, hreversed, htake, hdrop, List.reverse_reverse, hne,
    false_or]

/-- Every text is a front part and characters without a slash. -/
theorem exists_front (chars : List Char) :
    ∃ front name, chars = front ++ name ∧ IsFront front ∧ '/' ∉ name := by
  induction chars with
  | nil => exact ⟨[], [], rfl, .inl rfl, List.not_mem_nil⟩
  | cons char chars ih =>
    obtain ⟨front, name, rfl, hfront, hslash⟩ := ih
    rcases hfront with rfl | ⟨parents, rfl⟩
    · by_cases hchar : char = '/'
      · subst hchar
        exact ⟨['/'], name, rfl, .inr ⟨[], rfl⟩, hslash⟩
      · refine ⟨[], char :: name, rfl, .inl rfl, ?_⟩
        rw [List.mem_cons, not_or]
        exact ⟨Ne.symm hchar, hslash⟩
    · exact ⟨char :: parents ++ ['/'], name, by simp, .inr ⟨char :: parents, rfl⟩, hslash⟩

/-- The last component of a path is what stands after the last slash. -/
theorem front_of_components {path : Path} {parents : List String} {name : String}
    (h : path.components = parents ++ [name]) :
    ∃ front, path.text.toList = front ++ name.toList ∧ IsFront front ∧ '/' ∉ name.toList := by
  obtain ⟨front, last, htext, hfront, hslash⟩ := exists_front path.text.toList
  have hlast : (path.text.toList.splitOn '/').getLast? = some last := by
    rw [htext]
    rcases hfront with rfl | ⟨before, rfl⟩
    · rw [List.nil_append, List.splitOn_eq_singleton hslash, List.getLast?_singleton]
    · rw [List.append_assoc, List.singleton_append, List.splitOn_append_cons_self,
        List.splitOn_eq_singleton hslash, List.getLast?_concat]
  have hname : name = String.ofList last := by
    have hcomponents := congrArg List.getLast? h
    rw [components, List.getLast?_map, hlast, List.getLast?_concat] at hcomponents
    exact (Option.some.inj hcomponents).symm
  rw [hname, String.toList_ofList]
  exact ⟨front, htext, hfront, hslash⟩

/-! ## Stems and extensions -/

/-- The last point of a name separates the stem from the extension. -/
theorem splitExtension_append {stem extension : List Char} (hstem : stem ≠ [])
    (hpoint : '.' ∉ extension) :
    splitExtension (stem ++ '.' :: extension) = (stem, some extension) := by
  have hclear : ∀ char ∈ extension.reverse, (char != '.') = true := by
    intro char hmem
    rw [bne_iff_ne]
    rintro rfl
    exact hpoint (List.mem_reverse.mp hmem)
  have hreverse : (stem ++ '.' :: extension).reverse =
      extension.reverse ++ '.' :: stem.reverse := by simp
  have hdrop : (extension.reverse ++ '.' :: stem.reverse).dropWhile (· != '.') =
      '.' :: stem.reverse := by
    rw [List.dropWhile_append_of_pos hclear, List.dropWhile_cons_of_neg (by decide)]
  have htake : (extension.reverse ++ '.' :: stem.reverse).takeWhile (· != '.') =
      extension.reverse := by
    rw [List.takeWhile_append_of_pos hclear, List.takeWhile_cons_of_neg (by decide),
      List.append_nil]
  unfold splitExtension
  rw [hreverse, hdrop]
  split
  · rename_i heq
    cases heq
  · rename_i heq
    exact absurd (List.reverse_eq_nil_iff.mp (List.cons.inj heq).2) hstem
  · rename_i first rest _ heq
    obtain ⟨-, rfl⟩ := List.cons.inj heq
    rw [htake, List.reverse_reverse, List.reverse_reverse]

/-- A name with an extension is its stem, a point and the extension. -/
theorem exists_stem_of_splitExtension {name extension : List Char}
    (h : (splitExtension name).2 = some extension) :
    ∃ stem, stem ≠ [] ∧ '.' ∉ extension ∧ name = stem ++ '.' :: extension := by
  have hsplit : name.reverse.takeWhile (· != '.') ++ name.reverse.dropWhile (· != '.') =
      name.reverse := List.takeWhile_append_dropWhile
  have hhead := List.head?_dropWhile_not (· != '.') name.reverse
  unfold splitExtension at h
  split at h
  · cases h
  · cases h
  · rename_i first rest hne heq
    have hpoint : first = '.' := by
      rw [heq] at hhead
      simpa using hhead
    subst hpoint
    cases Option.some.inj h
    have hreverse : name = rest.reverse ++ '.' :: (name.reverse.takeWhile (· != '.')).reverse := by
      rw [heq] at hsplit
      have hwhole := congrArg List.reverse hsplit
      simpa using hwhole.symm
    refine ⟨rest.reverse, ?_, ?_, hreverse⟩
    · intro hempty
      exact hne rfl (List.reverse_eq_nil_iff.mp hempty)
    · intro hmem
      have hclear := List.mem_takeWhile_imp (List.mem_reverse.mp hmem)
      simp at hclear

/-- A path that ends in a file name. -/
structure Named (path : Path) (front : List Char) (name : String) : Prop where
  /-- The text is the front part and the name. -/
  text : path.text.toList = front ++ name.toList
  /-- The front part leads to a directory. -/
  front : IsFront front
  /-- The name is one of a file. -/
  name : IsFileName name.toList

section Named

variable {path : Path} {front : List Char} {name : String}

/-- The name at the end of the path is found. -/
theorem Named.splitName? (h : path.Named front name) :
    Path.splitName? path.text.toList = some (front, name.toList) := by
  rw [h.text, splitName?_append h.front h.name.ne_nil h.name.ne_dot h.name.slash,
    if_neg h.name.ne_dots]

/-- A file name is a path by itself. -/
theorem named_self (h : IsFileName name.toList) : Named ⟨name⟩ [] name := ⟨rfl, .inl rfl, h⟩

/-- The extension of the path is that of the name. -/
theorem Named.extension? (h : path.Named front name) :
    path.extension? = (⟨name⟩ : Path).extension? := by
  rw [Path.extension?, Path.extension?, h.splitName?, (named_self h.name).splitName?]
  rfl

/-- The extension is what stands after the last point, if something stands before it. -/
theorem Named.extension?_eq_some_iff (h : path.Named front name) {extension : String} :
    path.extension? = some extension ↔
      ∃ stem : String, stem ≠ "" ∧ '.' ∉ extension.toList ∧ name = stem ++ "." ++ extension := by
  rw [Path.extension?, h.splitName?, Option.bind_some]
  constructor
  · intro hextension
    obtain ⟨chars, hsplit, rfl⟩ := Option.map_eq_some_iff.mp hextension
    obtain ⟨stem, hstem, hpoint, hname⟩ := exists_stem_of_splitExtension hsplit
    have hchars : name.toList = stem ++ '.' :: chars := hname
    refine ⟨String.ofList stem, ?_, by rwa [String.toList_ofList], ?_⟩
    · rwa [ne_eq, ← String.toList_eq_nil_iff, String.toList_ofList]
    · rw [← String.toList_inj, hchars]
      simp
  · rintro ⟨stem, hstem, hpoint, rfl⟩
    have hsplit := splitExtension_append (mt String.toList_eq_nil_iff.mp hstem) hpoint
    simp [hsplit]

/-- The stem is what stands before the last point, if there is something. -/
theorem Named.stem? {stem extension : String} (h : path.Named front (stem ++ "." ++ extension))
    (hstem : stem ≠ "") (hpoint : '.' ∉ extension.toList) : path.stem? = some stem := by
  have hsplit := splitExtension_append (mt String.toList_eq_nil_iff.mp hstem) hpoint
  rw [Path.stem?, h.splitName?]
  simp [hsplit]

/-- The path of a name in a directory ends in the name. -/
theorem exists_named_join (path : Path) (h : IsFileName name.toList) :
    ∃ front, (path.join name).Named front name := by
  unfold join
  split
  · rename_i hopen
    refine ⟨path.text.toList, by simp, ?_, h⟩
    rw [Bool.or_eq_true, String.isEmpty_iff, decide_eq_true_eq] at hopen
    obtain hempty | hlast := hopen
    · exact .inl (by rw [hempty]; rfl)
    · exact .inr ⟨_, (List.dropLast_append_getLast? '/' hlast).symm⟩
  · exact ⟨path.text.toList ++ ['/'], by simp, .inr ⟨_, rfl⟩, h⟩

/-- The components of the path of a name in a directory are those of the directory and the name;
an empty one at the end is left out. -/
theorem exists_components_join (hne : path.text ≠ "") (hslash : '/' ∉ name.toList) :
    ∃ parents, (path.join name).components = parents ++ [name] ∧
      (path.components = parents ∨ path.components = parents ++ [""]) := by
  unfold join
  split
  · rename_i hopen
    have hlast : path.text.toList.getLast? = some '/' := by
      simpa [String.isEmpty_iff, hne] using hopen
    have htext := List.dropLast_append_getLast? '/' hlast
    refine ⟨(path.text.toList.dropLast.splitOn '/').map String.ofList, ?_, .inr ?_⟩
    · rw [components, String.toList_append, ← htext, List.append_assoc, List.singleton_append,
        List.splitOn_append_cons_self, List.splitOn_eq_singleton hslash]
      simp
    · rw [components, ← htext, List.splitOn_append_cons_self]
      simp
  · refine ⟨path.components, ?_, .inl rfl⟩
    have hjoined : (path.text ++ "/" ++ name).toList = path.text.toList ++ '/' :: name.toList := by
      simp
    rw [components, hjoined, List.splitOn_append_cons_self, List.splitOn_eq_singleton hslash]
    simp [components]

/-- The path of a name in a directory starts where the path of the directory does. -/
theorem isAbsolute_join (hne : path.text ≠ "") (name : String) :
    (path.join name).isAbsolute = path.isAbsolute := by
  obtain ⟨first, rest, hchars⟩ := List.exists_cons_of_ne_nil (mt String.toList_eq_nil_iff.mp hne)
  unfold join
  split <;> simp [isAbsolute, hchars]

/-- A path whose last component is a file name ends in it. -/
theorem exists_named_of_components {parents : List String}
    (h : path.components = parents ++ [name]) (hne : name ≠ "") (hdot : name ≠ ".")
    (hdots : name ≠ "..") : ∃ front, path.Named front name := by
  obtain ⟨front, htext, hfront, hslash⟩ := front_of_components h
  exact ⟨front, htext, hfront, mt String.toList_eq_nil_iff.mp hne,
    fun heq => hdot (String.toList_inj.mp heq), fun heq => hdots (String.toList_inj.mp heq), hslash⟩

/-- A path whose last component is the parent directory has no extension. -/
theorem extension?_of_parent {parents : List String} (h : path.components = parents ++ [".."]) :
    path.extension? = none := by
  obtain ⟨front, htext, hfront, hslash⟩ := front_of_components h
  rw [Path.extension?, htext, splitName?_append hfront (by decide) (by decide) hslash]
  rfl

/-- The file name of a path has characters and no slash. -/
theorem of_fileName?_eq_some (h : path.fileName? = some name) : name ≠ "" ∧ '/' ∉ name.toList := by
  unfold Path.fileName? Path.splitName? at h
  obtain ⟨⟨before, chars⟩, hsplit, rfl⟩ := Option.map_eq_some_iff.mp h
  simp only [Option.ite_none_left_eq_some, not_or] at hsplit
  obtain ⟨⟨hne, -⟩, hparts⟩ := hsplit
  obtain ⟨-, rfl⟩ := Prod.mk.inj (Option.some.inj hparts)
  rw [ne_eq, ← String.toList_eq_nil_iff, String.toList_ofList]
  refine ⟨hne, fun hmem => ?_⟩
  have hclear := List.mem_takeWhile_imp (List.mem_reverse.mp hmem)
  simp at hclear

/-- A stem with an extension is a file name. -/
theorem isFileName_of_stem {stem extension : String} (hstem : stem ≠ "") (hextension : extension ≠ "")
    (hslash : '/' ∉ stem.toList) (hslash' : '/' ∉ extension.toList) :
    IsFileName (stem ++ "." ++ extension).toList := by
  have hlong : 3 ≤ (stem ++ "." ++ extension).toList.length := by
    have hfirst := List.length_pos_iff.mpr (mt String.toList_eq_nil_iff.mp hstem)
    have hlast := List.length_pos_iff.mpr (mt String.toList_eq_nil_iff.mp hextension)
    have hpoint : ".".toList.length = 1 := rfl
    simp only [String.toList_append, List.length_append]
    omega
  refine ⟨?_, ?_, ?_, ?_⟩
  · intro heq
    simp [heq] at hlong
  · intro heq
    simp [heq] at hlong
  · intro heq
    simp [heq] at hlong
  · simp [hslash, hslash']

/-! ## Other extensions -/

variable {stem old : String}

/-- The text that is left without the old extension ends in the stem and a point. -/
theorem Named.take_text (h : path.Named front (stem ++ "." ++ old)) (hstem : stem ≠ "")
    (hpoint : '.' ∉ old.toList) :
    path.text.toList.take
        (path.text.toList.length - (path.extension?.map String.length).getD 0) =
      front ++ (stem.toList ++ ['.']) := by
  have hextension : path.extension? = some old :=
    h.extension?_eq_some_iff.mpr ⟨stem, hstem, hpoint, rfl⟩
  have htext : path.text.toList = front ++ (stem.toList ++ ['.']) ++ old.toList := by
    rw [h.text]
    simp
  rw [hextension, htext, Option.map_some, Option.getD_some]
  refine List.take_left' ?_
  simp only [List.length_append, String.length_toList]
  omega

/-- Another extension takes the place of the old one. -/
theorem Named.withExtension (h : path.Named front (stem ++ "." ++ old)) (hstem : stem ≠ "")
    (hpoint : '.' ∉ old.toList) (hdot : stem ≠ ".") (extension : String) :
    (path.withExtension extension).text.toList = front ++ (stem ++ "." ++ extension).toList := by
  have hchars : stem.toList ≠ [] := mt String.toList_eq_nil_iff.mp hstem
  have hslash : '/' ∉ stem.toList ++ ['.'] := by
    have hname := h.name.slash
    simp only [String.toList_append, List.mem_append, not_or] at hname
    simp [hname.1.1]
  have hdots : stem.toList ++ ['.'] ≠ ['.', '.'] := by
    intro heq
    have hsame : stem.toList ++ ['.'] = ['.'] ++ ['.'] := heq
    exact hdot (String.toList_inj.mp (List.append_cancel_right hsame))
  have hlong : stem.toList ++ ['.'] ≠ ['.'] := fun heq => hchars (List.append_left_eq_self.mp heq)
  have hsplit := splitName?_append h.front (by simp) hlong hslash
  rw [if_neg hdots] at hsplit
  have hstemSplit : splitExtension (stem.toList ++ ['.']) = (stem.toList, some []) :=
    splitExtension_append hchars List.not_mem_nil
  rw [Path.withExtension, h.take_text hstem hpoint, hsplit]
  simp [hstemSplit]

/-- Where the stem is a single point, the path ends in the parent directory. -/
theorem Named.withExtension_of_dot (h : path.Named front ("." ++ "." ++ old))
    (hpoint : '.' ∉ old.toList) (extension : String) :
    (path.withExtension extension).text.toList = front ++ ['.', '.'] := by
  have hsplit : Path.splitName? (front ++ ['.', '.']) = none :=
    splitName?_append h.front (by decide) (by decide) (by decide)
  have htake := h.take_text (by decide) hpoint
  have hkept : front ++ (".".toList ++ ['.']) = front ++ ['.', '.'] := rfl
  rw [Path.withExtension, htake, hkept, hsplit]
  simp

end Named

end HackVm.Path
