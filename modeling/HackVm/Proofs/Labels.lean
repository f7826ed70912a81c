import HackVm.Proofs.GeneratorStep

/-!
# Labels

The labels that code declares. Functions declare their own names, which have no dollar
sign. All other labels have one: a label of a function starts with the name of the
function, and a generated label ends in a number that is never used again. So labels with
a dollar sign never repeat, whatever the commands are.
-/

namespace HackVm

open Assembly Codegen

/-- The name that a line declares. -/
def Assembly.Line.label? : Line → Option String
  | label name => some name
  | _ => none

/-- The names that lines declare, in order. -/
def labelNames (lines : List Line) : List String := lines.filterMap Line.label?

@[simp] theorem labelNames_nil : labelNames [] = [] := rfl

@[simp] theorem labelNames_append (first second : List Line) :
    labelNames (first ++ second) = labelNames first ++ labelNames second :=
  List.filterMap_append

/-- Whether a name has a dollar sign. -/
def isMarked (name : String) : Bool := name.toList.contains '$'

section Marks

/-- Names of the grammar have no dollar sign. -/
theorem not_mem_of_isName {chars : List Char} (h : Grammar.isName chars = true) :
    '$' ∉ chars := by
  intro hmem
  rw [Grammar.isName, Bool.and_eq_true, List.all_eq_true] at h
  exact absurd (h.1 _ hmem) (by decide)

/-- A text is divided at its first mark. -/
theorem marked_inj {mark : Char} {first second other rest : List Char} (hfirst : mark ∉ first)
    (hother : mark ∉ other) (h : first ++ mark :: second = other ++ mark :: rest) :
    first = other ∧ second = rest := by
  have hsplit := congrArg (splitFirst? mark) h
  rw [splitFirst?_append _ hfirst, splitFirst?_append _ hother, Option.some.injEq,
    Prod.mk.injEq] at hsplit
  exact hsplit

/-- A text with a number behind a mark is divided at its last mark, whatever marks and digits stand
in front of it, because a number has no mark. -/
theorem numbered_inj {mark : Char} {first other : List Char} {number count : Nat}
    (hmark : mark.isDigit = false)
    (h : first ++ mark :: (toString number).toList = other ++ mark :: (toString count).toList) :
    first = other ∧ number = count := by
  have hplain : ∀ value : Nat, mark ∉ (toString value).toList.reverse := by
    intro value hmem
    rw [Word.isDigit_of_mem_toString (List.mem_reverse.mp hmem)] at hmark
    cases hmark
  have hchars := congrArg List.reverse h
  simp only [List.reverse_append, List.reverse_cons, List.append_assoc,
    List.singleton_append] at hchars
  obtain ⟨hnumber, hfirst⟩ := marked_inj (hplain number) (hplain count) hchars
  refine ⟨List.reverse_inj.mp hfirst, ?_⟩
  exact Word.toString_injective (String.toList_inj.mp (List.reverse_inj.mp hnumber))

/-- The characters of a generated label. -/
theorem toList_label (stem : String) (number : Nat) :
    (LabelSupply.label stem number).toList = stem.toList ++ '$' :: (toString number).toList := by
  simp [LabelSupply.label]

/-- The characters of a label of a function. -/
theorem toList_labelSymbol (function : Option String) (name : String) :
    (labelSymbol function name).toList = (function.getD "").toList ++ '$' :: name.toList := by
  simp [labelSymbol]

/-- The stems of generated labels. -/
def stems : List String := ["TRUE", "END", "RETURN"]

/-- Labels with the same text have the same stem and the same number, whatever the stems are. -/
theorem label_inj {stem other : String} {number count : Nat}
    (h : LabelSupply.label stem number = LabelSupply.label other count) :
    stem = other ∧ number = count := by
  have hchars := congrArg String.toList h
  rw [toList_label, toList_label] at hchars
  obtain ⟨hstem, hnumber⟩ := numbered_inj (by decide) hchars
  exact ⟨String.toList_inj.mp hstem, hnumber⟩

/-- Different stems with one number give different labels. -/
theorem nodup_map_label {used : List String} (hused : used.Nodup) (number : Nat) :
    (used.map fun stem => LabelSupply.label stem number).Nodup :=
  hused.map fun _ _ hsame => (label_inj hsame).1

/-- The function that a label belongs to has no dollar sign in its name. -/
theorem not_mem_function {function : Option String}
    (h : ∀ outer ∈ function, Grammar.isName outer.toList = true) :
    '$' ∉ (function.getD "").toList := by
  cases function with
  | none => decide
  | some outer => exact not_mem_of_isName (h outer rfl)

/-- Labels of functions with the same text have the same name and belong to the same function,
or both to none. -/
theorem labelSymbol_inj {function other : Option String} {name text : String}
    (hfunction : ∀ outer ∈ function, Grammar.isName outer.toList = true)
    (hother : ∀ outer ∈ other, Grammar.isName outer.toList = true)
    (h : labelSymbol function name = labelSymbol other text) : function = other ∧ name = text := by
  have hchars := congrArg String.toList h
  rw [toList_labelSymbol, toList_labelSymbol] at hchars
  obtain ⟨hsame, hname⟩ := marked_inj (not_mem_function hfunction) (not_mem_function hother) hchars
  refine ⟨?_, String.toList_inj.mp hname⟩
  cases function with
  | none =>
    cases other with
    | none => rfl
    | some outer => exact absurd hsame.symm (Grammar.ne_nil_of_isName (hother outer rfl))
  | some inner =>
    cases other with
    | none => exact absurd hsame (Grammar.ne_nil_of_isName (hfunction inner rfl))
    | some outer => exact congrArg some (String.toList_inj.mp hsame)

/-- A generated label is never a label of a function. -/
theorem label_ne_labelSymbol {stem name : String} {number : Nat} {function : Option String}
    (hstem : stem ∈ stems) (hfunction : ∀ outer ∈ function, Grammar.isName outer.toList = true)
    (hname : Grammar.isName name.toList = true) :
    LabelSupply.label stem number ≠ labelSymbol function name := by
  intro h
  have hplain : ∀ text ∈ stems, '$' ∉ text.toList := by decide
  have hchars := congrArg String.toList h
  rw [toList_label, toList_labelSymbol] at hchars
  obtain ⟨-, hnumber⟩ := marked_inj (hplain stem hstem) (not_mem_function hfunction) hchars
  obtain ⟨digit, rest, hdigits, hdigit⟩ := Word.exists_toString_eq_cons number
  rw [Grammar.isName, ← hnumber, hdigits, Bool.and_eq_true] at hname
  simp [hdigit] at hname

end Marks

/-- The code that starts a function declares the function only. -/
theorem labelNames_functionEntry (name : String) (locals : Word) :
    labelNames (functionEntry name locals) = [name] := by
  have hzeros : ∀ count, labelNames (List.replicate count pushData).flatten = [] := by
    intro count
    induction count with
    | zero => rfl
    | succ count ih =>
      rw [List.replicate_succ, List.flatten_cons, labelNames_append, ih]
      rfl
  have hrest : labelNames (if locals = 0 then []
      else .store .d .zero :: (List.replicate locals.toNat pushData).flatten) = [] := by
    split
    · rfl
    · exact hzeros locals.toNat
  exact congrArg (name :: ·) hrest

namespace Codegen.Generator

/-- The names that the code of a command declares. -/
def names (generator : Generator) : Command → List String
  | .operate .eq | .operate .gt | .operate .lt =>
    [LabelSupply.label "TRUE" generator.labels.allocated,
      LabelSupply.label "END" generator.labels.allocated]
  | .label name => [labelSymbol generator.function name]
  | .function name _ => [name]
  | .call _ _ => [LabelSupply.label "RETURN" generator.labels.allocated]
  | _ => []

/-- The code of an accepted command declares its names. -/
theorem labelNames_of_body {generator : Generator} {command : Command} {lines : List Line}
    (h : (generator.body command).2 = .ok lines) : labelNames lines = generator.names command := by
  cases command with
  | operate operation =>
    cases h
    cases operation <;> rfl
  | push segment index =>
    obtain ⟨-, -, rfl⟩ | ⟨access, haccess, rfl⟩ := push_of_ok h
    · rfl
    · cases haccess <;> rfl
  | pop segment index =>
    obtain ⟨access, haccess, rfl⟩ := pop_of_ok h
    cases haccess <;> rfl
  | label name =>
    obtain ⟨-, rfl⟩ := declare_of_ok h
    rfl
  | goto name | ifGoto name =>
    cases h
    rfl
  | function name locals =>
    cases h
    exact labelNames_functionEntry name locals
  | call name arguments =>
    obtain ⟨-, rfl⟩ := call_of_ok h
    rfl
  | ret =>
    rw [leave_of_ok h]
    rfl

/-- A remark declares nothing. -/
theorem labelNames_remark (generator : Generator) (text : String) :
    labelNames (generator.remark text) = [] := by
  unfold remark
  split <;> rfl

/-- The block of an accepted command declares its names. -/
theorem labelNames_of_lower {generator : Generator} {command : Command} {block : List Line}
    (h : (generator.lower command).result = .ok block) :
    labelNames block = generator.names command := by
  obtain ⟨lines, hlines, rfl⟩ := lower_of_ok h
  rw [labelNames_append, labelNames_remark, List.nil_append, labelNames_of_body hlines]

/-- A label with a dollar sign that is new after some steps of the generator: its number
was handed out, or it was entered into the declared labels. -/
inductive Introduced (before after : Generator) : String → Prop where
  /-- A generated label. -/
  | generated {stem : String} {number : Nat} (hstem : stem ∈ stems)
      (hlow : before.labels.allocated ≤ number) (hhigh : number < after.labels.allocated) :
      Introduced before after (LabelSupply.label stem number)
  /-- A label of a function. -/
  | ofFunction {function : Option String} {name : String}
      (hfunction : ∀ outer ∈ function, Grammar.isName outer.toList = true)
      (hname : Grammar.isName name.toList = true)
      (hnew : labelSymbol function name ∉ before.declared)
      (hold : labelSymbol function name ∈ after.declared) :
      Introduced before after (labelSymbol function name)

/-- Whether a generator has handed out and declared all that another one has. -/
structure Extends (before after : Generator) : Prop where
  /-- Numbers count up. -/
  labels : before.labels.allocated ≤ after.labels.allocated
  /-- Declared labels stay declared. -/
  declared : ∀ name ∈ before.declared, name ∈ after.declared

/-- A generator extends itself. -/
theorem Extends.refl (generator : Generator) : Extends generator generator :=
  ⟨Nat.le_refl _, fun _ hn => hn⟩

/-- Extensions compose. -/
theorem Extends.trans {before middle after : Generator} (hfirst : Extends before middle)
    (hsecond : Extends middle after) : Extends before after :=
  ⟨Nat.le_trans hfirst.labels hsecond.labels,
    fun name hn => hsecond.declared name (hfirst.declared name hn)⟩

/-- A label that is new in a part of the steps is new in all of them. -/
theorem Introduced.mono {first before after last : Generator} {name : String}
    (h : Introduced before after name) (hfirst : Extends first before)
    (hlast : Extends after last) : Introduced first last name := by
  cases h with
  | generated hstem hlow hhigh =>
    exact .generated hstem (Nat.le_trans hfirst.labels hlow) (Nat.lt_of_lt_of_le hhigh hlast.labels)
  | ofFunction hfunction hname hnew hold =>
    exact .ofFunction hfunction hname (fun hn => hnew (hfirst.declared _ hn))
      (hlast.declared _ hold)

/-- No label is new twice. -/
theorem Introduced.not_again {first middle last : Generator} {name : String}
    (hbefore : Introduced first middle name) : ¬ Introduced middle last name := by
  intro hafter
  cases hbefore with
  | generated hstem hlow hhigh =>
    generalize hname : LabelSupply.label _ _ = name at hafter
    cases hafter with
    | generated hstem' hlow' hhigh' =>
      have := (label_inj hname).2
      omega
    | ofFunction hfunction' hname' => exact label_ne_labelSymbol hstem hfunction' hname' hname
  | ofFunction hfunction hname hnew hold =>
    generalize hsame : labelSymbol _ _ = name at hafter
    cases hafter with
    | generated hstem' => exact label_ne_labelSymbol hstem' hfunction hname hsame.symm
    | ofFunction hfunction' hname' hnew' =>
      rw [hsame] at hold
      exact hnew' hold

/-- Labels that are new have a dollar sign. -/
theorem Introduced.isMarked {before after : Generator} {name : String}
    (h : Introduced before after name) : isMarked name = true := by
  cases h with
  | generated => simp [HackVm.isMarked, toList_label]
  | ofFunction => simp [HackVm.isMarked, toList_labelSymbol]

/-- The names that some steps of the generator declare: those with a dollar sign are new
and different from each other, and the others are the names of functions. -/
structure Declares (before after : Generator) (names functions : List String) : Prop where
  /-- The generator only grows. -/
  grows : Extends before after
  /-- No name with a dollar sign is declared twice. -/
  nodup : (names.filter HackVm.isMarked).Nodup
  /-- Names with a dollar sign are new. -/
  introduced : ∀ name ∈ names, HackVm.isMarked name = true → Introduced before after name
  /-- Names without a dollar sign are those of functions. -/
  functions : names.filter (fun name => !HackVm.isMarked name) = functions

/-- Declaring nothing. -/
theorem Declares.refl (generator : Generator) : Declares generator generator [] [] :=
  ⟨.refl generator, by simp, by simp, rfl⟩

/-- Declaring names and then others. -/
theorem Declares.append {before middle after : Generator}
    {first second functions others : List String}
    (hfirst : Declares before middle first functions)
    (hsecond : Declares middle after second others) :
    Declares before after (first ++ second) (functions ++ others) := by
  refine ⟨hfirst.grows.trans hsecond.grows, ?_, ?_, ?_⟩
  · rw [List.filter_append, List.nodup_append]
    refine ⟨hfirst.nodup, hsecond.nodup, ?_⟩
    rintro name hname other hother rfl
    rw [List.mem_filter] at hname hother
    exact (hfirst.introduced name hname.1 hname.2).not_again
      (hsecond.introduced name hother.1 hother.2)
  · intro name hname hmarked
    obtain hname | hname := List.mem_append.mp hname
    · exact (hfirst.introduced name hname hmarked).mono (.refl before) hsecond.grows
    · exact (hsecond.introduced name hname hmarked).mono hfirst.grows (.refl after)
  · rw [List.filter_append, hfirst.functions, hsecond.functions]

/-- Names that are new and different from each other are declared. -/
theorem declares_of_introduced {before after : Generator} {names : List String}
    (hgrows : Extends before after) (hnodup : names.Nodup)
    (h : ∀ name ∈ names, Introduced before after name) : Declares before after names [] := by
  refine ⟨hgrows, hnodup.filter _, fun name hname _ => h name hname, ?_⟩
  rw [List.filter_eq_nil_iff]
  intro name hname
  simp [(h name hname).isMarked]

/-- A generated label is new. -/
theorem introduced_label (generator : Generator) {after : Generator} {stem : String}
    (hstem : stem ∈ stems) (hafter : after.labels = generator.labels.advance) :
    Introduced generator after (LabelSupply.label stem generator.labels.allocated) := by
  refine .generated hstem (Nat.le_refl _) ?_
  rw [hafter]
  exact Nat.lt_succ_self _

/-- A step that hands out nothing declares nothing. -/
theorem declares_nothing {before after : Generator} (hlabels : after.labels = before.labels)
    (hdeclared : after.declared = before.declared) : Declares before after [] [] := by
  refine declares_of_introduced ⟨by rw [hlabels], fun name hn => ?_⟩ .nil (by simp)
  rw [hdeclared]
  exact hn

/-- A step that hands out one number declares labels with this number. -/
theorem declares_numbered {before after : Generator} (used : List String)
    (hlabels : after.labels = before.labels.advance)
    (hdeclared : after.declared = before.declared) (hused : used.Nodup)
    (hstems : ∀ stem ∈ used, stem ∈ stems) :
    Declares before after
      (used.map fun stem => LabelSupply.label stem before.labels.allocated) [] := by
  refine declares_of_introduced ⟨?_, fun name hn => by rw [hdeclared]; exact hn⟩
    (nodup_map_label hused _) ?_
  · rw [hlabels]
    exact Nat.le_succ _
  · intro name hname
    obtain ⟨stem, hstem, rfl⟩ := List.mem_map.mp hname
    exact introduced_label before (hstems stem hstem) hlabels

/-- The names of a well placed command that is accepted. -/
theorem declares_of_lower {generator : Generator} {command : Command} {block : List Line}
    (hplace : (generator.place command).WellPlaced)
    (h : (generator.lower command).result = .ok block) :
    Declares generator (generator.after command) (labelNames block)
      (generator.place command).functionName?.toList := by
  rw [labelNames_of_lower h]
  have haccepts := lower_isOk_iff.mp ⟨block, h⟩
  obtain ⟨hcommand, hfunction⟩ := hplace
  cases command with
  | operate operation =>
    cases operation with
    | eq | gt | lt =>
      exact declares_numbered ["TRUE", "END"] (by rfl) (by rfl) (by decide) (by decide)
    | _ => exact declares_nothing rfl rfl
  | push segment index | pop segment index => exact declares_nothing rfl rfl
  | label name =>
    refine declares_of_introduced ⟨Nat.le_refl _, fun other hother => ?_⟩
      (List.nodup_singleton _) ?_
    · exact Std.TreeSet.mem_insert.mpr (.inr hother)
    · rw [names, List.forall_mem_singleton]
      exact .ofFunction hfunction hcommand haccepts Std.TreeSet.mem_insert_self
  | goto name | ifGoto name | ret => exact declares_nothing rfl rfl
  | function name locals =>
    have hplain : HackVm.isMarked name = false := by
      simpa [HackVm.isMarked] using not_mem_of_isName hcommand
    refine ⟨⟨Nat.le_refl _, fun _ hn => hn⟩, ?_, ?_, ?_⟩
    · simp [names, hplain]
    · simp [names, hplain]
    · simp [names, hplain, Site.functionName?, place]
  | call name arguments =>
    exact declares_numbered ["RETURN"] (by rfl) (by rfl) (by decide) (by decide)

/-- The names of well placed commands that are accepted. -/
theorem declares_of_lowerSites {generator final : Generator} {sites : List Site}
    {blocks : List (List Line)} (hsites : ∀ site ∈ sites, site.WellPlaced)
    (h : generator.lowerSites sites = .ok (final, blocks)) :
    Declares generator final (labelNames blocks.flatten)
      (sites.filterMap Site.functionName?) := by
  induction sites generalizing generator blocks with
  | nil =>
    cases h
    exact declares_nothing rfl rfl
  | cons site sites ih =>
    rw [List.forall_mem_cons] at hsites
    rw [lowerSites] at h
    cases hresult : ((generator.visit site).lower site.command).result with
    | error error =>
      rw [hresult] at h
      cases h
    | ok block =>
      rw [hresult] at h
      obtain ⟨rest, hrest, hpair⟩ := exists_of_map_eq_ok h
      cases hpair
      have hvisit : Declares generator (generator.visit site) [] [] := declares_nothing rfl rfl
      rw [generator_of_lower hresult] at hrest
      have hboth := (hvisit.append (declares_of_lower hsites.1 hresult)).append (ih hsites.2 hrest)
      have hplace : (generator.visit site).place site.command = site := rfl
      rw [List.nil_append, List.nil_append, ← labelNames_append, ← List.flatten_cons, hplace]
        at hboth
      rw [List.filterMap_cons]
      cases hname : site.functionName? with
      | none =>
        rw [hname] at hboth
        exact hboth
      | some name =>
        rw [hname] at hboth
        exact hboth

/-- The code that starts a program declares one return label. -/
theorem labelNames_of_bootstrap {generator : Generator} {prologue : List Line}
    (h : generator.bootstrap.result = .ok prologue) :
    labelNames prologue = [LabelSupply.label "RETURN" generator.labels.allocated] := by
  obtain ⟨-, rfl⟩ := bootstrap_of_ok h
  rw [labelNames_append, labelNames_append, labelNames_append, labelNames_remark,
    labelNames_remark]
  rfl

/-- The names of the code that starts a program. -/
theorem declares_of_bootstrap {generator : Generator} {prologue : List Line}
    (h : generator.bootstrap.result = .ok prologue) :
    Declares generator generator.bootstrap.generator (labelNames prologue) [] := by
  rw [generator_of_bootstrap h, labelNames_of_bootstrap h]
  exact declares_numbered ["RETURN"] (by rfl) (by rfl) (by decide) (by decide)

end Codegen.Generator

/-- The names that a listing declares: those with a dollar sign do not repeat, and the
others are the names of the functions. -/
theorem Listing.labelNames_lines {config : Config} {bootstrap : Bool} {sites : List Site}
    {listing : Listing} (hsites : ∀ site ∈ sites, site.WellPlaced)
    (h : Listing.ofSites config bootstrap sites = .ok listing) :
    ((labelNames listing.lines).filter isMarked).Nodup ∧
      (labelNames listing.lines).filter (fun name => !isMarked name) =
        sites.filterMap Site.functionName? := by
  obtain ⟨generator, final, hstart, hblocks⟩ := Listing.of_ofSites h
  have hcode := Generator.declares_of_lowerSites hsites hblocks
  have hprologue : Generator.Declares { config := config } generator
      (labelNames listing.prologue) [] := by
    unfold Listing.start at hstart
    split at hstart
    · obtain ⟨prologue, hresult, hpair⟩ := exists_of_map_eq_ok hstart
      cases hpair
      exact Generator.declares_of_bootstrap hresult
    · rw [Except.ok.injEq, Prod.mk.injEq] at hstart
      rw [← hstart.1, ← hstart.2]
      exact .refl _
  have hall := hprologue.append hcode
  rw [List.nil_append, ← labelNames_append] at hall
  exact ⟨hall.nodup, hall.functions⟩

end HackVm
