import HackVm.Proofs.Erasure
import HackVm.Proofs.FreshLabels
import Mathlib.Data.List.Forall2

/-!
# Units up to the numbers of labels

The code of a unit does not depend on the units before it, except for the numbers of generated
labels. Two generators that enter a unit forget the functions they were in. From then on they
accept and refuse the same commands, unless one of them knows a label that the unit declares. The
lines of one are those of the other with one and the same difference added to the numbers of all
generated labels. Labels and functions of the unit may be named like the stems of generated labels:
their symbols are never taken for generated ones.
-/

namespace HackVm

open Assembly Codegen

/-- The forms in which the text of a line mentions a symbol. -/
def mentions : List (String → String) := [declaration, reference]

/-- What a text becomes if a difference is added to the numbers of generated labels. -/
inductive Renumbered (shift : Int) : String → String → Prop where
  /-- A text that mentions a generated label mentions the one with the other number. -/
  | mention {form : String → String} {stem : String} {number count : Nat} (hform : form ∈ mentions)
      (hstem : stem ∈ stems) (hcount : (count : Int) = number + shift) :
      Renumbered shift (form (LabelSupply.label stem number)) (form (LabelSupply.label stem count))
  /-- A text that mentions no generated label stays. -/
  | other {text : String} (hother : ∀ form ∈ mentions, ∀ stem ∈ stems, ∀ number,
      text ≠ form (LabelSupply.label stem number)) : Renumbered shift text text

section Texts

/-- A text mentions one symbol at most, in one form. -/
theorem mention_inj {form other : String → String} {symbol name : String}
    (hform : form ∈ mentions) (hother : other ∈ mentions) (h : form symbol = other name) :
    form = other ∧ symbol = name := by
  simp only [mentions, List.mem_cons, List.not_mem_nil, or_false] at hform hother
  have hchars := congrArg String.toList h
  obtain rfl | rfl := hform <;> obtain rfl | rfl := hother <;>
    simp [declaration, reference] at hchars
  · exact ⟨rfl, String.toList_inj.mp hchars⟩
  · exact ⟨rfl, String.toList_inj.mp hchars⟩

/-- A text mentions one generated label at most. -/
theorem mention_label_inj {form other : String → String} {stem text : String} {number count : Nat}
    (hform : form ∈ mentions) (hother : other ∈ mentions)
    (h : form (LabelSupply.label stem number) = other (LabelSupply.label text count)) :
    form = other ∧ stem = text ∧ number = count := by
  obtain ⟨hsame, hlabel⟩ := mention_inj hform hother h
  exact ⟨hsame, label_inj hlabel⟩

/-- What a text becomes is determined, whatever symbols look like. -/
theorem Renumbered.unique {shift : Int} {text first second : String}
    (hfirst : Renumbered shift text first) (hsecond : Renumbered shift text second) :
    first = second := by
  cases hfirst with
  | @mention form stem number count hform hstem hcount =>
    generalize htext : form (LabelSupply.label stem number) = text at hsecond
    cases hsecond with
    | mention hform' hstem' hcount' =>
      obtain ⟨rfl, rfl, rfl⟩ := mention_label_inj hform hform' htext
      congr 2
      omega
    | other hother => exact absurd htext.symm (hother form hform stem hstem number)
  | other hother =>
    cases hsecond with
    | mention hform hstem => exact absurd rfl (hother _ hform _ hstem _)
    | other => rfl

end Texts

/-- Lines that are the same or mention labels with the same stem and two given numbers. -/
inductive Assembly.Line.Recounted (number count : Nat) : Line → Line → Prop where
  /-- A generated label is declared. -/
  | label {stem : String} (hstem : stem ∈ stems) :
      Recounted number count (.label (LabelSupply.label stem number))
        (.label (LabelSupply.label stem count))
  /-- A generated label is loaded. -/
  | symbol {stem : String} (hstem : stem ∈ stems) :
      Recounted number count (.symbol (LabelSupply.label stem number))
        (.symbol (LabelSupply.label stem count))
  /-- A line stays. -/
  | same (line : Line) : Recounted number count line line

/-- A line may stay. -/
instance Assembly.Line.reflRecounted (number count : Nat) :
    Std.Refl (Line.Recounted number count) := ⟨.same⟩

/-- Whether two results are the same error, or both are results that are related. -/
inductive Agree {α : Type} (related : α → α → Prop) : Except Error α → Except Error α → Prop where
  /-- The same error. -/
  | error (error : Error) : Agree related (.error error) (.error error)
  /-- Results that are related. -/
  | ok {first second : α} (h : related first second) : Agree related (.ok first) (.ok second)

/-- Whether a result is not the refusal of a repeated label. -/
def Unrepeated {α : Type} (result : Except Error α) : Prop :=
  ∀ symbol, result ≠ .error (.duplicateLabel symbol)

section Results

variable {α : Type} {related : α → α → Prop} {first second : Except Error α}

/-- A result agrees with itself. -/
theorem Agree.same (hrefl : ∀ value, related value value) (result : Except Error α) :
    Agree related result result := by
  cases result with
  | error error => exact .error error
  | ok value => exact .ok (hrefl value)

/-- Results that agree are related in every way that follows. -/
theorem Agree.imp {weaker : α → α → Prop} (h : Agree related first second)
    (himp : ∀ value other, first = .ok value → second = .ok other → related value other →
      weaker value other) : Agree weaker first second := by
  cases h with
  | error error => exact .error error
  | ok h => exact .ok (himp _ _ rfl rfl h)

/-- Results that agree are changed in a way that keeps them related. -/
theorem Agree.map {apply change : α → α} (h : Agree related first second)
    (hkeeps : ∀ value other, related value other → related (apply value) (change other)) :
    Agree related (first.map apply) (second.map change) := by
  cases h with
  | error error => exact .error error
  | ok h => exact .ok (hkeeps _ _ h)

/-- A result that is changed refuses the same labels. -/
theorem unrepeated_map_iff {apply : α → α} : Unrepeated (first.map apply) ↔ Unrepeated first := by
  cases first with
  | error error => exact Iff.rfl
  | ok value => exact ⟨fun _ _ => nofun, fun _ _ => nofun⟩

/-- A success is not the refusal of a repeated label. -/
theorem unrepeated_of_isOk (h : first.isOk = true) : Unrepeated first := by
  rintro symbol rfl
  cases h

end Results

namespace Codegen

/-- The code of a comparison with other numbers. -/
theorem recounted_compareTop (jump : Jump) (number count : Nat) :
    List.Forall₂ (Line.Recounted number count)
      (compareTop jump (LabelSupply.label "TRUE" number) (LabelSupply.label "END" number))
      (compareTop jump (LabelSupply.label "TRUE" count) (LabelSupply.label "END" count)) := by
  have htaken : "TRUE" ∈ stems := by decide
  have hmerge : "END" ∈ stems := by decide
  simp [compareTop, Line.Recounted.same, Line.Recounted.label htaken,
    Line.Recounted.label hmerge, Line.Recounted.symbol htaken, Line.Recounted.symbol hmerge]

/-- The code of a call with another number. -/
theorem recounted_callFunction (name : String) (arguments : Word) (number count : Nat) :
    List.Forall₂ (Line.Recounted number count)
      (callFunction name arguments (LabelSupply.label "RETURN" number))
      (callFunction name arguments (LabelSupply.label "RETURN" count)) := by
  have hreturn : "RETURN" ∈ stems := by decide
  refine List.rel_append ?_ (.cons (.label hreturn) .nil)
  refine List.rel_append (List.rel_append (List.rel_append (List.rel_append ?_ ?_) ?_) ?_) ?_
  · exact .cons (.symbol hreturn) (List.forall₂_refl _)
  all_goals exact List.forall₂_refl _

namespace Generator

/-- Whether generators are in the same place with the same options. They may have handed out
different numbers and know different labels. -/
structure Alike (first second : Generator) : Prop where
  /-- The options are the same. -/
  config : first.config = second.config
  /-- The units are the same. -/
  unit : first.unit = second.unit
  /-- The functions are the same. -/
  function : first.function = second.function

/-- How a generator has grown: by how many numbers and by which labels. -/
structure Grows (taken : Nat) (added : List String) (before after : Generator) : Prop where
  /-- So many numbers were handed out. -/
  numbers : after.labels.allocated = before.labels.allocated + taken
  /-- These labels were declared, and no label was forgotten. -/
  declared : ∀ symbol, symbol ∈ after.declared ↔ symbol ∈ before.declared ∨ symbol ∈ added
  /-- None of them was declared before. -/
  fresh : ∀ symbol ∈ added, symbol ∉ before.declared

/-- The symbols that a command in a function adds to the declared labels. -/
def scopedSymbols (function : Option String) : Command → List String
  | .label name => [labelSymbol function name]
  | _ => []

section Growth

variable {before middle after : Generator}

/-- A generator that stays has not grown. -/
theorem Grows.refl (generator : Generator) : Grows 0 [] generator generator :=
  ⟨rfl, by simp, by simp⟩

/-- Growing twice. -/
theorem Grows.trans {taken more : Nat} {added others : List String}
    (hfirst : Grows taken added before middle) (hsecond : Grows more others middle after) :
    Grows (taken + more) (added ++ others) before after := by
  refine ⟨?_, fun symbol => ?_, fun symbol hmem => ?_⟩
  · rw [hsecond.numbers, hfirst.numbers, Nat.add_assoc]
  · rw [hsecond.declared, hfirst.declared, List.mem_append, or_assoc]
  · obtain hmem | hmem := List.mem_append.mp hmem
    · exact hfirst.fresh symbol hmem
    · exact fun hold => hsecond.fresh symbol hmem ((hfirst.declared symbol).mpr (.inl hold))

/-- A generator that enters a unit knows the same labels, and goes on with the same numbers. -/
theorem Grows.of_enterUnit {taken : Nat} {added : List String} {name : String}
    (h : Grows taken added (before.enterUnit name) after) : Grows taken added before after :=
  ⟨h.numbers, h.declared, h.fresh⟩

/-- How a command that is accepted makes the generator grow. -/
theorem grows_of_lower {generator : Generator} {command : Command} {block : List Line}
    (h : (generator.lower command).result = .ok block) :
    Grows (if command.takesNumber then 1 else 0) (scopedSymbols generator.function command)
      generator (generator.lower command).generator := by
  have haccepts := lower_isOk_iff.mp ⟨block, h⟩
  rw [generator_of_lower h]
  refine ⟨allocated_after generator command, ?_, ?_⟩
  · cases command with
    | label name =>
      intro symbol
      rw [after, Std.TreeSet.mem_insert, scopedSymbols, List.mem_singleton, or_comm,
        Std.compare_eq_iff_eq, @eq_comm _ symbol]
    | operate operation => cases operation <;> simp [after, scopedSymbols]
    | _ => simp [after, scopedSymbols]
  · cases command with
    | label name =>
      rw [scopedSymbols, List.forall_mem_singleton]
      exact haccepts
    | _ => simp [scopedSymbols]

end Growth

variable {first second : Generator} {command : Command}

/-- Generators in the same place meet a command at the same site. -/
theorem Alike.place (h : Alike first second) (command : Command) :
    first.place command = second.place command := by
  rw [Generator.place, Generator.place, h.unit, h.function]

/-- Generators in the same place stay so. -/
theorem Alike.lower (h : Alike first second) (command : Command) :
    Alike (first.lower command).generator (second.lower command).generator := by
  obtain ⟨hconfig, hunit, hfunction⟩ := first.lower_place command
  obtain ⟨hconfig', hunit', hfunction'⟩ := second.lower_place command
  exact ⟨by rw [hconfig, hconfig', h.config], by rw [hunit, hunit', h.unit],
    by rw [hfunction, hfunction', h.function]⟩

/-- A label that is not refused has its declaration as code. -/
theorem declare_of_unrepeated {generator : Generator} {name : String}
    (h : Unrepeated (generator.declare name).2) :
    (generator.declare name).2 = .ok [.label (labelSymbol generator.function name)] := by
  unfold declare at h ⊢
  dsimp only at h ⊢
  split at h
  · exact absurd rfl (h _)
  · rename_i hnew
    rw [if_neg hnew]

/-- Generators in the same place give the same code up to a number, or refuse a command for the
same reason. They differ in their numbers and declared labels, and most commands read neither. -/
theorem Alike.agree_body (h : Alike first second) (command : Command)
    (hfirst : Unrepeated (first.body command).2) (hsecond : Unrepeated (second.body command).2) :
    Agree (List.Forall₂ (Line.Recounted first.labels.allocated second.labels.allocated))
      (first.body command).2 (second.body command).2 := by
  obtain ⟨config, unit, function, labels, declared⟩ := first
  obtain ⟨_, _, _, counts, known⟩ := second
  obtain ⟨rfl, rfl, rfl⟩ := h
  cases command with
  | operate operation =>
    cases operation with
    | eq | gt | lt => exact .ok (recounted_compareTop _ _ _)
    | _ => exact .ok (List.forall₂_refl _)
  | push segment index => exact .same List.forall₂_refl _
  | pop segment index => exact .same List.forall₂_refl _
  | label name =>
    rw [body, body, declare_of_unrepeated hfirst, declare_of_unrepeated hsecond]
    exact .ok (List.forall₂_refl _)
  | goto name | ifGoto name => exact .ok (List.forall₂_refl _)
  | function name locals => exact .ok (List.forall₂_refl _)
  | call name arguments =>
    simp only [body, call]
    split
    · exact .error _
    · exact .ok (recounted_callFunction _ _ _ _)
  | ret => exact .same List.forall₂_refl _

/-- A generated label among the names of a command has the number of the generator. -/
theorem number_of_mem_names {stem : String} {number : Nat}
    (hplace : (first.place command).WellPlaced) (hstem : stem ∈ stems)
    (h : LabelSupply.label stem number ∈ first.names command) :
    number = first.labels.allocated := by
  obtain ⟨hcommand, hfunction⟩ := hplace
  cases command with
  | operate operation =>
    cases operation with
    | eq | gt | lt =>
      rw [names, List.mem_cons, List.mem_singleton] at h
      obtain h | h := h
      · exact (label_inj h).2
      · exact (label_inj h).2
    | _ => cases h
  | label name =>
    exact absurd (List.mem_singleton.mp h) (label_ne_labelSymbol hstem hfunction hcommand)
  | function name locals =>
    have hplain : '$' ∉ name.toList := not_mem_of_isName hcommand
    rw [← List.mem_singleton.mp h, toList_label] at hplain
    simp at hplain
  | call name arguments => exact (label_inj (List.mem_singleton.mp h)).2
  | push segment index | pop segment index | goto name | ifGoto name | ret => cases h

/-- All generated labels that the code of a command mentions have the number of the generator. -/
theorem number_of_mention {lines : List Line} {line : Line} {form : String → String}
    {stem : String} {number : Nat} (hcodes : first.Codes command lines)
    (hplace : (first.place command).WellPlaced) (hline : line ∈ lines) (hform : form ∈ mentions)
    (hstem : stem ∈ stems) (htext : line.text = form (LabelSupply.label stem number)) :
    number = first.labels.allocated := by
  have hwithin := hcodes.within line hline
  refine number_of_mem_names hplace hstem ?_
  simp only [mentions, List.mem_cons, List.not_mem_nil, or_false] at hform
  obtain rfl | rfl := hform
  · rw [hwithin.text_eq_declaration_iff] at htext
    rw [← hcodes.names]
    exact List.mem_filterMap.mpr ⟨line, hline, by rw [htext]; rfl⟩
  · rw [hwithin.text_eq_reference_iff (by simp [toList_label])] at htext
    exact mem_names_of_label hcodes hplace hstem (htext ▸ hline)

/-- Code of two generators that differs in the numbers of labels at most has texts that are
renumbered. Where a line mentions a label of both, they have the same number. -/
theorem renumbered_of_recounted {lines others : List Line} (hlines : first.Codes command lines)
    (hothers : second.Codes command others) (hfirst : (first.place command).WellPlaced)
    (hsecond : (second.place command).WellPlaced)
    (h : List.Forall₂ (Line.Recounted first.labels.allocated second.labels.allocated)
      lines others) :
    List.Forall₂ (Renumbered (second.labels.allocated - first.labels.allocated))
      (lines.map Line.text) (others.map Line.text) := by
  rw [List.forall₂_map_left_iff, List.forall₂_map_right_iff, List.forall₂_iff_zip]
  refine ⟨h.length_eq, fun {line other} hmem => ?_⟩
  obtain ⟨hline, hother⟩ := List.of_mem_zip hmem
  have hcount : (second.labels.allocated : Int) = first.labels.allocated +
      (second.labels.allocated - first.labels.allocated) := by omega
  cases List.forall₂_zip h hmem with
  | label hstem =>
    have hform : declaration ∈ mentions := List.mem_cons_self
    exact .mention hform hstem hcount
  | symbol hstem =>
    have hform : reference ∈ mentions := List.mem_cons_of_mem _ List.mem_cons_self
    exact .mention hform hstem hcount
  | same =>
    by_cases hplain : ∀ form ∈ mentions, ∀ stem ∈ stems, ∀ number,
        line.text ≠ form (LabelSupply.label stem number)
    · exact .other hplain
    · push Not at hplain
      obtain ⟨form, hform, stem, hstem, number, htext⟩ := hplain
      have hnumber := number_of_mention hlines hfirst hline hform hstem htext
      have hsame := number_of_mention hothers hsecond hother hform hstem htext
      rw [htext]
      exact .mention hform hstem (by omega)

/-- Lines whose texts are those of other lines with other numbers. -/
def RenumberedLines (first second : Generator) (lines others : List Line) : Prop :=
  List.Forall₂ (Renumbered (second.labels.allocated - first.labels.allocated))
    (lines.map Line.text) (others.map Line.text)

/-- Blocks of lines with other numbers follow each other. -/
theorem RenumberedLines.append {lines others rest more : List Line}
    (h : RenumberedLines first second lines others)
    (hrest : RenumberedLines first second rest more) :
    RenumberedLines first second (lines ++ rest) (others ++ more) := by
  rw [RenumberedLines, List.map_append, List.map_append]
  exact List.rel_append h hrest

/-- The difference of the numbers stays if both generators hand out as many. -/
theorem RenumberedLines.of_grows {taken : Nat} {added : List String} {later after : Generator}
    {lines others : List Line} (hfirst : Grows taken added first later)
    (hsecond : Grows taken added second after) (h : RenumberedLines later after lines others) :
    RenumberedLines first second lines others := by
  have hshift : (after.labels.allocated : Int) - later.labels.allocated =
      second.labels.allocated - first.labels.allocated := by
    rw [hfirst.numbers, hsecond.numbers]
    omega
  rwa [RenumberedLines, hshift] at h

/-- Generators in the same place give blocks with other numbers, or refuse a command for the same
reason. -/
theorem Alike.agree_lower {config : Config} (h : Alike first second)
    (hnamed : first.WellNamed config) (hcommand : command.Grammatical)
    (hfirst : Unrepeated (first.lower command).result)
    (hsecond : Unrepeated (second.lower command).result) :
    Agree (RenumberedLines first second) (first.lower command).result
      (second.lower command).result := by
  have hplace : (first.place command).WellPlaced := ⟨hcommand, hnamed.function⟩
  have hother : (second.place command).WellPlaced := h.place command ▸ hplace
  have hremark : second.remark command.text = first.remark command.text := by
    rw [remark, remark, h.config]
  have hbody := h.agree_body command (unrepeated_map_iff.mp hfirst) (unrepeated_map_iff.mp hsecond)
  have hblocks : Agree (List.Forall₂ (Line.Recounted first.labels.allocated
      second.labels.allocated)) (first.lower command).result (second.lower command).result := by
    refine hbody.map fun lines others hlines => ?_
    rw [hremark]
    exact List.rel_append (List.forall₂_refl _) hlines
  refine hblocks.imp fun block other hblock hsame hrecounted => ?_
  exact renumbered_of_recounted (codes_of_lower hblock) (codes_of_lower hsame) hplace hother
    hrecounted

/-- If commands do not repeat a label, the first of them does not. -/
theorem unrepeated_lower {commands : List Command}
    (h : Unrepeated (first.lowerAll (command :: commands)).result) :
    Unrepeated (first.lower command).result := by
  intro symbol hrefused
  exact h symbol (lowerAll_cons_of_error hrefused commands).2

/-- If commands do not repeat a label, those after the first do not. -/
theorem unrepeated_lowerAll {commands : List Command} {block : List Line}
    (hblock : (first.lower command).result = .ok block)
    (h : Unrepeated (first.lowerAll (command :: commands)).result) :
    Unrepeated ((first.lower command).generator.lowerAll commands).result := by
  rw [(lowerAll_cons hblock commands).2] at h
  exact unrepeated_map_iff.mp h

/-- Whether two outcomes of generators are the same up to the numbers of labels: the same error or
lines with other numbers, and the generators have grown by the same labels and by as many
numbers. -/
structure SameUpToNumbers (first second : Generator) (one other : Outcome (List Line)) : Prop where
  /-- The same error, or lines with other numbers. -/
  results : Agree (RenumberedLines first second) one.result other.result
  /-- The generators have grown alike. -/
  growth : ∃ taken added, Grows taken added first one.generator ∧
    Grows taken added second other.generator

/-- Generators in the same place lower commands alike, up to the numbers of labels. Both hand out
as many numbers for a command, so their difference stays that of the start. -/
theorem Alike.lowerAll {config : Config} {commands : List Command} (h : Alike first second)
    (hnamed : first.WellNamed config) (hcommands : ∀ command ∈ commands, command.Grammatical)
    (hfirst : Unrepeated (first.lowerAll commands).result)
    (hsecond : Unrepeated (second.lowerAll commands).result) :
    SameUpToNumbers first second (first.lowerAll commands) (second.lowerAll commands) := by
  induction commands generalizing first second with
  | nil => exact ⟨.ok .nil, 0, [], .refl first, .refl second⟩
  | cons command commands ih =>
    rw [List.forall_mem_cons] at hcommands
    have hstep := h.agree_lower hnamed hcommands.1 (unrepeated_lower hfirst)
      (unrepeated_lower hsecond)
    generalize hone : (first.lower command).result = one at hstep
    generalize hother : (second.lower command).result = other at hstep
    cases hstep with
    | error error =>
      obtain ⟨hkept, hresult⟩ := lowerAll_cons_of_error hone commands
      obtain ⟨hkept', hresult'⟩ := lowerAll_cons_of_error hother commands
      refine ⟨?_, 0, [], ?_, ?_⟩
      · rw [hresult, hresult']
        exact .error error
      · rw [hkept]
        exact .refl first
      · rw [hkept']
        exact .refl second
    | @ok block others hblock =>
      obtain ⟨hgenerator, hresult⟩ := lowerAll_cons hone commands
      obtain ⟨hgenerator', hresult'⟩ := lowerAll_cons hother commands
      have hproper : Request.Proper config (.lower command) := hcommands.1
      obtain ⟨hrest, taken, added, hgrows, hgrows'⟩ := ih (h.lower command) (hnamed.serve hproper)
        hcommands.2 (unrepeated_lowerAll hone hfirst) (unrepeated_lowerAll hother hsecond)
      rw [← hgenerator] at hgrows
      rw [← hgenerator'] at hgrows'
      have hgrown := grows_of_lower hone
      have hgrown' := grows_of_lower hother
      rw [← h.function] at hgrown'
      refine ⟨?_, _, _, hgrown.trans hgrows, hgrown'.trans hgrows'⟩
      rw [hresult, hresult']
      refine (hrest.imp fun _ _ _ _ hlines => hlines.of_grows hgrown hgrown').map ?_
      exact fun lines more hlines => hblock.append hlines

end Generator

end Codegen

/-- A unit does not depend on what a generator has met before it, up to the numbers of labels. Two
generators with the same options lower grammatical commands of a unit alike, unless one of them
refuses a label that it knows. What a text becomes with other numbers is determined, although labels
and functions may be named like the stems of generated labels. -/
theorem lowering_unit_determined_up_to_numbers {first second : Generator}
    (hconfig : first.config = second.config) (name : String) {commands : List Command}
    (hcommands : ∀ command ∈ commands, command.Grammatical)
    (hfirst : ∀ symbol, ((first.enterUnit name).lowerAll commands).result ≠
      .error (.duplicateLabel symbol))
    (hsecond : ∀ symbol, ((second.enterUnit name).lowerAll commands).result ≠
      .error (.duplicateLabel symbol)) :
    Generator.SameUpToNumbers first second ((first.enterUnit name).lowerAll commands)
        ((second.enterUnit name).lowerAll commands) ∧
      ∀ text one other,
        Renumbered (second.labels.allocated - first.labels.allocated) text one →
        Renumbered (second.labels.allocated - first.labels.allocated) text other → one = other := by
  have hnamed : (first.enterUnit name).WellNamed first.config := ⟨rfl, by rintro _ ⟨⟩⟩
  have halike : (first.enterUnit name).Alike (second.enterUnit name) := ⟨hconfig, rfl, rfl⟩
  obtain ⟨hresults, taken, added, hone, hother⟩ :=
    halike.lowerAll hnamed hcommands hfirst hsecond
  exact ⟨⟨hresults, taken, added, hone.of_enterUnit, hother.of_enterUnit⟩,
    fun _ _ _ => Renumbered.unique⟩

/-- A unit with a function and labels that are named like the stems of generated labels. -/
def stemCommands : List Command :=
  [.label "TRUE", .operate .eq, .function "TRUE" 1, .label "END", .call "RETURN" 2, .ifGoto "END",
    .push .static 3, .operate .lt, .ret]

/-- A generator in the middle of another unit. -/
def busyGenerator : Generator :=
  { unit := "Main", function := some "RETURN", labels := ⟨5⟩, declared := .ofList ["RETURN$END"] }

/-- The unit comes out of a new generator and of one that was used before. -/
theorem lowering_stemCommands_up_to_numbers :
    let one := (Generator.enterUnit {} "TRUE").lowerAll stemCommands
    let other := (busyGenerator.enterUnit "TRUE").lowerAll stemCommands
    (∀ command ∈ stemCommands, command.Grammatical) ∧
      (one.result.isOk = true ∧ other.result.isOk = true) ∧
      reference (LabelSupply.label "TRUE" 2) ∈
        (one.result.toOption.getD []).map Line.text ∧
      reference (LabelSupply.label "TRUE" 7) ∈
        (other.result.toOption.getD []).map Line.text ∧
      Generator.SameUpToNumbers {} busyGenerator one other ∧
      ∀ text first second, Renumbered 5 text first → Renumbered 5 text second → first = second := by
  have hcommands : ∀ command ∈ stemCommands, command.Grammatical := by decide
  have hone : ((Generator.enterUnit {} "TRUE").lowerAll stemCommands).result.isOk = true := by
    decide +kernel
  have hother : ((busyGenerator.enterUnit "TRUE").lowerAll stemCommands).result.isOk = true := by
    decide +kernel
  have hconfig : Generator.config {} = busyGenerator.config := rfl
  exact ⟨hcommands, ⟨hone, hother⟩, by decide +kernel, by decide +kernel,
    lowering_unit_determined_up_to_numbers hconfig "TRUE" hcommands (unrepeated_of_isOk hone)
      (unrepeated_of_isOk hother)⟩

end HackVm
