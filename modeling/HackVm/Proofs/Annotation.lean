import HackVm.Proofs.Erasure
import HackVm.Proofs.FreshLabels

/-!
# Comments in generated code

Comments are all that the wish for them changes. A generator that writes comments and one that does
not grant and refuse the same requests, with the same errors, and are in the same place after each
of them. The lines of the second are the lines of the first without those that start with a double
slash, and the assembler makes the same program of both, or finds the same fault. Names may be any
text, also one with a double slash or a line feed, which then stands in the comment as well.
-/

namespace HackVm

open Assembly Codegen

/-- The texts that do not start with a double slash. -/
def uncommented (texts : List String) : List String :=
  texts.filter fun text => !text.startsWith "//"

/-- Texts that start with a double slash make no difference to the assembler. -/
theorem assemble_uncommented (texts : List String) :
    assemble (uncommented texts) = assemble texts := by
  have hcomment : ∀ text : String, text.startsWith "//" = true → Item.ofLine? text = none := by
    intro text hstarts
    obtain ⟨rest, hrest⟩ := String.startsWith_string_iff.mp hstarts
    have htext : text.toList = '/' :: '/' :: rest := hrest.symm
    rw [Item.ofLine?, htext, Text.content_comment]
  have hitems : (uncommented texts).filterMap Item.ofLine? = texts.filterMap Item.ofLine? := by
    rw [uncommented, List.filterMap_filter]
    congr 1
    funext text
    cases hstarts : text.startsWith "//" with
    | false => rfl
    | true => exact (hcomment text hstarts).symm
  rw [assemble, assemble, hitems]

namespace Assembly.Line

/-- Whether a line is a comment. -/
def isComment : Line → Bool
  | comment _ => true
  | _ => false

/-- The lines that are no comments. -/
def uncommented (lines : List Line) : List Line := lines.filter fun line => !line.isComment

/-- Lines after lines. -/
theorem uncommented_append (first second : List Line) :
    uncommented (first ++ second) = uncommented first ++ uncommented second :=
  List.filter_append _ _

/-- The text of a line that is no comment does not start with a slash. -/
theorem Within.head?_text_ne {references : List String} {line : Line}
    (h : line.Within references) (hcode : line.isComment = false) :
    line.text.toList.head? ≠ some '/' := by
  cases line with
  | comment remark => cases hcode
  | label name | number value | symbol name => simp [text]
  | compute dest comp jump =>
    intro hslash
    have hchar := isCodeChar_of_mem_text dest jump h '/' (List.mem_of_mem_head? hslash)
    exact absurd hchar (by decide)

/-- A line of code is a comment exactly if its text starts with a double slash. -/
theorem Within.startsWith_text {references : List String} {line : Line}
    (h : line.Within references) : line.text.startsWith "//" = line.isComment := by
  cases hcomment : line.isComment with
  | true =>
    cases line with
    | comment remark => exact String.startsWith_string_iff.mpr ⟨' ' :: remark.toList, by simp [text]⟩
    | _ => cases hcomment
  | false =>
    rw [String.startsWith_string_eq_false_iff]
    rintro ⟨rest, hrest⟩
    exact h.head?_text_ne hcomment (by rw [← hrest]; rfl)

/-- The texts of lines of code that are no comments. -/
theorem map_text_uncommented {lines : List Line}
    (h : ∀ line ∈ lines, ∃ references, line.Within references) :
    (uncommented lines).map text = HackVm.uncommented (lines.map text) := by
  rw [HackVm.uncommented, List.filter_map, uncommented]
  refine congrArg (List.map text) (List.filter_congr fun line hline => ?_)
  obtain ⟨references, hwithin⟩ := h line hline
  rw [Function.comp_apply, hwithin.startsWith_text]

end Assembly.Line

namespace Codegen

/-- The same reply without the comments among its lines. -/
def Reply.uncommented (reply : Reply) : Reply :=
  { reply with result := reply.result.map Line.uncommented }

namespace Generator

/-- The same generator, with comments wanted or not. -/
def annotating (generator : Generator) (wanted : Bool) : Generator :=
  { generator with config := { generator.config with annotate := wanted } }

/-- The outcome of a step with comments, and of the same step without them. -/
structure Uncomments (annotated bare : Outcome (List Line)) : Prop where
  /-- The generators afterwards differ in the wish for comments only. -/
  generator : bare.generator = annotated.generator.annotating false
  /-- The lines are the same without the comments, and errors are the same. -/
  result : bare.result = annotated.result.map Line.uncommented

variable (generator : Generator)

/-- The wish for comments does not matter to a call. -/
theorem call_annotating (wanted : Bool) (name : String) (arguments : Word) :
    (generator.annotating wanted).call name arguments =
      ((generator.call name arguments).1.annotating wanted,
        (generator.call name arguments).2) := by
  unfold call
  split <;> rfl

/-- The wish for comments does not matter to the code of a command. -/
theorem body_annotating (wanted : Bool) (command : Command) :
    (generator.annotating wanted).body command =
      ((generator.body command).1.annotating wanted, (generator.body command).2) := by
  cases command with
  | operate operation => cases operation <;> rfl
  | push segment index => cases segment <;> rfl
  | pop segment index => cases segment <;> rfl
  | label name =>
    by_cases hold : labelSymbol generator.function name ∈ generator.declared
    · simp only [body, declare, if_pos hold]
      exact if_pos hold
    · simp only [body, declare, if_neg hold]
      exact if_neg hold
  | call name arguments => exact generator.call_annotating wanted name arguments
  | goto name | ifGoto name | function name locals | ret => rfl

/-- The code that starts a function has no comments. -/
theorem uncommented_functionEntry (name : String) (locals : Word) :
    Line.uncommented (functionEntry name locals) = functionEntry name locals := by
  have hzeros : Line.uncommented (List.replicate locals.toNat pushData).flatten =
      (List.replicate locals.toNat pushData).flatten := by
    rw [Line.uncommented, List.filter_flatten, List.map_replicate]
    rfl
  unfold functionEntry
  split
  · rfl
  · exact congrArg (fun zeros => Line.label name :: Line.store .d .zero :: zeros) hzeros

/-- The code of a command has no comments. -/
theorem uncommented_body (command : Command) {lines : List Line}
    (h : (generator.body command).2 = .ok lines) : Line.uncommented lines = lines := by
  cases command with
  | operate operation =>
    cases h
    cases operation <;> rfl
  | push segment index =>
    obtain ⟨-, -, rfl⟩ | ⟨access, haccess, rfl⟩ := push_of_ok h
    · rfl
    · cases haccess <;> rfl
  | pop segment index =>
    obtain ⟨access, haccess, rfl⟩ := pop_of_ok h
    cases haccess <;> rfl
  | label name =>
    obtain ⟨-, rfl⟩ := declare_of_ok h
    rfl
  | goto name | ifGoto name =>
    cases h
    rfl
  | function name locals =>
    cases h
    exact uncommented_functionEntry name locals
  | call name arguments =>
    obtain ⟨-, rfl⟩ := call_of_ok h
    rfl
  | ret =>
    rw [leave_of_ok h]
    rfl

/-- Without the comment in front of it, nothing is left of a remark. -/
theorem uncommented_remark (text : String) : Line.uncommented (generator.remark text) = [] := by
  unfold remark
  split <;> rfl

/-- Without comments a command has the same code. -/
theorem uncomments_lower (command : Command) :
    Uncomments (generator.lower command) ((generator.annotating false).lower command) := by
  have hbody := generator.body_annotating false command
  refine ⟨congrArg Prod.fst hbody, ?_⟩
  rw [lower, lower, hbody]
  dsimp only
  cases hlines : (generator.body command).2 with
  | error error => rfl
  | ok lines =>
    have hnone : (generator.annotating false).remark command.text = [] := rfl
    rw [map_ok, map_ok, map_ok, hnone, Line.uncommented_append, uncommented_remark,
      generator.uncommented_body command hlines]

/-- Without comments a program starts with the same code. -/
theorem uncomments_bootstrap :
    Uncomments generator.bootstrap (generator.annotating false).bootstrap := by
  have hcall := generator.call_annotating false generator.config.entryFunction 0
  have hconfig : (generator.annotating false).config =
      { generator.config with annotate := false } := rfl
  simp only [bootstrap, hconfig, hcall]
  split
  · exact ⟨rfl, rfl⟩
  · refine ⟨rfl, ?_⟩
    dsimp only
    cases hlines : (generator.call generator.config.entryFunction 0).2 with
    | error error => rfl
    | ok lines =>
      have hnone : ∀ text, (generator.annotating false).remark text = [] := fun _ => rfl
      have hcode : Line.uncommented lines = lines :=
        generator.uncommented_body (.call generator.config.entryFunction 0) hlines
      rw [map_ok, map_ok, map_ok, hnone, hnone, Line.uncommented_append, Line.uncommented_append,
        Line.uncommented_append, uncommented_remark, uncommented_remark, hcode]
      rfl

/-- Without comments a request is served in the same way. -/
theorem uncomments_serve (request : Request) :
    Uncomments (generator.serve request) ((generator.annotating false).serve request) := by
  cases request with
  | enterUnit name => exact ⟨rfl, rfl⟩
  | bootstrap => exact generator.uncomments_bootstrap
  | lower command => exact generator.uncomments_lower command

/-- A generator without comments gives the same replies, without the comments. -/
theorem serveAll_annotating_false (requests : List Request) :
    (generator.annotating false).serveAll requests =
      (generator.serveAll requests).map Reply.uncommented := by
  induction requests generalizing generator with
  | nil => rfl
  | cons request requests ih =>
    have hserve := generator.uncomments_serve request
    have hreply : (generator.annotating false).reply request =
        (generator.reply request).uncommented := by
      rw [reply, hserve.result]
      rfl
    rw [serveAll, serveAll, List.map_cons, hreply, hserve.generator, ih]

/-- A generator without comments ends in the same place. -/
theorem afterAll_annotating_false (requests : List Request) :
    (generator.annotating false).afterAll requests =
      (generator.afterAll requests).annotating false := by
  induction requests generalizing generator with
  | nil => rfl
  | cons request requests ih =>
    rw [afterAll, List.foldl_cons, (generator.uncomments_serve request).generator]
    exact ih (generator.serve request).generator

/-- What comes of a request is lines of code, whatever names it has. -/
theorem within_reply (request : Request) :
    ∀ line ∈ (generator.reply request).lines, ∃ references, line.Within references := by
  intro line hline
  cases hresult : (generator.serve request).result with
  | error error =>
    rw [Reply.lines, reply, hresult] at hline
    cases hline
  | ok lines =>
    rw [Reply.lines, reply, hresult] at hline
    cases request with
    | enterUnit name =>
      cases hresult
      cases hline
    | bootstrap => exact ⟨_, (codes_of_bootstrap hresult).within line hline⟩
    | lower command => exact ⟨_, (codes_of_lower hresult).within line hline⟩

end Generator

/-- Two replies to the same request that say the same, up to the comments of the first. -/
structure SameCode (annotated bare : Reply) : Prop where
  /-- The request is the same. -/
  request : annotated.request = bare.request
  /-- Both are refused with the same error, or none is. -/
  refused : ∀ error, annotated.result = .error error ↔ bare.result = .error error
  /-- The lines are the same up to comments. -/
  texts : uncommented annotated.texts = bare.texts

/-- Two generators in the same place. -/
structure SamePlace (first second : Generator) : Prop where
  /-- The units are the same. -/
  unit : first.unit = second.unit
  /-- The functions are the same. -/
  function : first.function = second.function
  /-- The same numbers were handed out. -/
  labels : first.labels = second.labels
  /-- The same labels were declared. -/
  declared : first.declared = second.declared

/-- A reply says the same as its code alone. -/
theorem sameCode_uncommented {reply : Reply}
    (h : ∀ line ∈ reply.lines, ∃ references, line.Within references) :
    SameCode reply reply.uncommented := by
  refine ⟨rfl, fun error => ?_, ?_⟩
  · rw [Reply.uncommented]
    cases reply.result with
    | error other => exact Iff.rfl
    | ok lines => exact ⟨nofun, nofun⟩
  · have hlines : reply.uncommented.lines = Line.uncommented reply.lines := by
      rw [Reply.lines, Reply.lines, Reply.uncommented]
      cases reply.result <;> rfl
    rw [Reply.texts, Reply.texts, hlines, Line.map_text_uncommented h]

end Codegen

/-- Comments never affect code. Whatever two new generators are asked for, one with and one without
comments, each request is granted by both or refused by both with the same error, the generators
are in the same place after each request, and the lines are the same up to those that start with a
double slash. All lines together are assembled to the same program, or with the same fault. -/
theorem annotation_never_affects_code (config : Config) (requests : List Request) :
    let annotated : Generator := { config := { config with annotate := true } }
    let bare : Generator := { config := { config with annotate := false } }
    let commentedTexts := (annotated.serveAll requests).flatMap Reply.texts
    let bareTexts := (bare.serveAll requests).flatMap Reply.texts
    List.Forall₂ SameCode (annotated.serveAll requests) (bare.serveAll requests) ∧
      (∀ count, SamePlace (annotated.afterAll (requests.take count))
        (bare.afterAll (requests.take count))) ∧
      uncommented commentedTexts = bareTexts ∧
      assemble commentedTexts = assemble bareTexts := by
  intro annotated bare commentedTexts bareTexts
  have hbare : bare = annotated.annotating false := rfl
  have hreplies : ∀ reply ∈ annotated.serveAll requests, SameCode reply reply.uncommented := by
    intro reply hreply
    obtain ⟨request, -, before, -, rfl⟩ := @Generator.exists_of_mem_serveAll (fun _ => True) _ _ _
      (fun _ _ _ _ => trivial) trivial hreply
    exact sameCode_uncommented (before.within_reply request)
  have htexts : uncommented commentedTexts = bareTexts := by
    simp only [commentedTexts, bareTexts]
    rw [hbare, Generator.serveAll_annotating_false, uncommented, List.filter_flatMap,
      List.flatMap_map]
    exact List.flatMap_congr fun reply hreply => (hreplies reply hreply).texts
  refine ⟨?_, fun count => ?_, htexts, ?_⟩
  · rw [hbare, Generator.serveAll_annotating_false, List.forall₂_map_right_iff, List.forall₂_same]
    exact hreplies
  · rw [hbare, Generator.afterAll_annotating_false]
    exact ⟨rfl, rfl, rfl, rfl⟩
  · rw [← htexts, assemble_uncommented]

/-- A name with a double slash and a line feed stands in the comment and in the code. -/
example : (Generator.serveAll {} [.lower (.goto "a//\nb")]).flatMap Reply.texts =
    ["// goto a//\nb", "@$a//\nb", "0;JMP"] := by
  decide +kernel

end HackVm
