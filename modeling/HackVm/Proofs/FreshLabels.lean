import HackVm.Proofs.Requests
import HackVm.Proofs.Statics

/-!
# Fresh and closed labels

What holds of the texts of all lines that a generator gives out, whatever it is asked for and
however often it refuses. No symbol with a dollar sign is declared twice, the other declared
symbols are those of functions, and the code that uses a generated label declares it itself.
Labels of functions are never generated ones, although a function may be named like a stem.
-/

namespace HackVm

open Assembly Codegen

/-- The text of the line that declares a symbol. -/
def declaration (symbol : String) : String := "(" ++ symbol ++ ")"

/-- The text of the line that loads the value of a symbol. -/
def reference (symbol : String) : String := "@" ++ symbol

/-- The texts of the lines that came of a request. -/
def Codegen.Reply.texts (reply : Reply) : List String := reply.lines.map Line.text

/-- The symbols of cells that code uses. -/
def registers : List String := ["SP", "LCL", "ARG", "THIS", "THAT", "R13", "R14"]

/-- Whether a line of code uses only registers and some other symbols, and computes what the
processor can compute. -/
def Assembly.Line.Within (references : List String) : Line → Prop
  | comment _ | label _ | number _ => True
  | symbol name => name ∈ registers ∨ name ∈ references
  | compute _ comp _ => comp ∈ Comp.known

section Texts

variable {references : List String} {line : Line} {symbol : String}

/-- A line declares a symbol exactly if its text does. -/
theorem Assembly.Line.Within.text_eq_declaration_iff (h : line.Within references) :
    line.text = declaration symbol ↔ line = .label symbol := by
  have hopen : (declaration symbol).toList = '(' :: (symbol.toList ++ [')']) := by
    simp [declaration]
  constructor
  · intro htext
    rw [← String.toList_inj, hopen] at htext
    cases line with
    | comment remark => simp [Line.text] at htext
    | label name =>
      simp only [Line.text, String.toList_append] at htext
      have hname : name.toList = symbol.toList := by simpa using htext
      rw [String.toList_inj.mp hname]
    | number value => simp [Line.text] at htext
    | symbol name => simp [Line.text] at htext
    | compute dest comp jump =>
      have hchar := isCodeChar_of_mem_text dest jump h '(' (by rw [htext]; simp)
      exact absurd hchar (by decide)
  · rintro rfl
    rfl

/-- A line loads a symbol with a dollar sign exactly if its text does. -/
theorem Assembly.Line.Within.text_eq_reference_iff (h : line.Within references)
    (hsymbol : '$' ∈ symbol.toList) : line.text = reference symbol ↔ line = .symbol symbol := by
  have hopen : (reference symbol).toList = '@' :: symbol.toList := by simp [reference]
  constructor
  · intro htext
    rw [← String.toList_inj, hopen] at htext
    cases line with
    | comment remark => simp [Line.text] at htext
    | label name => simp [Line.text] at htext
    | number value =>
      have hdigits : (toString value).toList = symbol.toList := by simpa [Line.text] using htext
      rw [← hdigits] at hsymbol
      exact absurd (Word.isDigit_of_mem_toString hsymbol) (by decide)
    | symbol name =>
      have hname : name.toList = symbol.toList := by simpa [Line.text] using htext
      rw [String.toList_inj.mp hname]
    | compute dest comp jump =>
      have hchar := isCodeChar_of_mem_text dest jump h '@' (by rw [htext]; simp)
      exact absurd hchar (by decide)
  · rintro rfl
    rfl

/-- The texts of lines declare a symbol as often as the lines do. -/
theorem count_declaration {lines : List Line}
    (h : ∀ line ∈ lines, ∃ references, line.Within references) (symbol : String) :
    (lines.map Line.text).count (declaration symbol) = (labelNames lines).count symbol := by
  induction lines with
  | nil => rfl
  | cons line lines ih =>
    rw [List.forall_mem_cons] at h
    obtain ⟨⟨references, hline⟩, hlines⟩ := h
    have htext : line.text = declaration symbol ↔ line = .label symbol :=
      hline.text_eq_declaration_iff
    rw [List.map_cons, List.count_cons, ih hlines]
    by_cases hsame : line = .label symbol
    · subst hsame
      simp [htext.mpr rfl, labelNames, Line.label?]
    · have hother : line.text ≠ declaration symbol := fun h => hsame (htext.mp h)
      cases line with
      | label name =>
        have hname : name ≠ symbol := fun h => hsame (congrArg Line.label h)
        simp [hother, labelNames, Line.label?, hname]
      | _ => simp [hother, labelNames, Line.label?, List.filterMap_cons]

end Texts

namespace Codegen

section Blocks

variable {references : List String}

/-- A remark uses nothing. -/
@[simp] theorem within_comment (text : String) : (Line.comment text).Within references := trivial

/-- A declaration uses nothing. -/
@[simp] theorem within_label (name : String) : (Line.label name).Within references := trivial

/-- A number uses nothing. -/
@[simp] theorem within_number (value : Nat) : (Line.number value).Within references := trivial

/-- A symbol is a register or one of the others. -/
@[simp] theorem within_symbol (name : String) :
    (Line.symbol name).Within references ↔ name ∈ registers ∨ name ∈ references := Iff.rfl

/-- A line that stores computes. -/
@[simp] theorem within_store (dest : Dest) (comp : Comp) :
    (Line.store dest comp).Within references ↔ comp ∈ Comp.known := Iff.rfl

/-- A line that jumps computes. -/
@[simp] theorem within_branch (comp : Comp) (jump : Jump) :
    (Line.branch comp jump).Within references ↔ comp ∈ Comp.known := Iff.rfl

/-- The stack pointer is a register. -/
@[simp] theorem within_stackPointer : stackPointer.Within references := .inl (by decide)

/-- The scratch cell for an address is a register. -/
@[simp] theorem within_scratchAddress : scratchAddress.Within references := .inl (by decide)

/-- The scratch cell for a return address is a register. -/
@[simp] theorem within_scratchReturn : scratchReturn.Within references := .inl (by decide)

/-- Base pointers are registers. -/
@[simp] theorem within_pointerLine (pointer : BasePointer) :
    (pointerLine pointer).Within references := by
  cases pointer <;> exact .inl (by decide)

/-- Pushing D uses registers only. -/
@[simp] theorem within_pushData : ∀ line ∈ pushData, line.Within references := by
  simp [pushData, Comp.known]

/-- Popping into D uses registers only. -/
@[simp] theorem within_popData : ∀ line ∈ popData, line.Within references := by
  simp [popData, Comp.known]

/-- Pushing a cell uses what loads its address. -/
theorem within_pushCell {cell : Line} (h : cell.Within references) :
    ∀ line ∈ pushCell cell, line.Within references := by
  rw [pushCell, List.forall_mem_append]
  exact ⟨by simp [h, Comp.known], within_pushData⟩

/-- Popping into a cell uses what loads its address. -/
theorem within_popCell {cell : Line} (h : cell.Within references) :
    ∀ line ∈ popCell cell, line.Within references := by
  rw [popCell, List.forall_mem_append]
  exact ⟨within_popData, by simp [h, Comp.known]⟩

/-- Comparing uses the two labels. -/
theorem within_compareTop (jump : Jump) {taken merge : String} (htaken : taken ∈ references)
    (hmerge : merge ∈ references) :
    ∀ line ∈ compareTop jump taken merge, line.Within references := by
  simp [compareTop, htaken, hmerge, Comp.known]

/-- Starting a function uses registers only. -/
theorem within_functionEntry (name : String) (locals : Word) :
    ∀ line ∈ functionEntry name locals, line.Within references := by
  have hzeros : ∀ line ∈ (List.replicate locals.toNat pushData).flatten,
      line.Within references := by
    intro line hline
    obtain ⟨block, hblock, hline⟩ := List.mem_flatten.mp hline
    rw [(List.mem_replicate.mp hblock).2] at hline
    exact within_pushData line hline
  rw [functionEntry, List.forall_mem_cons]
  refine ⟨trivial, ?_⟩
  split
  · simp
  · rw [List.forall_mem_cons]
    exact ⟨by simp [Comp.known], hzeros⟩

/-- Calling a function uses its name and the return label. -/
theorem within_callFunction {name returnLabel : String} (arguments : Word)
    (hname : name ∈ references) (hreturn : returnLabel ∈ references) :
    ∀ line ∈ callFunction name arguments returnLabel, line.Within references := by
  have hsaved : ∀ line ∈ [BasePointer.lcl, .arg, .this, .that].flatMap
      (fun pointer => pushCell (pointerLine pointer)), line.Within references := by
    intro line hline
    obtain ⟨pointer, -, hline⟩ := List.mem_flatMap.mp hline
    exact within_pushCell (within_pointerLine pointer) line hline
  simp only [callFunction, List.forall_mem_append]
  exact ⟨⟨⟨⟨⟨by simp [hreturn, Comp.known], within_pushData⟩, hsaved⟩,
    by simp [Comp.known]⟩, by simp [jumpTo, hname, Comp.known]⟩,
    by simp⟩

/-- Returning uses registers only. -/
theorem within_returnBlock : ∀ line ∈ returnBlock, line.Within references := by
  have hrestored : ∀ line ∈ [BasePointer.that, .this, .arg, .lcl].flatMap restore,
      line.Within references := by
    simp [restore, Comp.known]
  simp only [returnBlock, List.forall_mem_append]
  exact ⟨⟨⟨⟨by simp [Comp.known], within_popData⟩, by simp [Comp.known]⟩,
    hrestored⟩, by simp [Comp.known]⟩

/-- The remark in front of code uses nothing. -/
theorem within_remark (generator : Generator) (text : String) :
    ∀ line ∈ generator.remark text, line.Within references := by
  unfold Generator.remark
  split <;> simp

end Blocks

namespace Generator

/-- The symbols, registers apart, that the code of a command uses. -/
def references (generator : Generator) : Command → List String
  | .operate .eq | .operate .gt | .operate .lt =>
    [LabelSupply.label "TRUE" generator.labels.allocated,
      LabelSupply.label "END" generator.labels.allocated]
  | .push .static index | .pop .static index => [staticSymbol generator.unit index]
  | .goto name | .ifGoto name => [labelSymbol generator.function name]
  | .call name _ => [LabelSupply.label "RETURN" generator.labels.allocated, name]
  | _ => []

variable {generator : Generator} {command : Command}

/-- The code of an operation uses the labels of a comparison at most. -/
theorem within_operate (operation : Operation) : ∀ line ∈ (generator.operate operation).2,
    line.Within (generator.references (.operate operation)) := by
  cases operation with
  | eq | gt | lt =>
    exact within_compareTop _ List.mem_cons_self (List.mem_cons_of_mem _ List.mem_cons_self)
  | add | sub | and | or => simp [operate, binary, Comp.known]
  | neg | not => simp [operate, unary, Comp.known]

/-- The code of a push uses the symbol of a static cell at most. -/
theorem within_push {segment : Segment} {index : Word} {lines : List Line}
    (h : generator.push segment index = .ok lines) :
    ∀ line ∈ lines, line.Within (generator.references (.push segment index)) := by
  obtain ⟨-, -, rfl⟩ | ⟨access, haccess, rfl⟩ := push_of_ok h
  · rw [pushConstant, List.forall_mem_append]
    exact ⟨by simp [Comp.known], within_pushData⟩
  · cases haccess with
    | based hsegment hindex =>
      rw [Access.pushCode, pushIndexed, List.forall_mem_append]
      exact ⟨by simp [Comp.known], within_pushData⟩
    | static hunit => exact within_pushCell (.inr (List.mem_singleton_self _))
    | fixed hsegment hindex => exact within_pushCell trivial

/-- The code of a pop uses the symbol of a static cell at most. -/
theorem within_pop {segment : Segment} {index : Word} {lines : List Line}
    (h : generator.pop segment index = .ok lines) :
    ∀ line ∈ lines, line.Within (generator.references (.pop segment index)) := by
  obtain ⟨access, haccess, rfl⟩ := pop_of_ok h
  cases haccess with
  | based hsegment hindex =>
    simp only [Access.popCode, popIndexed, List.forall_mem_append]
    exact ⟨⟨by simp [Comp.known], within_popData⟩, by simp [Comp.known]⟩
  | static hunit => exact within_popCell (.inr (List.mem_singleton_self _))
  | fixed hsegment hindex => exact within_popCell trivial

/-- The code of an accepted command uses the symbols of the command. -/
theorem within_of_body {lines : List Line} (h : (generator.body command).2 = .ok lines) :
    ∀ line ∈ lines, line.Within (generator.references command) := by
  cases command with
  | operate operation =>
    cases h
    exact within_operate operation
  | push segment index => exact within_push h
  | pop segment index => exact within_pop h
  | label name =>
    obtain ⟨-, rfl⟩ := declare_of_ok h
    simp
  | goto name =>
    cases h
    simp [jumpTo, references, Comp.known]
  | ifGoto name =>
    cases h
    rw [jumpUnlessZero, List.forall_mem_append]
    exact ⟨within_popData, by simp [references, Comp.known]⟩
  | function name locals =>
    cases h
    exact within_functionEntry name locals
  | call name arguments =>
    obtain ⟨-, rfl⟩ := call_of_ok h
    exact within_callFunction arguments (by simp [references]) (by simp [references])
  | ret =>
    rw [leave_of_ok h]
    exact within_returnBlock

/-- Whether lines are code for a command: they declare its names and use its symbols. -/
structure Codes (generator : Generator) (command : Command) (lines : List Line) : Prop where
  /-- The names are declared. -/
  names : labelNames lines = generator.names command
  /-- No other symbols are used. -/
  within : ∀ line ∈ lines, line.Within (generator.references command)

/-- The block of an accepted command is code for it. -/
theorem codes_of_lower {block : List Line} (h : (generator.lower command).result = .ok block) :
    generator.Codes command block := by
  refine ⟨labelNames_of_lower h, ?_⟩
  obtain ⟨lines, hlines, rfl⟩ := lower_of_ok h
  rw [List.forall_mem_append]
  exact ⟨within_remark generator command.text, within_of_body hlines⟩

/-- The code that starts a program is code for the call of the entry function. -/
theorem codes_of_bootstrap {prologue : List Line}
    (h : generator.bootstrap.result = .ok prologue) :
    generator.Codes (.call generator.config.entryFunction 0) prologue := by
  refine ⟨labelNames_of_bootstrap h, ?_⟩
  obtain ⟨-, rfl⟩ := bootstrap_of_ok h
  simp only [List.forall_mem_append]
  exact ⟨⟨⟨within_remark _ _, by simp [setStackPointer, Comp.known]⟩,
    within_remark _ _⟩, within_callFunction 0 (by simp [references]) (by simp [references])⟩

/-- A generated label that the code of a well placed command uses is one of its names. Of the other
symbols only the label of a branch and the name of a function could be mistaken for one. -/
theorem mem_names_of_label {lines : List Line} {stem : String} {number : Nat}
    (hcodes : generator.Codes command lines) (hplace : (generator.place command).WellPlaced)
    (hstem : stem ∈ stems) (h : .symbol (LabelSupply.label stem number) ∈ lines) :
    LabelSupply.label stem number ∈ generator.names command := by
  have hmarked : '$' ∈ (LabelSupply.label stem number).toList := by simp [toList_label]
  have hplain : ∀ name ∈ registers, '$' ∉ name.toList := by decide
  obtain ⟨hcommand, hfunction⟩ := hplace
  obtain hregister | hreference := hcodes.within _ h
  · exact absurd hmarked (hplain _ hregister)
  cases command with
  | operate operation => cases operation <;> exact hreference
  | push segment index | pop segment index =>
    cases segment with
    | static =>
      have hstatic := List.mem_singleton.mp hreference
      exact absurd hstatic.symm (staticSymbol_ne_label hstem number generator.unit index)
    | _ => cases hreference
  | goto name | ifGoto name =>
    exact absurd (List.mem_singleton.mp hreference) (label_ne_labelSymbol hstem hfunction hcommand)
  | call name arguments =>
    obtain hreturn | hname := List.mem_cons.mp hreference
    · exact List.mem_singleton.mpr hreturn
    · rw [List.mem_singleton.mp hname] at hmarked
      exact absurd hmarked (not_mem_of_isName hcommand)
  | label name | function name locals | ret => cases hreference

/-- A name without a dollar sign is that of a function. -/
theorem eq_function_of_mem_names {name : String} (h : name ∈ generator.names command)
    (hplain : '$' ∉ name.toList) : ∃ locals, command = .function name locals := by
  cases command with
  | operate operation =>
    cases operation with
    | eq | gt | lt =>
      rw [names, List.mem_cons, List.mem_singleton] at h
      obtain rfl | rfl := h <;> simp [toList_label] at hplain
    | _ => cases h
  | label other =>
    rw [names, List.mem_singleton] at h
    simp [h, toList_labelSymbol] at hplain
  | function other locals =>
    rw [names, List.mem_singleton] at h
    exact ⟨locals, by rw [h]⟩
  | call other arguments =>
    rw [names, List.mem_singleton] at h
    simp [h, toList_label] at hplain
  | push segment index | pop segment index | goto other | ifGoto other | ret => cases h

/-- Whether a request is one for the code of a command; a program is started by a call. -/
inductive AsksFor : Request → Command → Prop where
  /-- The command itself is lowered. -/
  | lower (command : Command) : AsksFor (.lower command) command
  /-- The entry function is called without arguments. -/
  | bootstrap (name : String) : AsksFor .bootstrap (.call name 0)

/-- What comes of a request with proper names: nothing, or code for a well placed command. -/
theorem lines_reply {config : Config} {request : Request} (h : generator.WellNamed config)
    (hproper : request.Proper config) :
    (generator.reply request).lines = [] ∨
      ∃ command, AsksFor request command ∧ (generator.place command).WellPlaced ∧
        generator.Codes command (generator.reply request).lines := by
  cases hresult : (generator.serve request).result with
  | error error => exact .inl (by rw [Reply.lines, reply, hresult]; rfl)
  | ok lines =>
    have hlines : (generator.reply request).lines = lines := by
      rw [Reply.lines, reply, hresult]
      rfl
    rw [hlines]
    cases request with
    | enterUnit name =>
      cases hresult
      exact .inl rfl
    | bootstrap =>
      have hentry : Grammar.isName generator.config.entryFunction.toList = true := by
        rw [h.config]
        exact hproper
      exact .inr ⟨_, .bootstrap _, ⟨hentry, h.function⟩, codes_of_bootstrap hresult⟩
    | lower command =>
      exact .inr ⟨command, .lower command, ⟨hproper, h.function⟩, codes_of_lower hresult⟩

/-- The names that a request with proper names declares. -/
theorem declares_reply {config : Config} {request : Request} (h : generator.WellNamed config)
    (hproper : request.Proper config) : ∃ functions,
    Declares generator (generator.serve request).generator
      (labelNames (generator.reply request).lines) functions := by
  cases hresult : (generator.serve request).result with
  | error error =>
    rw [generator_of_serve_refused hresult, Reply.lines, reply, hresult]
    exact ⟨[], .refl generator⟩
  | ok lines =>
    rw [Reply.lines, reply, hresult]
    cases request with
    | enterUnit name =>
      cases hresult
      exact ⟨[], declares_nothing rfl rfl⟩
    | bootstrap => exact ⟨[], declares_of_bootstrap hresult⟩
    | lower command =>
      rw [serve, generator_of_lower hresult]
      exact ⟨_, declares_of_lower ⟨hproper, h.function⟩ hresult⟩

/-- The names that requests with proper names declare. -/
theorem declares_serveAll {config : Config} {requests : List Request}
    (h : generator.WellNamed config) (hproper : ∀ request ∈ requests, request.Proper config) :
    ∃ final functions, Declares generator final
      (labelNames ((generator.serveAll requests).flatMap Reply.lines)) functions := by
  induction requests generalizing generator with
  | nil => exact ⟨generator, [], .refl generator⟩
  | cons request requests ih =>
    rw [List.forall_mem_cons] at hproper
    obtain ⟨functions, hfirst⟩ := declares_reply h hproper.1
    obtain ⟨final, others, hrest⟩ := ih (h.serve hproper.1) hproper.2
    rw [serveAll, List.flatMap_cons, labelNames_append]
    exact ⟨final, functions ++ others, hfirst.append hrest⟩

end Generator

end Codegen

/-- Whether the labels in the texts that came of requests are fresh and closed. -/
structure FreshAndClosed (replies : List Reply) : Prop where
  /-- A symbol with a dollar sign is declared at most once. -/
  once : ∀ symbol : String, '$' ∈ symbol.toList →
    (replies.flatMap Reply.texts).count (declaration symbol) ≤ 1
  /-- A symbol without a dollar sign is declared for the command that starts the function. -/
  functions : ∀ reply ∈ replies, ∀ symbol : String, '$' ∉ symbol.toList →
    declaration symbol ∈ reply.texts → ∃ locals, reply.request = .lower (.function symbol locals)
  /-- A generated label that is used is declared once, where it is used. -/
  closed : ∀ reply ∈ replies, ∀ stem ∈ ["TRUE", "END", "RETURN"], ∀ number,
    reference (LabelSupply.label stem number) ∈ reply.texts →
      reply.texts.count (declaration (LabelSupply.label stem number)) = 1 ∧
        (replies.flatMap Reply.texts).count (declaration (LabelSupply.label stem number)) = 1
  /-- Labels of functions and jumps to them never have the symbol of a generated label. -/
  apart : ∀ reply ∈ replies, ∀ name,
    reply.request ∈ [.lower (.label name), .lower (.goto name), .lower (.ifGoto name)] →
      ∀ stem ∈ ["TRUE", "END", "RETURN"], ∀ number,
        declaration (LabelSupply.label stem number) ∉ reply.texts ∧
          reference (LabelSupply.label stem number) ∉ reply.texts

section Runs

variable {config : Config} {requests : List Request} {reply : Reply}
  (hproper : ∀ request ∈ requests, request.Proper config)
  (hreply : reply ∈ Generator.serveAll { config := config } requests)

include hproper hreply

/-- What comes of requests with proper names to a new generator. -/
theorem lines_of_mem_serveAll :
    reply.lines = [] ∨ ∃ generator : Generator, ∃ command,
      Generator.AsksFor reply.request command ∧ (generator.place command).WellPlaced ∧
        generator.Codes command reply.lines := by
  obtain ⟨request, hmem, before, hbefore, rfl⟩ := Generator.exists_of_mem_serveAll
    (fun request hmem _ h => h.serve (hproper request hmem)) (Generator.wellNamed_fresh config)
    hreply
  obtain hnone | hsome := Generator.lines_reply hbefore (hproper request hmem)
  · exact .inl hnone
  · exact .inr ⟨before, hsome⟩

/-- All lines that come of requests are lines of code. -/
theorem within_of_mem_serveAll :
    ∀ line ∈ reply.lines, ∃ references, line.Within references := by
  intro line hline
  obtain hnone | ⟨generator, command, -, -, hcodes⟩ := lines_of_mem_serveAll hproper hreply
  · rw [hnone] at hline
    cases hline
  · exact ⟨_, hcodes.within line hline⟩

/-- The text of a declaration came of a request exactly if the declaration did. -/
theorem declaration_mem_texts_iff (symbol : String) :
    declaration symbol ∈ reply.texts ↔ symbol ∈ labelNames reply.lines := by
  rw [← List.count_pos_iff, Reply.texts, count_declaration (within_of_mem_serveAll hproper hreply),
    List.count_pos_iff]

omit hreply in
/-- No symbol with a dollar sign is declared twice by what comes of requests. -/
theorem count_declaration_serveAll_le_one {symbol : String} (hsymbol : '$' ∈ symbol.toList) :
    ((Generator.serveAll { config := config } requests).flatMap Reply.texts).count
      (declaration symbol) ≤ 1 := by
  have hmarked : isMarked symbol = true := by simpa [isMarked] using hsymbol
  have hlines : ∀ line ∈ (Generator.serveAll { config := config } requests).flatMap Reply.lines,
      ∃ references, line.Within references := by
    intro line hline
    obtain ⟨reply, hreply, hline⟩ := List.mem_flatMap.mp hline
    exact within_of_mem_serveAll hproper hreply line hline
  have htexts : (Generator.serveAll { config := config } requests).flatMap Reply.texts =
      ((Generator.serveAll { config := config } requests).flatMap Reply.lines).map Line.text :=
    List.map_flatMap.symm
  obtain ⟨final, functions, hdeclares⟩ :=
    Generator.declares_serveAll (Generator.wellNamed_fresh config) hproper
  rw [htexts, count_declaration hlines, ← List.count_filter hmarked]
  exact List.nodup_iff_count_le_one.mp hdeclares.nodup symbol

/-- A name without a dollar sign is declared when the function of this name starts. -/
theorem request_of_mem_labelNames {name : String} (hplain : '$' ∉ name.toList)
    (h : name ∈ labelNames reply.lines) :
    ∃ locals, reply.request = .lower (.function name locals) := by
  obtain hnone | ⟨generator, command, hcommand, -, hcodes⟩ := lines_of_mem_serveAll hproper hreply
  · rw [hnone] at h
    cases h
  · rw [hcodes.names] at h
    obtain ⟨locals, rfl⟩ := Generator.eq_function_of_mem_names h hplain
    generalize reply.request = request at hcommand ⊢
    cases hcommand
    exact ⟨locals, rfl⟩

/-- A generated label that is used is declared by what came of the same request. -/
theorem label_mem_labelNames {stem : String} {number : Nat} (hstem : stem ∈ stems)
    (hreference : reference (LabelSupply.label stem number) ∈ reply.texts) :
    LabelSupply.label stem number ∈ labelNames reply.lines := by
  obtain ⟨line, hline, htext⟩ := List.mem_map.mp hreference
  obtain hnone | ⟨generator, command, -, hplace, hcodes⟩ := lines_of_mem_serveAll hproper hreply
  · rw [hnone] at hline
    cases hline
  · rw [(hcodes.within line hline).text_eq_reference_iff (by simp [toList_label])] at htext
    subst htext
    rw [hcodes.names]
    exact Generator.mem_names_of_label hcodes hplace hstem hline

/-- Labels of functions and jumps to them declare no generated label. -/
theorem label_not_mem_labelNames {stem name : String}
    (hrequest : reply.request ∈ [.lower (.label name), .lower (.goto name), .lower (.ifGoto name)])
    (hstem : stem ∈ stems) (number : Nat) :
    LabelSupply.label stem number ∉ labelNames reply.lines := by
  obtain hnone | ⟨generator, command, hcommand, hplace, hcodes⟩ :=
    lines_of_mem_serveAll hproper hreply
  · rw [hnone]
    exact List.not_mem_nil
  · rw [hcodes.names]
    generalize reply.request = request at hcommand hrequest
    cases hcommand with
    | bootstrap entry => simp at hrequest
    | lower =>
      simp only [List.mem_cons, Request.lower.injEq, List.not_mem_nil, or_false] at hrequest
      obtain rfl | rfl | rfl := hrequest
      · rw [Generator.names, List.mem_singleton]
        exact label_ne_labelSymbol hstem hplace.function hplace.command
      · exact List.not_mem_nil
      · exact List.not_mem_nil

end Runs

/-- Whatever a new generator is asked for, in any order and through any failures, the labels of
all lines it gives out are fresh and closed. -/
theorem serveAll_freshAndClosed (config : Config) (requests : List Request)
    (hproper : ∀ request ∈ requests, request.Proper config) :
    FreshAndClosed (Generator.serveAll { config := config } requests) := by
  refine ⟨fun symbol hsymbol => count_declaration_serveAll_le_one hproper hsymbol, ?_, ?_, ?_⟩
  · intro reply hreply symbol hplain hdeclared
    rw [declaration_mem_texts_iff hproper hreply] at hdeclared
    exact request_of_mem_labelNames hproper hreply hplain hdeclared
  · intro reply hreply stem hstem number hreference
    have hdeclared := label_mem_labelNames hproper hreply hstem hreference
    rw [← declaration_mem_texts_iff hproper hreply, ← List.count_pos_iff] at hdeclared
    have hpart : reply.texts.Sublist
        ((Generator.serveAll { config := config } requests).flatMap Reply.texts) :=
      List.sublist_flatten_of_mem (List.mem_map_of_mem hreply)
    have hcount := hpart.count_le (declaration (LabelSupply.label stem number))
    have hmarked : '$' ∈ (LabelSupply.label stem number).toList := by simp [toList_label]
    have honce := count_declaration_serveAll_le_one hproper hmarked
    exact ⟨by omega, by omega⟩
  · intro reply hreply name hrequest stem hstem number
    have hnot := label_not_mem_labelNames hproper hreply hrequest hstem number
    refine ⟨fun hdeclared => hnot ?_, fun hreference => hnot ?_⟩
    · exact (declaration_mem_texts_iff hproper hreply _).mp hdeclared
    · exact label_mem_labelNames hproper hreply hstem hreference

/-- A use of a generator with failures: a label is declared a second time and a command returns
from no function, and a function and its label are named like the stems of generated labels. -/
def stemRequests : List Request :=
  [.enterUnit "TRUE$0", .lower (.label "END"), .lower (.label "END"), .bootstrap, .lower .ret,
    .lower (.operate .eq), .lower (.function "TRUE" 0), .lower (.label "END"),
    .lower (.ifGoto "END"), .lower (.push .static 1), .bootstrap, .lower (.operate .lt)]

/-- The labels of a use with failures: the repeated label and the return are refused, and the
labels of a comparison are declared where it uses them. -/
theorem serveAll_freshAndClosed_stemRequests :
    let replies := Generator.serveAll {} stemRequests
    (∀ request ∈ stemRequests, request.Proper {}) ∧
      (replies.map fun reply => reply.result.isOk) =
        [true, true, false, true, false, true, true, true, true, true, true, true] ∧
      reference (LabelSupply.label "TRUE" 1) ∈ replies.flatMap Reply.texts ∧
      FreshAndClosed replies := by
  have hproper : ∀ request ∈ stemRequests, request.Proper {} := by decide
  exact ⟨hproper, by decide +kernel, by decide +kernel,
    serveAll_freshAndClosed {} stemRequests hproper⟩

end HackVm
