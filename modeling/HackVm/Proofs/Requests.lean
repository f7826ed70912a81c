import HackVm.Proofs.GeneratorStep

/-!
# Requests to a generator

A generator serves requests one after the other: it enters units, starts programs and lowers
commands, in any order and as often as it is asked. A request that fails changes nothing, and
the generator goes on with the next one.
-/

namespace HackVm.Codegen

open Assembly

/-- What a generator can be asked for. -/
inductive Request where
  /-- Start a source unit. -/
  | enterUnit (name : String)
  /-- Generate the code that starts a program. -/
  | bootstrap
  /-- Generate the code of a command. -/
  | lower (command : Command)
  deriving DecidableEq, Repr

/-- Whether the names of a request are those of the grammar; units may have any name. -/
def Request.Proper (config : Config) : Request → Prop
  | enterUnit _ => True
  | bootstrap => Grammar.isName config.entryFunction.toList = true
  | lower command => command.Grammatical

/-- Whether the names of a request are proper can be decided. -/
instance Request.decidableProper (config : Config) : DecidablePred (Request.Proper config)
  | enterUnit _ => inferInstanceAs (Decidable True)
  | bootstrap =>
    inferInstanceAs (Decidable (Grammar.isName config.entryFunction.toList = true))
  | lower command => inferInstanceAs (Decidable command.Grammatical)

/-- A request and what came of it. -/
structure Reply where
  /-- The request. -/
  request : Request
  /-- The lines, or why there are none. -/
  result : Except Error (List Line)

/-- The lines that came of a request, none if it failed. -/
def Reply.lines (reply : Reply) : List Line := reply.result.toOption.getD []

namespace Generator

/-- Serve a request. -/
def serve (generator : Generator) : Request → Outcome (List Line)
  | .enterUnit name => ⟨generator.enterUnit name, [], .ok []⟩
  | .bootstrap => generator.bootstrap
  | .lower command => generator.lower command

/-- A request with what comes of it. -/
def reply (generator : Generator) (request : Request) : Reply :=
  ⟨request, (generator.serve request).result⟩

/-- Serve requests one after the other, also after one has failed. -/
def serveAll (generator : Generator) : List Request → List Reply
  | [] => []
  | request :: requests =>
    generator.reply request :: (generator.serve request).generator.serveAll requests

/-- A request that fails leaves the generator as it was. -/
theorem generator_of_serve_refused {generator : Generator} {request : Request} {error : Error}
    (h : (generator.serve request).result = .error error) :
    (generator.serve request).generator = generator := by
  cases request with
  | enterUnit name => cases h
  | bootstrap => exact generator_of_bootstrap_refused h
  | lower command => exact generator_of_refused h

/-- What every request keeps holds of each generator that serves one of them. -/
theorem exists_of_mem_serveAll {Holds : Generator → Prop} {generator : Generator}
    {requests : List Request} {reply : Reply}
    (hkeeps : ∀ request ∈ requests, ∀ before, Holds before →
      Holds (before.serve request).generator)
    (hstart : Holds generator) (h : reply ∈ generator.serveAll requests) :
    ∃ request ∈ requests, ∃ before, Holds before ∧ reply = before.reply request := by
  induction requests generalizing generator with
  | nil => cases h
  | cons request requests ih =>
    rw [List.forall_mem_cons] at hkeeps
    rw [serveAll, List.mem_cons] at h
    obtain rfl | h := h
    · exact ⟨request, List.mem_cons_self, generator, hstart, rfl⟩
    · obtain ⟨other, hmem, hbefore⟩ := ih hkeeps.2 (hkeeps.1 generator hstart) h
      exact ⟨other, List.mem_cons_of_mem _ hmem, hbefore⟩

/-- Whether a generator works with some options inside a function that has a proper name, or
outside of all functions. -/
structure WellNamed (config : Config) (generator : Generator) : Prop where
  /-- The options are these. -/
  config : generator.config = config
  /-- The function has a proper name. -/
  function : ∀ outer ∈ generator.function, Grammar.isName outer.toList = true

/-- A new generator is outside of all functions. -/
theorem wellNamed_fresh (config : Config) : WellNamed config { config := config } :=
  ⟨rfl, by rintro _ ⟨⟩⟩

/-- Requests with proper names keep the names of functions proper. -/
theorem WellNamed.serve {config : Config} {generator : Generator} {request : Request}
    (h : WellNamed config generator) (hproper : request.Proper config) :
    WellNamed config (generator.serve request).generator := by
  cases request with
  | enterUnit name => exact ⟨h.config, by rintro _ ⟨⟩⟩
  | bootstrap =>
    cases hresult : generator.bootstrap.result with
    | error error =>
      rw [Generator.serve, generator_of_bootstrap_refused hresult]
      exact h
    | ok prologue =>
      rw [Generator.serve, generator_of_bootstrap hresult]
      exact ⟨h.config, h.function⟩
  | lower command =>
    obtain ⟨hconfig, -, hfunction⟩ := generator.lower_place command
    refine ⟨hconfig.trans h.config, ?_⟩
    rw [Generator.serve, hfunction]
    cases command with
    | function name locals =>
      rintro outer ⟨⟩
      exact hproper
    | _ => exact h.function

end Generator

end HackVm.Codegen
