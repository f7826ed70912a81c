import HackVm.Proofs.Requests
import HackVm.Proofs.Streaming

/-!
# Refused requests

A request that a generator refuses leaves no trace. Serving only the requests that are granted gives
the same replies to them and the same generator in the end, however the refused ones were mixed in:
no number is lost on them, no label is declared by them, and no function starts. In the same way,
commands with one that is refused leave the generator that the commands before it leave.
-/

namespace HackVm

open Assembly Codegen

/-- Whether a request was granted. -/
def Codegen.Reply.granted (reply : Reply) : Bool := reply.result.isOk

namespace Codegen.Generator

/-- The generator after all requests. -/
def afterAll (generator : Generator) (requests : List Request) : Generator :=
  requests.foldl (fun before request => (before.serve request).generator) generator

/-- The requests that are granted, in order. -/
def granted (generator : Generator) (requests : List Request) : List Request :=
  ((generator.serveAll requests).filter Reply.granted).map Reply.request

variable {generator : Generator} {request : Request} {command : Command} {error : Error}

/-- The reply to a request that is granted is followed by those of the others. -/
theorem filter_serveAll_cons_of_ok {lines : List Line}
    (h : (generator.serve request).result = .ok lines) (requests : List Request) :
    (generator.serveAll (request :: requests)).filter Reply.granted =
      generator.reply request ::
        ((generator.serve request).generator.serveAll requests).filter Reply.granted := by
  have hgranted : (generator.reply request).granted = true := by
    rw [Reply.granted, reply, h]
    rfl
  rw [serveAll, List.filter_cons_of_pos hgranted]

/-- The reply to a request that is refused is left out, and the others are served as if it had not
been there. -/
theorem filter_serveAll_cons_of_error (h : (generator.serve request).result = .error error)
    (requests : List Request) :
    (generator.serveAll (request :: requests)).filter Reply.granted =
      (generator.serveAll requests).filter Reply.granted := by
  have hrefused : ¬ (generator.reply request).granted = true := by
    rw [Reply.granted, reply, h]
    nofun
  rw [serveAll, List.filter_cons_of_neg hrefused, generator_of_serve_refused h]

/-- A request that is granted is followed by those that are granted after it. -/
theorem granted_cons_of_ok {lines : List Line} (h : (generator.serve request).result = .ok lines)
    (requests : List Request) :
    generator.granted (request :: requests) =
      request :: (generator.serve request).generator.granted requests := by
  rw [granted, filter_serveAll_cons_of_ok h]
  rfl

/-- A request that is refused is left out. -/
theorem granted_cons_of_error (h : (generator.serve request).result = .error error)
    (requests : List Request) :
    generator.granted (request :: requests) = generator.granted requests := by
  rw [granted, filter_serveAll_cons_of_error h]
  rfl

/-- Serving only the granted requests gives the replies to them. -/
theorem serveAll_granted (generator : Generator) (requests : List Request) :
    generator.serveAll (generator.granted requests) =
      (generator.serveAll requests).filter Reply.granted := by
  induction requests generalizing generator with
  | nil => rfl
  | cons request requests ih =>
    cases h : (generator.serve request).result with
    | error error => rw [granted_cons_of_error h, filter_serveAll_cons_of_error h, ih]
    | ok lines => rw [granted_cons_of_ok h, filter_serveAll_cons_of_ok h, serveAll, ih]

/-- Serving only the granted requests gives the same generator in the end. -/
theorem afterAll_granted (generator : Generator) (requests : List Request) :
    generator.afterAll (generator.granted requests) = generator.afterAll requests := by
  induction requests generalizing generator with
  | nil => rfl
  | cons request requests ih =>
    cases h : (generator.serve request).result with
    | error error =>
      rw [granted_cons_of_error h, ih, afterAll, afterAll, List.foldl_cons,
        generator_of_serve_refused h]
    | ok lines =>
      rw [granted_cons_of_ok h]
      exact ih _

/-- Commands whose first one is refused. -/
theorem lowerAll_cons_of_error (h : (generator.lower command).result = .error error)
    (commands : List Command) :
    (generator.lowerAll (command :: commands)).generator = generator ∧
      (generator.lowerAll (command :: commands)).result = .error error := by
  rw [lowerAll]
  dsimp only
  rw [h]
  exact ⟨generator_of_refused h, rfl⟩

/-- Commands fail with the first one that is refused, and leave the generator that the commands
before it leave. -/
theorem exists_refused_of_lowerAll {commands : List Command}
    (h : (generator.lowerAll commands).result = .error error) :
    ∃ earlier command later lines, commands = earlier ++ command :: later ∧
      (generator.lowerAll earlier).result = .ok lines ∧
      ((generator.lowerAll earlier).generator.lower command).result = .error error ∧
      (generator.lowerAll commands).generator = (generator.lowerAll earlier).generator := by
  induction commands generalizing generator with
  | nil => cases h
  | cons command commands ih =>
    cases hfirst : (generator.lower command).result with
    | error other =>
      obtain ⟨hgenerator, hresult⟩ := lowerAll_cons_of_error hfirst commands
      obtain rfl : other = error := by
        rw [hresult] at h
        exact Except.error.inj h
      exact ⟨[], command, commands, [], rfl, rfl, hfirst, hgenerator⟩
    | ok block =>
      obtain ⟨hgenerator, hresult⟩ := lowerAll_cons hfirst commands
      have hrest : ((generator.lower command).generator.lowerAll commands).result =
          .error error := by
        rw [hresult] at h
        cases hother : ((generator.lower command).generator.lowerAll commands).result with
        | error other =>
          rw [hother] at h
          exact h
        | ok lines =>
          rw [hother] at h
          cases h
      obtain ⟨earlier, refused, later, lines, rfl, hlines, hrefused, hsame⟩ := ih hrest
      obtain ⟨hearlier, hblocks⟩ := lowerAll_cons hfirst earlier
      rw [hlines] at hblocks
      rw [← hearlier] at hrefused hsame
      exact ⟨command :: earlier, refused, later, block ++ lines, rfl, hblocks, hrefused,
        hgenerator.trans hsame⟩

end Codegen.Generator

/-- What a generator refuses leaves no trace: neither in the replies to the other requests nor in
the generator afterwards, and commands that fail leave the generator of those before the first that
is refused. -/
theorem refused_requests_leave_no_trace (generator : Generator) :
    (∀ requests : List Request,
      generator.serveAll (generator.granted requests) =
          (generator.serveAll requests).filter Reply.granted ∧
        generator.afterAll (generator.granted requests) = generator.afterAll requests) ∧
    ∀ (commands : List Command) (error : Error),
      (generator.lowerAll commands).result = .error error →
      ∃ earlier command later lines, commands = earlier ++ command :: later ∧
        (generator.lowerAll earlier).result = .ok lines ∧
        ((generator.lowerAll earlier).generator.lower command).result = .error error ∧
        (generator.lowerAll commands).generator = (generator.lowerAll earlier).generator :=
  ⟨fun requests => ⟨generator.serveAll_granted requests, generator.afterAll_granted requests⟩,
    fun _ _ h => Generator.exists_refused_of_lowerAll h⟩

end HackVm
