import HackVm.Machine.Loader
import HackVm.Proofs.BlockEffect
import HackVm.Proofs.Reading

/-!
# Listings

The code of a program, command by command: the code that starts it and one block for
each command in its place. A session that writes to a sink without a limit writes the
text of the listing, and fails with the error of the listing if there is none.
-/

namespace HackVm

open Assembly Codegen

/-- The text of lines, each closed by a line feed. -/
def written (lines : List Line) : List Char :=
  lines.flatMap fun line => line.text.toList ++ ['\n']

/-- The bytes of lines, each closed by a line feed. -/
def encoded (lines : List Line) : ByteArray := (String.ofList (written lines)).toUTF8

/-- No lines have no bytes. -/
theorem encoded_nil : encoded [] = .empty := by simp [encoded, written]

/-- Lines after lines. -/
theorem encoded_append (first second : List Line) :
    encoded (first ++ second) = encoded first ++ encoded second := by
  simp [encoded, written, String.ofList_append]

namespace Sink

/-- A sink without a limit that holds a text. -/
def holding (text : List Char) : Sink := { held := (String.ofList text).toUTF8 }

/-- The text that a sink holds is found again. -/
theorem text_holding (text : List Char) : (holding text).text = String.ofList text := by
  have hdecode : String.fromUTF8? (String.ofList text).toUTF8 = some (String.ofList text) := by
    rw [String.toUTF8_eq_toByteArray, String.fromUTF8?, dif_pos (String.ofList text).isValidUTF8]
    rfl
  have hrange : List.range 4 = [0, 1, 2, 3] := rfl
  rw [Sink.text, hrange, List.findSome?_cons, Nat.sub_zero, ByteArray.extract_zero_size, holding,
    hdecode]
  rfl

/-- A sink that was asked to hand on its bytes still holds them. -/
theorem text_flush (sink : Sink) : sink.flush.1.text = sink.text := rfl

/-- A sink without a limit that holds bytes. -/
def buffer (held : ByteArray) : Sink := { held := held }

/-- Whether bytes are not more than a sink takes in total. -/
def Fits (sink : Sink) (bytes : ByteArray) : Prop :=
  ∀ limit, sink.limit = some limit → bytes.size ≤ limit

/-- The beginning of bytes that fit fits as well. -/
theorem Fits.of_append {sink : Sink} {first second : ByteArray} (h : sink.Fits (first ++ second)) :
    sink.Fits first := by
  intro limit hlimit
  have hsize := h limit hlimit
  rw [ByteArray.size_append] at hsize
  omega

/-- Bytes that fit are taken. -/
theorem write_of_fits {sink : Sink} {bytes : ByteArray} (h : sink.Fits (sink.held ++ bytes)) :
    sink.write bytes = ({ sink with held := sink.held ++ bytes }, .ok ()) := by
  obtain ⟨limit?, refusal, failsToFlush, held, flushes⟩ := sink
  cases limit? with
  | none => rfl
  | some limit =>
    have hsize : (held ++ bytes).size ≤ limit := h limit rfl
    rw [ByteArray.size_append] at hsize
    have hroom : bytes.size ≤ limit - held.size := by omega
    simp only [write, if_pos hroom]

/-- The bytes of a line and of those after it. -/
theorem encoded_cons (line : Line) (lines : List Line) :
    encoded (line :: lines) = (line.text ++ "\n").toUTF8 ++ encoded lines := by
  simp [encoded, written, String.ofList_append, ByteArray.append_assoc]

/-- Lines that fit are written one after the other. -/
theorem writeLines_of_fits {sink : Sink} {lines : List Line}
    (h : sink.Fits (sink.held ++ encoded lines)) :
    sink.writeLines lines = ({ sink with held := sink.held ++ encoded lines }, .ok ()) := by
  induction lines generalizing sink with
  | nil => rw [encoded_nil, ByteArray.append_empty, writeLines]
  | cons line lines ih =>
    rw [encoded_cons, ← ByteArray.append_assoc] at h ⊢
    rw [writeLines, write_of_fits h.of_append]
    exact ih h

/-- A text in a sink is continued by the text of lines. -/
theorem holding_append (text : List Char) (lines : List Line) :
    holding (text ++ written lines) = buffer ((String.ofList text).toUTF8 ++ encoded lines) := by
  simp [holding, buffer, encoded, String.ofList_append]

end Sink

namespace Codegen.Generator

/-- The generator at the place of a command. -/
def visit (generator : Generator) (site : Site) : Generator :=
  { generator with unit := site.unit, function := site.function }

/-- The blocks of commands in their places, and the generator after them, outside of
every unit. -/
def lowerSites (generator : Generator) : List Site → Except Error (Generator × List (List Line))
  | [] => .ok (generator.enterUnit "", [])
  | site :: sites =>
    let lowered := (generator.visit site).lower site.command
    lowered.result.bind fun block =>
      (lowered.generator.lowerSites sites).map fun rest => (rest.1, block :: rest.2)

/-- What a command changes about the place of the generator. -/
theorem lower_place (generator : Generator) (command : Command) :
    (generator.lower command).generator.config = generator.config ∧
      (generator.lower command).generator.unit = generator.unit ∧
        (generator.lower command).generator.function =
          Site.functionAfter generator.function command := by
  cases command with
  | operate operation => cases operation <;> exact ⟨rfl, rfl, rfl⟩
  | label name =>
    simp only [lower, body, declare]
    split <;> exact ⟨rfl, rfl, rfl⟩
  | call name arguments =>
    simp only [lower, body, call]
    split <;> exact ⟨rfl, rfl, rfl⟩
  | _ => exact ⟨rfl, rfl, rfl⟩

/-- The code of commands in their places does not depend on where the generator is. -/
theorem lowerSites_enterUnit (generator : Generator) (name : String) (sites : List Site) :
    (generator.enterUnit name).lowerSites sites = generator.lowerSites sites := by
  cases sites <;> rfl

/-- Commands after commands. -/
theorem lowerSites_append (generator : Generator) (first second : List Site) :
    generator.lowerSites (first ++ second) = (generator.lowerSites first).bind fun before =>
      (before.1.lowerSites second).map fun after => (after.1, before.2 ++ after.2) := by
  induction first generalizing generator with
  | nil =>
    rw [List.nil_append, lowerSites, ok_bind, lowerSites_enterUnit]
    cases generator.lowerSites second <;> rfl
  | cons site first ih =>
    rw [List.cons_append, lowerSites, lowerSites]
    cases ((generator.visit site).lower site.command).result with
    | error error => rfl
    | ok block =>
      rw [ok_bind, ok_bind, ih]
      cases ((generator.visit site).lower site.command).generator.lowerSites first with
      | error error => rfl
      | ok before =>
        rw [ok_bind, map_ok, ok_bind, map_map]
        rfl

end Codegen.Generator

namespace Session

/-- A session has written what was expected after a text, or has failed as expected. -/
def Delivers (result : Session × Except Error Unit) (text : List Char) :
    Except Error (Generator × List (List Line)) → Prop
  | .ok (final, blocks) => ∃ generator log,
      result = (⟨generator, .holding (text ++ written blocks.flatten), log⟩, .ok ()) ∧
        generator.enterUnit "" = final
  | .error error => ∃ session, result = (session, .error error)

/-- Asking a sink to hand on its bytes leaves a trace in the sink and changes nothing else. -/
theorem finish_eq (session : Session) :
    session.finish = ({ session with sink := session.sink.flush.1 },
      if session.sink.failsToFlush then .error (.resource .flushFailed) else .ok ()) := by
  unfold finish Sink.flush
  cases session.sink.failsToFlush <;> rfl

/-- The lines of a step of the generator are written if they fit. -/
theorem emit_of_fits {session : Session} {outcome : Outcome (List Line)} {lines : List Line}
    (h : outcome.result = .ok lines)
    (hfits : session.sink.Fits (session.sink.held ++ encoded lines)) :
    session.emit outcome =
      (⟨outcome.generator, { session.sink with held := session.sink.held ++ encoded lines },
        session.log ++ outcome.log⟩, .ok ()) := by
  rw [emit, h]
  dsimp only
  rw [Sink.writeLines_of_fits hfits]

/-- The lines of a step of the generator are written to a sink without a limit. -/
theorem emit_buffer {outcome : Outcome (List Line)} {lines : List Line} (generator : Generator)
    (held : ByteArray) (log : Array LogEntry) (h : outcome.result = .ok lines) :
    emit ⟨generator, .buffer held, log⟩ outcome =
      (⟨outcome.generator, .buffer (held ++ encoded lines), log ++ outcome.log⟩, .ok ()) := by
  apply emit_of_fits h
  rintro limit ⟨⟩

/-- The lines of a step of the generator are written after a text. -/
theorem emit_of_ok {outcome : Outcome (List Line)} {lines : List Line} (generator : Generator)
    (text : List Char) (log : Array LogEntry) (h : outcome.result = .ok lines) :
    emit ⟨generator, .holding text, log⟩ outcome =
      (⟨outcome.generator, .holding (text ++ written lines), log ++ outcome.log⟩, .ok ()) := by
  rw [Sink.holding_append]
  exact emit_buffer generator _ log h

/-- A step of the generator that fails ends the session. -/
theorem emit_of_error {outcome : Outcome (List Line)} {error : Error} (session : Session)
    (h : outcome.result = .error error) :
    session.emit outcome =
      (⟨outcome.generator, session.sink, session.log ++ outcome.log⟩, .error error) := by
  rw [emit, h]

/-- A session that succeeds has met commands only. -/
theorem exists_commands_of_writeItems {session next : Session}
    {items : List (Except Error Command)} (h : session.writeItems items = (next, .ok ())) :
    ∃ commands : List Command, items = commands.map .ok := by
  induction items generalizing session with
  | nil => exact ⟨[], rfl⟩
  | cons item items ih =>
    cases item with
    | error error => cases h
    | ok command =>
      rw [writeItems] at h
      split at h
      · obtain ⟨commands, rfl⟩ := ih h
        exact ⟨command :: commands, rfl⟩
      · cases h

/-- The commands of a unit are written block by block. -/
theorem delivers_writeItems (generator : Generator) (text : List Char) (log : Array LogEntry)
    (commands : List Command) :
    Delivers (writeItems ⟨generator, .holding text, log⟩ (commands.map .ok)) text
      (generator.lowerSites (Site.ofCommands generator.unit generator.function commands)) := by
  induction commands generalizing generator text log with
  | nil => exact ⟨generator, log, by simp [writeItems, written], rfl⟩
  | cons command commands ih =>
    obtain ⟨-, hunit, hfunction⟩ := generator.lower_place command
    rw [List.map_cons, writeItems, Site.ofCommands, Generator.lowerSites]
    have hvisit : generator.visit ⟨generator.unit, generator.function, command⟩ = generator := rfl
    rw [hvisit]
    cases hresult : (generator.lower command).result with
    | error error =>
      rw [emit_of_error _ hresult]
      exact ⟨_, rfl⟩
    | ok block =>
      rw [emit_of_ok _ _ _ hresult]
      have hrest := ih (generator.lower command).generator (text ++ written block)
        (log ++ (generator.lower command).log)
      rw [hunit, hfunction] at hrest
      dsimp only at hrest ⊢
      rw [ok_bind]
      cases hsites : (generator.lower command).generator.lowerSites
          (Site.ofCommands generator.unit (Site.functionAfter generator.function command)
            commands) with
      | error error =>
        rw [hsites] at hrest
        exact hrest
      | ok rest =>
        rw [hsites] at hrest
        obtain ⟨final, messages, hwrite, hplace⟩ := hrest
        refine ⟨final, messages, ?_, hplace⟩
        rw [hwrite]
        simp [written]

/-- A unit that could be read is written block by block. -/
theorem delivers_writeUnit (generator : Generator) (text : List Char) (log : Array LogEntry)
    (name : String) {source : String} {commands : List Command}
    (h : Grammar.parse source = .ok commands) :
    Delivers (writeUnit ⟨generator, .holding text, log⟩ name source) text
      (generator.lowerSites (Site.ofCommands name none commands)) := by
  rw [writeUnit, (Grammar.collect_eq_ok_iff _ _).mp h, ← generator.lowerSites_enterUnit name]
  exact delivers_writeItems (generator.enterUnit name) text log commands

/-- Units that could be read are written one after the other. -/
theorem delivers_writeUnits (generator : Generator) (text : List Char) (log : Array LogEntry)
    {units : List (String × String)}
    (h : ∀ unit ∈ units, ∃ commands, Grammar.parse unit.2 = .ok commands) :
    Delivers (writeUnits ⟨generator, .holding text, log⟩ units) text
      (generator.lowerSites (Site.ofUnits units)) := by
  induction units generalizing generator text log with
  | nil => exact ⟨generator, log, by simp [writeUnits, written], rfl⟩
  | cons unit units ih =>
    rw [List.forall_mem_cons] at h
    obtain ⟨commands, hparse⟩ := h.1
    have hsites : Site.ofUnits (unit :: units) =
        Site.ofCommands unit.1 none commands ++ Site.ofUnits units := by
      rw [Site.ofUnits, List.flatMap_cons, Site.commandsOf, hparse]
      rfl
    have hunit := delivers_writeUnit generator text log unit.1 hparse
    rw [hsites, Generator.lowerSites_append, writeUnits]
    cases hfirst : generator.lowerSites (Site.ofCommands unit.1 none commands) with
    | error error =>
      rw [hfirst] at hunit
      obtain ⟨session, hwrite⟩ := hunit
      rw [hwrite]
      exact ⟨session, rfl⟩
    | ok first =>
      rw [hfirst] at hunit
      obtain ⟨final, messages, hwrite, hplace⟩ := hunit
      have hrest := ih final (text ++ written first.2.flatten) messages h.2
      rw [hwrite, ok_bind, ← hplace, Generator.lowerSites_enterUnit]
      dsimp only
      cases hsecond : final.lowerSites (Site.ofUnits units) with
      | error error =>
        rw [hsecond] at hrest
        exact hrest
      | ok rest =>
        rw [hsecond] at hrest
        obtain ⟨last, others, hwrite', hplace'⟩ := hrest
        refine ⟨last, others, ?_, hplace'⟩
        rw [hwrite']
        simp [written]

end Session

/-- The code of a program. -/
structure Listing where
  /-- The code that starts the program. -/
  prologue : List Line
  /-- The code of each command. -/
  blocks : List (List Line)

namespace Listing

/-- The code that starts a program, and the generator after it. -/
def start (config : Config) (bootstrap : Bool) : Except Error (Generator × List Line) :=
  let fresh : Generator := { config := config }
  if bootstrap then fresh.bootstrap.result.map fun prologue => (fresh.bootstrap.generator, prologue)
  else .ok (fresh, [])

/-- The listing of commands in their places, with or without a bootstrap. -/
def ofSites (config : Config) (bootstrap : Bool) (sites : List Site) : Except Error Listing :=
  (start config bootstrap).bind fun started =>
    (started.1.lowerSites sites).map fun code => ⟨started.2, code.2⟩

/-- All lines of a listing. -/
def lines (listing : Listing) : List Line := listing.prologue ++ listing.blocks.flatten

/-- A listing has the code that starts the program and the blocks of the commands. -/
theorem of_ofSites {config : Config} {bootstrap : Bool} {sites : List Site} {listing : Listing}
    (h : ofSites config bootstrap sites = .ok listing) :
    ∃ generator final, start config bootstrap = .ok (generator, listing.prologue) ∧
      generator.lowerSites sites = .ok (final, listing.blocks) := by
  unfold ofSites at h
  cases hstart : start config bootstrap with
  | error error =>
    rw [hstart] at h
    cases h
  | ok started =>
    rw [hstart, ok_bind] at h
    cases hsites : started.1.lowerSites sites with
    | error error =>
      rw [hsites] at h
      cases h
    | ok code =>
      rw [hsites] at h
      cases h
      exact ⟨started.1, code.1, rfl, hsites⟩

end Listing

namespace Session

/-- The lines of the text that a session has written. -/
def outputLines (session : Session) : List String :=
  (Text.lines session.sink.text.toList).map String.ofList

/-- The units of a program that was written could be read. -/
theorem parse_of_writeUnits {session next : Session} {units : List (String × String)}
    (h : session.writeUnits units = (next, .ok ())) :
    ∀ unit ∈ units, ∃ commands, Grammar.parse unit.2 = .ok commands := by
  induction units generalizing session with
  | nil => simp
  | cons unit units ih =>
    rw [writeUnits] at h
    split at h
    · rename_i middle hwrite
      rw [List.forall_mem_cons]
      obtain ⟨commands, hitems⟩ := exists_commands_of_writeItems hwrite
      exact ⟨⟨commands, (Grammar.collect_eq_ok_iff _ _).mpr hitems⟩, ih h⟩
    · cases h

/-- The code that starts a program is written first, or its error ends the session. -/
theorem writeBootstrap_buffer (config : Config) (bootstrap : Bool) (held : ByteArray) :
    match Listing.start config bootstrap with
    | .ok (generator, prologue) => ∃ log,
        writeBootstrap ⟨{ config := config }, .buffer held, #[]⟩ bootstrap =
          (⟨generator, .buffer (held ++ encoded prologue), log⟩, .ok ())
    | .error error => ∃ session,
        writeBootstrap ⟨{ config := config }, .buffer held, #[]⟩ bootstrap =
          (session, .error error) ∧ session.sink = .buffer held := by
  cases bootstrap with
  | false =>
    refine ⟨#[], ?_⟩
    rw [encoded_nil, ByteArray.append_empty]
    rfl
  | true =>
    simp only [Listing.start, if_true, writeBootstrap]
    cases hresult : (Generator.bootstrap { config := config }).result with
    | error error => exact ⟨_, emit_of_error _ hresult, rfl⟩
    | ok prologue => exact ⟨_, emit_buffer _ held _ hresult⟩

/-- The code that starts a program is written to an empty sink, or its error ends the session. -/
theorem delivers_writeBootstrap (config : Config) (bootstrap : Bool) :
    match Listing.start config bootstrap with
    | .ok (generator, prologue) => ∃ log,
        writeBootstrap ⟨{ config := config }, {}, #[]⟩ bootstrap =
          (⟨generator, .holding (written prologue), log⟩, .ok ())
    | .error error => ∃ session,
        writeBootstrap ⟨{ config := config }, {}, #[]⟩ bootstrap = (session, .error error) := by
  have hwrite := writeBootstrap_buffer config bootstrap .empty
  cases hstart : Listing.start config bootstrap with
  | error error =>
    rw [hstart] at hwrite
    obtain ⟨session, hsession, -⟩ := hwrite
    exact ⟨session, hsession⟩
  | ok started =>
    rw [hstart] at hwrite
    obtain ⟨log, hlog⟩ := hwrite
    rw [ByteArray.empty_append] at hlog
    exact ⟨log, hlog⟩

/-- A program whose units could be read is written as its listing says. -/
theorem delivers_writeProgram (config : Config) (bootstrap : Bool)
    {units : List (String × String)}
    (hunits : ∀ unit ∈ units, ∃ commands, Grammar.parse unit.2 = .ok commands) :
    match Listing.ofSites config bootstrap (Site.ofUnits units) with
    | .ok listing => ∃ session, writeProgram config bootstrap units {} = (session, .ok ()) ∧
        session.sink.text = String.ofList (written listing.lines)
    | .error error => ∃ session, writeProgram config bootstrap units {} =
        (session, .error error) := by
  have hstart := delivers_writeBootstrap config bootstrap
  rw [writeProgram, writeCode, Listing.ofSites]
  cases hs : Listing.start config bootstrap with
  | error error =>
    rw [hs] at hstart
    obtain ⟨session, hwrite⟩ := hstart
    rw [hwrite]
    exact ⟨session, rfl⟩
  | ok started =>
    rw [hs] at hstart
    obtain ⟨log, hwrite⟩ := hstart
    have hdelivers := delivers_writeUnits started.1 (written started.2) log hunits
    rw [hwrite, ok_bind]
    dsimp only
    cases hsites : started.1.lowerSites (Site.ofUnits units) with
    | error error =>
      rw [hsites] at hdelivers
      obtain ⟨session, hunit⟩ := hdelivers
      rw [hunit]
      exact ⟨session, rfl⟩
    | ok code =>
      rw [hsites] at hdelivers
      obtain ⟨final, messages, hunit, -⟩ := hdelivers
      rw [hunit]
      refine ⟨_, finish_eq _, ?_⟩
      rw [Sink.text_flush, Sink.text_holding]
      simp [written, Listing.lines]

/-- The code of a program that was written has been written before the sink was asked to hand on
its bytes. -/
theorem exists_writeCode_of_writeProgram {config : Config} {bootstrap : Bool}
    {units : List (String × String)} {sink : Sink} {session : Session}
    (h : writeProgram config bootstrap units sink = (session, .ok ())) :
    ∃ written, writeCode config bootstrap units sink = (written, .ok ()) := by
  rw [writeProgram] at h
  split at h
  · cases h
  · rename_i written hcode
    exact ⟨written, hcode⟩

/-- A program that was written has a listing, and the text of the listing was written. -/
theorem exists_listing_of_writeProgram {config : Config} {bootstrap : Bool}
    {units : List (String × String)} {session : Session}
    (h : writeProgram config bootstrap units {} = (session, .ok ())) :
    (∀ unit ∈ units, ∃ commands, Grammar.parse unit.2 = .ok commands) ∧
      ∃ listing, Listing.ofSites config bootstrap (Site.ofUnits units) = .ok listing ∧
        session.sink.text = String.ofList (written listing.lines) := by
  have hunits : ∀ unit ∈ units, ∃ commands, Grammar.parse unit.2 = .ok commands := by
    obtain ⟨written, hcode⟩ := exists_writeCode_of_writeProgram h
    rw [writeCode] at hcode
    split at hcode
    · cases hcode
    · exact parse_of_writeUnits hcode
  have hdelivers := delivers_writeProgram config bootstrap hunits
  refine ⟨hunits, ?_⟩
  cases hlisting : Listing.ofSites config bootstrap (Site.ofUnits units) with
  | error error =>
    rw [hlisting] at hdelivers
    obtain ⟨other, hother⟩ := hdelivers
    rw [h] at hother
    cases hother
  | ok listing =>
    rw [hlisting] at hdelivers
    obtain ⟨other, hother, htext⟩ := hdelivers
    rw [h, Prod.mk.injEq] at hother
    exact ⟨listing, rfl, by rw [hother.1, htext]⟩

end Session

end HackVm
