import HackVm.Proofs.Labels

/-!
# Programs that are translated

Which programs a session translates, said about what stands in the program and not about the
state of the generator. A command is judged by its unit and by the commands before it in the
unit. Labels are judged over the whole program: two labels may not have the same name and belong
to the same function, and all places outside of functions count as one function.
-/

namespace HackVm

open Assembly Codegen

/-- The name of the function that a command starts. -/
def Command.functionName? : Command → Option String
  | .function name _ => some name
  | _ => none

/-- A command of a program and what stands before it in its unit. -/
structure Moment where
  /-- The name of the unit. -/
  unit : String
  /-- The commands before it, in order. -/
  before : List Command
  /-- The command. -/
  command : Command

namespace Moment

/-- The moments of the commands of a unit. -/
def ofCommands (unit : String) (commands : List Command) : List Moment :=
  commands.mapIdx fun index command => ⟨unit, commands.take index, command⟩

/-- The moments of a program, given by the names and the commands of its units. -/
def ofProgram (program : List (String × List Command)) : List Moment :=
  program.flatMap fun unit => ofCommands unit.1 unit.2

/-- The function that a command belongs to: the last one that started before it in the unit. -/
def function? (moment : Moment) : Option String :=
  (moment.before.filterMap Command.functionName?).getLast?

/-- Whether a command may stand where it stands, labels apart. -/
def Allowed (moment : Moment) : Prop :=
  match moment.command with
  | .push segment index | .pop segment index => segment.InReach moment.unit index
  | .call _ arguments => arguments.toNat ≤ 32762
  | .ret => ∃ name locals, Command.function name locals ∈ moment.before
  | _ => True

/-- The function and the name of a label that is declared. -/
def label? (moment : Moment) : Option (Option String × String) :=
  match moment.command with
  | .label name => some (moment.function?, name)
  | _ => none

/-- The place of a command. -/
def site (moment : Moment) : Site := ⟨moment.unit, moment.function?, moment.command⟩

end Moment

/-- Whether a program can be translated. -/
structure Acceptable (config : Config) (bootstrap : Bool)
    (program : List (String × List Command)) : Prop where
  /-- The bootstrap can load the stack pointer. -/
  origin : bootstrap = true → config.stackOrigin.toNat ≤ 32767
  /-- Every command may stand where it stands. -/
  allowed : ∀ moment ∈ Moment.ofProgram program, moment.Allowed
  /-- No two labels have the same name and the same function. -/
  labels : ((Moment.ofProgram program).filterMap Moment.label?).Nodup

/-- Whether a named text is a unit with these commands: its lines spell them, one by one, where
lines that hold no command at all are passed over. -/
def Reads (unit : String × String) (content : String × List Command) : Prop :=
  unit.1 = content.1 ∧ List.Forall₂ Grammar.Spells (Text.contents unit.2.toList) content.2

section History

/-- The function after a command is the one it starts, or the one before. -/
theorem functionAfter_eq (function : Option String) (command : Command) :
    Site.functionAfter function command = (command.functionName? <|> function) := by
  cases command <;> rfl

/-- The function that the next command belongs to. -/
theorem getLast?_functionName?_concat (before : List Command) (command : Command) :
    ((before ++ [command]).filterMap Command.functionName?).getLast? =
      Site.functionAfter (before.filterMap Command.functionName?).getLast? command := by
  rw [functionAfter_eq, List.filterMap_append]
  cases hname : command.functionName? with
  | none => simp [hname]
  | some name => simp [hname]

/-- There is a function exactly if one started before. -/
theorem Moment.isSome_function?_iff (moment : Moment) :
    moment.function?.isSome ↔ ∃ name locals, Command.function name locals ∈ moment.before := by
  rw [function?, List.getLast?_isSome, ne_eq, List.filterMap_eq_nil_iff]
  push Not
  constructor
  · rintro ⟨command, hmem, hname⟩
    cases command with
    | function name locals => exact ⟨name, locals, hmem⟩
    | _ => exact absurd rfl hname
  · rintro ⟨name, locals, hmem⟩
    exact ⟨_, hmem, by simp [Command.functionName?]⟩

/-- The places of commands that stand after others. -/
theorem Moment.map_site_mapIdx (unit : String) (before commands : List Command) :
    (commands.mapIdx fun index command =>
        Moment.mk unit (before ++ commands.take index) command).map Moment.site =
      Site.ofCommands unit (before.filterMap Command.functionName?).getLast? commands := by
  induction commands generalizing before with
  | nil => rfl
  | cons command commands ih =>
    have hrest := ih (before ++ [command])
    rw [getLast?_functionName?_concat] at hrest
    rw [Site.ofCommands, ← hrest, List.mapIdx_cons]
    simp [site, function?]

/-- The places of the commands of a unit. -/
theorem Moment.map_site_ofCommands (unit : String) (commands : List Command) :
    (ofCommands unit commands).map site = Site.ofCommands unit none commands :=
  map_site_mapIdx unit [] commands

/-- The places of the commands of a program. -/
theorem map_site_of_reads {units : List (String × String)}
    {program : List (String × List Command)} (h : List.Forall₂ Reads units program) :
    (Moment.ofProgram program).map Moment.site = Site.ofUnits units := by
  induction h with
  | nil => rfl
  | @cons unit content units program hreads hrest ih =>
    obtain ⟨hname, hlines⟩ := hreads
    have hcommands : Site.commandsOf unit.2 = content.2 := by
      rw [Site.commandsOf, Grammar.parse_eq_ok_iff.mpr hlines]
      rfl
    rw [Site.ofUnits, List.flatMap_cons, hname, hcommands, ← Moment.map_site_ofCommands,
      ← Site.ofUnits, ← ih, ← List.map_append]
    rfl

end History

namespace Site

/-- Whether a command may stand in its place, labels apart. -/
def Allowed (site : Site) : Prop :=
  match site.command with
  | .push segment index => segment.InReach site.unit index
  | .pop segment index => segment ≠ .constant ∧ segment.InReach site.unit index
  | .call _ arguments => arguments.toNat ≤ 32762
  | .ret => site.function.isSome
  | _ => True

/-- The symbol of a label that a command declares. -/
def labelSymbol? (site : Site) : Option String :=
  match site.command with
  | .label name => some (labelSymbol site.function name)
  | _ => none

end Site

namespace Codegen.Generator

/-- A command is accepted in its place exactly if it may stand there and declares a new label. -/
theorem accepts_visit_iff {generator : Generator} {site : Site} :
    (generator.visit site).Accepts site.command ↔
      site.Allowed ∧ ∀ symbol ∈ site.labelSymbol?, symbol ∉ generator.declared := by
  obtain ⟨unit, function, command⟩ := site
  cases command <;> simp [Accepts, visit, Site.Allowed, Site.labelSymbol?]

/-- The labels that are declared after an accepted command. -/
theorem mem_declared_after {generator : Generator} {site : Site} {symbol : String} :
    symbol ∈ ((generator.visit site).after site.command).declared ↔
      site.labelSymbol? = some symbol ∨ symbol ∈ generator.declared := by
  obtain ⟨unit, function, command⟩ := site
  cases command with
  | operate operation => cases operation <;> simp [after, visit, Site.labelSymbol?]
  | label name => simp [after, visit, Site.labelSymbol?, Std.TreeSet.mem_insert]
  | _ => simp [after, visit, Site.labelSymbol?]

/-- Commands in their places have blocks exactly if all of them may stand there and declare
labels that are new and different from each other. The labels after a command are new there if
they were new before it and are not its own. -/
theorem lowerSites_isOk_iff {generator : Generator} {sites : List Site} :
    (∃ code, generator.lowerSites sites = .ok code) ↔
      (∀ site ∈ sites, site.Allowed) ∧ (sites.filterMap Site.labelSymbol?).Nodup ∧
        ∀ symbol ∈ sites.filterMap Site.labelSymbol?, symbol ∉ generator.declared := by
  induction sites generalizing generator with
  | nil => simp [lowerSites]
  | cons site sites ih =>
    have hstep : (∃ code, generator.lowerSites (site :: sites) = .ok code) ↔
        (generator.visit site).Accepts site.command ∧
          ∃ code, ((generator.visit site).after site.command).lowerSites sites = .ok code := by
      rw [lowerSites, ← lower_isOk_iff]
      cases hresult : ((generator.visit site).lower site.command).result with
      | error error => simp [Except.bind]
      | ok block =>
        rw [ok_bind, exists_map_eq_ok_iff, generator_of_lower hresult]
        simp
    rw [hstep, ih, accepts_visit_iff]
    simp only [mem_declared_after, not_or]
    rw [List.forall_mem_cons, List.filterMap_cons]
    cases hlabel : site.labelSymbol? with
    | none => simp [and_assoc]
    | some symbol =>
      simp only [Option.mem_def, Option.some.injEq, List.nodup_cons, List.forall_mem_cons,
        forall_eq']
      constructor
      · rintro ⟨⟨hallowed, hnew⟩, hrest, hnodup, hothers⟩
        exact ⟨⟨hallowed, hrest⟩, ⟨fun hmem => (hothers symbol hmem).1 rfl, hnodup⟩, hnew,
          fun other hother => (hothers other hother).2⟩
      · rintro ⟨⟨hallowed, hrest⟩, ⟨hfresh, hnodup⟩, hnew, hothers⟩
        refine ⟨⟨hallowed, hnew⟩, hrest, hnodup, fun other hother => ⟨?_, hothers other hother⟩⟩
        rintro rfl
        exact hfresh hother

end Codegen.Generator

/-- A program can be started exactly if there is no bootstrap or it can load the stack pointer. -/
theorem Listing.start_isOk_iff (config : Config) (bootstrap : Bool) :
    (∃ started, start config bootstrap = .ok started) ↔
      (bootstrap = true → config.stackOrigin.toNat ≤ 32767) := by
  cases bootstrap with
  | false => simp [start]
  | true =>
    simp only [start, if_true]
    rw [exists_map_eq_ok_iff, Generator.bootstrap_isOk_iff, forall_const]

/-- No label is declared at the start of a program. -/
theorem Listing.not_mem_declared_of_start {config : Config} {bootstrap : Bool}
    {generator : Generator} {prologue : List Line}
    (h : start config bootstrap = .ok (generator, prologue)) (symbol : String) :
    symbol ∉ generator.declared := by
  cases bootstrap with
  | false =>
    cases h
    exact Std.TreeSet.not_mem_emptyc
  | true =>
    obtain ⟨lines, hresult, hpair⟩ := exists_of_map_eq_ok h
    rw [Prod.mk.injEq, Generator.generator_of_bootstrap hresult] at hpair
    rw [hpair.1]
    exact Std.TreeSet.not_mem_emptyc

/-- Commands in their places have a listing exactly if the program can be started, all commands
may stand in their places and no label symbol is declared twice. -/
theorem Listing.ofSites_isOk_iff {config : Config} {bootstrap : Bool} {sites : List Site} :
    (∃ listing, ofSites config bootstrap sites = .ok listing) ↔
      (bootstrap = true → config.stackOrigin.toNat ≤ 32767) ∧
        (∀ site ∈ sites, site.Allowed) ∧ (sites.filterMap Site.labelSymbol?).Nodup := by
  rw [← start_isOk_iff, ofSites]
  cases hstart : start config bootstrap with
  | error error => simp [Except.bind]
  | ok started =>
    have hnone := not_mem_declared_of_start hstart
    rw [ok_bind, exists_map_eq_ok_iff, Generator.lowerSites_isOk_iff]
    simp [hnone]

namespace Moment

/-- A command that is grammatical may stand at its moment exactly if it may in its place. -/
theorem allowed_iff {moment : Moment} (hcommand : moment.command.Grammatical) :
    moment.site.Allowed ↔ moment.Allowed := by
  obtain ⟨unit, before, command⟩ := moment
  cases command with
  | pop segment index =>
    have hsegment : segment ≠ .constant := hcommand
    simp [site, Site.Allowed, Allowed, hsegment]
  | ret =>
    simp only [site, Site.Allowed, Allowed]
    exact isSome_function?_iff _
  | _ => simp [site, Site.Allowed, Allowed]

/-- The symbols of labels are those of their functions and names. -/
theorem labelSymbol?_site (moment : Moment) :
    moment.site.labelSymbol? = moment.label?.map fun label => labelSymbol label.1 label.2 := by
  obtain ⟨unit, before, command⟩ := moment
  cases command <;> rfl

/-- Label symbols of well placed commands repeat exactly if a name repeats in a function. -/
theorem nodup_labelSymbol?_iff {moments : List Moment}
    (h : ∀ moment ∈ moments, moment.site.WellPlaced) :
    ((moments.map site).filterMap Site.labelSymbol?).Nodup ↔
      (moments.filterMap label?).Nodup := by
  have hfunction : ∀ label ∈ moments.filterMap label?,
      ∀ outer ∈ label.1, Grammar.isName outer.toList = true := by
    intro label hlabel
    obtain ⟨moment, hmoment, hsome⟩ := List.mem_filterMap.mp hlabel
    unfold label? at hsome
    split at hsome
    · cases hsome
      exact (h moment hmoment).function
    · cases hsome
  have hsymbols : (moments.map site).filterMap Site.labelSymbol? =
      (moments.filterMap label?).map fun label => labelSymbol label.1 label.2 := by
    rw [List.filterMap_map, List.map_filterMap]
    exact List.filterMap_congr fun moment _ => labelSymbol?_site moment
  rw [hsymbols]
  constructor
  · exact List.Nodup.of_map _
  · refine List.Nodup.map_on fun label hlabel other hother hsame => ?_
    obtain ⟨hfirst, hsecond⟩ :=
      labelSymbol_inj (hfunction label hlabel) (hfunction other hother) hsame
    exact Prod.ext hfirst hsecond

end Moment

/-- A program whose units could be read is translated exactly if it is acceptable. -/
theorem ofSites_isOk_iff_acceptable {config : Config} {bootstrap : Bool}
    {units : List (String × String)} {program : List (String × List Command)}
    (h : List.Forall₂ Reads units program) :
    (∃ listing, Listing.ofSites config bootstrap (Site.ofUnits units) = .ok listing) ↔
      Acceptable config bootstrap program := by
  have hplaced : ∀ moment ∈ Moment.ofProgram program, moment.site.WellPlaced := by
    intro moment hmoment
    apply Site.wellPlaced_of_mem_ofUnits
    rw [← map_site_of_reads h]
    exact List.mem_map_of_mem hmoment
  rw [Listing.ofSites_isOk_iff, ← map_site_of_reads h, Moment.nodup_labelSymbol?_iff hplaced,
    List.forall_mem_map]
  have hallowed : (∀ moment ∈ Moment.ofProgram program, moment.site.Allowed) ↔
      ∀ moment ∈ Moment.ofProgram program, moment.Allowed :=
    forall₂_congr fun moment hmoment => Moment.allowed_iff (hplaced moment hmoment).command
  rw [hallowed]
  exact ⟨fun ⟨horigin, hall, hlabels⟩ => ⟨horigin, hall, hlabels⟩,
    fun haccept => ⟨haccept.origin, haccept.allowed, haccept.labels⟩⟩

/-- All units can be read exactly if they are units with some commands. -/
theorem parse_isOk_iff_reads {units : List (String × String)} :
    (∀ unit ∈ units, ∃ commands, Grammar.parse unit.2 = .ok commands) ↔
      ∃ program, List.Forall₂ Reads units program := by
  induction units with
  | nil => simp
  | cons unit units ih =>
    rw [List.forall_mem_cons, ih]
    constructor
    · rintro ⟨⟨commands, hparse⟩, program, hrest⟩
      exact ⟨(unit.1, commands) :: program, .cons ⟨rfl, Grammar.parse_eq_ok_iff.mp hparse⟩ hrest⟩
    · rintro ⟨_, hreads⟩
      cases hreads with
      | cons hfirst hrest => exact ⟨⟨_, Grammar.parse_eq_ok_iff.mpr hfirst.2⟩, _, hrest⟩

/-- A session succeeds exactly if all units can be read and the program has a listing. -/
theorem Session.writeProgram_isOk_iff {config : Config} {bootstrap : Bool}
    {units : List (String × String)} :
    (writeProgram config bootstrap units {}).2 = .ok () ↔
      (∀ unit ∈ units, ∃ commands, Grammar.parse unit.2 = .ok commands) ∧
        ∃ listing, Listing.ofSites config bootstrap (Site.ofUnits units) = .ok listing := by
  constructor
  · intro h
    obtain ⟨hunits, listing, hlisting, -⟩ := exists_listing_of_writeProgram (Prod.ext rfl h)
    exact ⟨hunits, listing, hlisting⟩
  · rintro ⟨hunits, listing, hlisting⟩
    have hdelivers := delivers_writeProgram config bootstrap hunits
    rw [hlisting] at hdelivers
    obtain ⟨session, hwrite, -⟩ := hdelivers
    rw [hwrite]

/-- A program is translated exactly if its lines spell commands and these are acceptable. -/
theorem writeProgram_eq_ok_iff_acceptable (config : Config) (bootstrap : Bool)
    (units : List (String × String)) :
    (Session.writeProgram config bootstrap units {}).2 = .ok () ↔
      ∃ program, List.Forall₂ Reads units program ∧ Acceptable config bootstrap program := by
  rw [Session.writeProgram_isOk_iff, parse_isOk_iff_reads]
  constructor
  · rintro ⟨⟨program, hreads⟩, hlisting⟩
    exact ⟨program, hreads, (ofSites_isOk_iff_acceptable hreads).mp hlisting⟩
  · rintro ⟨program, hreads, haccept⟩
    exact ⟨⟨program, hreads⟩, (ofSites_isOk_iff_acceptable hreads).mpr haccept⟩

/-- Labels outside of functions belong together, also if they stand in different units. -/
example : (Session.writeProgram {} false [("A", "label L"), ("B", "label L")] {}).2 =
    .error (.duplicateLabel "$L") := by
  decide +kernel

end HackVm
