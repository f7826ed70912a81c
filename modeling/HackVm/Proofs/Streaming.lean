import HackVm.Proofs.GeneratorStep

/-!
# Streaming and batch translation

A session translates while it reads: the code of a command is written before the next line is
looked at. The other way is to read a whole unit and to lower all its commands after that. Both
give the same code and the same generator as long as nothing fails. A session that fails stops
at the first item that is no command or is refused; what it has written, and the generator that
it leaves behind, are those of the commands before this item.
-/

namespace HackVm

open Assembly Codegen

/-- The commands among items, in order; errors are left out. -/
def Grammar.commandsAmong (items : List (Except Error Command)) : List Command :=
  items.filterMap Except.toOption

/-- Whether the code of a command needs a number for its labels. -/
def Command.takesNumber : Command → Bool
  | .operate .eq | .operate .gt | .operate .lt | .call _ _ => true
  | _ => false

namespace Codegen.Generator

/-- Whether a generator cannot get past an item, and why: the item is an error, or a command
that the generator refuses. -/
def Refuses (generator : Generator) (item : Except Error Command) (error : Error) : Prop :=
  match item with
  | .error fault => fault = error
  | .ok command => (generator.lower command).result = .error error

/-- Lower the commands among the first items. -/
def lowerFirst (generator : Generator) (items : List (Except Error Command)) (index : Nat) :
    Outcome (List Line) := generator.lowerAll (Grammar.commandsAmong (items.take index))

/-- Whether the item at an index is refused by the generator that has lowered the commands
before it. -/
def Offends (generator : Generator) (items : List (Except Error Command)) (index : Nat)
    (error : Error) : Prop :=
  ∃ item, items[index]? = some item ∧ (generator.lowerFirst items index).generator.Refuses item error

/-- Whether an index is the least one whose item is refused. -/
structure StopsAt (generator : Generator) (items : List (Except Error Command)) (index : Nat)
    (error : Error) : Prop where
  /-- The item at the index is refused. -/
  offends : generator.Offends items index error
  /-- No item before it is. -/
  least : ∀ earlier < index, ∀ other, ¬ generator.Offends items earlier other

/-- Read and lower units in order, each as a whole, with one generator for all of them. -/
def lowerUnits (generator : Generator) :
    List (String × String) → Except Error (Generator × List Line)
  | [] => .ok (generator, [])
  | (name, text) :: units =>
    (Grammar.parse text).bind fun commands =>
      let lowered := (generator.enterUnit name).lowerAll commands
      lowered.result.bind fun lines =>
        (lowered.generator.lowerUnits units).map fun rest => (rest.1, lines ++ rest.2)

variable {generator : Generator} {command : Command} {commands : List Command}

/-- Commands after a command that is accepted. -/
theorem lowerAll_cons {block : List Line} (h : (generator.lower command).result = .ok block)
    (commands : List Command) :
    (generator.lowerAll (command :: commands)).generator =
        ((generator.lower command).generator.lowerAll commands).generator ∧
      (generator.lowerAll (command :: commands)).result =
        ((generator.lower command).generator.lowerAll commands).result.map fun lines =>
          block ++ lines := by
  rw [lowerAll]
  dsimp only
  rw [h]
  exact ⟨rfl, rfl⟩

/-- The first of commands that are accepted is accepted, and so are the others after it. -/
theorem of_lowerAll_cons {lines : List Line}
    (h : (generator.lowerAll (command :: commands)).result = .ok lines) :
    ∃ block others, (generator.lower command).result = .ok block ∧
      ((generator.lower command).generator.lowerAll commands).result = .ok others ∧
        lines = block ++ others := by
  cases hresult : (generator.lower command).result with
  | error error =>
    rw [lowerAll] at h
    dsimp only at h
    rw [hresult] at h
    cases h
  | ok block =>
    rw [(lowerAll_cons hresult commands).2] at h
    obtain ⟨others, hothers, rfl⟩ := exists_of_map_eq_ok h
    exact ⟨block, others, rfl, hothers, rfl⟩

/-- Each of commands that are accepted is accepted after those before it. -/
theorem lower_of_lowerAll {first rest : List Command} {lines : List Line}
    (h : (generator.lowerAll (first ++ command :: rest)).result = .ok lines) :
    ∃ block, ((generator.lowerAll first).generator.lower command).result = .ok block := by
  induction first generalizing generator lines with
  | nil =>
    obtain ⟨block, -, hblock, -⟩ := of_lowerAll_cons h
    exact ⟨block, hblock⟩
  | cons other first ih =>
    obtain ⟨block, others, hblock, hothers, -⟩ := of_lowerAll_cons h
    rw [(lowerAll_cons hblock first).1]
    exact ih hothers

/-- Each comparison and each call takes a number. -/
theorem allocated_after (generator : Generator) (command : Command) :
    (generator.after command).labels.allocated =
      generator.labels.allocated + if command.takesNumber then 1 else 0 := by
  cases command with
  | operate operation => cases operation <;> rfl
  | _ => rfl

/-- Commands that are accepted take a number for each comparison and each call. -/
theorem allocated_lowerAll {lines : List Line}
    (h : (generator.lowerAll commands).result = .ok lines) :
    (generator.lowerAll commands).generator.labels.allocated =
      generator.labels.allocated + commands.countP Command.takesNumber := by
  induction commands generalizing generator lines with
  | nil => rfl
  | cons command commands ih =>
    obtain ⟨block, others, hblock, hothers, -⟩ := of_lowerAll_cons h
    rw [(lowerAll_cons hblock commands).1, ih hothers, generator_of_lower hblock, allocated_after,
      List.countP_cons]
    omega

/-- The commands before an item, if all of them are commands. -/
theorem lowerFirst_append (generator : Generator) (commands : List Command)
    (rest : List (Except Error Command)) :
    generator.lowerFirst (commands.map .ok ++ rest) commands.length =
      generator.lowerAll commands := by
  have htake : (commands.map Except.ok ++ rest).take commands.length = commands.map .ok :=
    List.take_left' (List.length_map _)
  have hamong : Grammar.commandsAmong (commands.map .ok) = commands := by
    rw [Grammar.commandsAmong, List.filterMap_map]
    exact List.filterMap_some
  rw [lowerFirst, htake, hamong]

/-- The first item that is refused after commands that are accepted. -/
theorem stopsAt_append {item : Except Error Command} {rest : List (Except Error Command)}
    {lines : List Line} {error : Error} (h : (generator.lowerAll commands).result = .ok lines)
    (hrefuses : (generator.lowerAll commands).generator.Refuses item error) :
    generator.StopsAt (commands.map .ok ++ item :: rest) commands.length error := by
  refine ⟨⟨item, ?_, ?_⟩, ?_⟩
  · rw [List.getElem?_append_right (by simp)]
    simp
  · rw [lowerFirst_append]
    exact hrefuses
  · rintro earlier hlt other ⟨found, hfound, hbad⟩
    obtain ⟨first, command, second, rfl, rfl⟩ : ∃ first command second,
        commands = first ++ command :: second ∧ first.length = earlier :=
      ⟨commands.take earlier, commands[earlier], commands.drop (earlier + 1), by simp, by simp; omega⟩
    obtain ⟨block, hblock⟩ := lower_of_lowerAll h
    rw [List.map_append, List.map_cons, List.append_assoc, List.cons_append] at hfound hbad
    rw [lowerFirst_append] at hbad
    have hcommand : found = .ok command := by
      simpa using hfound.symm
    subst hcommand
    rw [Refuses, hblock] at hbad
    cases hbad

variable {generator : Generator}

/-- A command that is accepted is not refused. -/
theorem not_refuses_of_ok {command : Command} {block : List Line} {error : Error}
    (h : (generator.lower command).result = .ok block) :
    ¬ generator.Refuses (.ok command) error := by
  rw [Refuses, h]
  rintro ⟨⟩

/-- Items with one that is refused are not a text whose commands are all accepted. -/
theorem not_lowerAll_of_refuses {commands others : List Command} {item : Except Error Command}
    {rest : List (Except Error Command)} {lines : List Line} {error : Error}
    (hitems : others.map .ok = commands.map .ok ++ item :: rest)
    (hrefuses : (generator.lowerAll commands).generator.Refuses item error) :
    (generator.lowerAll others).result ≠ .ok lines := by
  intro hall
  obtain ⟨first, second, rfl, hfirst, hsecond⟩ := List.map_eq_append_iff.mp hitems
  obtain ⟨command, after, rfl, rfl, -⟩ := List.map_eq_cons_iff.mp hsecond
  obtain rfl : first = commands :=
    List.map_injective_iff.mpr (fun _ _ h => Except.ok.inj h) hfirst
  obtain ⟨block, hblock⟩ := lower_of_lowerAll hall
  exact not_refuses_of_ok hblock hrefuses

/-- Units after units. -/
theorem lowerUnits_append (generator : Generator) (first second : List (String × String)) :
    generator.lowerUnits (first ++ second) = (generator.lowerUnits first).bind fun before =>
      (before.1.lowerUnits second).map fun after => (after.1, before.2 ++ after.2) := by
  induction first generalizing generator with
  | nil =>
    rw [List.nil_append, lowerUnits, ok_bind]
    cases generator.lowerUnits second <;> rfl
  | cons unit first ih =>
    rw [List.cons_append, lowerUnits, lowerUnits, bind_bind]
    congr 1
    funext commands
    dsimp only
    rw [bind_bind]
    congr 1
    funext lines
    rw [ih, map_bind, bind_map]
    congr 1
    funext before
    rw [map_map]
    simp only [List.append_assoc]

/-- A unit that is read and lowered as a whole. -/
theorem of_lowerUnits_cons {unit : String × String} {units : List (String × String)}
    {final : Generator} {lines : List Line}
    (h : generator.lowerUnits (unit :: units) = .ok (final, lines)) :
    ∃ commands first others, Grammar.parse unit.2 = .ok commands ∧
      ((generator.enterUnit unit.1).lowerAll commands).result = .ok first ∧
        ((generator.enterUnit unit.1).lowerAll commands).generator.lowerUnits units =
          .ok (final, others) ∧ lines = first ++ others := by
  rw [lowerUnits] at h
  cases hparse : Grammar.parse unit.2 with
  | error error =>
    rw [hparse] at h
    cases h
  | ok commands =>
    rw [hparse, ok_bind] at h
    dsimp only at h
    cases hlines : ((generator.enterUnit unit.1).lowerAll commands).result with
    | error error =>
      rw [hlines] at h
      cases h
    | ok first =>
      rw [hlines, ok_bind] at h
      obtain ⟨rest, hrest, hpair⟩ := exists_of_map_eq_ok h
      cases hpair
      exact ⟨commands, first, rest.2, rfl, hlines, hrest, rfl⟩

/-- Numbers go on from unit to unit. -/
theorem allocated_lowerUnits {units : List (String × String)} {final : Generator}
    {lines : List Line} (h : generator.lowerUnits units = .ok (final, lines)) :
    final.labels.allocated = generator.labels.allocated +
      (units.flatMap fun unit => Site.commandsOf unit.2).countP Command.takesNumber := by
  induction units generalizing generator lines with
  | nil =>
    cases h
    rfl
  | cons unit units ih =>
    obtain ⟨commands, first, others, hparse, hfirst, hothers, -⟩ := of_lowerUnits_cons h
    have hcommands : Site.commandsOf unit.2 = commands := by
      rw [Site.commandsOf, hparse]
      rfl
    have hentered : (generator.enterUnit unit.1).labels = generator.labels := rfl
    rw [ih hothers, allocated_lowerAll hfirst, List.flatMap_cons, List.countP_append, hcommands,
      hentered]
    omega

end Codegen.Generator

/-- No number is taken at the start of a program, except for the call of a bootstrap. -/
theorem Listing.allocated_of_start {config : Config} {bootstrap : Bool} {generator : Generator}
    {prologue : List Line} (h : start config bootstrap = .ok (generator, prologue)) :
    generator.labels.allocated = bootstrap.toNat := by
  cases bootstrap with
  | false =>
    cases h
    rfl
  | true =>
    obtain ⟨lines, hresult, hpair⟩ := exists_of_map_eq_ok h
    rw [Prod.mk.injEq, Generator.generator_of_bootstrap hresult] at hpair
    rw [hpair.1]
    rfl

namespace Session

/-- What comes of items that are written to a sink which holds bytes: all of them are accepted
commands, or they are followed by an item that is refused. -/
inductive ItemsWritten (generator : Generator) (items : List (Except Error Command))
    (held : ByteArray) : Session × Except Error Unit → Prop where
  /-- All items are commands, and their code is written. -/
  | whole {commands : List Command} {lines : List Line} (messages : Array LogEntry)
      (hitems : items = commands.map .ok)
      (hlines : (generator.lowerAll commands).result = .ok lines) :
      ItemsWritten generator items held
        (⟨(generator.lowerAll commands).generator, .buffer (held ++ encoded lines), messages⟩,
          .ok ())
  /-- The code of the commands before an item is written, and the item is refused. -/
  | cut {commands : List Command} {item : Except Error Command}
      {rest : List (Except Error Command)} {lines : List Line} {error : Error}
      (messages : Array LogEntry) (hitems : items = commands.map .ok ++ item :: rest)
      (hlines : (generator.lowerAll commands).result = .ok lines)
      (hrefuses : (generator.lowerAll commands).generator.Refuses item error) :
      ItemsWritten generator items held
        (⟨(generator.lowerAll commands).generator, .buffer (held ++ encoded lines), messages⟩,
          .error error)

/-- What comes of items after a command that is accepted. -/
theorem ItemsWritten.cons {generator : Generator} {command : Command} {block : List Line}
    {items : List (Except Error Command)} {held : ByteArray}
    {result : Session × Except Error Unit} (hblock : (generator.lower command).result = .ok block)
    (h : ItemsWritten (generator.lower command).generator items (held ++ encoded block) result) :
    ItemsWritten generator (.ok command :: items) held result := by
  cases h with
  | @whole commands lines messages hitems hlines =>
    obtain ⟨hgenerator, hresult⟩ := Generator.lowerAll_cons hblock commands
    rw [hlines] at hresult
    rw [ByteArray.append_assoc, ← encoded_append, ← hgenerator]
    exact .whole messages (by rw [hitems, List.map_cons]) hresult
  | @cut commands item rest lines error messages hitems hlines hrefuses =>
    obtain ⟨hgenerator, hresult⟩ := Generator.lowerAll_cons hblock commands
    rw [hlines] at hresult
    rw [← hgenerator] at hrefuses
    rw [ByteArray.append_assoc, ← encoded_append, ← hgenerator]
    exact .cut messages (by rw [hitems, List.map_cons, List.cons_append]) hresult hrefuses

/-- An item that is refused ends the session, which has written nothing since. -/
theorem ItemsWritten.refused {generator : Generator} {item : Except Error Command} {error : Error}
    (rest : List (Except Error Command)) (held : ByteArray) (messages : Array LogEntry)
    (h : generator.Refuses item error) :
    ItemsWritten generator (item :: rest) held
      (⟨generator, .buffer held, messages⟩, .error error) := by
  have hcut : ItemsWritten generator (item :: rest) held
      (⟨(generator.lowerAll []).generator, .buffer (held ++ encoded []), messages⟩,
        .error error) := .cut messages rfl rfl h
  rwa [encoded_nil, ByteArray.append_empty] at hcut

/-- Items are written up to the first that is refused. -/
theorem itemsWritten_writeItems (generator : Generator) (held : ByteArray)
    (log : Array LogEntry) (items : List (Except Error Command)) :
    ItemsWritten generator items held (writeItems ⟨generator, .buffer held, log⟩ items) := by
  induction items generalizing generator held log with
  | nil =>
    have hwhole : ItemsWritten generator [] held
        (⟨(generator.lowerAll []).generator, .buffer (held ++ encoded []), log⟩, .ok ()) :=
      .whole log rfl rfl
    rwa [encoded_nil, ByteArray.append_empty] at hwhole
  | cons item items ih =>
    cases item with
    | error error => exact .refused items held log rfl
    | ok command =>
      rw [writeItems]
      cases hresult : (generator.lower command).result with
      | error error =>
        rw [emit_of_error _ hresult, Generator.generator_of_refused hresult]
        exact .refused items held _ hresult
      | ok block =>
        rw [emit_buffer generator held log hresult]
        exact .cons hresult (ih _ _ _)

/-- What comes of units that are written to a sink which holds bytes: all of them are read and
lowered as a whole, or there is a unit with an item that is refused after all those before it. -/
inductive UnitsWritten (generator : Generator) (units : List (String × String))
    (held : ByteArray) : Session × Except Error Unit → Prop where
  /-- The code of all units is written. -/
  | whole {final : Generator} {lines : List Line} (messages : Array LogEntry)
      (hunits : generator.lowerUnits units = .ok (final, lines)) :
      UnitsWritten generator units held
        (⟨final, .buffer (held ++ encoded lines), messages⟩, .ok ())
  /-- The code of the units and the commands before an item is written, and the item is refused. -/
  | cut {earlier later : List (String × String)} {unit : String × String} {before : Generator}
      {commands : List Command} {item : Except Error Command}
      {rest : List (Except Error Command)} {lines others : List Line} {error : Error}
      (messages : Array LogEntry) (hunits : units = earlier ++ unit :: later)
      (hearlier : generator.lowerUnits earlier = .ok (before, lines))
      (hitems : Grammar.items unit.2 = commands.map .ok ++ item :: rest)
      (hothers : ((before.enterUnit unit.1).lowerAll commands).result = .ok others)
      (hrefuses : ((before.enterUnit unit.1).lowerAll commands).generator.Refuses item error) :
      UnitsWritten generator units held
        (⟨((before.enterUnit unit.1).lowerAll commands).generator,
          .buffer (held ++ encoded (lines ++ others)), messages⟩, .error error)

/-- What comes of units after a unit that is written as a whole. -/
theorem UnitsWritten.cons {generator : Generator} {unit : String × String}
    {commands : List Command} {lines : List Line} {units : List (String × String)}
    {held : ByteArray} {result : Session × Except Error Unit}
    (hparse : Grammar.parse unit.2 = .ok commands)
    (hlines : ((generator.enterUnit unit.1).lowerAll commands).result = .ok lines)
    (h : UnitsWritten ((generator.enterUnit unit.1).lowerAll commands).generator units
      (held ++ encoded lines) result) :
    UnitsWritten generator (unit :: units) held result := by
  have hunit : generator.lowerUnits [unit] =
      .ok (((generator.enterUnit unit.1).lowerAll commands).generator, lines) := by
    rw [Generator.lowerUnits, hparse, ok_bind]
    dsimp only
    rw [hlines, ok_bind, Generator.lowerUnits, map_ok, List.append_nil]
  have happend : ∀ others, generator.lowerUnits (unit :: others) =
      (((generator.enterUnit unit.1).lowerAll commands).generator.lowerUnits others).map
        fun after => (after.1, lines ++ after.2) := by
    intro others
    have hsplit := generator.lowerUnits_append [unit] others
    rwa [hunit, ok_bind] at hsplit
  cases h with
  | @whole final others messages hunits =>
    rw [ByteArray.append_assoc, ← encoded_append]
    exact .whole messages (by rw [happend, hunits, map_ok])
  | @cut earlier later other before commands item rest ahead others error messages hunits hearlier
      hitems hothers hrefuses =>
    rw [ByteArray.append_assoc, ← encoded_append, ← List.append_assoc]
    exact .cut messages (by rw [hunits, List.cons_append])
      (by rw [happend, hearlier, map_ok]) hitems hothers hrefuses

/-- Units are written up to the first item that is refused. -/
theorem unitsWritten_writeUnits (generator : Generator) (held : ByteArray)
    (log : Array LogEntry) (units : List (String × String)) :
    UnitsWritten generator units held (writeUnits ⟨generator, .buffer held, log⟩ units) := by
  induction units generalizing generator held log with
  | nil =>
    have hwhole : UnitsWritten generator [] held
        (⟨generator, .buffer (held ++ encoded []), log⟩, .ok ()) := .whole log rfl
    rwa [encoded_nil, ByteArray.append_empty] at hwhole
  | cons unit units ih =>
    have hunit := itemsWritten_writeItems (generator.enterUnit unit.1) held log
      (Grammar.items unit.2)
    have hwrite : writeUnit ⟨generator, .buffer held, log⟩ unit.1 unit.2 =
      writeItems ⟨generator.enterUnit unit.1, .buffer held, log⟩ (Grammar.items unit.2) := rfl
    rw [writeUnits, hwrite]
    generalize writeItems _ _ = result at hunit ⊢
    cases hunit with
    | whole messages hitems hlines =>
      exact .cons ((Grammar.collect_eq_ok_iff _ _).mpr hitems) hlines (ih _ _ _)
    | @cut commands item rest lines error messages hitems hlines hrefuses =>
      have hcut : UnitsWritten generator (unit :: units) held
          (⟨((generator.enterUnit unit.1).lowerAll commands).generator,
            .buffer (held ++ encoded ([] ++ lines)), messages⟩, .error error) :=
        .cut messages (List.nil_append _).symm rfl hitems hlines hrefuses
      exact hcut

/-- What a session gives for a unit, told by reading and lowering the unit as a whole. -/
structure UnitStreamed (generator : Generator) (held : ByteArray) (log : Array LogEntry)
    (name text : String) : Prop where
  /-- If the unit can be read and all its commands are accepted, the session has written their
  code and has come to the same generator. -/
  whole : ∀ commands lines, Grammar.parse text = .ok commands →
    ((generator.enterUnit name).lowerAll commands).result = .ok lines →
      ∃ messages, writeUnit ⟨generator, .buffer held, log⟩ name text =
        (⟨((generator.enterUnit name).lowerAll commands).generator,
          .buffer (held ++ encoded lines), messages⟩, .ok ())
  /-- Otherwise there is a first item that is refused. The session fails with its error, has
  written the code of the commands before it, and has come to the generator after these. -/
  cut : (∀ commands lines, Grammar.parse text = .ok commands →
      ((generator.enterUnit name).lowerAll commands).result ≠ .ok lines) →
    ∃ index error lines, (generator.enterUnit name).StopsAt (Grammar.items text) index error ∧
      ((generator.enterUnit name).lowerFirst (Grammar.items text) index).result = .ok lines ∧
        ∃ messages, writeUnit ⟨generator, .buffer held, log⟩ name text =
          (⟨((generator.enterUnit name).lowerFirst (Grammar.items text) index).generator,
            .buffer (held ++ encoded lines), messages⟩, .error error)

/-- What a session gives for a program, told by reading and lowering its units as a whole. -/
structure ProgramStreamed (config : Config) (bootstrap : Bool) (units : List (String × String))
    (held : ByteArray) : Prop where
  /-- If the program cannot be started, nothing is written. -/
  refused : ∀ error, Listing.start config bootstrap = .error error →
    ∃ session, writeProgram config bootstrap units (.buffer held) = (session, .error error) ∧
      session.sink = .buffer held
  /-- If all units can be read and lowered, the code that starts the program and their code are
  written, and then the sink is asked to hand on its bytes. -/
  whole : ∀ started prologue final lines,
    Listing.start config bootstrap = .ok (started, prologue) →
    started.lowerUnits units = .ok (final, lines) →
      ∃ messages, writeProgram config bootstrap units (.buffer held) =
        (⟨final, (Sink.buffer (held ++ encoded (prologue ++ lines))).flush.1, messages⟩, .ok ())
  /-- Otherwise there is a first item that is refused, in a unit after others that could be read
  and lowered. The session fails with its error and has written all code before it. -/
  cut : ∀ started prologue, Listing.start config bootstrap = .ok (started, prologue) →
    (∀ code, started.lowerUnits units ≠ .ok code) →
      ∃ earlier unit later before lines index error others,
        units = earlier ++ unit :: later ∧
        started.lowerUnits earlier = .ok (before, lines) ∧
        (before.enterUnit unit.1).StopsAt (Grammar.items unit.2) index error ∧
        ((before.enterUnit unit.1).lowerFirst (Grammar.items unit.2) index).result = .ok others ∧
        ∃ messages, writeProgram config bootstrap units (.buffer held) =
          (⟨((before.enterUnit unit.1).lowerFirst (Grammar.items unit.2) index).generator,
            .buffer (held ++ encoded (prologue ++ lines ++ others)), messages⟩, .error error)
  /-- The numbers of generated labels go on from unit to unit: one is taken by the bootstrap, and
  one by each comparison and each call. -/
  numbers : ∀ started prologue earlier later before lines,
    Listing.start config bootstrap = .ok (started, prologue) → units = earlier ++ later →
    started.lowerUnits earlier = .ok (before, lines) →
      before.labels.allocated = bootstrap.toNat +
        (earlier.flatMap fun unit => Site.commandsOf unit.2).countP Command.takesNumber

/-- A session streams a unit. -/
theorem unitStreamed (generator : Generator) (held : ByteArray) (log : Array LogEntry)
    (name text : String) : UnitStreamed generator held log name text := by
  have hwritten := itemsWritten_writeItems (generator.enterUnit name) held log (Grammar.items text)
  have hwrite : writeUnit ⟨generator, .buffer held, log⟩ name text =
    writeItems ⟨generator.enterUnit name, .buffer held, log⟩ (Grammar.items text) := rfl
  rw [← hwrite] at hwritten
  generalize hresult : writeUnit ⟨generator, .buffer held, log⟩ name text = result at hwritten
  cases hwritten with
  | @whole commands lines messages hitems hlines =>
    constructor
    · intro others code hparse hcode
      rw [Grammar.parse, (Grammar.collect_eq_ok_iff _ _).mpr hitems, Except.ok.injEq] at hparse
      subst hparse
      rw [hlines, Except.ok.injEq] at hcode
      subst hcode
      exact ⟨messages, hresult⟩
    · intro hfails
      exact absurd hlines (hfails commands lines ((Grammar.collect_eq_ok_iff _ _).mpr hitems))
  | @cut commands item rest lines error messages hitems hlines hrefuses =>
    constructor
    · intro others code hparse hcode
      have hall := (Grammar.collect_eq_ok_iff _ _).mp hparse
      exact absurd hcode (Generator.not_lowerAll_of_refuses (hall.symm.trans hitems) hrefuses)
    · intro hfails
      refine ⟨commands.length, error, lines, ?_, ?_, messages, ?_⟩
      · rw [hitems]
        exact Generator.stopsAt_append hlines hrefuses
      · rw [hitems, Generator.lowerFirst_append, hlines]
      · rw [hresult, hitems, Generator.lowerFirst_append]

/-- What comes of units that can be read and lowered as a whole. -/
theorem UnitsWritten.of_ok {generator final : Generator} {units : List (String × String)}
    {held : ByteArray} {result : Session × Except Error Unit} {lines : List Line}
    (h : UnitsWritten generator units held result)
    (hlines : generator.lowerUnits units = .ok (final, lines)) :
    ∃ messages, result = (⟨final, .buffer (held ++ encoded lines), messages⟩, .ok ()) := by
  cases h with
  | whole messages hunits =>
    rw [hunits] at hlines
    cases hlines
    exact ⟨messages, rfl⟩
  | cut messages hunits hearlier hitems hothers hrefuses =>
    rw [hunits, Generator.lowerUnits_append, hearlier, ok_bind] at hlines
    obtain ⟨after, hafter, -⟩ := exists_of_map_eq_ok hlines
    obtain ⟨all, first, -, hparse, hfirst, -⟩ := Generator.of_lowerUnits_cons hafter
    have hall := (Grammar.collect_eq_ok_iff _ _).mp hparse
    exact absurd hfirst (Generator.not_lowerAll_of_refuses (hall.symm.trans hitems) hrefuses)

/-- What comes of units that cannot be read and lowered as a whole. -/
theorem UnitsWritten.of_failed {generator : Generator} {units : List (String × String)}
    {held : ByteArray} {result : Session × Except Error Unit}
    (h : UnitsWritten generator units held result)
    (hfails : ∀ code, generator.lowerUnits units ≠ .ok code) :
    ∃ earlier unit later before lines index error others,
      units = earlier ++ unit :: later ∧
      generator.lowerUnits earlier = .ok (before, lines) ∧
      (before.enterUnit unit.1).StopsAt (Grammar.items unit.2) index error ∧
      ((before.enterUnit unit.1).lowerFirst (Grammar.items unit.2) index).result = .ok others ∧
      ∃ messages, result =
        (⟨((before.enterUnit unit.1).lowerFirst (Grammar.items unit.2) index).generator,
          .buffer (held ++ encoded (lines ++ others)), messages⟩, .error error) := by
  cases h with
  | whole messages hunits => exact absurd hunits (hfails _)
  | @cut earlier later unit before commands item rest lines others error messages hunits hearlier
      hitems hothers hrefuses =>
    refine ⟨earlier, unit, later, before, lines, commands.length, error, others, hunits, hearlier,
      ?_, ?_, messages, ?_⟩
    · rw [hitems]
      exact Generator.stopsAt_append hothers hrefuses
    · rw [hitems, Generator.lowerFirst_append, hothers]
    · rw [hitems, Generator.lowerFirst_append]

/-- The code of a program that can be started is written as its units are, after the code that
starts it. -/
theorem unitsWritten_writeCode {config : Config} {bootstrap : Bool} {started : Generator}
    {prologue : List Line} (h : Listing.start config bootstrap = .ok (started, prologue))
    (units : List (String × String)) (held : ByteArray) :
    UnitsWritten started units (held ++ encoded prologue)
      (writeCode config bootstrap units (.buffer held)) := by
  have hstart := writeBootstrap_buffer config bootstrap held
  rw [h] at hstart
  obtain ⟨log, hwrite⟩ := hstart
  rw [writeCode, hwrite]
  exact unitsWritten_writeUnits started (held ++ encoded prologue) log units

/-- A session streams a program. -/
theorem programStreamed (config : Config) (bootstrap : Bool) (units : List (String × String))
    (held : ByteArray) : ProgramStreamed config bootstrap units held := by
  constructor
  · intro error hstart
    have hwrite := writeBootstrap_buffer config bootstrap held
    rw [hstart] at hwrite
    obtain ⟨session, hsession, hsink⟩ := hwrite
    exact ⟨session, by rw [writeProgram, writeCode, hsession], hsink⟩
  · intro started prologue final lines hstart hlines
    obtain ⟨messages, hcode⟩ := (unitsWritten_writeCode hstart units held).of_ok hlines
    refine ⟨messages, ?_⟩
    rw [writeProgram, hcode, encoded_append, ← ByteArray.append_assoc]
    exact finish_eq _
  · intro started prologue hstart hfails
    obtain ⟨earlier, unit, later, before, lines, index, error, others, hunits, hearlier, hstops,
      hothers, messages, hresult⟩ := (unitsWritten_writeCode hstart units held).of_failed hfails
    refine ⟨earlier, unit, later, before, lines, index, error, others, hunits, hearlier, hstops,
      hothers, messages, ?_⟩
    rw [writeProgram, hresult, List.append_assoc, encoded_append prologue, ByteArray.append_assoc]
  · intro started prologue earlier later before lines hstart hunits hlines
    rw [Generator.allocated_lowerUnits hlines, Listing.allocated_of_start hstart]

end Session

/-- Streaming agrees with reading and lowering units as a whole. This holds for every unit, from
every generator and after any bytes that were written before, and for every program; where
something fails, the first item in the order of the program that is no command or is refused
decides what is reported and how much has been written. -/
theorem streaming_agrees_with_batch :
    (∀ (generator : Generator) (held : ByteArray) (log : Array LogEntry) (name text : String),
      Session.UnitStreamed generator held log name text) ∧
    ∀ (config : Config) (bootstrap : Bool) (units : List (String × String)) (held : ByteArray),
      Session.ProgramStreamed config bootstrap units held :=
  ⟨Session.unitStreamed, Session.programStreamed⟩

/-- A command that is refused is reported although a later line is no command at all. -/
example : (Session.writeProgram {} false [("A", "push temp 8\nwhat"), ("B", "add")] {}).2 =
    .error (.unsupported "push temp 8" (.indexBound .temp 8)) := by
  decide +kernel

end HackVm
