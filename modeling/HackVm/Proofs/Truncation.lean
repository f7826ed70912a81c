import HackVm.Proofs.Listing

/-!
# Sinks with a limit

A sink that takes only so many bytes cuts the text of a program and changes nothing else. Whatever
the pieces are in which lines are offered, and however much of a piece the sink takes at a time, it
ends up with the first bytes of all that was offered, and the first piece that does not fit fails.
So a program that fits gives what it gives without a limit, and one that does not fit leaves its
beginning behind and fails with the refusal of the sink, whether or not a later command would have
been refused. Whatever the sink is, it is asked to hand on its bytes only once, after every unit has
been written, and not at all if something fails before.
-/

namespace HackVm

open Assembly Codegen

/-- Bytes that fit are not cut. -/
theorem extract_of_size_le {bytes : ByteArray} {limit : Nat} (h : bytes.size ≤ limit) :
    bytes.extract 0 limit = bytes := by
  rw [← Nat.max_eq_left h, ByteArray.extract_zero_max_size]

/-- A cut inside the first bytes does not see those after them. -/
theorem extract_append_of_le {first : ByteArray} {limit : Nat} (second : ByteArray)
    (h : limit ≤ first.size) : (first ++ second).extract 0 limit = first.extract 0 limit := by
  have hnone : second.extract (0 - first.size) (limit - first.size) = .empty := by
    rw [ByteArray.extract_eq_empty_iff]
    omega
  rw [ByteArray.extract_append, hnone, ByteArray.append_empty]

namespace Sink

/-- Pieces are offered one after the other to a sink that takes no more than `limit` bytes in total.
Of a piece it may take any part that fits, and the rest of the piece is offered again; nothing is
offered of a piece that is used up. A full sink fails whatever it is offered. -/
inductive Offered (limit : Nat) (refusal : IoFault) :
    ByteArray → List ByteArray → ByteArray → Except IoFault Unit → Prop where
  /-- There are no pieces left. -/
  | done (held : ByteArray) : Offered limit refusal held [] held (.ok ())
  /-- A piece is used up. -/
  | next {held after : ByteArray} {pieces : List ByteArray} {result : Except IoFault Unit}
      (hrest : Offered limit refusal held pieces after result) :
      Offered limit refusal held (.empty :: pieces) after result
  /-- The sink takes a part of a piece. -/
  | part {held taken rest after : ByteArray} {pieces : List ByteArray}
      {result : Except IoFault Unit} (hsome : 0 < taken.size)
      (hroom : (held ++ taken).size ≤ limit)
      (hrest : Offered limit refusal (held ++ taken) (rest :: pieces) after result) :
      Offered limit refusal held ((taken ++ rest) :: pieces) after result
  /-- The sink is full and takes nothing. -/
  | full {held offered : ByteArray} {pieces : List ByteArray} (hfull : limit ≤ held.size)
      (hsome : 0 < offered.size) :
      Offered limit refusal held (offered :: pieces) held (.error refusal)

/-- A sink that takes bytes up to a limit. -/
def limited (limit : Nat) (refusal : IoFault) (failsToFlush : Bool) : Sink :=
  { limit := some limit, refusal, failsToFlush }

theorem held_limited_append (limit : Nat) (refusal : IoFault) (failsToFlush : Bool)
    (bytes : ByteArray) : (limited limit refusal failsToFlush).held ++ bytes = bytes :=
  ByteArray.empty_append

/-- The bytes of pieces, one after the other. -/
def joined (pieces : List ByteArray) : ByteArray := pieces.foldr (· ++ ·) .empty

/-- The pieces in which lines are offered: each line, and each line feed. -/
def piecesOf (lines : List Line) : List ByteArray :=
  lines.flatMap fun line => [line.text.toUTF8, "\n".toUTF8]

/-- What a sink with a limit holds in the end is the beginning of all that it was offered, and it
has failed exactly if this is not everything. -/
theorem Offered.outcome {limit : Nat} {refusal : IoFault} {held after : ByteArray}
    {pieces : List ByteArray} {result : Except IoFault Unit}
    (h : Offered limit refusal held pieces after result) (hheld : held.size ≤ limit) :
    after = (held ++ joined pieces).extract 0 limit ∧
      result = if (held ++ joined pieces).size ≤ limit then .ok () else .error refusal := by
  induction h with
  | done held =>
    have hnothing : held ++ joined [] = held := ByteArray.append_empty
    rw [hnothing, extract_of_size_le hheld, if_pos hheld]
    exact ⟨rfl, rfl⟩
  | @next held after pieces result hrest ih =>
    have hjoined : joined (.empty :: pieces) = joined pieces := ByteArray.empty_append
    rw [hjoined]
    exact ih hheld
  | @part held taken rest after pieces result hsome hroom hrest ih =>
    have hjoined : held ++ joined ((taken ++ rest) :: pieces) =
        held ++ taken ++ joined (rest :: pieces) := by
      simp [joined, ByteArray.append_assoc]
    rw [hjoined]
    exact ih hroom
  | @full held offered pieces hfull hsome =>
    have hsize : (held ++ joined (offered :: pieces)).size =
        held.size + (offered.size + (joined pieces).size) := by
      simp [joined, ByteArray.size_append]
    rw [if_neg (by omega), extract_append_of_le _ hfull, extract_of_size_le hheld]
    exact ⟨rfl, rfl⟩

/-- A sink with a limit that takes what fits: of the piece that does not fit it takes the first
bytes, and the rest of this piece finds it full. -/
theorem exists_offered {limit : Nat} {held : ByteArray} (refusal : IoFault)
    (hheld : held.size ≤ limit) (pieces : List ByteArray) :
    ∃ after result, Offered limit refusal held pieces after result := by
  induction pieces generalizing held with
  | nil => exact ⟨held, _, .done held⟩
  | cons piece pieces ih =>
    by_cases hpiece : piece.size = 0
    · obtain rfl : piece = .empty := ByteArray.size_eq_zero_iff.mp hpiece
      obtain ⟨after, result, hrest⟩ := ih hheld
      exact ⟨after, result, .next hrest⟩
    by_cases hfull : limit ≤ held.size
    · exact ⟨held, _, .full hfull (by omega)⟩
    by_cases hfits : (held ++ piece).size ≤ limit
    · obtain ⟨after, result, hrest⟩ := ih hfits
      have hwhole := Offered.part (by omega) hfits (.next hrest)
      rw [ByteArray.append_empty] at hwhole
      exact ⟨after, result, hwhole⟩
    rw [ByteArray.size_append] at hfits
    have htaken : (piece.extract 0 (limit - held.size)).size = limit - held.size := by
      rw [ByteArray.size_extract]
      omega
    have hrest : (piece.extract (limit - held.size) piece.size).size =
        piece.size - (limit - held.size) := by
      rw [ByteArray.size_extract]
      omega
    have hsize : (held ++ piece.extract 0 (limit - held.size)).size = limit := by
      rw [ByteArray.size_append, htaken]
      omega
    have hcut : Offered limit refusal held
        ((piece.extract 0 (limit - held.size) ++ piece.extract (limit - held.size) piece.size) ::
          pieces) _ _ := .part (by omega) (by omega) (.full (by omega) (by omega))
    rw [← ByteArray.extract_eq_extract_append_extract _ (by omega) (by omega),
      ByteArray.extract_zero_size] at hcut
    exact ⟨_, _, hcut⟩

/-- The pieces of lines are their bytes. -/
theorem joined_piecesOf (lines : List Line) : joined (piecesOf lines) = encoded lines := by
  induction lines with
  | nil => exact encoded_nil.symm
  | cons line lines ih =>
    have hjoined : joined (piecesOf (line :: lines)) =
        line.text.toUTF8 ++ ("\n".toUTF8 ++ joined (piecesOf lines)) := rfl
    rw [hjoined, ih, encoded_cons, ← ByteArray.append_assoc]
    simp

/-- Bytes that do not fit are cut where the sink is full. -/
theorem write_of_exceeds {sink : Sink} {limit : Nat} {bytes : ByteArray}
    (hlimit : sink.limit = some limit) (hheld : sink.held.size ≤ limit)
    (h : limit < (sink.held ++ bytes).size) :
    sink.write bytes = ({ sink with held := (sink.held ++ bytes).extract 0 limit },
      .error sink.refusal) := by
  obtain ⟨limit?, refusal, failsToFlush, held, flushes⟩ := sink
  obtain rfl : limit? = some limit := hlimit
  dsimp only at hheld h ⊢
  rw [ByteArray.size_append] at h
  have hroom : ¬ bytes.size ≤ limit - held.size := by omega
  rw [ByteArray.extract_append, extract_of_size_le hheld, Nat.zero_sub]
  simp only [write, if_neg hroom]

/-- Lines that do not fit are cut where the sink is full. -/
theorem writeLines_of_exceeds {sink : Sink} {limit : Nat} {lines : List Line}
    (hlimit : sink.limit = some limit) (hheld : sink.held.size ≤ limit)
    (h : limit < (sink.held ++ encoded lines).size) :
    sink.writeLines lines = ({ sink with held := (sink.held ++ encoded lines).extract 0 limit },
      .error sink.refusal) := by
  induction lines generalizing sink with
  | nil =>
    rw [encoded_nil, ByteArray.append_empty] at h
    omega
  | cons line lines ih =>
    rw [encoded_cons, ← ByteArray.append_assoc] at h ⊢
    rw [writeLines]
    by_cases hline : (sink.held ++ (line.text ++ "\n").toUTF8).size ≤ limit
    · have hfits : sink.Fits (sink.held ++ (line.text ++ "\n").toUTF8) := by
        intro other hother
        rw [hlimit, Option.some.injEq] at hother
        omega
      rw [write_of_fits hfits]
      exact ih hlimit hline h
    · rw [write_of_exceeds hlimit hheld (by omega),
        extract_append_of_le (encoded lines) (by omega)]

/-- A sink with a limit holds the beginning of all lines that are written to it, and fails exactly
if this is not everything. -/
theorem writeLines_limited {limit : Nat} {held : ByteArray} (refusal : IoFault)
    (failsToFlush : Bool) (flushes : List ByteArray) (hheld : held.size ≤ limit)
    (lines : List Line) :
    writeLines ⟨some limit, refusal, failsToFlush, held, flushes⟩ lines =
      (⟨some limit, refusal, failsToFlush, (held ++ encoded lines).extract 0 limit, flushes⟩,
        if (held ++ encoded lines).size ≤ limit then .ok () else .error refusal) := by
  by_cases hsize : (held ++ encoded lines).size ≤ limit
  · rw [if_pos hsize, extract_of_size_le hsize, writeLines_of_fits]
    rintro _ ⟨⟩
    exact hsize
  · rw [if_neg hsize]
    exact writeLines_of_exceeds rfl hheld (Nat.not_le.mp hsize)

/-- Writing lines to a sink with a limit is offering their pieces to it, in whichever parts it
takes them. -/
theorem offered_piecesOf_iff {limit : Nat} {held after : ByteArray} {result : Except IoFault Unit}
    (refusal : IoFault) (failsToFlush : Bool) (flushes : List ByteArray)
    (hheld : held.size ≤ limit) (lines : List Line) :
    Offered limit refusal held (piecesOf lines) after result ↔
      writeLines ⟨some limit, refusal, failsToFlush, held, flushes⟩ lines =
        (⟨some limit, refusal, failsToFlush, after, flushes⟩, result) := by
  rw [writeLines_limited refusal failsToFlush flushes hheld, ← joined_piecesOf]
  constructor
  · intro hoffered
    obtain ⟨rfl, rfl⟩ := hoffered.outcome hheld
    rfl
  · intro hwritten
    obtain ⟨final, outcome, hoffered⟩ := exists_offered refusal hheld (piecesOf lines)
    obtain ⟨rfl, rfl⟩ := hoffered.outcome hheld
    rw [Prod.mk.injEq, Sink.mk.injEq] at hwritten
    rw [← hwritten.1.2.2.2.1, ← hwritten.2]
    exact hoffered

end Sink

namespace Session

/-- A part of a session. -/
abbrev Part := Session → Session × Except Error Unit

/-- One part after the other, unless the first one fails. -/
def Part.andThen (first second : Part) : Part := fun session =>
  match first session with
  | (next, .ok ()) => second next
  | (next, .error error) => (next, .error error)

/-- What a part of a session gives, whatever the sink is. -/
structure Effect where
  /-- The generator afterwards. -/
  generator : Generator
  /-- The bytes that are written. -/
  bytes : ByteArray
  /-- The messages afterwards. -/
  log : Array LogEntry
  /-- How the part ends. -/
  result : Except Error Unit

/-- Whether a part of a session has an effect: it has it with every sink in which the bytes fit, and
with any other sink the bytes are cut where the sink is full, and the sink refuses the others. -/
structure Part.Produces (part : Part) (generator : Generator) (log : Array LogEntry)
    (effect : Effect) : Prop where
  /-- A sink in which the bytes fit holds them, and the part ends as it should. -/
  whole : ∀ sink : Sink, sink.Fits (sink.held ++ effect.bytes) →
    part ⟨generator, sink, log⟩ =
      (⟨effect.generator, { sink with held := sink.held ++ effect.bytes }, effect.log⟩,
        effect.result)
  /-- A sink in which they do not fit holds the first of them, and the part fails. -/
  cut : ∀ (sink : Sink) (limit : Nat), sink.limit = some limit → sink.held.size ≤ limit →
    limit < (sink.held ++ effect.bytes).size →
    ∃ session, part ⟨generator, sink, log⟩ = (session, .error (.resource sink.refusal)) ∧
      session.sink = { sink with held := (sink.held ++ effect.bytes).extract 0 limit }

/-- Whether a part of a session does to every sink what the limit of the sink says. -/
def Part.Truncates (part : Part) : Prop :=
  ∀ (generator : Generator) (log : Array LogEntry), ∃ effect, part.Produces generator log effect

/-- A part that writes nothing. -/
theorem Part.produces_nothing {part : Part} {generator : Generator} {log : Array LogEntry}
    (final : Generator) (messages : Array LogEntry) (result : Except Error Unit)
    (h : ∀ sink, part ⟨generator, sink, log⟩ = (⟨final, sink, messages⟩, result)) :
    part.Produces generator log ⟨final, .empty, messages, result⟩ := by
  constructor
  · intro sink hfits
    rw [h, ByteArray.append_empty]
  · intro sink limit hlimit hheld hexceeds
    rw [ByteArray.append_empty] at hexceeds
    omega

/-- A part that does nothing does what the limit of a sink says. -/
theorem Part.truncates_nothing : Part.Truncates fun session => (session, .ok ()) :=
  fun generator log => ⟨_, produces_nothing generator log (.ok ()) fun _ => rfl⟩

/-- A part that fails ends the session. -/
theorem Part.Produces.of_error {first second : Part} {generator : Generator}
    {log : Array LogEntry} {effect : Effect} {error : Error}
    (h : first.Produces generator log effect) (hresult : effect.result = .error error) :
    (first.andThen second).Produces generator log effect := by
  constructor
  · intro sink hfits
    rw [andThen, h.whole sink hfits, hresult]
  · intro sink limit hlimit hheld hexceeds
    obtain ⟨session, hfirst, hsink⟩ := h.cut sink limit hlimit hheld hexceeds
    exact ⟨session, by rw [andThen, hfirst], hsink⟩

/-- The effects of two parts one after the other. Where the sink is full within the first, the
second never runs. -/
theorem Part.Produces.andThen {first second : Part} {generator : Generator}
    {log : Array LogEntry} {effect later : Effect} (h : first.Produces generator log effect)
    (hresult : effect.result = .ok ())
    (hlater : second.Produces effect.generator effect.log later) :
    (first.andThen second).Produces generator log
      ⟨later.generator, effect.bytes ++ later.bytes, later.log, later.result⟩ := by
  constructor
  · intro sink hfits
    dsimp only at hfits ⊢
    rw [← ByteArray.append_assoc] at hfits ⊢
    rw [Part.andThen, h.whole sink hfits.of_append, hresult]
    exact hlater.whole _ hfits
  · intro sink limit hlimit hheld hexceeds
    dsimp only at hexceeds ⊢
    rw [← ByteArray.append_assoc] at hexceeds ⊢
    by_cases hfirst : (sink.held ++ effect.bytes).size ≤ limit
    · have hfits : sink.Fits (sink.held ++ effect.bytes) := by
        intro other hother
        rw [hlimit, Option.some.injEq] at hother
        omega
      rw [Part.andThen, h.whole sink hfits, hresult]
      exact hlater.cut _ limit hlimit hfirst hexceeds
    · obtain ⟨session, hsession, hsink⟩ := h.cut sink limit hlimit hheld (by omega)
      refine ⟨session, by rw [Part.andThen, hsession], ?_⟩
      rw [hsink, extract_append_of_le later.bytes (by omega)]

/-- Parts that do what the limit of a sink says do so one after the other. -/
theorem Part.Truncates.andThen {first second : Part} (hfirst : first.Truncates)
    (hsecond : second.Truncates) : (first.andThen second).Truncates := by
  intro generator log
  obtain ⟨effect, heffect⟩ := hfirst generator log
  cases hresult : effect.result with
  | error error => exact ⟨effect, heffect.of_error hresult⟩
  | ok _ =>
    obtain ⟨later, hlater⟩ := hsecond effect.generator effect.log
    exact ⟨_, heffect.andThen hresult hlater⟩

/-- Writing the lines of a step of the generator. -/
theorem truncates_emit (step : Generator → Outcome (List Line)) :
    Part.Truncates fun session => session.emit (step session.generator) := by
  intro generator log
  cases hresult : (step generator).result with
  | error error =>
    exact ⟨_, Part.produces_nothing (step generator).generator (log ++ (step generator).log)
      (.error error) fun sink => emit_of_error ⟨generator, sink, log⟩ hresult⟩
  | ok lines =>
    refine ⟨⟨(step generator).generator, encoded lines, log ++ (step generator).log, .ok ()⟩,
      ?_, ?_⟩
    · intro sink hfits
      exact emit_of_fits hresult hfits
    · intro sink limit hlimit hheld hexceeds
      refine ⟨⟨(step generator).generator, _, log ++ (step generator).log⟩, ?_, rfl⟩
      dsimp only
      rw [emit, hresult]
      dsimp only
      rw [Sink.writeLines_of_exceeds hlimit hheld hexceeds]

/-- Writing items. -/
theorem truncates_writeItems (items : List (Except Error Command)) :
    Part.Truncates fun session => session.writeItems items := by
  induction items with
  | nil => exact Part.truncates_nothing
  | cons item items ih =>
    cases item with
    | error error =>
      exact fun generator log =>
        ⟨_, Part.produces_nothing generator log (.error error) fun _ => rfl⟩
    | ok command => exact (truncates_emit fun generator => generator.lower command).andThen ih

/-- Writing a unit. -/
theorem truncates_writeUnit (name text : String) :
    Part.Truncates fun session => session.writeUnit name text := by
  intro generator log
  obtain ⟨effect, heffect⟩ :=
    truncates_writeItems (Grammar.items text) (generator.enterUnit name) log
  exact ⟨effect, heffect.whole, heffect.cut⟩

/-- Writing units. -/
theorem truncates_writeUnits (units : List (String × String)) :
    Part.Truncates fun session => session.writeUnits units := by
  induction units with
  | nil => exact Part.truncates_nothing
  | cons unit units ih => exact (truncates_writeUnit unit.1 unit.2).andThen ih

/-- Writing the code that starts a program. -/
theorem truncates_writeBootstrap (wanted : Bool) :
    Part.Truncates fun session => session.writeBootstrap wanted := by
  cases wanted with
  | false => exact Part.truncates_nothing
  | true => exact truncates_emit Generator.bootstrap

/-- The code of a program is written in two parts. -/
theorem writeCode_eq_andThen (config : Config) (bootstrap : Bool)
    (units : List (String × String)) (sink : Sink) :
    writeCode config bootstrap units sink =
      Part.andThen (fun session => session.writeBootstrap bootstrap)
        (fun session => session.writeUnits units) ⟨{ config := config }, sink, #[]⟩ := by
  unfold writeCode Part.andThen
  dsimp only
  split
  · rename_i hstart
    rw [hstart]
  · rename_i hstart
    rw [hstart]

/-- What the code of a program gives, whatever the sink is. -/
theorem exists_effect (config : Config) (bootstrap : Bool) (units : List (String × String)) :
    ∃ effect : Effect,
      (∀ sink : Sink, sink.Fits (sink.held ++ effect.bytes) →
        writeCode config bootstrap units sink =
          (⟨effect.generator, { sink with held := sink.held ++ effect.bytes }, effect.log⟩,
            effect.result)) ∧
      ∀ (sink : Sink) (limit : Nat), sink.limit = some limit → sink.held.size ≤ limit →
        limit < (sink.held ++ effect.bytes).size →
        ∃ session, writeCode config bootstrap units sink =
            (session, .error (.resource sink.refusal)) ∧
          session.sink = { sink with held := (sink.held ++ effect.bytes).extract 0 limit } := by
  obtain ⟨effect, hwhole, hcut⟩ := (truncates_writeBootstrap bootstrap).andThen
    (truncates_writeUnits units) { config := config } #[]
  refine ⟨effect, fun sink hfits => ?_, fun sink limit hlimit hheld hexceeds => ?_⟩
  · rw [writeCode_eq_andThen, hwhole sink hfits]
  · rw [writeCode_eq_andThen]
    exact hcut sink limit hlimit hheld hexceeds

/-- What the code of a program gives to a sink without a limit, and to those with one. -/
theorem exists_effect_limited (config : Config) (bootstrap : Bool)
    (units : List (String × String)) :
    ∃ effect : Effect,
      writeCode config bootstrap units {} =
          (⟨effect.generator, { held := effect.bytes }, effect.log⟩, effect.result) ∧
      (∀ limit refusal failsToFlush, effect.bytes.size ≤ limit →
        writeCode config bootstrap units (.limited limit refusal failsToFlush) =
          (⟨effect.generator, { Sink.limited limit refusal failsToFlush with held := effect.bytes },
            effect.log⟩, effect.result)) ∧
      ∀ limit refusal failsToFlush, limit < effect.bytes.size →
        ∃ session, writeCode config bootstrap units (.limited limit refusal failsToFlush) =
            (session, .error (.resource refusal)) ∧
          session.sink = { Sink.limited limit refusal failsToFlush with
            held := effect.bytes.extract 0 limit } := by
  obtain ⟨effect, hwhole, hcut⟩ := exists_effect config bootstrap units
  refine ⟨effect, ?_, fun limit refusal failsToFlush hsize => ?_,
    fun limit refusal failsToFlush hsize => ?_⟩
  · rw [hwhole {} (by rintro _ ⟨⟩), ByteArray.empty_append]
  · have hroom : (Sink.limited limit refusal failsToFlush).Fits effect.bytes := by
      rintro _ ⟨⟩
      exact hsize
    have hbytes := hwhole (.limited limit refusal failsToFlush)
    rw [Sink.held_limited_append] at hbytes
    exact hbytes hroom
  · have hbytes := hcut (.limited limit refusal failsToFlush) limit rfl (Nat.zero_le _)
    rw [Sink.held_limited_append] at hbytes
    exact hbytes hsize

/-- A program holds what its code holds. It ends as the code does, unless the code is a success
that the sink fails to hand on. -/
theorem writeProgram_of_writeCode {config : Config} {bootstrap : Bool}
    {units : List (String × String)} {sink : Sink} {session : Session} {result : Except Error Unit}
    (h : writeCode config bootstrap units sink = (session, result)) :
    (writeProgram config bootstrap units sink).1.sink.held = session.sink.held ∧
      (writeProgram config bootstrap units sink).2 = result.bind fun _ =>
        if session.sink.failsToFlush then .error (.resource .flushFailed) else .ok () := by
  rw [writeProgram, h]
  cases result with
  | error error => exact ⟨rfl, rfl⟩
  | ok _ =>
    dsimp only
    rw [finish_eq]
    exact ⟨rfl, rfl⟩

/-- What a program gives with a sink that takes bytes up to a limit, told by the bytes and the
result that it gives without a limit. -/
structure Truncated (config : Config) (bootstrap : Bool) (units : List (String × String))
    (limit : Nat) (refusal : IoFault) (full : ByteArray) (result : Except Error Unit) : Prop where
  /-- A sink with room for all bytes holds all of them. -/
  holds : full.size ≤ limit → ∀ failsToFlush,
    (writeProgram config bootstrap units (.limited limit refusal failsToFlush)).1.sink.held = full
  /-- The result is the same then, unless the sink fails to hand on the bytes of a success. -/
  keeps : full.size ≤ limit → ∀ failsToFlush, failsToFlush = false ∨ result ≠ .ok () →
    (writeProgram config bootstrap units (.limited limit refusal failsToFlush)).2 = result
  /-- In this case the result is the failure of the sink. -/
  unflushed : full.size ≤ limit → result = .ok () →
    (writeProgram config bootstrap units (.limited limit refusal true)).2 =
      .error (.resource .flushFailed)
  /-- A sink without room for all bytes holds the first of them, and its refusal is the result. -/
  cut : limit < full.size → ∀ failsToFlush,
    (writeProgram config bootstrap units (.limited limit refusal failsToFlush)).1.sink.held =
        full.extract 0 limit ∧
      (writeProgram config bootstrap units (.limited limit refusal failsToFlush)).2 =
        .error (.resource refusal)
  /-- Whether the sink fails to hand on its bytes makes a difference exactly if everything is
  written before. -/
  flushedLast : (writeProgram config bootstrap units (.limited limit refusal true)).2 ≠
      (writeProgram config bootstrap units (.limited limit refusal false)).2 ↔
    result = .ok () ∧ full.size ≤ limit
  /-- All of the code is written exactly if it is without a limit and there is room for it. -/
  complete : ∀ failsToFlush,
    (writeCode config bootstrap units (.limited limit refusal failsToFlush)).2 = .ok () ↔
      result = .ok () ∧ full.size ≤ limit

/-- A limit cuts what a program gives without one. Without room for all bytes every sink refuses
some; with room, only a success gets to the request to hand them on. -/
theorem truncated (config : Config) (bootstrap : Bool) (units : List (String × String))
    (limit : Nat) (refusal : IoFault) :
    Truncated config bootstrap units limit refusal
      (writeProgram config bootstrap units {}).1.sink.held
      (writeProgram config bootstrap units {}).2 := by
  obtain ⟨effect, hfree, hfits, hexceeds⟩ := exists_effect_limited config bootstrap units
  have hresult : (writeProgram config bootstrap units {}).2 = effect.result := by
    rw [(writeProgram_of_writeCode hfree).2]
    cases effect.result <;> rfl
  rw [(writeProgram_of_writeCode hfree).1, hresult]
  have hroom (failsToFlush : Bool) (hsize : effect.bytes.size ≤ limit) :=
    writeProgram_of_writeCode (hfits limit refusal failsToFlush hsize)
  have hfull (failsToFlush : Bool) (hsize : limit < effect.bytes.size) :
      (writeProgram config bootstrap units (.limited limit refusal failsToFlush)).1.sink.held =
          effect.bytes.extract 0 limit ∧
        (writeProgram config bootstrap units (.limited limit refusal failsToFlush)).2 =
          .error (.resource refusal) := by
    obtain ⟨session, hcode, hsink⟩ := hexceeds limit refusal failsToFlush hsize
    rw [(writeProgram_of_writeCode hcode).1, (writeProgram_of_writeCode hcode).2, hsink]
    exact ⟨rfl, rfl⟩
  refine ⟨fun hsize failsToFlush => ?_, fun hsize failsToFlush hcase => ?_,
    fun hsize (hok : effect.result = .ok ()) => ?_, fun hsize failsToFlush => ?_, ?_,
    fun failsToFlush => ?_⟩
  · exact (hroom failsToFlush hsize).1
  · rw [(hroom failsToFlush hsize).2]
    cases hresult : effect.result with
    | error error => rfl
    | ok _ =>
      obtain rfl | hfailed := hcase
      · rfl
      · exact absurd hresult hfailed
  · rw [(hroom true hsize).2, hok]
    rfl
  · exact hfull failsToFlush hsize
  · obtain hsize | hsize := Nat.lt_or_ge limit effect.bytes.size
    · rw [(hfull true hsize).2, (hfull false hsize).2]
      exact ⟨fun hne => absurd rfl hne, fun hall => absurd hsize (Nat.not_lt.mpr hall.2)⟩
    · rw [(hroom true hsize).2, (hroom false hsize).2]
      cases effect.result with
      | error error => exact ⟨fun hne => absurd rfl hne, fun hall => nomatch hall.1⟩
      | ok _ => exact ⟨fun _ => ⟨rfl, hsize⟩, fun _ => nofun⟩
  · obtain hsize | hsize := Nat.lt_or_ge limit effect.bytes.size
    · obtain ⟨session, hcode, -⟩ := hexceeds limit refusal failsToFlush hsize
      rw [hcode]
      exact ⟨nofun, fun hall => absurd hsize (Nat.not_lt.mpr hall.2)⟩
    · rw [hfits limit refusal failsToFlush hsize]
      exact ⟨fun hok => ⟨hok, hsize⟩, fun hall => hall.1⟩

/-! ## When the sink is asked to hand on its bytes -/

/-- Whether a part of a session never asks the sink to hand on its bytes. -/
def Part.Unasking (part : Part) : Prop :=
  ∀ session, (part session).1.sink.flushes = session.sink.flushes

/-- Parts that do not ask do not ask one after the other. -/
theorem Part.Unasking.andThen {first second : Part} (hfirst : first.Unasking)
    (hsecond : second.Unasking) : (first.andThen second).Unasking := by
  intro session
  have hnext := hfirst session
  unfold Part.andThen
  split
  · rename_i next hok
    rw [hok] at hnext
    rw [hsecond next, hnext]
  · rename_i next error hfailed
    rw [hfailed] at hnext
    exact hnext

/-- Writing bytes is not asking for them to be handed on. -/
theorem flushes_write (sink : Sink) (bytes : ByteArray) :
    (sink.write bytes).1.flushes = sink.flushes := by
  unfold Sink.write
  split
  · rfl
  · dsimp only
    split <;> rfl

/-- Neither is writing lines. -/
theorem flushes_writeLines (sink : Sink) (lines : List Line) :
    (sink.writeLines lines).1.flushes = sink.flushes := by
  induction lines generalizing sink with
  | nil => rfl
  | cons line lines ih =>
    have hline := flushes_write sink (line.text ++ "\n").toUTF8
    rw [Sink.writeLines]
    split
    · rename_i next hok
      rw [hok] at hline
      rw [ih, hline]
    · rename_i next fault hfailed
      rw [hfailed] at hline
      exact hline

/-- Writing the lines of a step of the generator does not ask. -/
theorem unasking_emit (step : Generator → Outcome (List Line)) :
    Part.Unasking fun session => session.emit (step session.generator) := by
  intro session
  cases hresult : (step session.generator).result with
  | error error =>
    dsimp only
    rw [emit_of_error session hresult]
  | ok lines =>
    have hlines := flushes_writeLines session.sink lines
    simp only [emit, hresult]
    split
    · rename_i sink hok
      rw [hok] at hlines
      exact hlines
    · rename_i sink fault hfailed
      rw [hfailed] at hlines
      exact hlines

/-- Writing items does not ask. -/
theorem unasking_writeItems (items : List (Except Error Command)) :
    Part.Unasking fun session => session.writeItems items := by
  induction items with
  | nil => exact fun _ => rfl
  | cons item items ih =>
    cases item with
    | error error => exact fun _ => rfl
    | ok command => exact (unasking_emit fun generator => generator.lower command).andThen ih

/-- Writing units does not ask. -/
theorem unasking_writeUnits (units : List (String × String)) :
    Part.Unasking fun session => session.writeUnits units := by
  induction units with
  | nil => exact fun _ => rfl
  | cons unit units ih =>
    have hunit : Part.Unasking fun session => session.writeUnit unit.1 unit.2 := fun session =>
      unasking_writeItems (Grammar.items unit.2)
        { session with generator := session.generator.enterUnit unit.1 }
    exact hunit.andThen ih

/-- Writing the code that starts a program does not ask. -/
theorem unasking_writeBootstrap (wanted : Bool) :
    Part.Unasking fun session => session.writeBootstrap wanted := by
  cases wanted with
  | false => exact fun _ => rfl
  | true => exact unasking_emit Generator.bootstrap

/-- When a program asks a sink to hand on its bytes. -/
structure FlushesLast (config : Config) (bootstrap : Bool) (units : List (String × String))
    (sink : Sink) : Prop where
  /-- The sink is not asked while the bootstrap and the units are being written. -/
  quiet : (writeCode config bootstrap units sink).1.sink.flushes = sink.flushes
  /-- If one of them cannot be written, it is not asked at all. -/
  never : (writeCode config bootstrap units sink).2 ≠ .ok () →
    (writeProgram config bootstrap units sink).1.sink.flushes = sink.flushes
  /-- If all of them are written, it is asked once, and it holds all their bytes then. -/
  once : (writeCode config bootstrap units sink).2 = .ok () →
    (writeProgram config bootstrap units sink).1.sink.flushes =
      (writeCode config bootstrap units sink).1.sink.held :: sink.flushes

/-- A program asks a sink to hand on its bytes only after every unit has been written. -/
theorem flushesLast (config : Config) (bootstrap : Bool) (units : List (String × String))
    (sink : Sink) : FlushesLast config bootstrap units sink := by
  have hquiet : (writeCode config bootstrap units sink).1.sink.flushes = sink.flushes := by
    rw [writeCode_eq_andThen]
    exact (unasking_writeBootstrap bootstrap).andThen (unasking_writeUnits units) _
  refine ⟨hquiet, fun hfailed => ?_, fun hok => ?_⟩
  · rw [writeProgram]
    split
    · rename_i written error hcode
      rw [hcode] at hquiet
      exact hquiet
    · rename_i written hcode
      rw [hcode] at hfailed
      exact absurd rfl hfailed
  · rw [writeProgram]
    split
    · rename_i written error hcode
      rw [hcode] at hok
      cases hok
    · rename_i written hcode
      rw [hcode] at hquiet ⊢
      rw [finish_eq]
      exact congrArg (written.sink.held :: ·) hquiet

end Session

/-- A sink that takes only so many bytes, in any parts, cuts the listing of a program and changes
nothing else: it holds the bytes that an unlimited sink holds or the first of them, and its
refusal comes before every error that the program would give after the cut. An interruption, after
which a write is tried again, is no refusal. Whatever the sink is, it is asked to hand on its bytes
only after every unit has been written. -/
theorem limited_sink_holds_first_bytes :
    (∀ (limit : Nat) (refusal : IoFault) (failsToFlush : Bool) (held : ByteArray)
      (flushes : List ByteArray) (lines : List Line) (after : ByteArray)
      (result : Except IoFault Unit),
      held.size ≤ limit →
      (Sink.Offered limit refusal held (Sink.piecesOf lines) after result ↔
        Sink.writeLines ⟨some limit, refusal, failsToFlush, held, flushes⟩ lines =
          (⟨some limit, refusal, failsToFlush, after, flushes⟩, result))) ∧
    (∀ (config : Config) (bootstrap : Bool) (units : List (String × String)) (limit : Nat)
      (refusal : IoFault),
      Session.Truncated config bootstrap units limit refusal
        (Session.writeProgram config bootstrap units {}).1.sink.held
        (Session.writeProgram config bootstrap units {}).2) ∧
    ∀ (config : Config) (bootstrap : Bool) (units : List (String × String)) (sink : Sink),
      Session.FlushesLast config bootstrap units sink :=
  ⟨fun _ refusal failsToFlush _ flushes lines _ _ hheld =>
      Sink.offered_piecesOf_iff refusal failsToFlush flushes hheld lines,
    Session.truncated, Session.flushesLast⟩

end HackVm
