import HackVm.Proofs.Annotation
import HackVm.Proofs.Joining
import HackVm.Proofs.Truncation

/-!
# Comments that restate the program

With comments, the code of a program holds the program itself. Each command is restated by exactly
one line that starts with a double slash and a space, and no line of code can be taken for one,
because names hold no line feed. What these lines say, joined by line feeds, is read as the commands
of all units in order, however they were spelled. So the code of a unit is found again by
translating what its comments say.
-/

namespace HackVm

open Assembly Codegen

/-- What a text says after a double slash and a space, if it starts with them. -/
def remarkOf? (text : String) : Option String :=
  if text.startsWith "// " then some (String.ofList (text.toList.drop 3)) else none

/-- The text whose lines are what comments say. -/
def restatement (texts : List String) : String := "\n".intercalate (texts.filterMap remarkOf?)

namespace Assembly.Line

/-- What a line says if it is a comment. -/
def remark? : Line → Option String
  | comment remark => some remark
  | _ => none

/-- Whether a line that is written to a text is cut out of it again, and is taken for a comment
exactly if it is one. -/
structure Legible (line : Line) : Prop where
  /-- The line does not end early. -/
  feed : '\n' ∉ line.text.toList
  /-- The line is taken for what it is. -/
  remark : remarkOf? (String.ofList (Text.dropReturn line.text.toList)) = line.remark?

/-- Lines without comments say nothing. -/
theorem filterMap_remark?_of_uncommented {lines : List Line} (h : uncommented lines = lines) :
    lines.filterMap remark? = [] := by
  rw [List.filterMap_eq_nil_iff]
  intro line hline
  have hcode := List.filter_eq_self.mp h line hline
  cases line with
  | comment remark => cases hcode
  | _ => rfl

/-- A line of code is taken for a comment exactly if it is one. -/
theorem Within.remarkOf?_text {references : List String} {line : Line}
    (h : line.Within references)
    (hreturn : ∀ remark, line = .comment remark → remark.toList.getLast? ≠ some '\r') :
    remarkOf? (String.ofList (Text.dropReturn line.text.toList)) = line.remark? := by
  cases hcomment : line.isComment with
  | true =>
    cases line with
    | comment remark =>
      have htext : (comment remark).text.toList = "// ".toList ++ remark.toList := by simp [text]
      have hlast : ("// ".toList ++ remark.toList).getLast? ≠ some '\r' := by
        rw [List.getLast?_append]
        cases hremark : remark.toList.getLast? with
        | none => decide
        | some char => exact fun hchar => hreturn remark rfl (hremark.trans hchar)
      rw [htext, Text.dropReturn, if_neg hlast, remarkOf?, if_pos]
      · simp [remark?]
      · exact String.startsWith_string_iff.mpr ⟨remark.toList, by simp⟩
    | _ => cases hcomment
  | false =>
    have hhead : (Text.dropReturn line.text.toList).head? ≠ some '/' := by
      intro hslash
      refine h.head?_text_ne hcomment ?_
      unfold Text.dropReturn at hslash
      split at hslash
      · rw [List.head?_dropLast] at hslash
        split at hslash
        · exact hslash
        · cases hslash
      · exact hslash
    have hnone : line.remark? = none := by
      cases line with
      | comment remark => cases hcomment
      | _ => rfl
    rw [hnone, remarkOf?, if_neg]
    intro hstarts
    obtain ⟨rest, hrest⟩ := String.startsWith_string_iff.mp hstarts
    have hchars := hrest.trans String.toList_ofList
    exact hhead (by rw [← hchars]; rfl)

end Assembly.Line

/-- What the comments of written lines say is found in the text. -/
theorem filterMap_remarkOf?_written {lines : List Line} (h : ∀ line ∈ lines, line.Legible) :
    ((Text.lines (written lines)).map String.ofList).filterMap remarkOf? =
      lines.filterMap Line.remark? := by
  have hcut : Text.lines (written lines) =
      lines.map fun line => Text.dropReturn line.text.toList := by
    have hclosed := Text.lines_flatMap_closed (lines.map fun line => line.text.toList)
    rw [List.flatMap_map, List.flatMap_map] at hclosed
    rw [written, hclosed, List.map_eq_flatMap]
    refine List.flatMap_congr fun line hline => ?_
    rw [Text.lines_closed, List.splitOn_eq_singleton (h line hline).feed]
    rfl
  rw [hcut, List.map_map, List.filterMap_map]
  exact List.filterMap_congr fun line hline => (h line hline).remark

namespace Codegen.Generator

variable {generator : Generator} {command : Command} {symbol : String}

/-- A symbol has no line feed. -/
theorem feed_not_mem_of_isSymbol (h : isSymbol symbol.toList = true) : '\n' ∉ symbol.toList :=
  fun hfeed => absurd (isSymbolChar_of_isSymbol h _ hfeed) (by decide)

/-- The names that the code of a well placed command declares have no line feed. -/
theorem feed_not_mem_of_mem_names (hplace : (generator.place command).WellPlaced)
    (h : symbol ∈ generator.names command) : '\n' ∉ symbol.toList := by
  obtain ⟨hcommand, hfunction⟩ := hplace
  apply feed_not_mem_of_isSymbol
  cases command with
  | operate operation =>
    cases operation with
    | eq | gt | lt =>
      rw [names, List.mem_cons, List.mem_singleton] at h
      obtain rfl | rfl := h <;> exact isSymbol_label (by decide) _
    | _ => cases h
  | label name =>
    rw [List.mem_singleton.mp h]
    exact isSymbol_labelSymbol hfunction hcommand
  | function name locals =>
    rw [List.mem_singleton.mp h]
    exact isSymbol_of_isName hcommand
  | call name arguments =>
    rw [List.mem_singleton.mp h]
    exact isSymbol_label (by decide) _
  | push segment index | pop segment index | goto name | ifGoto name | ret => cases h

/-- The symbols that the code of a well placed command uses have no line feed if the name of the
unit has none. -/
theorem feed_not_mem_of_mem_references (hplace : (generator.place command).WellPlaced)
    (hunit : '\n' ∉ generator.unit.toList) (h : symbol ∈ generator.references command) :
    '\n' ∉ symbol.toList := by
  obtain ⟨hcommand, hfunction⟩ := hplace
  cases command with
  | operate operation =>
    cases operation with
    | eq | gt | lt =>
      rw [references, List.mem_cons, List.mem_singleton] at h
      obtain rfl | rfl := h <;> exact feed_not_mem_of_isSymbol (isSymbol_label (by decide) _)
    | _ => cases h
  | push segment index | pop segment index =>
    cases segment with
    | static =>
      have hindex : '\n' ∉ index.decimal.toList := fun hfeed =>
        absurd (Word.isDigit_of_mem_toString hfeed) (by decide)
      rw [List.mem_singleton.mp h, staticSymbol]
      simp [hunit, hindex]
    | _ => cases h
  | goto name | ifGoto name =>
    rw [List.mem_singleton.mp h]
    exact feed_not_mem_of_isSymbol (isSymbol_labelSymbol hfunction hcommand)
  | call name arguments =>
    rw [references, List.mem_cons, List.mem_singleton] at h
    obtain rfl | rfl := h
    · exact feed_not_mem_of_isSymbol (isSymbol_label (by decide) _)
    · exact feed_not_mem_of_isSymbol (isSymbol_of_isName hcommand)
  | label name | function name locals | ret => cases h

/-- The lines of the code of a well placed command end where their texts end. -/
theorem Codes.feed_not_mem_text {lines : List Line} (h : generator.Codes command lines)
    (hplace : (generator.place command).WellPlaced) (hunit : '\n' ∉ generator.unit.toList)
    (hremark : ∀ remark, .comment remark ∈ lines → '\n' ∉ remark.toList) :
    ∀ line ∈ lines, '\n' ∉ line.text.toList := by
  intro line hline
  have hwithin := h.within line hline
  cases line with
  | comment remark => simpa [Line.text] using hremark remark hline
  | label name =>
    have hname : name ∈ generator.names command := by
      rw [← h.names]
      exact List.mem_filterMap.mpr ⟨_, hline, rfl⟩
    simpa [Line.text] using feed_not_mem_of_mem_names hplace hname
  | number value =>
    have hdigits : '\n' ∉ (toString value).toList := fun hfeed =>
      absurd (Word.isDigit_of_mem_toString hfeed) (by decide)
    simpa [Line.text] using hdigits
  | symbol name =>
    have hregisters : ∀ name ∈ registers, '\n' ∉ name.toList := by decide
    have hname : '\n' ∉ name.toList := hwithin.elim (hregisters name)
      (feed_not_mem_of_mem_references hplace hunit)
    simpa [Line.text] using hname
  | compute dest comp jump =>
    exact fun hfeed => absurd (isCodeChar_of_mem_text dest jump hwithin _ hfeed) (by decide)

/-- The block of a command starts with the comment that restates it, has no other one, and is
legible. -/
theorem restates_lower {block : List Line} (hannotate : generator.config.annotate = true)
    (hplace : (generator.place command).WellPlaced) (hunit : '\n' ∉ generator.unit.toList)
    (h : (generator.lower command).result = .ok block) :
    (∀ line ∈ block, line.Legible) ∧ block.filterMap Line.remark? = [command.text] := by
  have hcodes := codes_of_lower h
  obtain ⟨lines, hlines, rfl⟩ := lower_of_ok h
  have hremarks : (generator.remark command.text ++ lines).filterMap Line.remark? =
      [command.text] := by
    rw [List.filterMap_append, remark, if_pos hannotate,
      Line.filterMap_remark?_of_uncommented (generator.uncommented_body command hlines)]
    rfl
  have hremark : ∀ remark, .comment remark ∈ generator.remark command.text ++ lines →
      remark = command.text := by
    intro remark hmem
    have hsaid : remark ∈ (generator.remark command.text ++ lines).filterMap Line.remark? :=
      List.mem_filterMap.mpr ⟨_, hmem, rfl⟩
    rw [hremarks] at hsaid
    exact List.mem_singleton.mp hsaid
  refine ⟨fun line hline => ⟨?_, ?_⟩, hremarks⟩
  · refine hcodes.feed_not_mem_text hplace hunit (fun remark hmem => ?_) line hline
    rw [hremark remark hmem]
    exact not_mem_text_of_grammatical hplace.command
  · refine (hcodes.within line hline).remarkOf?_text fun remark hcomment hreturn => ?_
    subst hcomment
    rw [hremark remark hline] at hreturn
    exact absurd (Grammar.isSpaced_of_mem_text hplace.command _ (List.mem_of_getLast? hreturn))
      (by decide)

/-- The blocks of commands restate them one after the other. -/
theorem restates_lowerSites {final : Generator} {sites : List Site} {blocks : List (List Line)}
    (hannotate : generator.config.annotate = true) (hplaced : ∀ site ∈ sites, site.WellPlaced)
    (hunits : ∀ site ∈ sites, '\n' ∉ site.unit.toList)
    (h : generator.lowerSites sites = .ok (final, blocks)) :
    (∀ line ∈ blocks.flatten, line.Legible) ∧
      blocks.flatten.filterMap Line.remark? = sites.map fun site => site.command.text := by
  induction sites generalizing generator blocks with
  | nil =>
    cases h
    exact ⟨by simp, rfl⟩
  | cons site sites ih =>
    rw [List.forall_mem_cons] at hplaced hunits
    rw [lowerSites] at h
    cases hresult : ((generator.visit site).lower site.command).result with
    | error error =>
      rw [hresult] at h
      cases h
    | ok block =>
      rw [hresult] at h
      obtain ⟨rest, hrest, hfinal⟩ := exists_of_map_eq_ok h
      cases hfinal
      have hvisit : (generator.visit site).config.annotate = true := hannotate
      have hfirst := restates_lower hvisit hplaced.1 hunits.1 hresult
      have hconfig := ((generator.visit site).lower_place site.command).1
      have hothers := ih (by rw [hconfig]; exact hannotate) hplaced.2 hunits.2 hrest
      rw [List.flatten_cons, List.forall_mem_append, List.filterMap_append, hfirst.2, hothers.2]
      exact ⟨⟨hfirst.1, hothers.1⟩, rfl⟩

end Codegen.Generator

/-- A grammatical command is read from its text. -/
theorem Grammar.parse_text {command : Command} (h : command.Grammatical) :
    parse command.text = .ok [command] := by
  refine parse_of_contents (List.forall_mem_singleton.mpr h) ?_
  rw [Text.contents_of_line (not_mem_text_of_grammatical h), content_text h]
  exact List.filter_eq_self.mpr (by simpa using toList_text_ne_nil h)

/-- The texts of grammatical commands, joined by line feeds, are read as these commands. -/
theorem Grammar.parse_intercalate {commands : List Command}
    (h : ∀ command ∈ commands, command.Grammatical) :
    parse ("\n".intercalate (commands.map Command.text)) = .ok commands := by
  induction commands with
  | nil => rfl
  | cons command commands ih =>
    rw [List.forall_mem_cons] at h
    have hfirst := parse_text h.1
    have hrest := ih h.2
    cases commands with
    | nil => rwa [List.map_singleton, String.intercalate_singleton]
    | cons next commands =>
      rw [List.map_cons] at hrest
      rw [List.map_cons, List.map_cons, String.intercalate_cons_cons, parse_joined, hfirst, hrest]
      rfl

namespace Session

/-- What an empty sink holds after a success does not depend on its limit. -/
theorem exists_free_of_writeProgram {config : Config} {bootstrap : Bool}
    {units : List (String × String)} {sink : Sink} {session : Session}
    (hsink : sink.held = .empty)
    (h : writeProgram config bootstrap units sink = (session, .ok ())) :
    ∃ free, writeProgram config bootstrap units {} = (free, .ok ()) ∧
      session.sink.held = free.sink.held := by
  obtain ⟨effect, hwhole, hcut⟩ := exists_effect config bootstrap units
  obtain ⟨written, hcode⟩ := exists_writeCode_of_writeProgram h
  have hheld : session.sink.held = written.sink.held := by
    have hprogram := (writeProgram_of_writeCode hcode).1
    rwa [h] at hprogram
  by_cases hfits : sink.Fits (sink.held ++ effect.bytes)
  · have hsame := (hwhole sink hfits).symm.trans hcode
    rw [Prod.mk.injEq] at hsame
    have hfree := hwhole {} (by rintro _ ⟨⟩)
    rw [hsame.2] at hfree
    obtain ⟨hbytes, hresult⟩ := writeProgram_of_writeCode hfree
    refine ⟨_, Prod.ext rfl hresult, ?_⟩
    rw [hbytes, hheld, ← hsame.1]
    exact congrArg (· ++ effect.bytes) hsink
  · simp only [Sink.Fits, not_forall, Nat.not_le] at hfits
    obtain ⟨limit, hlimit, hexceeds⟩ := hfits
    obtain ⟨other, hrefused, -⟩ :=
      hcut sink limit hlimit (by rw [hsink]; exact Nat.zero_le _) hexceeds
    rw [hcode] at hrefused
    cases hrefused

/-- What a sink shows depends on its bytes only. -/
theorem outputLines_of_held {first second : Session} (h : first.sink.held = second.sink.held) :
    first.outputLines = second.outputLines := by
  have htext : first.sink.text = second.sink.text := by
    unfold Sink.text
    rw [h]
  rw [outputLines, outputLines, htext]

/-- A unit is written by the commands that its text is read as. -/
theorem writeProgram_of_parse_eq {config : Config} {name text other : String}
    {commands : List Command} (htext : Grammar.parse text = .ok commands)
    (hother : Grammar.parse other = .ok commands) (bootstrap : Bool) (sink : Sink) :
    writeProgram config bootstrap [(name, text)] sink =
      writeProgram config bootstrap [(name, other)] sink := by
  have hitems : Grammar.items text = Grammar.items other := by
    rw [(Grammar.collect_eq_ok_iff _ _).mp htext, (Grammar.collect_eq_ok_iff _ _).mp hother]
  simp only [writeProgram, writeCode, writeUnits, writeUnit, hitems]

end Session

/-- The commands of units are those of their places. -/
theorem Site.map_command_ofUnits (units : List (String × String)) :
    (ofUnits units).map command = (units.map fun unit => commandsOf unit.2).flatten := by
  rw [ofUnits, List.map_flatMap, List.flatMap_def]
  simp only [map_command_ofCommands]

/-- With comments and without a bootstrap, the code of a program restates it. What the lines that
start with a double slash and a space say is read as the commands of all units in order, and a
single unit that has this text is translated to the same bytes as before. -/
theorem annotated_output_restates_program {config : Config} {units : List (String × String)}
    {sink : Sink} {session : Session} (hannotate : config.annotate = true)
    (hnames : ∀ unit ∈ units, '\n' ∉ unit.1.toList) (hsink : sink.held = .empty)
    (h : Session.writeProgram config false units sink = (session, .ok ())) :
    (∃ commands : List (List Command),
      List.Forall₂ (fun unit own => Grammar.parse unit.2 = .ok own) units commands ∧
        Grammar.parse (restatement session.outputLines) = .ok commands.flatten) ∧
      ∀ name text, units = [(name, text)] →
        Session.writeProgram config false [(name, restatement session.outputLines)] sink =
          (session, .ok ()) := by
  obtain ⟨free, hfree, hheld⟩ := Session.exists_free_of_writeProgram hsink h
  obtain ⟨hunits, listing, hlisting, htext⟩ := Session.exists_listing_of_writeProgram hfree
  obtain ⟨generator, final, hstart, hblocks⟩ := Listing.of_ofSites hlisting
  obtain ⟨rfl, hprologue⟩ := Prod.mk.inj (Except.ok.inj hstart)
  have hplaced : ∀ site ∈ Site.ofUnits units, site.WellPlaced := fun site hsite =>
    Site.wellPlaced_of_mem_ofUnits hsite
  have hfeed : ∀ site ∈ Site.ofUnits units, '\n' ∉ site.unit.toList := by
    intro site hsite
    obtain ⟨unit, hunit, hname⟩ := Site.exists_unit_of_mem hsite
    rw [hname]
    exact hnames unit hunit
  obtain ⟨hlegible, hsaid⟩ := Generator.restates_lowerSites hannotate hplaced hfeed hblocks
  have hrestated : restatement session.outputLines =
      "\n".intercalate (((Site.ofUnits units).map Site.command).map Command.text) := by
    rw [Session.outputLines_of_held hheld, restatement, Session.outputLines, htext,
      String.toList_ofList, Listing.lines, ← hprologue, List.nil_append,
      filterMap_remarkOf?_written hlegible, hsaid, List.map_map]
    rfl
  have hgrammatical : ∀ command ∈ (Site.ofUnits units).map Site.command, command.Grammatical :=
    List.forall_mem_map.mpr fun site hsite => (hplaced site hsite).command
  have hparse := Grammar.parse_intercalate hgrammatical
  rw [← hrestated, Site.map_command_ofUnits] at hparse
  have hown : ∀ unit ∈ units, Grammar.parse unit.2 = .ok (Site.commandsOf unit.2) := by
    intro unit hunit
    obtain ⟨commands, hcommands⟩ := hunits unit hunit
    rw [Site.commandsOf, hcommands]
    rfl
  refine ⟨⟨_, ?_, hparse⟩, ?_⟩
  · rw [List.forall₂_map_right_iff, List.forall₂_same]
    exact hown
  · rintro name text rfl
    rw [← h]
    rw [List.map_singleton, List.flatten_singleton] at hparse
    exact Session.writeProgram_of_parse_eq hparse (hown _ List.mem_cons_self) false sink

/-- A unit with a name that is no symbol, and commands that are spelled with tabs, leading zeros,
comments and blank lines. -/
def respelledUnit : String × String :=
  ("a // b", "push\tconstant  007 // seven\r\n\n pop static 00\nlabel L //\ngoto L")

/-- The comments of the unit and of one after it restate both, and translating what the comments of
the unit alone say gives its code again. -/
theorem annotated_output_restates_respelledUnit :
    let alone := Session.writeProgram {} false [respelledUnit] {}
    let both := Session.writeProgram {} false [respelledUnit, ("c", "add")] {}
    alone.2 = .ok () ∧ both.2 = .ok () ∧
      Grammar.parse (restatement both.1.outputLines) =
        .ok [.push .constant 7, .pop .static 0, .label "L", .goto "L", .operate .add] ∧
      Session.writeProgram {} false [("a // b", restatement alone.1.outputLines)] {} = alone := by
  intro alone both
  have halone : alone.2 = .ok () := by decide +kernel
  have hboth : both.2 = .ok () := by decide +kernel
  have hunit : Grammar.parse respelledUnit.2 =
      .ok [.push .constant 7, .pop .static 0, .label "L", .goto "L"] := by decide +kernel
  have hother : Grammar.parse "add" = .ok [.operate .add] := by decide +kernel
  obtain ⟨⟨commands, hcommands, hrestated⟩, -⟩ := annotated_output_restates_program rfl (by decide)
    rfl (show both = (both.1, .ok ()) from Prod.ext rfl hboth)
  obtain ⟨first, others, hfirst, hothers, rfl⟩ := List.forall₂_cons_left_iff.mp hcommands
  obtain ⟨second, rest, hsecond, hrest, rfl⟩ := List.forall₂_cons_left_iff.mp hothers
  obtain rfl := List.forall₂_nil_left_iff.mp hrest
  cases hunit.symm.trans hfirst
  cases hother.symm.trans hsecond
  obtain ⟨-, hagain⟩ := annotated_output_restates_program rfl (by decide) rfl
    (show alone = (alone.1, .ok ()) from Prod.ext rfl halone)
  exact ⟨halone, hboth, hrestated, (hagain _ _ rfl).trans (Prod.ext rfl halone.symm)⟩

end HackVm
