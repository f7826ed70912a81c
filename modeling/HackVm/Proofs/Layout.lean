import HackVm.Proofs.Reading

/-!
# Laid out programs

Source text as people write it: a command on a line, blanks around it, comments, and lines
without a command. Line ends may have a carriage return, and the last line may have no end.
However grammatical commands are laid out, reading the text gives them back; and the commands
that can be read at all, from any text, are the grammatical ones.
-/

namespace HackVm

/-- Blanks inside a line, before or after a command. -/
structure Margin where
  /-- The characters. -/
  chars : List Char
  /-- All of them are blank. -/
  blank : ∀ char ∈ chars, Text.isBlank char = true
  /-- None of them ends the line. -/
  inside : '\n' ∉ chars

/-- No blanks. -/
def Margin.empty : Margin := ⟨[], List.forall_mem_nil _, List.not_mem_nil⟩

/-- The margin of some characters, which are tested. -/
def Margin.ofChars (chars : List Char) (hblank : chars.all Text.isBlank = true)
    (hinside : '\n' ∉ chars) : Margin := ⟨chars, List.all_eq_true.mp hblank, hinside⟩

/-- A comment, without its double slash. -/
structure Remark where
  /-- The characters. -/
  chars : List Char
  /-- None of them ends the line. -/
  inside : '\n' ∉ chars

/-- A line of source text. Without a command it is blank or only a comment. -/
structure SourceLine where
  /-- The blanks before the command. -/
  indent : Margin
  /-- The command. -/
  command? : Option Command
  /-- The blanks after the command. -/
  trail : Margin
  /-- The comment. -/
  remark? : Option Remark

namespace SourceLine

/-- The words of a line: the text of its command. -/
def words (line : SourceLine) : List Char :=
  match line.command? with
  | some command => command.text.toList
  | none => []

/-- The comment of a line with its double slash. -/
def comment (line : SourceLine) : List Char :=
  match line.remark? with
  | some remark => '/' :: '/' :: remark.chars
  | none => []

/-- The characters of a line. -/
def chars (line : SourceLine) : List Char :=
  line.indent.chars ++ (line.words ++ line.trail.chars) ++ line.comment

/-- Whether the command of a line, if there is one, is grammatical. -/
def Grammatical (line : SourceLine) : Prop := ∀ command ∈ line.command?, command.Grammatical

/-- The characters of the command of a line are spaces and plain ones. -/
theorem isSpaced_of_mem_words {line : SourceLine} (h : line.Grammatical) :
    ∀ char ∈ line.words, Grammar.isSpaced char = true := by
  unfold words
  split
  · rename_i command hcommand
    exact Grammar.isSpaced_of_mem_text (h command hcommand)
  · simp

/-- A line has no line feed. -/
theorem feed_not_mem_chars {line : SourceLine} (h : line.Grammatical) : '\n' ∉ line.chars := by
  have hwords : '\n' ∉ line.words := fun hc => absurd (isSpaced_of_mem_words h _ hc) (by decide)
  have hcomment : '\n' ∉ line.comment := by
    unfold comment
    split
    · rename_i remark _
      simpa using remark.inside
    · simp
  simp only [chars, List.mem_append, not_or]
  exact ⟨⟨line.indent.inside, hwords, line.trail.inside⟩, hcomment⟩

/-- A slash is no blank. -/
theorem slash_not_mem_margin (margin : Margin) : '/' ∉ margin.chars := fun hc =>
  absurd (margin.blank _ hc) (by decide)

/-- A line says the text of its command. -/
theorem content_chars {line : SourceLine} (h : line.Grammatical) :
    Text.content line.chars = line.words := by
  have hslash : '/' ∉ line.indent.chars ++ (line.words ++ line.trail.chars) := by
    have hwords : '/' ∉ line.words := fun hc => absurd (isSpaced_of_mem_words h _ hc) (by decide)
    simp only [List.mem_append, not_or]
    exact ⟨slash_not_mem_margin _, hwords, slash_not_mem_margin _⟩
  have hbefore : Text.beforeComment line.chars =
      line.indent.chars ++ (line.words ++ line.trail.chars) := by
    unfold chars comment
    split
    · exact Text.beforeComment_append hslash _
    · rw [List.append_nil, Text.beforeComment_eq_self hslash]
  have hwords : Text.trim line.words = line.words := by
    unfold words
    split
    · rename_i command hcommand
      have htext := Grammar.content_text (h command hcommand)
      have hplain : '/' ∉ command.text.toList := fun hc =>
        absurd (Grammar.isSpaced_of_mem_text (h command hcommand) _ hc) (by decide)
      rwa [Text.content, Text.beforeComment_eq_self hplain] at htext
    · rfl
  rw [Text.content, hbefore, Text.trim_pad line.indent.blank line.trail.blank, hwords]

end SourceLine

/-- The end of a line. -/
inductive LineEnd where
  /-- A line feed. -/
  | feed
  /-- A carriage return and a line feed. -/
  | returnFeed
  deriving DecidableEq, Repr

/-- The characters of a line end. -/
def LineEnd.chars : LineEnd → List Char
  | feed => ['\n']
  | returnFeed => ['\r', '\n']

/-- A source text, line by line. -/
structure Layout where
  /-- The lines that have an end. -/
  closed : List (SourceLine × LineEnd)
  /-- What follows the last line end. -/
  last : SourceLine

namespace Layout

/-- The characters of lines with their ends. -/
def closedChars (lines : List (SourceLine × LineEnd)) : List Char :=
  lines.flatMap fun line => line.1.chars ++ line.2.chars

/-- The text of a layout. -/
def text (layout : Layout) : String :=
  String.ofList (closedChars layout.closed ++ layout.last.chars)

/-- The lines of a layout. -/
def lines (layout : Layout) : List SourceLine := layout.closed.map Prod.fst ++ [layout.last]

/-- The commands of a layout. -/
def commands (layout : Layout) : List Command := layout.lines.filterMap SourceLine.command?

/-- A line with its end says the text of its command, and the text after it is read anew. -/
theorem contents_closed {line : SourceLine} (h : line.Grammatical) (lineEnd : LineEnd)
    (rest : List Char) :
    Text.contents (line.chars ++ lineEnd.chars ++ rest) =
      ([line.words].filter fun said => said ≠ []) ++ Text.contents rest := by
  have hfeed := line.feed_not_mem_chars h
  cases lineEnd with
  | feed =>
    rw [LineEnd.chars, List.append_assoc, List.singleton_append, Text.contents_append_cons,
      Text.contents_of_line hfeed, line.content_chars h]
  | returnFeed =>
    have hline : line.chars ++ LineEnd.chars .returnFeed ++ rest =
        (line.chars ++ ['\r']) ++ '\n' :: rest := by simp [LineEnd.chars]
    have hreturn : '\n' ∉ line.chars ++ ['\r'] := by simpa using hfeed
    rw [hline, Text.contents_append_cons, Text.contents_of_line hreturn,
      Text.content_concat_return, line.content_chars h]

/-- A text says the texts of the commands of its lines, one line after the other. -/
theorem contents_lines {closed : List (SourceLine × LineEnd)} {last : SourceLine}
    (hclosed : ∀ line ∈ closed, line.1.Grammatical) (hlast : last.Grammatical) :
    Text.contents (closedChars closed ++ last.chars) =
      ((closed.map Prod.fst ++ [last]).map SourceLine.words).filter fun said => said ≠ [] := by
  induction closed with
  | nil =>
    rw [closedChars, List.flatMap_nil, List.nil_append, Text.contents_of_line
      (last.feed_not_mem_chars hlast), last.content_chars hlast]
    rfl
  | cons line closed ih =>
    rw [List.forall_mem_cons] at hclosed
    have hsplit : closedChars (line :: closed) ++ last.chars =
        line.1.chars ++ line.2.chars ++ (closedChars closed ++ last.chars) := by
      simp [closedChars]
    rw [hsplit, contents_closed hclosed.1, ih hclosed.2, ← List.filter_append]
    rfl

/-- The words of lines, without those of lines that have no command. -/
theorem filter_words {lines : List SourceLine} (h : ∀ line ∈ lines, line.Grammatical) :
    ((lines.map SourceLine.words).filter fun said => said ≠ []) =
      (lines.filterMap SourceLine.command?).map fun command => command.text.toList := by
  induction lines with
  | nil => rfl
  | cons line lines ih =>
    rw [List.forall_mem_cons] at h
    rw [List.map_cons, List.filterMap_cons]
    cases hcommand : line.command? with
    | none =>
      rw [List.filter_cons_of_neg (by simp [SourceLine.words, hcommand]), ih h.2]
    | some command =>
      have hwords : line.words = command.text.toList := by rw [SourceLine.words, hcommand]
      have hne := Grammar.toList_text_ne_nil (h.1 command hcommand)
      rw [hwords, List.filter_cons_of_pos (by simpa using hne), List.map_cons, ih h.2]

/-- Reading a layout of grammatical commands gives the commands. -/
theorem parse_text (layout : Layout) (h : ∀ command ∈ layout.commands, command.Grammatical) :
    Grammar.parse layout.text = .ok layout.commands := by
  have hlines : ∀ line ∈ layout.lines, line.Grammatical := fun line hline command hcommand =>
    h command (List.mem_filterMap.mpr ⟨line, hline, hcommand⟩)
  have hclosed : ∀ line ∈ layout.closed, line.1.Grammatical := fun line hline =>
    hlines line.1 (List.mem_append_left _ (List.mem_map_of_mem hline))
  have hlast : layout.last.Grammatical :=
    hlines layout.last (List.mem_append_right _ List.mem_cons_self)
  refine Grammar.parse_of_contents h ?_
  rw [text, String.toList_ofList, contents_lines hclosed hlast]
  exact filter_words hlines

/-- The layout of a command without anything around it. -/
def single (command : Command) : Layout :=
  ⟨[], ⟨.empty, some command, .empty, none⟩⟩

/-- The text of a single command is its own. -/
theorem text_single (command : Command) : (single command).text = command.text := by
  simp [single, text, closedChars, SourceLine.chars, SourceLine.words, SourceLine.comment,
    Margin.empty]

end Layout

/-- Writing and reading are inverse. However grammatical commands are laid out, the text is
read as these commands; every command that is read from any text is grammatical; and so a
command, whatever its name is, is read from its own text exactly if it is grammatical. -/
theorem parse_inverts_layout :
    (∀ layout : Layout, (∀ command ∈ layout.commands, command.Grammatical) →
      Grammar.parse layout.text = .ok layout.commands) ∧
    (∀ text commands, Grammar.parse text = .ok commands →
      ∀ command ∈ commands, command.Grammatical) ∧
    ∀ command : Command, Grammar.parse command.text = .ok [command] ↔ command.Grammatical := by
  refine ⟨Layout.parse_text, fun text commands => Grammar.grammatical_of_parse,
    fun command => ⟨fun h => ?_, fun h => ?_⟩⟩
  · exact Grammar.grammatical_of_parse h command List.mem_cons_self
  · have hcommands : (Layout.single command).commands = [command] := rfl
    have hparse := Layout.parse_text (Layout.single command)
      (hcommands ▸ List.forall_mem_singleton.mpr h)
    rwa [Layout.text_single, hcommands] at hparse

/-- Two commands between comments, with both kinds of line ends and a blank line. -/
def remarkedLayout : Layout where
  closed :=
    [(⟨.empty, none, .empty, some ⟨" header".toList, by decide⟩⟩, .returnFeed),
      (⟨.empty, none, .ofChars ['\t'] (by decide) (by decide), none⟩, .feed),
      (⟨.ofChars [' ', ' '] (by decide) (by decide), some (.push .constant 7),
        .ofChars [' '] (by decide) (by decide), some ⟨" seven // 7".toList, by decide⟩⟩,
        .returnFeed)]
  last :=
    ⟨.ofChars ['\t'] (by decide) (by decide), some (.operate .add),
      .ofChars ['\r'] (by decide) (by decide), none⟩

/-- The layout of the two commands is read as them. -/
theorem parse_inverts_layout_remarked :
    remarkedLayout.text = "// header\r\n\t\n  push constant 7 // seven // 7\r\n\tadd\r" ∧
      remarkedLayout.commands = [.push .constant 7, .operate .add] ∧
      (∀ command ∈ remarkedLayout.commands, command.Grammatical) ∧
      Grammar.parse "// header\r\n\t\n  push constant 7 // seven // 7\r\n\tadd\r" =
        .ok [.push .constant 7, .operate .add] := by
  have htext : remarkedLayout.text =
      "// header\r\n\t\n  push constant 7 // seven // 7\r\n\tadd\r" := by decide +kernel
  have hcommands : remarkedLayout.commands = [.push .constant 7, .operate .add] := rfl
  have hgrammatical : ∀ command ∈ remarkedLayout.commands, command.Grammatical := by
    rw [hcommands, List.forall_mem_cons, List.forall_mem_singleton]
    exact ⟨.inr (by decide), trivial⟩
  have hparse := parse_inverts_layout.1 remarkedLayout hgrammatical
  rw [htext, hcommands] at hparse
  exact ⟨htext, hcommands, hgrammatical, hparse⟩

end HackVm
