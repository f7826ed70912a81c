import HackVm.Proofs.Spelling
import HackVm.Proofs.Text

/-!
# Commands and their texts

The reader produces grammatical commands only, and it reads every grammatical command
from its own text. A text is a list of commands exactly if each of its lines that says
something is one.
-/

namespace HackVm

/-- Whether a command is one that the reader produces. -/
def Command.Grammatical : Command → Prop
  | operate _ | ret => True
  | push segment index => segment ≠ .constant ∨ index.toNat ≤ Word.maxLoad
  | pop segment _ => segment ≠ .constant
  | label name | goto name | ifGoto name | function name _ | call name _ =>
    Grammar.isName name.toList = true

/-- Whether a command is grammatical can be decided. -/
instance Command.decidableGrammatical : DecidablePred Command.Grammatical
  | operate _ | ret => inferInstanceAs (Decidable True)
  | push segment index =>
    inferInstanceAs (Decidable (segment ≠ .constant ∨ index.toNat ≤ Word.maxLoad))
  | pop segment _ => inferInstanceAs (Decidable (segment ≠ .constant))
  | label name | goto name | ifGoto name | function name _ | call name _ =>
    inferInstanceAs (Decidable (Grammar.isName name.toList = true))

namespace Grammar

/-- A command that a line spells is grammatical. -/
theorem Spells.grammatical {line : List Char} {command : Command} (h : Spells line command) :
    command.Grammatical := by
  cases h with
  | operate | ret => exact trivial
  | push hfirst hsecond hindex hload =>
    exact or_iff_not_imp_left.mpr fun hs => hload (not_not.mp hs)
  | pop hfirst hsecond hindex hplace => exact hplace
  | label hfirst hname | goto hfirst hname | ifGoto hfirst hname => exact hname
  | function hfirst hname | call hfirst hname => exact hname

/-- The commands of a text are collected one after the other. -/
theorem collect_cons (item : Except Error Command) (items : List (Except Error Command)) :
    collect (item :: items) = item.bind fun command =>
      (collect items).bind fun others => .ok (command :: others) := List.mapM_cons

/-- The commands of a text are collected exactly if every item is a command. -/
theorem collect_eq_ok_iff (items : List (Except Error Command)) (commands : List Command) :
    collect items = .ok commands ↔ items = commands.map .ok := by
  constructor
  · intro h
    induction items generalizing commands with
    | nil =>
      cases h
      rfl
    | cons item items ih =>
      rw [collect_cons] at h
      cases item with
      | error error => cases h
      | ok command =>
        cases hc : collect items with
        | error error =>
          rw [hc] at h
          cases h
        | ok others =>
          rw [hc] at h
          cases h
          rw [List.map_cons, ← ih others hc]
  · rintro rfl
    induction commands with
    | nil => rfl
    | cons command commands ih =>
      rw [List.map_cons, collect_cons, ih]
      rfl

/-- A text is read as commands exactly if its lines spell them, those that say something. -/
theorem parse_eq_ok_iff {text : String} {commands : List Command} :
    parse text = .ok commands ↔
      List.Forall₂ Spells (Text.contents text.toList) commands := by
  have hreports := reports_items text
  rw [parse, collect_eq_ok_iff, ← map_fst_statements, List.forall₂_map_left_iff]
  constructor
  · intro hitems
    rw [hitems, List.forall₂_map_right_iff] at hreports
    exact hreports.imp fun statement command hr => (hr.command command).mp rfl
  · intro hspells
    generalize statements text = said, items text = items at hreports hspells ⊢
    induction hreports generalizing commands with
    | nil =>
      cases hspells
      rfl
    | cons hr _ ih =>
      obtain ⟨command, others, hspell, hothers, rfl⟩ := List.forall₂_cons_left_iff.mp hspells
      rw [List.map_cons, (hr.command command).mpr hspell, ih hothers]

/-- The commands of a text that can be read are grammatical. -/
theorem grammatical_of_parse {text : String} {commands : List Command}
    (h : parse text = .ok commands) : ∀ command ∈ commands, command.Grammatical := by
  rw [parse_eq_ok_iff] at h
  generalize Text.contents text.toList = said at h
  induction h with
  | nil => simp
  | cons hspell _ ih => exact List.forall_mem_cons.mpr ⟨hspell.grammatical, ih⟩

/-- The decimal text of a word is a numeral. -/
theorem numeral_decimal (word : Word) : Numeral word.decimal.toList word := by
  refine ⟨Word.toList_toString_ne_nil _, fun _ => Word.isDigit_of_mem_toString, ?_⟩
  rw [Word.decimal, Word.toList_toString, Nat.ofDigitChars_ten_toDigits]

/-- A grammatical command is spelled by its text. -/
theorem spells_text {command : Command} (h : command.Grammatical) :
    Spells command.text.toList command := by
  have hgap : Gap [' '] := ⟨by decide, List.forall_mem_singleton.mpr (.inl rfl)⟩
  cases command with
  | operate operation => exact .operate operation
  | push segment index =>
    have hspells : Spells _ (.push segment index) := .push hgap hgap (numeral_decimal index)
      fun hs => h.resolve_left (absurd hs)
    simpa [Command.text] using hspells
  | pop segment index =>
    have hspells : Spells _ (.pop segment index) := .pop hgap hgap (numeral_decimal index) h
    simpa [Command.text] using hspells
  | label name => simpa [Command.text] using Spells.label hgap h
  | goto name => simpa [Command.text] using Spells.goto hgap h
  | ifGoto name => simpa [Command.text] using Spells.ifGoto hgap h
  | function name locals =>
    simpa [Command.text] using Spells.function hgap h hgap (numeral_decimal locals)
  | call name arguments =>
    simpa [Command.text] using Spells.call hgap h hgap (numeral_decimal arguments)
  | ret => exact .ret

/-- The characters of a name are plain. -/
theorem isPlain_of_isName {text : List Char} (h : isName text = true) :
    ∀ char ∈ text, Text.isPlain char = true := by
  rw [isName, Bool.and_eq_true, List.all_eq_true] at h
  intro char hc
  have hname := h.1 char hc
  simp only [isNameChar, Bool.or_eq_true, beq_iff_eq] at hname
  obtain ((ha | rfl) | rfl) | rfl := hname
  · exact Text.isPlain_of_isAlphanum ha
  all_goals decide

/-- The characters of a decimal text are plain. -/
theorem isPlain_of_mem_decimal {word : Word} :
    ∀ char ∈ word.decimal.toList, Text.isPlain char = true := by
  intro char hc
  refine Text.isPlain_of_isAlphanum ?_
  rw [Char.isAlphanum, Word.isDigit_of_mem_toString hc, Bool.or_true]

/-- Whether a character is a space or a plain one. -/
def isSpaced (char : Char) : Bool := char == ' ' || Text.isPlain char

/-- The text of a grammatical command has plain characters and spaces only. -/
theorem isSpaced_of_mem_text {command : Command} (h : command.Grammatical) :
    ∀ char ∈ command.text.toList, isSpaced char = true := by
  have hplain : ∀ {chars : List Char}, (∀ char ∈ chars, Text.isPlain char = true) →
      chars.all isSpaced = true := by
    intro chars hchars
    rw [List.all_eq_true]
    intro char hc
    rw [isSpaced, hchars char hc, Bool.or_true]
  have hsegment : ∀ segment : Segment, segment.name.toList.all isSpaced = true := by
    intro segment
    cases segment <;> decide
  have hdecimal : ∀ word : Word, word.decimal.toList.all isSpaced = true := fun word =>
    hplain isPlain_of_mem_decimal
  rw [← List.all_eq_true]
  cases command with
  | operate operation => cases operation <;> decide
  | ret => decide
  | push segment index | pop segment index =>
    simp only [Command.text, String.toList_append, List.all_append, hsegment, hdecimal]
    decide
  | label name | goto name | ifGoto name =>
    simp only [Command.text, String.toList_append, List.all_append, hplain (isPlain_of_isName h)]
    decide
  | function name count | call name count =>
    simp only [Command.text, String.toList_append, List.all_append, hplain (isPlain_of_isName h),
      hdecimal]
    decide

/-- The text of a grammatical command starts and ends with plain characters. -/
theorem isPlain_of_ends {command : Command} (h : command.Grammatical) :
    (∃ char, command.text.toList.head? = some char ∧ Text.isPlain char = true) ∧
      ∃ char, command.text.toList.getLast? = some char ∧ Text.isPlain char = true := by
  have hlast : ∀ {first last : List Char}, last ≠ [] → (∀ char ∈ last, Text.isPlain char = true) →
      ∃ char, (first ++ last).getLast? = some char ∧ Text.isPlain char = true := by
    intro first last hne hplain
    rw [List.getLast?_append_of_ne_nil _ hne, List.getLast?_eq_some_getLast hne]
    exact ⟨_, rfl, hplain _ (List.getLast_mem hne)⟩
  have hdecimal : ∀ {first : List Char} (word : Word), ∃ char,
      (first ++ word.decimal.toList).getLast? = some char ∧ Text.isPlain char = true :=
    fun word => hlast (Word.toList_toString_ne_nil word.toNat) isPlain_of_mem_decimal
  have hname : ∀ {first : List Char} {name : String}, isName name.toList = true → ∃ char,
      (first ++ name.toList).getLast? = some char ∧ Text.isPlain char = true := by
    intro first name hn
    refine hlast ?_ (isPlain_of_isName hn)
    intro hnil
    rw [hnil] at hn
    cases hn
  cases command with
  | operate operation => cases operation <;> exact ⟨⟨_, rfl, by decide⟩, _, rfl, by decide⟩
  | ret => exact ⟨⟨_, rfl, by decide⟩, _, rfl, by decide⟩
  | push segment word | pop segment word | function name word | call name word =>
    simp only [Command.text, String.toList_append]
    exact ⟨⟨_, rfl, by decide⟩, hdecimal word⟩
  | label name | goto name | ifGoto name =>
    simp only [Command.text, String.toList_append]
    exact ⟨⟨_, rfl, by decide⟩, hname h⟩

/-- The text of a grammatical command has nothing to cut off. -/
theorem content_text {command : Command} (h : command.Grammatical) :
    Text.content command.text.toList = command.text.toList := by
  obtain ⟨⟨head, hhead, hfirst⟩, last, hlast, hend⟩ := isPlain_of_ends h
  have hvisible : ∀ {char : Char}, Text.isPlain char = true → Text.isBlank char = false := by
    intro char hplain
    rw [Text.isPlain, Bool.and_eq_true, Bool.not_eq_true'] at hplain
    exact hplain.1
  refine Text.content_eq_self (fun hslash => ?_) (fun char hc => ?_) (fun char hc => ?_)
  · exact absurd (isSpaced_of_mem_text h _ hslash) (by decide)
  · rw [hhead] at hc
    cases hc
    exact hvisible hfirst
  · rw [hlast] at hc
    cases hc
    exact hvisible hend

/-- The text of a grammatical command is not empty. -/
theorem toList_text_ne_nil {command : Command} (h : command.Grammatical) :
    command.text.toList ≠ [] := by
  obtain ⟨⟨head, hhead, -⟩, -⟩ := isPlain_of_ends h
  intro hnil
  rw [hnil] at hhead
  cases hhead

/-- A text that says the texts of grammatical commands is read as these commands. -/
theorem parse_of_contents {text : String} {commands : List Command}
    (h : ∀ command ∈ commands, command.Grammatical)
    (hcontents : Text.contents text.toList = commands.map fun command => command.text.toList) :
    parse text = .ok commands := by
  rw [parse_eq_ok_iff, hcontents, List.forall₂_map_left_iff, List.forall₂_same]
  exact fun command hc => spells_text (h command hc)

/-- Lines with the texts of grammatical commands are read as these commands. -/
theorem parse_of_lines {text : String} {commands : List Command}
    (h : ∀ command ∈ commands, command.Grammatical)
    (hlines : Text.lines text.toList = commands.map fun command => command.text.toList) :
    parse text = .ok commands := by
  have hmap : (commands.map fun command => command.text.toList).map Text.content =
      commands.map fun command => command.text.toList := by
    rw [List.map_map]
    exact List.map_congr_left fun command hc => content_text (h command hc)
  refine parse_of_contents h ?_
  rw [Text.contents, hlines, hmap, List.filter_eq_self]
  intro said hsaid
  obtain ⟨command, hc, rfl⟩ := List.mem_map.mp hsaid
  simpa using toList_text_ne_nil (h command hc)

end Grammar

end HackVm
