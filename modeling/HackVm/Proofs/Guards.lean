import HackVm.Proofs.GeneratorStep
import HackVm.Proofs.Reading

/-!
# Guards that nothing comes to

Reading and code generation check more than they have to. A line whose first word is a whole
command is read up to the end of this word, so it is never blamed for missing arguments, and a
return is never asked for the arguments it does not take. The generator looks up base pointers
and fixed cells only for segments that have them. It also refuses numbers that the reader has
refused before, and these guards work for commands that were not read from a text.
-/

namespace HackVm

namespace SyntaxFault

/-- The first three letters of the wording of a reason. -/
def opening : SyntaxFault → List Char
  | trailing _ => ['u', 'n', 'e']
  | returnArguments => ['`', 'r', 'e']
  | arguments _ => ['m', 'i', 's']
  | unknown _ => ['u', 'n', 'k']

/-- The wording of a reason starts with its opening. -/
theorem take_message (fault : SyntaxFault) : fault.message.toList.take 3 = fault.opening := by
  have hquoting : ∀ {front : String} {letters : List Char} (quoted : String),
      3 ≤ front.toList.length → front.toList.take 3 = letters →
        (front ++ quoted ++ "`").toList.take 3 = letters := by
    rintro front letters quoted hlong rfl
    rw [String.append_assoc, String.toList_append, List.take_append_of_le_length hlong]
  cases fault with
  | trailing rest =>
    exact hquoting rest (by decide +kernel) (by simp only [opening]; decide +kernel)
  | returnArguments => decide +kernel
  | arguments keyword =>
    exact hquoting keyword (by decide +kernel) (by simp only [opening]; decide +kernel)
  | unknown word => exact hquoting word (by decide +kernel) (by simp only [opening]; decide +kernel)

/-- Different reasons have different wordings. -/
theorem message_injective : Function.Injective message := by
  intro fault other hsame
  have hopenings : fault.opening = other.opening := by
    rw [← take_message, ← take_message, hsame]
  have hquoted : ∀ {front quoted others : String},
      front ++ quoted ++ "`" = front ++ others ++ "`" → quoted = others := by
    intro front quoted others hequal
    rwa [String.append_left_inj, String.append_right_inj] at hequal
  cases fault <;> cases other <;> first
    | rfl
    | exact congrArg _ (hquoted hsame)
    | simp [opening] at hopenings

end SyntaxFault

namespace Text

/-- A trimmed text starts with a visible character. -/
theorem isBlank_of_head?_trim {chars : List Char} :
    ∀ char ∈ (trim chars).head?, isBlank char = false := by
  intro char hfirst
  have hfront : trim chars <+: chars.dropWhile isBlank := by
    rw [trim, trimRight, ← List.reverse_suffix, List.reverse_reverse]
    exact List.dropWhile_suffix isBlank
  have hvisible := List.head?_dropWhile_not isBlank chars
  obtain ⟨others, htrimmed⟩ := List.head?_eq_some_iff.mp hfirst
  obtain ⟨blanks, hwhole⟩ := hfront
  rw [← hwhole, htrimmed] at hvisible
  simpa using hvisible

/-- A text that starts with a visible character starts with its first word, and only a blank
can stand after it. -/
theorem exists_rest_of_firstWord {chars word : List Char}
    (hvisible : ∀ char ∈ chars.head?, isBlank char = false) (hfirst : firstWord chars = word) :
    ∃ rest, chars = word ++ rest ∧ ∀ char ∈ rest.head?, isBlank char = true := by
  have hfront : chars.dropWhile isBlank = chars := by
    cases chars with
    | nil => rfl
    | cons char rest => exact List.dropWhile_cons_of_neg (by simp [hvisible char rfl])
  rw [firstWord, hfront] at hfirst
  refine ⟨chars.dropWhile fun char => !isBlank char, ?_, ?_⟩
  · rw [← hfirst, List.takeWhile_append_dropWhile]
  · intro char hnext
    have hstopped := List.head?_dropWhile_not (fun char => !isBlank char) chars
    rw [Option.mem_def.mp hnext] at hstopped
    simpa using hstopped

/-- A blank is no letter. -/
theorem isAlpha_of_isBlank {char : Char} (h : isBlank char = true) : char.isAlpha = false := by
  by_contra hletter
  have hplain : isPlain char = true := isPlain_of_isAlphanum (by simp_all [Char.isAlphanum])
  simp [isPlain, h] at hplain

end Text

/-- Whether a command is a single word. -/
def Command.IsBare : Command → Prop
  | operate _ | ret => True
  | _ => False

namespace Grammar

/-- The reader takes a single-word command from the front of a line, whatever follows its
letters, because no mnemonic starts with the keyword of another form. -/
theorem command_of_bare {command : Command} (hbare : command.IsBare) {rest : List Char}
    (hstops : Stops Char.isAlpha rest) :
    Grammar.command (command.text.toList ++ rest) = some (command, rest) := by
  cases command with
  | ret => rfl
  | operate operation =>
    have hletters : ∀ char ∈ operation.mnemonic.toList, char.isAlpha = true := by
      rw [← List.all_eq_true]
      cases operation <;> decide
    have htaken : Grammar.operation (operation.mnemonic.toList ++ rest) =
        some (.operate operation, rest) := by
      unfold Grammar.operation
      simp only [bind_eq_some_iff, run_eq_some_iff, lift_eq_some_iff, ofMnemonic?_eq_some_iff,
        pure_eq_some_iff]
      exact ⟨_, rest, ⟨rfl, by cases operation <;> decide, hletters, hstops⟩, operation, rest,
        ⟨String.ofList_toList, rfl⟩, rfl, rfl⟩
    have hrefused : (push <|> pop <|> branch <|> linkage) (operation.mnemonic.toList ++ rest) =
        none := by
      cases operation <;> rfl
    rw [orElse_eq, orElse_eq, orElse_eq, Option.or_eq_none_iff, Option.or_eq_none_iff,
      Option.or_eq_none_iff] at hrefused
    obtain ⟨hpush, hpop, hbranch, hlinkage⟩ := hrefused
    rw [Grammar.command, orElse_eq, orElse_eq, orElse_eq, orElse_eq, Command.text, hpush, hpop,
      hbranch, hlinkage, htaken]
    rfl
  | _ => exact hbare.elim

/-- A line that starts with a single-word command and ends there or goes on with a blank. -/
theorem classify_of_bare {command : Command} (hbare : command.IsBare) {rest : List Char}
    (hblank : ∀ char ∈ rest.head?, Text.isBlank char = true) :
    classify (command.text.toList ++ rest) =
      if rest = [] then .ok command else .error (.trailing (String.ofList (Text.trim rest))) := by
  have htaken : StateT.run Grammar.command (command.text.toList ++ rest) = some (command, rest) :=
    command_of_bare hbare fun char hnext => Text.isAlpha_of_isBlank (hblank char hnext)
  rw [classify, htaken]
  cases rest <;> rfl

/-- What is reported about a line that says something. -/
def report (statement : List Char × Nat) : Except Error Command :=
  (classify statement.1).mapError (.malformed statement.2 (String.ofList statement.1))

/-- What a line says is reported, if it says something. -/
theorem readLine_eq (number : Nat) (line : List Char) : readLine number line =
    if Text.content line = [] then none else some (report (Text.content line, number)) := by
  rw [readLine, report]
  split
  · rename_i hsilent
    rw [if_pos hsilent]
  · rename_i hspoken
    rw [if_neg hspoken]
    cases classify (Text.content line) <;> rfl

/-- The items of a text report what its lines say. -/
theorem items_eq_map_report (text : String) : items text = (statements text).map report := by
  unfold statements items readLines
  generalize 1 = number
  induction Text.lines text.toList generalizing number with
  | nil => rfl
  | cons line lines ih =>
    simp only [List.map_cons, List.zipIdx_cons, List.filterMap_cons, List.filter_cons, readLine_eq]
    by_cases hsilent : Text.content line = []
    · simpa [hsilent, readLine_eq] using ih (number + 1)
    · simpa [hsilent, readLine_eq] using ih (number + 1)

/-- What a line says starts with a visible character. -/
theorem isBlank_of_mem_statements {text : String} {statement : List Char × Nat}
    (h : statement ∈ statements text) :
    ∀ char ∈ statement.1.head?, Text.isBlank char = false := by
  rw [statements, List.mem_filter] at h
  obtain ⟨line, -, hsaid⟩ := List.mem_map.mp (List.fst_mem_of_mem_zipIdx h.1)
  rw [← hsaid]
  exact Text.isBlank_of_head?_trim

/-- Whether an item reports a line that starts with a single-word command: the command if
nothing follows it, and otherwise that something does. -/
def ReportsWord (command : Command) (statement : List Char × Nat) (item : Except Error Command) :
    Prop :=
  ∃ rest, statement.1 = command.text.toList ++ rest ∧
    item = if rest = [] then .ok command
      else .error (.malformed statement.2 (String.ofList statement.1)
        (.trailing (String.ofList (Text.trim rest))))

/-- A line whose first word is a command is reported as this command or for what follows. -/
theorem reportsWord_of_firstWord {text : String} {statement : List Char × Nat}
    (h : statement ∈ statements text) {command : Command} (hbare : command.IsBare)
    (hword : Text.firstWord statement.1 = command.text.toList) :
    ReportsWord command statement (report statement) := by
  obtain ⟨rest, hsaid, hblank⟩ :=
    Text.exists_rest_of_firstWord (isBlank_of_mem_statements h) hword
  refine ⟨rest, hsaid, ?_⟩
  have hclass := classify_of_bare hbare hblank
  rw [← hsaid] at hclass
  rw [report, hclass]
  split <;> rfl

/-- A reason that blames a keyword or a return has it from the first word of the line. -/
theorem firstWord_of_classify {line : List Char} {fault : SyntaxFault}
    (h : classify line = .error fault) :
    (fault = .returnArguments → Text.firstWord line = "return".toList) ∧
      ∀ keyword, fault = .arguments keyword → Text.firstWord line = keyword.toList := by
  have hword : ∀ {keyword : String}, String.ofList (Text.firstWord line) = keyword →
      Text.firstWord line = keyword.toList := by
    rintro keyword rfl
    exact String.toList_ofList.symm
  unfold classify at h
  split at h
  · cases h
  · cases h
    exact ⟨nofun, nofun⟩
  · cases h
    unfold misfit
    dsimp only
    split
    · exact ⟨fun _ => hword ‹_›, nofun⟩
    · split
      · refine ⟨nofun, fun keyword hblamed => hword ?_⟩
        injection hblamed
      · exact ⟨nofun, nofun⟩

/-- An item that is no command never blames a single-word command for its arguments. -/
theorem exists_fault_of_report {text : String} {statement : List Char × Nat}
    (h : statement ∈ statements text) {error : Error} (hfailed : report statement = .error error) :
    ∃ fault, error = .malformed statement.2 (String.ofList statement.1) fault ∧
      fault ≠ .returnArguments ∧
      ∀ operation : Operation, fault ≠ .arguments operation.mnemonic := by
  have hfollows : ∀ (command : Command) {fault : SyntaxFault}, command.IsBare →
      Text.firstWord statement.1 = command.text.toList → classify statement.1 = .error fault →
        ∃ rest, fault = .trailing rest := by
    intro command fault hbare hword hclass
    obtain ⟨rest, -, hreported⟩ := reportsWord_of_firstWord h hbare hword
    rw [report, hclass] at hreported
    split at hreported
    · cases hreported
    · injection hreported with hsame
      injection hsame with _ _ hfault
      exact ⟨_, hfault⟩
  cases hclass : classify statement.1 with
  | ok command =>
    rw [report, hclass] at hfailed
    cases hfailed
  | error fault =>
    rw [report, hclass] at hfailed
    obtain ⟨hreturn, hkeyword⟩ := firstWord_of_classify hclass
    refine ⟨fault, (Except.error.inj hfailed).symm, ?_, ?_⟩
    · rintro rfl
      obtain ⟨rest, ⟨⟩⟩ := hfollows .ret trivial (hreturn rfl) hclass
    · rintro operation rfl
      obtain ⟨rest, ⟨⟩⟩ := hfollows (.operate operation) trivial (hkeyword _ rfl) hclass

/-- A command that is read from a text is grammatical. -/
theorem grammatical_of_mem_items {text : String} {command : Command}
    (h : .ok command ∈ items text) : command.Grammatical := by
  rw [items_eq_map_report] at h
  obtain ⟨statement, -, hreported⟩ := List.mem_map.mp h
  cases hclass : classify statement.1 with
  | ok other =>
    rw [report, hclass] at hreported
    cases hreported
    exact (classify_eq_ok_iff.mp hclass).grammatical
  | error fault =>
    rw [report, hclass] at hreported
    cases hreported

end Grammar

namespace Codegen

/-- The reasons for which the generator finds no cell of a segment. -/
inductive Misses (segment : Segment) (index : Word) : Refusal → Prop where
  /-- The index in a segment that moves does not fit an address instruction. -/
  | offset {pointer : BasePointer} (hbased : segment.basePointer? = some pointer)
      (hlarge : Word.maxLoad < index.toNat) : Misses segment index .indexRange
  /-- The index is past the end of a segment that stays in place. -/
  | past {region : Region} (hfixed : segment.fixedRegion? = some region)
      (hlarge : region.length ≤ index.toNat) :
      Misses segment index (.indexBound segment region.length)

/-- The commands that no generator accepts, with the reasons. -/
inductive Refuses : Command → Refusal → Prop where
  /-- A number that is pushed does not fit an address instruction. -/
  | constant {index : Word} (hlarge : Word.maxLoad < index.toNat) :
      Refuses (.push .constant index) .constantRange
  /-- A number cannot be popped into. -/
  | popConstant (index : Word) : Refuses (.pop .constant index) .popConstant
  /-- There is no cell to push. -/
  | push {segment : Segment} {index : Word} {refusal : Refusal}
      (hmisses : Misses segment index refusal) : Refuses (.push segment index) refusal
  /-- There is no cell to pop into. -/
  | pop {segment : Segment} {index : Word} {refusal : Refusal}
      (hmisses : Misses segment index refusal) : Refuses (.pop segment index) refusal
  /-- The frame of a call does not fit an address instruction. -/
  | call {name : String} {arguments : Word}
      (hlarge : Word.maxLoad < arguments.toNat + savedWords) :
      Refuses (.call name arguments) .argumentCount

/-- A changed result fails as the result does. -/
theorem map_eq_error_iff {ε α β : Type} {result : Except ε α} {apply : α → β} {error : ε} :
    result.map apply = .error error ↔ result = .error error := by
  cases result <;> simp [Except.map]

/-- Looking up a base pointer fails for a large index only. -/
theorem basePointer_eq_error_iff {command : Command} {segment : Segment} {index : Word}
    {pointer : BasePointer} (hbased : segment.basePointer? = some pointer) {error : Error} :
    basePointer command segment index = .error error ↔
      Word.maxLoad < index.toNat ∧ error = .unsupported command.text .indexRange := by
  rw [basePointer, hbased]
  split <;> simp_all [eq_comm]

/-- Looking up a fixed cell fails for an index past the end only. -/
theorem fixedCell_eq_error_iff {command : Command} {segment : Segment} {index : Word}
    {region : Region} (hfixed : segment.fixedRegion? = some region) {error : Error} :
    fixedCell command segment index = .error error ↔
      region.length ≤ index.toNat ∧
        error = .unsupported command.text (.indexBound segment region.length) := by
  rw [fixedCell, hfixed]
  dsimp only
  split <;> simp_all [eq_comm]

namespace Generator

variable {generator : Generator} {segment : Segment} {index : Word}

/-- The generator refuses a cell for what it is exactly if the segment has no such cell. -/
theorem access_eq_unsupported_iff (h : segment ≠ .constant) {command : Command} {subject : String}
    {refusal : Refusal} :
    generator.access command segment index = .error (.unsupported subject refusal) ↔
      subject = command.text ∧ Misses segment index refusal := by
  cases segment with
  | constant => exact absurd rfl h
  | locals | argument | this | that =>
    rw [access, map_eq_error_iff, basePointer_eq_error_iff rfl, Error.unsupported.injEq]
    constructor
    · rintro ⟨hlarge, rfl, rfl⟩
      exact ⟨rfl, .offset rfl hlarge⟩
    · rintro ⟨rfl, ⟨-, hlarge⟩ | ⟨⟨⟩, -⟩⟩
      exact ⟨hlarge, rfl, rfl⟩
  | static =>
    rw [access, map_eq_error_iff, staticCell]
    constructor
    · intro hfailed
      split at hfailed <;> cases hfailed
    · rintro ⟨rfl, ⟨⟨⟩, -⟩ | ⟨⟨⟩, -⟩⟩
  | pointer | temp =>
    rw [access, map_eq_error_iff, fixedCell_eq_error_iff rfl, Error.unsupported.injEq]
    constructor
    · rintro ⟨hlarge, rfl, rfl⟩
      exact ⟨rfl, .past rfl hlarge⟩
    · rintro ⟨rfl, ⟨⟨⟩, -⟩ | ⟨⟨⟩, hlarge⟩⟩
      exact ⟨hlarge, rfl, rfl⟩

/-- A push is refused for what it is as its cell is, or for a large number. -/
theorem push_eq_unsupported_iff {subject : String} {refusal : Refusal} :
    generator.push segment index = .error (.unsupported subject refusal) ↔
      subject = (Command.push segment index).text ∧ Refuses (.push segment index) refusal := by
  by_cases hconstant : segment = .constant
  · subst hconstant
    rw [push]
    split
    · rename_i hlarge
      rw [Except.error.injEq, Error.unsupported.injEq]
      constructor
      · rintro ⟨rfl, rfl⟩
        exact ⟨rfl, .constant hlarge⟩
      · rintro ⟨rfl, _ | _ | ⟨⟨⟨⟩, -⟩ | ⟨⟨⟩, -⟩⟩⟩
        exact ⟨rfl, rfl⟩
    · rename_i hsmall
      constructor
      · rintro ⟨⟩
      · rintro ⟨-, hlarge | _ | ⟨⟨⟨⟩, -⟩ | ⟨⟨⟩, -⟩⟩⟩
        exact absurd hlarge hsmall
  · rw [push_eq_map_access hconstant, map_eq_error_iff, access_eq_unsupported_iff hconstant]
    refine and_congr_right fun _ => ⟨.push, fun hrefuses => ?_⟩
    cases hrefuses with
    | constant => exact absurd rfl hconstant
    | push hmisses => exact hmisses

/-- A pop is refused for what it is as its cell is, or because numbers have no cell. -/
theorem pop_eq_unsupported_iff {subject : String} {refusal : Refusal} :
    generator.pop segment index = .error (.unsupported subject refusal) ↔
      subject = (Command.pop segment index).text ∧ Refuses (.pop segment index) refusal := by
  by_cases hconstant : segment = .constant
  · subst hconstant
    rw [pop, Except.error.injEq, Error.unsupported.injEq]
    constructor
    · rintro ⟨rfl, rfl⟩
      exact ⟨rfl, .popConstant index⟩
    · rintro ⟨rfl, _ | _ | _ | ⟨⟨⟨⟩, -⟩ | ⟨⟨⟩, -⟩⟩⟩
      exact ⟨rfl, rfl⟩
  · rw [pop_eq_map_access, map_eq_error_iff, access_eq_unsupported_iff hconstant]
    refine and_congr_right fun _ => ⟨.pop, fun hrefuses => ?_⟩
    cases hrefuses with
    | popConstant => exact absurd rfl hconstant
    | pop hmisses => exact hmisses

/-- The generator refuses a command for what it is exactly for the listed reasons, and names
the command. -/
theorem lower_eq_unsupported_iff {command : Command} {subject : String} {refusal : Refusal} :
    (generator.lower command).result = .error (.unsupported subject refusal) ↔
      subject = command.text ∧ Refuses command refusal := by
  rw [lower, map_eq_error_iff]
  cases command with
  | push segment index => exact push_eq_unsupported_iff
  | pop segment index => exact pop_eq_unsupported_iff
  | operate | goto | ifGoto | function =>
    constructor
    · rintro ⟨⟩
    · rintro ⟨-, ⟨⟩⟩
  | label name =>
    rw [body, declare]
    constructor
    · intro hfailed
      split at hfailed <;> cases hfailed
    · rintro ⟨-, ⟨⟩⟩
  | call name arguments =>
    rw [body, Generator.call]
    split
    · rename_i hlarge
      rw [Except.error.injEq, Error.unsupported.injEq]
      constructor
      · rintro ⟨rfl, rfl⟩
        exact ⟨rfl, .call hlarge⟩
      · rintro ⟨rfl, ⟨⟩⟩
        exact ⟨rfl, rfl⟩
    · rename_i hsmall
      constructor
      · rintro ⟨⟩
      · rintro ⟨-, hlarge⟩
        cases hlarge
        exact absurd ‹_› hsmall
  | ret =>
    rw [body, leave]
    constructor
    · intro hfailed
      split at hfailed <;> cases hfailed
    · rintro ⟨-, ⟨⟩⟩

end Generator

/-- No cell is missed for want of a base pointer or a fixed place, or as a number. -/
theorem Misses.message_notMem {segment : Segment} {index : Word} {refusal : Refusal}
    (h : Misses segment index refusal) :
    refusal.message ∉ ["not a fixed segment", "no base pointer"] ++
      ["constant out of range", "cannot pop into constant"] := by
  cases h with
  | offset => decide +kernel
  | past hfixed =>
    cases segment <;> cases hfixed
    all_goals decide +kernel

/-- No command is refused for want of a base pointer or a fixed place. -/
theorem Refuses.message_notMem {command : Command} {refusal : Refusal}
    (h : Refuses command refusal) :
    refusal.message ∉ ["not a fixed segment", "no base pointer"] := by
  cases h with
  | constant | popConstant | call => decide +kernel
  | push hmisses | pop hmisses =>
    exact fun hnamed => hmisses.message_notMem (List.mem_append_left _ hnamed)

/-- No grammatical command is refused for a number. -/
theorem Refuses.message_notMem_of_grammatical {command : Command} {refusal : Refusal}
    (h : Refuses command refusal) (hgrammatical : command.Grammatical) :
    refusal.message ∉ ["constant out of range", "cannot pop into constant"] := by
  cases h with
  | constant hlarge =>
    have hsmall := hgrammatical.resolve_left (absurd rfl)
    exact absurd hlarge (Nat.not_lt.mpr hsmall)
  | popConstant => exact absurd rfl hgrammatical
  | call => decide +kernel
  | push hmisses | pop hmisses =>
    exact fun hnamed => hmisses.message_notMem (List.mem_append_right [_, _] hnamed)

/-- A number is refused only when it is pushed and does not fit an address instruction. -/
theorem refuses_constantRange_iff {command : Command} :
    Refuses command .constantRange ↔
      ∃ index, command = .push .constant index ∧ 32767 < index.toNat := by
  constructor
  · intro hrefuses
    cases hrefuses with
    | constant hlarge => exact ⟨_, rfl, hlarge⟩
    | push hmisses | pop hmisses => cases hmisses
  · rintro ⟨index, rfl, hlarge⟩
    exact .constant hlarge

/-- Numbers are refused as places only when they are popped into. -/
theorem refuses_popConstant_iff {command : Command} :
    Refuses command .popConstant ↔ ∃ index, command = .pop .constant index := by
  constructor
  · intro hrefuses
    cases hrefuses with
    | popConstant index => exact ⟨index, rfl⟩
    | push hmisses | pop hmisses => cases hmisses
  · rintro ⟨index, rfl⟩
    exact .popConstant index

end Codegen

open Codegen Grammar

/-- The guards that are never reached. No line is reported for the arguments of a return or of
an operation: a line with such a first word is this command, or it is reported for what
follows. The other keywords are reported for their arguments, for instance when they stand
alone. No command is refused for want of a fixed place or a base pointer. A number is refused
exactly if it is pushed and too large or if it is popped into, which no command that was read
from a text does. -/
theorem guards_unreachable :
    (∀ text error, .error error ∈ items text →
      ∃ number line fault, error = .malformed number line fault ∧
        fault.message ≠ "`return` takes no arguments" ∧
        ∀ operation : Operation,
          fault.message ≠ "missing or invalid arguments for `" ++ operation.mnemonic ++ "`") ∧
    (∀ text, List.Forall₂ (fun statement item => ∀ command : Command, command.IsBare →
        Text.firstWord statement.1 = command.text.toList → ReportsWord command statement item)
      (statements text) (items text)) ∧
    (∀ keyword ∈ ["push", "pop", "label", "goto", "if-goto", "function", "call"],
      items keyword = [.error (.malformed 1 keyword (.arguments keyword))]) ∧
    ∀ (generator : Generator) (command : Command),
      (∀ subject refusal, (generator.lower command).result = .error (.unsupported subject refusal) →
        refusal.message ≠ "not a fixed segment" ∧ refusal.message ≠ "no base pointer" ∧
        ∀ text, .ok command ∈ items text →
          refusal.message ≠ "constant out of range" ∧
            refusal.message ≠ "cannot pop into constant") ∧
      ((generator.lower command).result = .error (.unsupported command.text .constantRange) ↔
        ∃ index, command = .push .constant index ∧ 32767 < index.toNat) ∧
      ((generator.lower command).result = .error (.unsupported command.text .popConstant) ↔
        ∃ index, command = .pop .constant index) := by
  refine ⟨?_, ?_, by decide +kernel, ?_⟩
  · intro text error hfailed
    rw [items_eq_map_report] at hfailed
    obtain ⟨statement, hmem, hreported⟩ := List.mem_map.mp hfailed
    obtain ⟨fault, hnamed, hreturn, hoperation⟩ := exists_fault_of_report hmem hreported
    refine ⟨_, _, fault, hnamed, fun hsame => hreturn ?_, fun operation hsame => ?_⟩
    · exact SyntaxFault.message_injective hsame
    · exact hoperation operation (SyntaxFault.message_injective hsame)
  · intro text
    rw [items_eq_map_report, List.forall₂_map_right_iff, List.forall₂_same]
    exact fun statement hmem command hbare hword => reportsWord_of_firstWord hmem hbare hword
  · intro generator command
    refine ⟨fun subject refusal hfailed => ?_, ?_, ?_⟩
    · obtain ⟨-, hrefuses⟩ := Generator.lower_eq_unsupported_iff.mp hfailed
      have habsent := hrefuses.message_notMem
      refine ⟨fun hsame => habsent (by simp [hsame]), fun hsame => habsent (by simp [hsame]), ?_⟩
      intro text hread
      have hunread := hrefuses.message_notMem_of_grammatical (grammatical_of_mem_items hread)
      exact ⟨fun hsame => hunread (by simp [hsame]), fun hsame => hunread (by simp [hsame])⟩
    · rw [Generator.lower_eq_unsupported_iff, refuses_constantRange_iff, eq_self, true_and]
    · rw [Generator.lower_eq_unsupported_iff, refuses_popConstant_iff, eq_self, true_and]

/-- A line whose blank is not one that separates tokens, a return with an argument, and a
command that is read and then refused. -/
theorem guards_unreachable_noBreakSpace :
    (Text.firstWord "add\u00a01".toList = "add".toList ∧
      ∃ item, items "add\u00a01" = [item] ∧
        ReportsWord (.operate .add) ("add\u00a01".toList, 1) item) ∧
    (.error (.malformed 1 "return 0" (.trailing "0")) ∈ items "return 0" ∧
      (SyntaxFault.trailing "0").message ≠ "`return` takes no arguments") ∧
    ((({} : Generator).lower (.push .temp 8)).result =
        .error (.unsupported "push temp 8" (.indexBound .temp 8)) ∧
      .ok (.push .temp 8) ∈ items "push temp 8" ∧
      (Refusal.indexBound .temp 8).message ≠ "constant out of range") := by
  obtain ⟨hreasons, hwords, -, hrefusals⟩ := guards_unreachable
  refine ⟨⟨by decide +kernel, ?_⟩, ?_, ?_⟩
  · have hreported := hwords "add\u00a01"
    have hsaid : statements "add\u00a01" = [("add\u00a01".toList, 1)] := by decide +kernel
    rw [hsaid] at hreported
    obtain ⟨item, others, hword, hrest, hfound⟩ := List.forall₂_cons_left_iff.mp hreported
    obtain rfl := List.forall₂_nil_left_iff.mp hrest
    exact ⟨item, hfound, hword (.operate .add) trivial (by decide +kernel)⟩
  · have hlisted : .error (.malformed 1 "return 0" (.trailing "0")) ∈ items "return 0" := by
      decide +kernel
    obtain ⟨number, line, fault, hsame, hreturn, -⟩ := hreasons _ _ hlisted
    cases hsame
    exact ⟨hlisted, hreturn⟩
  · have hpast : Misses .temp 8 (.indexBound .temp 8) :=
      .past (show Segment.temp.fixedRegion? = some ⟨5, 8⟩ from rfl) (by decide)
    have hfailed : (({} : Generator).lower (.push .temp 8)).result =
        .error (.unsupported "push temp 8" (.indexBound .temp 8)) :=
      Generator.lower_eq_unsupported_iff.mpr ⟨by decide +kernel, .push hpast⟩
    have hread : .ok (.push .temp 8) ∈ items "push temp 8" := by decide +kernel
    exact ⟨hfailed, hread, (((hrefusals {} (.push .temp 8)).1 _ _ hfailed).2.2 _ hread).1⟩

end HackVm
