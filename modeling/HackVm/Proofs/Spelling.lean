import HackVm.Command.Grammar
import HackVm.Proofs.Decimal
import HackVm.Proofs.Text
import Mathlib.Data.List.Forall2
import Mathlib.Data.Option.Basic

/-!
# How commands are spelled

The lines that are commands, said without a reader: a keyword, its arguments, and spaces
and tabs between them. The reader tries its forms in order and is content with a beginning
of the line; it still finds a command exactly in the lines that spell one, because the first
word of a line leaves it only one form that can match.
-/

namespace HackVm.Grammar

/-- What stands between two words: at least one space or tab, and nothing else. -/
structure Gap (blanks : List Char) : Prop where
  /-- There is a blank. -/
  ne_nil : blanks ≠ []
  /-- Every character is a space or a tab. -/
  blank : ∀ char ∈ blanks, char = ' ' ∨ char = '\t'

/-- The spellings of a word: any number of decimal digits, leading zeros included. -/
structure Numeral (digits : List Char) (word : Word) : Prop where
  /-- There is a digit. -/
  ne_nil : digits ≠ []
  /-- Every character is a digit. -/
  digit : ∀ char ∈ digits, char.isDigit = true
  /-- The digits denote the word. -/
  value : Nat.ofDigitChars 10 digits 0 = word.toNat

/-- The lines that spell a command. -/
inductive Spells : List Char → Command → Prop where
  /-- The mnemonic of an operation. -/
  | operate (operation : Operation) : Spells operation.mnemonic.toList (.operate operation)
  /-- A push; a number that is pushed fits an address instruction. -/
  | push {first second digits : List Char} {segment : Segment} {index : Word}
      (hfirst : Gap first) (hsecond : Gap second) (hindex : Numeral digits index)
      (hload : segment = .constant → index.toNat ≤ 32767) :
      Spells ("push".toList ++ (first ++ (segment.name.toList ++ (second ++ digits))))
        (.push segment index)
  /-- A pop, which does not go to a number. -/
  | pop {first second digits : List Char} {segment : Segment} {index : Word}
      (hfirst : Gap first) (hsecond : Gap second) (hindex : Numeral digits index)
      (hplace : segment ≠ .constant) :
      Spells ("pop".toList ++ (first ++ (segment.name.toList ++ (second ++ digits))))
        (.pop segment index)
  /-- A label. -/
  | label {first : List Char} {name : String} (hfirst : Gap first)
      (hname : isName name.toList = true) :
      Spells ("label".toList ++ (first ++ name.toList)) (.label name)
  /-- A branch. -/
  | goto {first : List Char} {name : String} (hfirst : Gap first)
      (hname : isName name.toList = true) :
      Spells ("goto".toList ++ (first ++ name.toList)) (.goto name)
  /-- A conditional branch. -/
  | ifGoto {first : List Char} {name : String} (hfirst : Gap first)
      (hname : isName name.toList = true) :
      Spells ("if-goto".toList ++ (first ++ name.toList)) (.ifGoto name)
  /-- The start of a function. -/
  | function {first second digits : List Char} {name : String} {locals : Word}
      (hfirst : Gap first) (hname : isName name.toList = true) (hsecond : Gap second)
      (hlocals : Numeral digits locals) :
      Spells ("function".toList ++ (first ++ (name.toList ++ (second ++ digits))))
        (.function name locals)
  /-- A call. -/
  | call {first second digits : List Char} {name : String} {arguments : Word}
      (hfirst : Gap first) (hname : isName name.toList = true) (hsecond : Gap second)
      (harguments : Numeral digits arguments) :
      Spells ("call".toList ++ (first ++ (name.toList ++ (second ++ digits))))
        (.call name arguments)
  /-- A return. -/
  | ret : Spells "return".toList .ret

section Readers

variable {α β : Type} {chars rest : List Char}

/-- One reader after another. -/
theorem bind_eq_some_iff {reader : Reader α} {next : α → Reader β} {value : β} :
    (reader >>= next) chars = some (value, rest) ↔
      ∃ middle others, reader chars = some (middle, others) ∧
        next middle others = some (value, rest) := by
  show (reader chars).bind (fun taken => next taken.1 taken.2) = _ ↔ _
  rw [Option.bind_eq_some_iff, Prod.exists]

/-- The first of two readers that matches is used. -/
theorem orElse_eq (first second : Reader α) (chars : List Char) :
    (first <|> second) chars = (first chars).or (second chars) := by
  show (first chars <|> second chars) = _
  cases first chars <;> rfl

/-- A reader that takes nothing. -/
theorem pure_eq_some_iff {value other : α} :
    (pure value : Reader α) chars = some (other, rest) ↔ value = other ∧ chars = rest := by
  show some (value, chars) = some (other, rest) ↔ _
  rw [Option.some.injEq, Prod.mk.injEq]

/-- A guard takes nothing and lets its condition pass only. -/
theorem guard_eq_some_iff {condition : Prop} [Decidable condition] {value : Unit} :
    (guard condition : Reader Unit) chars = some (value, rest) ↔ condition ∧ chars = rest := by
  by_cases h : condition
  · rw [guard, if_pos h, pure_eq_some_iff]
    simp [h]
  · rw [guard, if_neg h]
    constructor
    · rintro ⟨⟩
    · exact fun hc => absurd hc.1 h

/-- A value that is looked up, and nothing taken. -/
theorem lift_eq_some_iff {found : Option α} {value : α} :
    (liftM found : Reader α) chars = some (value, rest) ↔ found = some value ∧ chars = rest := by
  cases found with
  | none =>
    constructor
    · rintro ⟨⟩
    · rintro ⟨⟨⟩, -⟩
  | some other =>
    show some (other, chars) = some (value, rest) ↔ _
    rw [Option.some.injEq, Option.some.injEq, Prod.mk.injEq]

/-- A keyword is taken exactly if it stands in front. -/
theorem keyword_eq_some_iff {word : String} {value : Unit} :
    keyword word chars = some (value, rest) ↔ chars = word.toList ++ rest := by
  have hafter : ∀ letters : List Char,
      after? letters chars = some rest ↔ chars = letters ++ rest := by
    intro letters
    induction letters generalizing chars with
    | nil => rw [after?, Option.some.injEq, List.nil_append]
    | cons letter letters ih =>
      cases chars with
      | nil => simp [after?]
      | cons char chars =>
        rw [after?, List.cons_append, List.cons.injEq]
        split
        · rename_i hc
          rw [ih, eq_true hc, true_and]
        · rename_i hc
          simp [hc]
  rw [keyword, ← hafter]
  simp

/-- A text that does not go on with a character of a class. -/
def Stops (inClass : Char → Bool) (rest : List Char) : Prop :=
  ∀ char ∈ rest.head?, inClass char = false

/-- A text that goes on with other characters. -/
theorem stops_append {inClass : Char → Bool} {taken : List Char} (hne : taken ≠ [])
    (h : ∀ char ∈ taken, inClass char = false) (rest : List Char) :
    Stops inClass (taken ++ rest) := by
  cases taken with
  | nil => exact absurd rfl hne
  | cons first others =>
    rintro char ⟨⟩
    exact h first List.mem_cons_self

/-- The end of a text. -/
theorem stops_nil (inClass : Char → Bool) : Stops inClass [] := by
  rintro char ⟨⟩

/-- A run is taken up to the first character that is not in the class. -/
theorem run_eq_some_iff {inClass : Char → Bool} {taken : List Char} :
    run inClass chars = some (taken, rest) ↔
      chars = taken ++ rest ∧ taken ≠ [] ∧ (∀ char ∈ taken, inClass char = true) ∧
        Stops inClass rest := by
  constructor
  · intro h
    have hpair : chars.takeWhile inClass ≠ [] ∧
        chars.takeWhile inClass = taken ∧ chars.dropWhile inClass = rest := by
      unfold run at h
      split at h
      · cases h
      · rename_i hne
        rw [Option.some.injEq, Prod.mk.injEq] at h
        exact ⟨hne, h⟩
    obtain ⟨hne, rfl, rfl⟩ := hpair
    refine ⟨(List.takeWhile_append_dropWhile).symm, hne, fun _ => List.mem_takeWhile_imp, ?_⟩
    intro char hc
    have hhead := List.head?_dropWhile_not inClass chars
    rw [Option.mem_def.mp hc] at hhead
    simpa using hhead
  · rintro ⟨rfl, hne, hall, hstop⟩
    have htake : rest.takeWhile inClass = [] := by
      cases rest with
      | nil => rfl
      | cons char rest => exact List.takeWhile_cons_of_neg (by simp [hstop char rfl])
    have hdrop : rest.dropWhile inClass = rest := by
      cases rest with
      | nil => rfl
      | cons char rest => exact List.dropWhile_cons_of_neg (by simp [hstop char rfl])
    unfold run
    rw [List.takeWhile_append_of_pos hall, List.dropWhile_append_of_pos hall, htake, hdrop,
      List.append_nil]
    cases taken with
    | nil => exact absurd rfl hne
    | cons char taken => rfl

end Readers

section Tokens

variable {chars rest : List Char}

/-- The characters of a gap. -/
theorem Gap.not_inClass {blanks : List Char} (h : Gap blanks) (inClass : Char → Bool)
    (hspace : inClass ' ' = false) (htab : inClass '\t' = false) :
    ∀ char ∈ blanks, inClass char = false := by
  intro char hc
  obtain rfl | rfl := h.blank char hc
  · exact hspace
  · exact htab

/-- The characters of names are visible. -/
theorem isGap_of_isNameChar {char : Char} (h : isNameChar char = true) : isGap char = false := by
  rw [isGap, Bool.or_eq_false_iff, beq_eq_false_iff_ne, beq_eq_false_iff_ne]
  constructor <;> rintro rfl <;> exact absurd h (by decide)

/-- The characters of the name of a segment are letters. -/
theorem isAlpha_of_mem_segment (segment : Segment) :
    ∀ char ∈ segment.name.toList, char.isAlpha = true := by
  rw [← List.all_eq_true]
  cases segment <;> decide

/-- The name of a segment has letters. -/
theorem toList_segment_ne_nil (segment : Segment) : segment.name.toList ≠ [] := by
  cases segment <;> decide

/-- A gap is taken whole. -/
theorem gap_eq_some_iff {value : Unit} :
    gap chars = some (value, rest) ↔
      ∃ blanks, chars = blanks ++ rest ∧ Gap blanks ∧ Stops isGap rest := by
  have hclass : ∀ char, isGap char = true ↔ char = ' ' ∨ char = '\t' := by
    intro char
    rw [isGap, Bool.or_eq_true, beq_iff_eq, beq_iff_eq]
  have hrun : gap chars = some (value, rest) ↔ ∃ blanks, run isGap chars = some (blanks, rest) := by
    unfold gap
    rw [bind_eq_some_iff]
    simp [pure_eq_some_iff]
  simp only [hrun, run_eq_some_iff, hclass]
  constructor
  · rintro ⟨blanks, hchars, hne, hall, hstop⟩
    exact ⟨blanks, hchars, ⟨hne, hall⟩, hstop⟩
  · rintro ⟨blanks, hchars, ⟨hne, hall⟩, hstop⟩
    exact ⟨blanks, hchars, hne, hall, hstop⟩

/-- A segment is found by its name only. -/
theorem ofName?_eq_some_iff {text : String} {segment : Segment} :
    Segment.ofName? text = some segment ↔ text = segment.name := by
  constructor
  · intro h
    have hname := List.find?_some h
    rw [beq_iff_eq] at hname
    exact hname.symm
  · rintro rfl
    exact Segment.ofName?_name segment

/-- An operation is found by its mnemonic only. -/
theorem ofMnemonic?_eq_some_iff {text : String} {operation : Operation} :
    Operation.ofMnemonic? text = some operation ↔ text = operation.mnemonic := by
  constructor
  · intro h
    have hname := List.find?_some h
    rw [beq_iff_eq] at hname
    exact hname.symm
  · rintro rfl
    exact Operation.ofMnemonic?_mnemonic operation

/-- The name of a segment is taken if no letter follows. -/
theorem segment_eq_some_iff {segment : Segment} :
    Grammar.segment chars = some (segment, rest) ↔
      chars = segment.name.toList ++ rest ∧ Stops Char.isAlpha rest := by
  unfold Grammar.segment
  simp only [bind_eq_some_iff, lift_eq_some_iff, ofName?_eq_some_iff, run_eq_some_iff]
  constructor
  · rintro ⟨letters, others, ⟨rfl, -, -, hstop⟩, hname, rfl⟩
    rw [← hname, String.toList_ofList]
    exact ⟨rfl, hstop⟩
  · rintro ⟨rfl, hstop⟩
    exact ⟨segment.name.toList, rest, ⟨rfl, toList_segment_ne_nil segment,
      isAlpha_of_mem_segment segment, hstop⟩, String.ofList_toList, rfl⟩

/-- A number is taken if no digit follows. -/
theorem number_eq_some_iff {word : Word} :
    number chars = some (word, rest) ↔
      ∃ digits, chars = digits ++ rest ∧ Numeral digits word ∧ Stops Char.isDigit rest := by
  have hvalue : ∀ digits, (Word.ofDigits digits).toOption = some word ↔
      Word.ofDigits digits = .ok word := by
    intro digits
    cases Word.ofDigits digits <;> simp [Except.toOption]
  unfold number
  simp only [bind_eq_some_iff, lift_eq_some_iff, run_eq_some_iff, hvalue]
  constructor
  · rintro ⟨digits, others, ⟨rfl, hne, -, hstop⟩, hread, rfl⟩
    obtain ⟨hdigits, hword⟩ := (Word.readDigits_eq_ok_iff (by omega)).mp hread
    exact ⟨digits, rfl, ⟨hne, hdigits, hword⟩, hstop⟩
  · rintro ⟨digits, rfl, ⟨hne, hdigits, hword⟩, hstop⟩
    exact ⟨digits, rest, ⟨rfl, hne, hdigits, hstop⟩,
      (Word.readDigits_eq_ok_iff (by omega)).mpr ⟨hdigits, hword⟩, rfl⟩

/-- A name is made of name characters. -/
theorem isNameChar_of_isName {text : List Char} (h : isName text = true) :
    ∀ char ∈ text, isNameChar char = true := by
  rw [isName, Bool.and_eq_true, List.all_eq_true] at h
  exact h.1

/-- A name is not empty. -/
theorem ne_nil_of_isName {text : List Char} (h : isName text = true) : text ≠ [] := by
  rintro rfl
  cases h

/-- A name is taken if no character of a name follows. -/
theorem name_eq_some_iff {text : String} :
    name chars = some (text, rest) ↔
      chars = text.toList ++ rest ∧ isName text.toList = true ∧ Stops isNameChar rest := by
  unfold name
  simp only [bind_eq_some_iff, guard_eq_some_iff, pure_eq_some_iff, run_eq_some_iff]
  constructor
  · rintro ⟨taken, others, ⟨rfl, -, -, hstop⟩, _, _, ⟨hname, rfl⟩, rfl, rfl⟩
    rw [String.toList_ofList]
    exact ⟨rfl, hname, hstop⟩
  · rintro ⟨rfl, hname, hstop⟩
    exact ⟨text.toList, rest, ⟨rfl, ne_nil_of_isName hname, isNameChar_of_isName hname, hstop⟩, (),
      rest, ⟨hname, rfl⟩, String.ofList_toList, rfl⟩

end Tokens

section Forms

variable {chars rest : List Char} {command : Command}

/-- All that a reader takes spells the command that it gives. -/
def Takes (reader : Reader Command) : Prop :=
  ∀ chars command rest, reader chars = some (command, rest) →
    ∃ taken, chars = taken ++ rest ∧ Spells taken command

/-- The first of two readers that matches. -/
theorem Takes.orElse {first second : Reader Command} (hfirst : Takes first)
    (hsecond : Takes second) : Takes (first <|> second) := by
  intro chars command rest h
  rw [orElse_eq, Option.or_eq_some_iff] at h
  obtain h | ⟨-, h⟩ := h
  · exact hfirst chars command rest h
  · exact hsecond chars command rest h

/-- A keyword, a segment and an index. -/
theorem of_indexed {word : String} {next : Segment → Word → Reader Command}
    (h : (do keyword word; gap; let segment ← Grammar.segment; gap; let index ← number
             next segment index) chars = some (command, rest)) :
    ∃ first second digits segment index others, Gap first ∧ Gap second ∧ Numeral digits index ∧
      chars = word.toList ++ (first ++ (segment.name.toList ++ (second ++ digits))) ++ others ∧
      next segment index others = some (command, rest) := by
  simp only [bind_eq_some_iff, keyword_eq_some_iff, gap_eq_some_iff, segment_eq_some_iff,
    number_eq_some_iff] at h
  obtain ⟨_, _, rfl, _, _, ⟨first, rfl, hfirst, -⟩, segment, _, ⟨rfl, -⟩, _, _,
    ⟨second, rfl, hsecond, -⟩, index, others, ⟨digits, rfl, hindex, -⟩, hnext⟩ := h
  exact ⟨first, second, digits, segment, index, others, hfirst, hsecond, hindex,
    by simp only [List.append_assoc], hnext⟩

/-- A push. -/
theorem takes_push : Takes push := by
  intro chars command rest h
  obtain ⟨first, second, digits, segment, index, others, hfirst, hsecond, hindex, rfl, hnext⟩ :=
    of_indexed h
  simp only [bind_eq_some_iff, guard_eq_some_iff, pure_eq_some_iff] at hnext
  obtain ⟨_, _, ⟨hload, rfl⟩, rfl, rfl⟩ := hnext
  exact ⟨_, rfl, .push hfirst hsecond hindex fun hs => hload.resolve_left (absurd hs)⟩

/-- A pop. -/
theorem takes_pop : Takes pop := by
  intro chars command rest h
  obtain ⟨first, second, digits, segment, index, others, hfirst, hsecond, hindex, rfl, hnext⟩ :=
    of_indexed h
  simp only [bind_eq_some_iff, guard_eq_some_iff, pure_eq_some_iff] at hnext
  obtain ⟨_, _, ⟨hplace, rfl⟩, rfl, rfl⟩ := hnext
  exact ⟨_, rfl, .pop hfirst hsecond hindex hplace⟩

/-- A keyword and a name. -/
theorem takes_named {word : String} {build : String → Command}
    (h : ∀ {first : List Char} {name : String}, Gap first → isName name.toList = true →
      Spells (word.toList ++ (first ++ name.toList)) (build name)) : Takes (named word build) := by
  intro chars command rest hread
  unfold named at hread
  simp only [bind_eq_some_iff, keyword_eq_some_iff, gap_eq_some_iff, name_eq_some_iff,
    pure_eq_some_iff] at hread
  obtain ⟨_, _, rfl, _, _, ⟨first, rfl, hfirst, -⟩, name, _, ⟨rfl, hname, -⟩, rfl, rfl⟩ := hread
  exact ⟨_, by simp only [List.append_assoc], h hfirst hname⟩

/-- A keyword, a name and a count. -/
theorem takes_counted {word : String} {build : String → Word → Command}
    (h : ∀ {first second digits : List Char} {name : String} {count : Word}, Gap first →
      isName name.toList = true → Gap second → Numeral digits count →
        Spells (word.toList ++ (first ++ (name.toList ++ (second ++ digits)))) (build name count)) :
    Takes (counted word build) := by
  intro chars command rest hread
  unfold counted at hread
  simp only [bind_eq_some_iff, keyword_eq_some_iff, gap_eq_some_iff, name_eq_some_iff,
    number_eq_some_iff, pure_eq_some_iff] at hread
  obtain ⟨_, _, rfl, _, _, ⟨first, rfl, hfirst, -⟩, name, _, ⟨rfl, hname, -⟩, _, _,
    ⟨second, rfl, hsecond, -⟩, count, _, ⟨digits, rfl, hcount, -⟩, rfl, rfl⟩ := hread
  exact ⟨_, by simp only [List.append_assoc], h hfirst hname hsecond hcount⟩

/-- A return. -/
theorem takes_return : Takes (do keyword "return"; return .ret) := by
  intro chars command rest h
  simp only [bind_eq_some_iff, keyword_eq_some_iff, pure_eq_some_iff] at h
  obtain ⟨_, _, rfl, rfl, rfl⟩ := h
  exact ⟨_, rfl, .ret⟩

/-- An operation. -/
theorem takes_operation : Takes operation := by
  intro chars command rest h
  unfold operation at h
  simp only [bind_eq_some_iff, run_eq_some_iff, lift_eq_some_iff, ofMnemonic?_eq_some_iff,
    pure_eq_some_iff] at h
  obtain ⟨letters, _, ⟨rfl, -⟩, operation, _, ⟨hname, rfl⟩, rfl, rfl⟩ := h
  refine ⟨letters, rfl, ?_⟩
  rw [← String.toList_ofList (l := letters), hname]
  exact .operate operation

/-- All that the reader takes spells the command that it gives. -/
theorem takes_command : Takes Grammar.command :=
  takes_push.orElse <| takes_pop.orElse <|
    Takes.orElse ((takes_named .label).orElse ((takes_named .goto).orElse (takes_named .ifGoto))) <|
    Takes.orElse ((takes_counted .function).orElse ((takes_counted .call).orElse takes_return)) <|
    takes_operation

/-- A gap before a token is taken. -/
theorem gap_append {blanks token : List Char} (h : Gap blanks) (hne : token ≠ [])
    (htoken : ∀ char ∈ token, isNameChar char = true) (rest : List Char) :
    gap (blanks ++ (token ++ rest)) = some ((), token ++ rest) :=
  gap_eq_some_iff.mpr ⟨blanks, rfl, h,
    stops_append hne (fun char hc => isGap_of_isNameChar (htoken char hc)) rest⟩

/-- The digits of a number may stand in a name. -/
theorem Numeral.isNameChar {digits : List Char} {word : Word} (h : Numeral digits word) :
    ∀ char ∈ digits, isNameChar char = true := by
  intro char hc
  simp [Grammar.isNameChar, Char.isAlphanum, h.digit char hc]

/-- A gap and a number at the end of a line are taken. -/
theorem gap_number {α : Type} {second digits : List Char} {word : Word} (hsecond : Gap second)
    (hword : Numeral digits word) {next : Word → Reader α} {result : α × List Char}
    (hnext : next word [] = some result) :
    (gap >>= fun _ => number >>= next) (second ++ digits) = some result := by
  have hgap := gap_append hsecond hword.ne_nil hword.isNameChar []
  rw [List.append_nil] at hgap
  refine bind_eq_some_iff.mpr ⟨(), digits, hgap, bind_eq_some_iff.mpr ⟨word, [], ?_, hnext⟩⟩
  exact number_eq_some_iff.mpr ⟨digits, (List.append_nil digits).symm, hword, stops_nil _⟩

/-- A keyword, a segment and an index are taken, up to the condition on both. -/
theorem indexed_append {word : String} {first second digits : List Char} {segment : Segment}
    {index : Word} {next : Segment → Word → Reader Command} {result : Command × List Char}
    (hfirst : Gap first) (hsecond : Gap second) (hindex : Numeral digits index)
    (hnext : next segment index [] = some result) :
    (do keyword word; gap; let segment ← Grammar.segment; gap; let index ← number
        next segment index)
      (word.toList ++ (first ++ (segment.name.toList ++ (second ++ digits)))) = some result := by
  have hletters : ∀ char ∈ segment.name.toList, isNameChar char = true := by
    intro char hc
    simp [isNameChar, Char.isAlphanum, isAlpha_of_mem_segment segment char hc]
  have hstop := stops_append hsecond.ne_nil
    (hsecond.not_inClass Char.isAlpha (by decide) (by decide)) digits
  refine bind_eq_some_iff.mpr ⟨(), _, keyword_eq_some_iff.mpr rfl, ?_⟩
  refine bind_eq_some_iff.mpr
    ⟨(), _, gap_append hfirst (toList_segment_ne_nil segment) hletters _, ?_⟩
  refine bind_eq_some_iff.mpr ⟨segment, _, segment_eq_some_iff.mpr ⟨rfl, hstop⟩, ?_⟩
  exact gap_number hsecond hindex hnext

/-- A keyword and a name are taken. -/
theorem named_append {word text : String} {first : List Char} {build : String → Command}
    (hfirst : Gap first) (hname : isName text.toList = true) :
    named word build (word.toList ++ (first ++ text.toList)) = some (build text, []) := by
  have hgap := gap_append hfirst (ne_nil_of_isName hname) (isNameChar_of_isName hname) []
  rw [List.append_nil] at hgap
  refine bind_eq_some_iff.mpr ⟨(), _, keyword_eq_some_iff.mpr rfl, ?_⟩
  refine bind_eq_some_iff.mpr ⟨(), _, hgap, ?_⟩
  exact bind_eq_some_iff.mpr ⟨text, [], name_eq_some_iff.mpr
    ⟨(List.append_nil _).symm, hname, stops_nil _⟩, rfl⟩

/-- A keyword, a name and a count are taken. -/
theorem counted_append {word text : String} {first second digits : List Char} {count : Word}
    {build : String → Word → Command} (hfirst : Gap first) (hname : isName text.toList = true)
    (hsecond : Gap second) (hcount : Numeral digits count) :
    counted word build (word.toList ++ (first ++ (text.toList ++ (second ++ digits)))) =
      some (build text count, []) := by
  have hstop := stops_append hsecond.ne_nil
    (hsecond.not_inClass isNameChar (by decide) (by decide)) digits
  refine bind_eq_some_iff.mpr ⟨(), _, keyword_eq_some_iff.mpr rfl, ?_⟩
  refine bind_eq_some_iff.mpr
    ⟨(), _, gap_append hfirst (ne_nil_of_isName hname) (isNameChar_of_isName hname) _, ?_⟩
  refine bind_eq_some_iff.mpr ⟨text, _, name_eq_some_iff.mpr ⟨rfl, hname, hstop⟩, ?_⟩
  exact gap_number hsecond hcount rfl

/-- Nothing is read after a keyword that does not stand in front. -/
theorem keyword_bind_eq_none {α : Type} {word : String} {next : Unit → Reader α}
    (h : after? word.toList chars = none) : (keyword word >>= next) chars = none := by
  show (keyword word chars).bind (fun taken => next taken.1 taken.2) = none
  rw [keyword, h]
  rfl

/-- The reader takes the whole of a line that spells a command. Two forms differ in their first
word, so every form before the right one refuses. -/
theorem command_of_spells {line : List Char} (h : Spells line command) :
    Grammar.command line = some (command, []) := by
  have refuse : ∀ {word first : String} {next : Unit → Reader Command} {rest : List Char},
      (∀ chars, after? word.toList (first.toList ++ chars) = none) →
        (keyword word >>= next) (first.toList ++ rest) = none :=
    fun hword => keyword_bind_eq_none (hword _)
  rw [Grammar.command, orElse_eq, orElse_eq, orElse_eq, orElse_eq]
  cases h with
  | operate operation => cases operation <;> rfl
  | @push first second digits segment index hfirst hsecond hindex hload =>
    have hguard : segment ≠ .constant ∨ index.toNat ≤ Word.maxLoad :=
      or_iff_not_imp_left.mpr fun hs => hload (not_not.mp hs)
    have hnext : (do guard (segment ≠ .constant ∨ index.toNat ≤ Word.maxLoad)
                     return Command.push segment index : Reader Command) [] =
        some (.push segment index, []) := by
      rw [guard, if_pos hguard]
      rfl
    rw [push, indexed_append hfirst hsecond hindex hnext]
    rfl
  | @pop first second digits segment index hfirst hsecond hindex hplace =>
    have hnext : (do guard (segment ≠ .constant)
                     return Command.pop segment index : Reader Command) [] =
        some (.pop segment index, []) := by
      rw [guard, if_pos hplace]
      rfl
    rw [push, refuse fun _ => rfl, pop, indexed_append hfirst hsecond hindex hnext]
    rfl
  | label hfirst hname =>
    rw [push, refuse fun _ => rfl, pop, refuse fun _ => rfl, branch, orElse_eq,
      named_append hfirst hname]
    rfl
  | goto hfirst hname =>
    rw [push, refuse fun _ => rfl, pop, refuse fun _ => rfl, branch, orElse_eq, orElse_eq,
      named, refuse fun _ => rfl, named_append hfirst hname]
    rfl
  | ifGoto hfirst hname =>
    rw [push, refuse fun _ => rfl, pop, refuse fun _ => rfl, branch, orElse_eq, orElse_eq,
      named, refuse fun _ => rfl, named, refuse fun _ => rfl, named_append hfirst hname]
    rfl
  | function hfirst hname hsecond hlocals =>
    rw [push, refuse fun _ => rfl, pop, refuse fun _ => rfl, branch, orElse_eq, orElse_eq,
      named, refuse fun _ => rfl, named, refuse fun _ => rfl, named, refuse fun _ => rfl,
      linkage, orElse_eq, counted_append hfirst hname hsecond hlocals]
    rfl
  | call hfirst hname hsecond harguments =>
    rw [push, refuse fun _ => rfl, pop, refuse fun _ => rfl, branch, orElse_eq, orElse_eq,
      named, refuse fun _ => rfl, named, refuse fun _ => rfl, named, refuse fun _ => rfl,
      linkage, orElse_eq, orElse_eq, counted, refuse fun _ => rfl,
      counted_append hfirst hname hsecond harguments]
    rfl
  | ret => rfl

end Forms

/-- A line is read as a command exactly if it spells the command. -/
theorem classify_eq_ok_iff {line : List Char} {command : Command} :
    classify line = .ok command ↔ Spells line command := by
  constructor
  · intro h
    unfold classify at h
    split at h
    · rename_i found hrun
      cases h
      obtain ⟨taken, hline, hspells⟩ := takes_command _ _ _ hrun
      rw [List.append_nil] at hline
      exact hline ▸ hspells
    · cases h
    · cases h
  · intro h
    have hrun : StateT.run Grammar.command line = some (command, []) := command_of_spells h
    rw [classify, hrun]

/-- A line spells one command at most. -/
theorem Spells.unique {line : List Char} {command other : Command} (h : Spells line command)
    (hother : Spells line other) : command = other := by
  rw [← classify_eq_ok_iff] at h hother
  rw [h, Except.ok.injEq] at hother
  exact hother

/-- What the lines of a text say, with the numbers of the lines; lines that say nothing are
left out. -/
def statements (text : String) : List (List Char × Nat) :=
  (((Text.lines text.toList).map Text.content).zipIdx 1).filter fun statement => statement.1 ≠ []

/-- Without their numbers, these are the contents of the text. -/
theorem map_fst_statements (text : String) :
    (statements text).map Prod.fst = Text.contents text.toList := by
  have hfst := List.zipIdx_map_fst 1 ((Text.lines text.toList).map Text.content)
  rw [Text.contents, statements]
  conv_rhs => rw [← hfst]
  rw [List.filter_map]
  rfl

/-- Whether an item reports what a line says: the command that is spelled there, or else
that the line with this number is no command. -/
structure Reports (statement : List Char × Nat) (item : Except Error Command) : Prop where
  /-- The item is a command exactly if the line spells it. -/
  command : ∀ command, item = .ok command ↔ Spells statement.1 command
  /-- All other lines are reported with their number and their words. -/
  malformed : (¬ ∃ command, Spells statement.1 command) →
    ∃ fault, item = .error (.malformed statement.2 (String.ofList statement.1) fault)

/-- What is read from a line that says something. -/
theorem exists_reports {line : List Char} (number : Nat) (h : Text.content line ≠ []) :
    ∃ item, readLine number line = some item ∧ Reports (Text.content line, number) item := by
  unfold readLine
  split
  · rename_i hnil
    exact absurd hnil h
  · cases hclass : classify (Text.content line) with
    | ok command =>
      refine ⟨.ok command, rfl, fun other => ?_, fun hnone => ?_⟩
      · rw [← classify_eq_ok_iff, hclass, Except.ok.injEq, Except.ok.injEq]
      · exact absurd ⟨command, classify_eq_ok_iff.mp hclass⟩ hnone
    | error fault =>
      refine ⟨_, rfl, fun other => ?_, fun _ => ⟨fault, rfl⟩⟩
      rw [← classify_eq_ok_iff, hclass]
      constructor <;> rintro ⟨⟩

/-- Each line that says something has one item, in order, which reports what it says. -/
theorem reports_items (text : String) : List.Forall₂ Reports (statements text) (items text) := by
  unfold statements items readLines
  generalize 1 = number
  induction Text.lines text.toList generalizing number with
  | nil => exact .nil
  | cons line lines ih =>
    rw [List.map_cons, List.zipIdx_cons, List.zipIdx_cons, List.filterMap_cons]
    by_cases hblank : Text.content line = []
    · have hnone : readLine number line = none := by rw [readLine, hblank]
      rw [List.filter_cons_of_neg (by simp [hblank])]
      dsimp only
      rw [hnone]
      exact ih (number + 1)
    · obtain ⟨item, hitem, hreports⟩ := exists_reports number hblank
      rw [List.filter_cons_of_pos (by simp [hblank])]
      dsimp only
      rw [hitem]
      exact .cons hreports (ih (number + 1))

/-- A text has one item for each line that says something, in order. The item is a command
exactly if the line spells it, and otherwise the error that the line is malformed. No line
spells two commands. -/
theorem items_report_statements (text : String) :
    List.Forall₂ Reports (statements text) (items text) ∧
      ∀ line command other, Spells line command → Spells line other → command = other :=
  ⟨reports_items text, fun _ _ _ h hother => h.unique hother⟩

/-- A text with a tab, leading zeros, a comment and a line that is no command. -/
def mixedText : String := "push\tconstant  007 // seven\n\nreturn 0\n"

/-- The items of the text are a command and an error. -/
theorem items_report_statements_mixedText :
    statements mixedText = [("push\tconstant  007".toList, 1), ("return 0".toList, 3)] ∧
      Spells "push\tconstant  007".toList (.push .constant 7) ∧
      ∃ fault, items mixedText =
        [.ok (.push .constant 7), .error (.malformed 3 "return 0" fault)] := by
  have hstatements : statements mixedText =
      [("push\tconstant  007".toList, 1), ("return 0".toList, 3)] := by decide +kernel
  have hspells : Spells "push\tconstant  007".toList (.push .constant 7) := by
    rw [← classify_eq_ok_iff]
    decide +kernel
  have hnone : ¬ ∃ command, Spells "return 0".toList command := by
    rintro ⟨command, h⟩
    have hfault : classify "return 0".toList = .error (.trailing "0") := by decide +kernel
    rw [← classify_eq_ok_iff, hfault] at h
    cases h
  have hreports := (items_report_statements mixedText).1
  rw [hstatements] at hreports
  obtain ⟨item, others, hitem, hothers, hitems⟩ := List.forall₂_cons_left_iff.mp hreports
  obtain ⟨last, rest, hlast, hrest, rfl⟩ := List.forall₂_cons_left_iff.mp hothers
  obtain rfl := List.forall₂_nil_left_iff.mp hrest
  obtain ⟨fault, rfl⟩ := hlast.malformed hnone
  obtain rfl := (hitem.command _).mpr hspells
  exact ⟨hstatements, hspells, fault, hitems⟩

end HackVm.Grammar
