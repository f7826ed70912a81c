import HackVm.Proofs.Reading

/-!
# Joined texts

What a line says does not depend on the lines around it, and its number only on how many line
feeds stand before it. So two texts with a line feed between them are read as each of them alone:
the items of the first come first, and the errors of the second are further down. This holds
whatever the first text ends with. Its last line may be empty, or may end in a carriage return
that becomes a part of the line end, and a comment at its end stops at the line feed.
-/

namespace HackVm

/-- The error of a line with more lines in front of it. -/
def Error.moved (count : Nat) : Error → Error
  | malformed lineNumber line fault => malformed (lineNumber + count) line fault
  | error => error

namespace Grammar

/-- The item of a line with more lines in front of it. -/
def moved (count : Nat) (item : Except Error Command) : Except Error Command :=
  item.mapError (Error.moved count)

/-- Lines after lines. -/
theorem readLines_append (first second : List (List Char)) (number : Nat) :
    readLines (first ++ second) number =
      readLines first number ++ readLines second (number + first.length) := by
  rw [readLines, List.zipIdx_append, List.filterMap_append]
  rfl

/-- Carriage returns of line ends do not change what is read. -/
theorem readLines_map_dropReturn (lines : List (List Char)) (number : Nat) :
    readLines (lines.map Text.dropReturn) number = readLines lines number := by
  have hline : ∀ number line, readLine number (Text.dropReturn line) = readLine number line := by
    intro number line
    rw [readLine, readLine, Text.content_dropReturn]
  rw [readLines, List.zipIdx_map, List.filterMap_map, readLines]
  congr 1
  funext line
  exact hline line.2 line.1

/-- The items of a text are those of the pieces between its line feeds, and the piece after the
last line feed is read although it may be no line. -/
theorem items_eq_readLines_splitOn (text : String) :
    items text = readLines (text.toList.splitOn '\n') 1 := by
  have hne := List.splitOn_ne_nil '\n' text.toList
  have hpieces := List.dropLast_append_getLast hne
  rw [items, Text.lines, List.getLast?_eq_some_getLast hne]
  conv_rhs => rw [← hpieces, readLines_append]
  split
  · rename_i hnone
    cases hnone
  · rename_i hempty
    have hnothing : ∀ number, readLines [[]] number = [] := fun number => rfl
    rw [readLines_map_dropReturn, Option.some.inj hempty, hnothing, List.append_nil]
  · rename_i last _ hlast
    rw [readLines_append, readLines_map_dropReturn, List.length_map, Option.some.inj hlast]

/-- A text has one piece more than it has line feeds. -/
theorem length_splitOn_feed (text : List Char) :
    (text.splitOn '\n').length = text.count '\n' + 1 := by
  induction text with
  | nil => rfl
  | cons char rest ih =>
    rw [List.splitOn_cons_eq_if_modifyHead, List.count_cons]
    split
    · rw [List.length_cons, ih]
    · rw [List.length_modifyHead, ih, Nat.add_zero]

/-- A line that is further down is read in the same way. -/
theorem readLine_add (number count : Nat) (line : List Char) :
    readLine (number + count) line = (readLine number line).map (moved count) := by
  unfold readLine
  split
  · rfl
  · cases classify (Text.content line) <;> rfl

/-- Lines that are further down are read in the same way. -/
theorem readLines_add (lines : List (List Char)) (number count : Nat) :
    readLines lines (number + count) = (readLines lines number).map (moved count) := by
  induction lines generalizing number with
  | nil => rfl
  | cons line lines ih =>
    have hnext : ∀ first, readLines (line :: lines) first =
        (readLine first line).toList ++ readLines lines (first + 1) := by
      intro first
      rw [readLines, List.zipIdx_cons, List.filterMap_cons]
      dsimp only
      cases readLine first line <;> rfl
    rw [hnext, hnext, List.map_append, ← ih, readLine_add, Nat.add_right_comm]
    cases readLine number line <;> rfl

/-- The items of two texts with a line feed between them. -/
theorem items_joined (first second : String) :
    items (first ++ "\n" ++ second) =
      items first ++ (items second).map (moved (1 + first.toList.count '\n')) := by
  have htext : (first ++ "\n" ++ second).toList = first.toList ++ '\n' :: second.toList := by
    simp
  rw [items_eq_readLines_splitOn, htext, List.splitOn_append_cons_self, readLines_append,
    length_splitOn_feed, readLines_add, ← items_eq_readLines_splitOn,
    ← items_eq_readLines_splitOn, Nat.add_comm (first.toList.count '\n')]

/-- The commands of items after items. -/
theorem collect_append (first second : List (Except Error Command)) :
    collect (first ++ second) = (collect first).bind fun earlier =>
      (collect second).bind fun later => .ok (earlier ++ later) := List.mapM_append

/-- Items that are further down are collected in the same way. -/
theorem collect_map_moved (count : Nat) (items : List (Except Error Command)) :
    collect (items.map (moved count)) = (collect items).mapError (Error.moved count) := by
  induction items with
  | nil => rfl
  | cons item items ih =>
    rw [List.map_cons, collect_cons, collect_cons, ih]
    cases item with
    | error error => rfl
    | ok command => cases collect items <;> rfl

/-- The commands of two texts with a line feed between them, or the first error. -/
theorem parse_joined (first second : String) :
    parse (first ++ "\n" ++ second) = (parse first).bind fun earlier =>
      ((parse second).mapError (Error.moved (1 + first.toList.count '\n'))).bind fun later =>
        .ok (earlier ++ later) := by
  rw [parse, items_joined, collect_append, collect_map_moved]
  rfl

/-- Two texts with a line feed between them are read apart from each other. The items of the
second follow those of the first, with line numbers that are one and the line feeds of the first
larger. There are commands exactly if both texts have commands, and otherwise the error is that of
the first text, or that of the second if the first has none. -/
theorem joined_texts_read_apart (first second : String) :
    let joined := first ++ "\n" ++ second
    let ahead := 1 + first.toList.count '\n'
    items joined = items first ++ (items second).map (moved ahead) ∧
      (∀ commands, parse joined = .ok commands ↔
        ∃ earlier later, parse first = .ok earlier ∧ parse second = .ok later ∧
          commands = earlier ++ later) ∧
      ∀ error, parse joined = .error error ↔
        parse first = .error error ∨
          (∃ earlier, parse first = .ok earlier) ∧
            ∃ fault, parse second = .error fault ∧ error = fault.moved ahead := by
  intro joined ahead
  have hparse := parse_joined first second
  refine ⟨items_joined first second, fun commands => ?_, fun error => ?_⟩
  all_goals
    show parse (first ++ "\n" ++ second) = _ ↔ _
    rw [hparse]
  · cases parse first <;> cases parse second <;>
      simp [Except.bind, Except.mapError, eq_comm]
  · cases parse first <;> cases parse second <;>
      simp [Except.bind, Except.mapError, eq_comm, ahead]

/-- The first text ends in a comment and a carriage return, and the second starts a line later. -/
example : parse ("add // sum\r" ++ "\n" ++ "\nfoo") =
    .error (.malformed 3 "foo" (.unknown "foo")) := by
  decide +kernel

end Grammar

end HackVm
