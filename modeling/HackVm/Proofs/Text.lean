import HackVm.Text.Line
import Mathlib.Data.List.Basic
import Mathlib.Data.List.TakeWhile

/-!
# Cutting text at its line ends

A closed line never disturbs the lines after it, so a text that is written line by
line is cut line by line. A line of visible characters without a slash says exactly
what it holds, and a line that starts with a double slash says nothing.
-/

namespace HackVm.Text

/-- A text that ends in a line feed has the pieces before its line feeds as lines. -/
theorem lines_closed (text : List Char) :
    lines (text ++ ['\n']) = (text.splitOn '\n').map dropReturn := by
  have hs : (text ++ ['\n']).splitOn '\n' = text.splitOn '\n' ++ [[]] := by
    rw [List.splitOn_append_cons_self, List.splitOn_nil]
  simp only [lines, hs, List.dropLast_concat, List.getLast?_concat]

/-- Text up to a line feed and text after it are cut apart from each other. -/
theorem lines_append_cons (first rest : List Char) :
    lines (first ++ '\n' :: rest) = lines (first ++ ['\n']) ++ lines rest := by
  have hn : rest.splitOn '\n' ≠ [] := List.splitOn_ne_nil _ _
  have hs : (first ++ '\n' :: rest).splitOn '\n' =
      first.splitOn '\n' ++ rest.splitOn '\n' := List.splitOn_append_cons_self _ _
  rw [lines_closed]
  simp only [lines, hs, List.dropLast_append_of_ne_nil hn, List.map_append,
    List.getLast?_append_of_ne_nil _ hn]
  split
  · rfl
  · rfl
  · rw [List.append_assoc]

/-- Text of closed lines is cut at the end of each of them. -/
theorem lines_flatMap_closed (texts : List (List Char)) :
    lines (texts.flatMap (· ++ ['\n'])) = texts.flatMap fun text => lines (text ++ ['\n']) := by
  induction texts with
  | nil => rfl
  | cons text texts ih =>
    rw [List.flatMap_cons, List.flatMap_cons, List.append_assoc, List.singleton_append,
      lines_append_cons, ih]

/-- A line without a line feed that does not end in a carriage return is one line. -/
theorem lines_single {line : List Char} (hfeed : '\n' ∉ line)
    (hreturn : line.getLast? ≠ some '\r') : lines (line ++ ['\n']) = [line] := by
  rw [lines_closed, List.splitOn_eq_singleton hfeed, List.map_singleton, dropReturn,
    if_neg hreturn]

/-- Text without a slash has no comment. -/
theorem beforeComment_eq_self {chars : List Char} (h : '/' ∉ chars) :
    beforeComment chars = chars := by
  induction chars with
  | nil => rfl
  | cons char rest ih =>
    simp only [List.mem_cons, not_or] at h
    rw [beforeComment, ih h.2]
    rintro _ rfl
    exact absurd rfl h.1

/-- Text whose first and last characters are visible has nothing to trim. -/
theorem trim_eq_self {chars : List Char} (hhead : ∀ char ∈ chars.head?, isBlank char = false)
    (hlast : ∀ char ∈ chars.getLast?, isBlank char = false) : trim chars = chars := by
  have hfront : chars.dropWhile isBlank = chars := by
    cases chars with
    | nil => rfl
    | cons char rest =>
      have hc := hhead char rfl
      rw [List.dropWhile_cons_of_neg (by simp [hc])]
  have hback : chars.reverse.dropWhile isBlank = chars.reverse := by
    cases hr : chars.reverse with
    | nil => rfl
    | cons char rest =>
      have hc := hlast char (by rw [List.getLast?_eq_head?_reverse, hr]; rfl)
      rw [List.dropWhile_cons_of_neg (by simp [hc])]
  rw [trim, hfront, trimRight, hback, List.reverse_reverse]

/-- Blanks around a text are dropped with its own. -/
theorem trim_pad {first last : List Char} (hfirst : ∀ char ∈ first, isBlank char = true)
    (hlast : ∀ char ∈ last, isBlank char = true) (chars : List Char) :
    trim (first ++ (chars ++ last)) = trim chars := by
  have hback : ∀ front : List Char, trimRight (front ++ last) = trimRight front := by
    intro front
    have hreverse : ∀ char ∈ last.reverse, isBlank char = true := fun char hc =>
      hlast char (List.mem_reverse.mp hc)
    rw [trimRight, List.reverse_append, List.dropWhile_append_of_pos hreverse, trimRight]
  rw [trim, List.dropWhile_append_of_pos hfirst, List.dropWhile_append, trim]
  split
  · rename_i hempty
    rw [List.isEmpty_iff.mp hempty, List.dropWhile_eq_nil_iff.mpr hlast]
  · exact hback _

/-- A comment after a text without a slash is cut off. -/
theorem beforeComment_append {chars : List Char} (h : '/' ∉ chars) (remark : List Char) :
    beforeComment (chars ++ '/' :: '/' :: remark) = chars := by
  induction chars with
  | nil => rfl
  | cons char rest ih =>
    simp only [List.mem_cons, not_or] at h
    rw [List.cons_append, beforeComment, ih h.2]
    rintro _ rfl
    exact absurd rfl h.1

/-- A character other than a slash at the end of a line is cut off with a comment, or it
stays at the end. -/
theorem beforeComment_concat {char : Char} (h : char ≠ '/') (chars : List Char) :
    beforeComment (chars ++ [char]) = beforeComment chars ∨
      beforeComment (chars ++ [char]) = beforeComment chars ++ [char] := by
  fun_induction beforeComment chars with
  | case1 =>
    right
    rw [List.nil_append, beforeComment]
    · rfl
    · intro _ hc
      exact absurd hc h
  | case2 => exact .inl rfl
  | case3 first rest hslash ih =>
    have hnext : beforeComment (first :: (rest ++ [char])) =
        first :: beforeComment (rest ++ [char]) := by
      rw [beforeComment]
      rintro others rfl hrest
      cases rest with
      | nil => exact h (List.cons.inj hrest).1
      | cons second rest => exact hslash rest rfl (by rw [(List.cons.inj hrest).1])
    rw [List.cons_append, hnext, List.cons_append, List.cons.injEq, List.cons.injEq]
    exact ih.imp (⟨rfl, ·⟩) (⟨rfl, ·⟩)

/-- A carriage return at the end of a line does not change what the line says. -/
theorem content_concat_return (line : List Char) : content (line ++ ['\r']) = content line := by
  unfold content
  obtain h | h := beforeComment_concat (by decide : '\r' ≠ '/') line
  · rw [h]
  · rw [h]
    exact trim_pad (List.forall_mem_nil _) (List.forall_mem_singleton.mpr (by decide))
      (beforeComment line)

/-- Dropping the carriage return of a line end does not change what the line says. -/
theorem content_dropReturn (line : List Char) : content (dropReturn line) = content line := by
  unfold dropReturn
  split
  · rename_i hlast
    have hline := List.dropLast_append_getLast? '\r' hlast
    rw [← content_concat_return, hline]
  · rfl

/-- What the lines of a text say, in order; lines that say nothing are left out. -/
def contents (text : List Char) : List (List Char) :=
  ((lines text).map content).filter fun said => said ≠ []

/-- What a text says depends on its line feeds only, not on carriage returns before them or
on a line feed at the end. -/
theorem contents_eq_splitOn (text : List Char) :
    contents text = ((text.splitOn '\n').map content).filter fun said => said ≠ [] := by
  have hpieces := List.dropLast_append_getLast (List.splitOn_ne_nil '\n' text)
  have hlast := List.getLast?_eq_some_getLast (List.splitOn_ne_nil '\n' text)
  have hclosed : ((text.splitOn '\n').dropLast.map dropReturn).map content =
      (text.splitOn '\n').dropLast.map content := by
    rw [List.map_map]
    exact List.map_congr_left fun line _ => content_dropReturn line
  rw [contents, lines]
  conv_rhs => rw [← hpieces]
  rw [hlast, List.map_append, List.map_singleton, List.filter_append]
  split
  · rename_i hnone
    cases hnone
  · rename_i hempty
    rw [Option.some.inj hempty, hclosed]
    simp [content, beforeComment, trim, trimRight]
  · rename_i last hne hsome
    rw [← Option.some.inj hsome, List.map_append, hclosed, List.filter_append]
    rfl

/-- Text up to a line feed and text after it speak apart from each other. -/
theorem contents_append_cons (first rest : List Char) :
    contents (first ++ '\n' :: rest) = contents first ++ contents rest := by
  simp only [contents_eq_splitOn, List.splitOn_append_cons_self, List.map_append,
    List.filter_append]

/-- A text without a line feed says what it says as a line. -/
theorem contents_of_line {line : List Char} (h : '\n' ∉ line) :
    contents line = [content line].filter fun said => said ≠ [] := by
  rw [contents_eq_splitOn, List.splitOn_eq_singleton h, List.map_singleton]

/-- A line that starts with a double slash says nothing. -/
theorem content_comment (rest : List Char) : content ('/' :: '/' :: rest) = [] := rfl

/-- A line without a slash whose ends are visible says all that it holds. -/
theorem content_eq_self {chars : List Char} (hslash : '/' ∉ chars)
    (hhead : ∀ char ∈ chars.head?, isBlank char = false)
    (hlast : ∀ char ∈ chars.getLast?, isBlank char = false) : content chars = chars := by
  rw [content, beforeComment_eq_self hslash, trim_eq_self hhead hlast]

/-- Whether a character is visible and cannot start a comment. -/
def isPlain (char : Char) : Bool := !isBlank char && char != '/'

/-- A line of plain characters says all that it holds. -/
theorem content_of_plain {chars : List Char} (h : ∀ char ∈ chars, isPlain char = true) :
    content chars = chars := by
  have hv : ∀ char ∈ chars, isBlank char = false := fun char hc => by
    have hp := h char hc
    simp only [isPlain, Bool.and_eq_true, Bool.not_eq_true'] at hp
    exact hp.1
  refine content_eq_self (fun hc => ?_) (fun char hc => hv char (List.mem_of_mem_head? hc))
    (fun char hc => hv char (List.mem_of_mem_getLast? hc))
  exact absurd (h _ hc) (by decide)

/-- A line of plain characters is one line. -/
theorem lines_single_of_plain {line : List Char} (h : ∀ char ∈ line, isPlain char = true) :
    lines (line ++ ['\n']) = [line] := by
  refine lines_single (fun hc => absurd (h _ hc) (by decide)) (fun hc => ?_)
  exact absurd (h _ (List.mem_of_mem_getLast? hc)) (by decide)

/-- The code points of letters and digits. -/
theorem toNat_of_isAlphanum {char : Char} (h : char.isAlphanum = true) :
    (48 ≤ char.toNat ∧ char.toNat ≤ 57) ∨ (65 ≤ char.toNat ∧ char.toNat ≤ 90) ∨
      (97 ≤ char.toNat ∧ char.toNat ≤ 122) := by
  have hranges : ((decide (65 ≤ char.val ∧ char.val ≤ 90) ||
      decide (97 ≤ char.val) && decide (char.val ≤ 122)) ||
        decide (48 ≤ char.val) && decide (char.val ≤ 57)) = true := h
  simp only [UInt32.le_iff_toNat_le, Bool.or_eq_true, Bool.and_eq_true, decide_eq_true_eq,
    Char.toNat_val, UInt32.reduceToNat] at hranges
  omega

/-- Letters and digits are plain. -/
theorem isPlain_of_isAlphanum {char : Char} (h : char.isAlphanum = true) :
    isPlain char = true := by
  have hn := toNat_of_isAlphanum h
  have hs : char ≠ '/' := by
    rintro rfl
    revert hn
    decide
  have hb : isBlank char = false := by
    simp only [isBlank, Bool.or_eq_false_iff, Bool.and_eq_false_iff, decide_eq_false_iff_not,
      beq_eq_false_iff_ne]
    omega
  simp [isPlain, hb, hs]

end HackVm.Text
