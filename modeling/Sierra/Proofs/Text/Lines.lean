import Mathlib.Data.List.Basic
import Sierra.Text.Lines

/-!
# Where lines stand

A line stands behind as many line feeds as its number counts, and reaches up to the next one. The
list of the lines of a text has every line in the place of its number. So the line feeds in front of
a character tell which line it is on, and the characters behind the last of them where on the line.
-/

namespace Sierra.Text

set_option autoImplicit false

/-- A line begins behind the text `front`. -/
def Begins (front : List Char) : Prop :=
  front = [] ∨ front.getLast? = some '\n'

/-- A line ends in front of the text `back`. A carriage return belongs to the feed behind it. -/
def Ends (line back : List Char) : Prop :=
  back = [] ∨ (∃ later, back = '\n' :: later ∧ line.getLast? ≠ some '\r') ∨
    ∃ later, back = '\r' :: '\n' :: later

/-- The line of a text that has the number. Here even the empty text has a line, an empty one. -/
def IsLine (text : List Char) (number : Nat) (line : List Char) : Prop :=
  ∃ front back, text = front ++ line ++ back ∧ number = front.count '\n' + 1 ∧ Begins front ∧
    '\n' ∉ line ∧ Ends line back

section Return

variable {line : List Char}

theorem drop_return_of_ne (other : line.getLast? ≠ some '\r') : dropReturn line = line :=
  if_neg other

theorem drop_return_append (line : List Char) : dropReturn (line ++ ['\r']) = line := by
  simp [dropReturn]

/-- What is dropped from a line is nothing, or the return at its end. -/
theorem drop_return_cases (line : List Char) :
    (dropReturn line = line ∧ line.getLast? ≠ some '\r') ∨ line = dropReturn line ++ ['\r'] := by
  by_cases last : line.getLast? = some '\r'
  · obtain ⟨front, rfl⟩ := List.getLast?_eq_some_iff.mp last
    exact .inr (by rw [drop_return_append])
  · exact .inl ⟨drop_return_of_ne last, last⟩

/-- Up to a line feed a line is what stands there without the return. -/
theorem ends_feed (line rest : List Char) :
    ∃ back, line ++ '\n' :: rest = dropReturn line ++ back ∧ Ends (dropReturn line) back := by
  rcases drop_return_cases line with ⟨same, other⟩ | same
  · exact ⟨'\n' :: rest, by rw [same], .inr (.inl ⟨rest, rfl, same.symm ▸ other⟩)⟩
  · refine ⟨'\r' :: '\n' :: rest, ?_, .inr (.inr ⟨rest, rfl⟩)⟩
    conv_lhs => rw [same]
    simp

/-- A character that is no return is kept, and so is what stands in front of it. -/
theorem drop_return_keeps (front : List Char) {c : Char} (noReturn : c ≠ '\r') (rest : List Char) :
    ∃ tail, dropReturn (front ++ c :: rest) = front ++ c :: tail := by
  unfold dropReturn
  split
  case isTrue last =>
    have some : rest ≠ [] := by
      rintro rfl
      exact noReturn (by simpa using last)
    exact ⟨rest.dropLast, by
      rw [List.dropLast_append_of_ne_nil (List.cons_ne_nil c rest),
        List.dropLast_cons_of_ne_nil some]⟩
  case isFalse => exact ⟨rest, rfl⟩

theorem feed_not_mem_drop_return (whole : '\n' ∉ line) : '\n' ∉ dropReturn line := by
  intro member
  unfold dropReturn at member
  split at member
  · exact whole (List.dropLast_subset _ member)
  · exact whole member

end Return

section Stop

variable {stop : Char} {first before rest later : List Char}

/-- Each stop behind a piece is the one that ends it or stands farther on. -/
theorem stop_cases (one : stop ∉ first) (same : first ++ stop :: rest = before ++ stop :: later) :
    (before = first ∧ later = rest) ∨
      ∃ between, before = first ++ stop :: between ∧ rest = between ++ stop :: later := by
  rcases List.append_eq_append_iff.mp same with ⟨between, longer, left⟩ | ⟨between, shorter, left⟩
  · cases between with
    | nil => exact .inl ⟨by simpa using longer, (List.cons.inj left).2.symm⟩
    | cons c between =>
        obtain ⟨rfl, left'⟩ := List.cons.inj left
        exact .inr ⟨between, longer, left'⟩
  · cases between with
    | nil => exact .inl ⟨by simpa using shorter.symm, (List.cons.inj left).2⟩
    | cons c between =>
        obtain ⟨rfl, -⟩ := List.cons.inj left
        exact absurd (by simp [shorter]) one

/-- A piece without the stop is told by the stop behind it, and so is what comes then. -/
theorem stop_unique (one : stop ∉ first) (one' : stop ∉ before)
    (same : first ++ stop :: rest = before ++ stop :: later) : first = before ∧ rest = later := by
  rcases stop_cases one same with ⟨rfl, rfl⟩ | ⟨between, longer, -⟩
  · exact ⟨rfl, rfl⟩
  · exact absurd (by simp [longer]) one'

end Stop

section Feed

variable {first rest line : List Char} {number : Nat}

theorem first_is_line (one : '\n' ∉ first) (rest : List Char) :
    IsLine (first ++ '\n' :: rest) 1 (dropReturn first) := by
  obtain ⟨back, split, ends⟩ := ends_feed first rest
  exact ⟨[], back, split, rfl, .inl rfl, feed_not_mem_drop_return one, ends⟩

theorem IsLine.behind_feed (stands : IsLine rest number line) (one : '\n' ∉ first) :
    IsLine (first ++ '\n' :: rest) (number + 1) line := by
  obtain ⟨front, back, rfl, rfl, begins, whole, ends⟩ := stands
  refine ⟨first ++ '\n' :: front, back, by simp, ?_, .inr ?_, whole, ends⟩
  · simp [List.count_eq_zero.mpr one]
  · rcases begins with rfl | feed
    · simp
    · simp [List.getLast?_cons, feed]

theorem IsLine.cases_feed (stands : IsLine (first ++ '\n' :: rest) number line)
    (one : '\n' ∉ first) : (number = 1 ∧ line = dropReturn first) ∨
      ∃ before, number = before + 1 ∧ IsLine rest before line := by
  obtain ⟨front, back, split, rfl, none | feed, whole, ends⟩ := stands
  · subst none
    rw [List.nil_append] at split
    refine .inl ⟨rfl, ?_⟩
    rcases ends with rfl | ⟨later, rfl, other⟩ | ⟨later, rfl⟩
    · exact absurd (by simp [← split.trans (List.append_nil _)]) whole
    · rw [(stop_unique one whole split).1, drop_return_of_ne other]
    · have whole' : '\n' ∉ line ++ ['\r'] := by simp [whole]
      rw [(stop_unique one whole' (by simpa using split)).1, drop_return_append]
  · obtain ⟨before, rfl⟩ := List.getLast?_eq_some_iff.mp feed
    have farther : first ++ '\n' :: rest = before ++ '\n' :: (line ++ back) := by
      simpa using split
    refine .inr ⟨before.count '\n' + 1, by simp, ?_⟩
    rcases stop_cases one farther with ⟨rfl, same⟩ | ⟨between, rfl, same⟩
    · exact ⟨[], back, by simp [same], by simp [List.count_eq_zero.mpr one], .inl rfl, whole, ends⟩
    · refine ⟨between ++ ['\n'], back, by simp [same], ?_, .inr (by simp), whole, ends⟩
      simp [List.count_eq_zero.mpr one]

/-- A text without a line feed is one line. -/
theorem is_line_alone {text : List Char} (one : '\n' ∉ text) :
    IsLine text number line ↔ number = 1 ∧ line = text := by
  constructor
  · intro stands
    obtain ⟨front, back, rfl, rfl, begins, -, ends⟩ := stands
    simp only [List.mem_append, not_or] at one
    obtain rfl : front = [] := by
      rcases begins with none | feed
      · exact none
      · exact absurd (List.mem_of_getLast? feed) one.1.1
    obtain rfl : back = [] := by
      rcases ends with none | ⟨later, rfl, -⟩ | ⟨later, rfl⟩
      · exact none
      · exact absurd (by simp) one.2
      · exact absurd (by simp) one.2
    simp
  · intro ⟨first, same⟩
    exact ⟨[], [], by simp [same], by simp [first], .inl rfl, same ▸ one, .inl rfl⟩

end Feed

/-- The lines of a text with no exception for the empty one. -/
def linesBehind (text : List Char) : List (List Char) :=
  let pieces := text.splitOn '\n'
  pieces.dropLast.map dropReturn ++ pieces.getLast?.toList

theorem lines_eq {text : List Char} (some : text ≠ []) : lines text = linesBehind text := by
  rw [lines, if_neg (by simpa using some), linesBehind]

theorem lines_behind_alone {text : List Char} (one : '\n' ∉ text) : linesBehind text = [text] := by
  simp [linesBehind, List.splitOn_eq_singleton one]

theorem lines_behind_feed {first : List Char} (one : '\n' ∉ first) (rest : List Char) :
    linesBehind (first ++ '\n' :: rest) = dropReturn first :: linesBehind rest := by
  have pieces : (first ++ '\n' :: rest).splitOn '\n' = first :: rest.splitOn '\n' := by
    rw [List.splitOn_append_cons_of_beq first rest (by simp), List.splitOn_eq_singleton one]
    rfl
  have some := List.splitOn_ne_nil '\n' rest
  rw [linesBehind, pieces]
  simp [linesBehind, List.dropLast_cons_of_ne_nil some, List.getLast?_cons_of_ne_nil some]

theorem lines_behind_iff (text : List Char) (index : Nat) (line : List Char) :
    (linesBehind text)[index]? = some line ↔ IsLine text (index + 1) line := by
  -- Each step passes one line with its line feed.
  induction index generalizing text with
  | zero =>
      by_cases feed : '\n' ∈ text
      · obtain ⟨first, rest, rfl, one⟩ := List.eq_append_cons_of_mem feed
        rw [lines_behind_feed one, List.getElem?_cons_zero, Option.some.injEq]
        constructor
        · rintro rfl
          exact first_is_line one rest
        · intro stands
          rcases stands.cases_feed one with ⟨-, same⟩ | ⟨before, zero, front, _, -, rfl, -⟩
          · exact same.symm
          · simp at zero
      · rw [lines_behind_alone feed, is_line_alone feed]
        simp [eq_comm]
  | succ index induction =>
      by_cases feed : '\n' ∈ text
      · obtain ⟨first, rest, rfl, one⟩ := List.eq_append_cons_of_mem feed
        rw [lines_behind_feed one, List.getElem?_cons_succ, induction]
        constructor
        · exact fun stands => stands.behind_feed one
        · intro stands
          rcases stands.cases_feed one with ⟨absurdity, -⟩ | ⟨before, same, stands⟩
          · simp at absurdity
          · exact (Nat.succ.inj same) ▸ stands
      · rw [lines_behind_alone feed, is_line_alone feed]
        simp

theorem line_at_iff {text : List Char} (some' : text ≠ []) (number : Nat) (line : List Char) :
    lineAt (lines text) number = some line ↔ IsLine text number line := by
  rw [lines_eq some']
  cases number with
  | zero =>
      constructor
      · intro absurdity
        simp [lineAt] at absurdity
      · rintro ⟨front, _, -, zero, -⟩
        simp at zero
  | succ index => exact lines_behind_iff text index line

theorem IsLine.unique {text line line' : List Char} {number : Nat}
    (stands : IsLine text number line) (stands' : IsLine text number line') : line = line' := by
  obtain ⟨index, rfl⟩ : ∃ index, number = index + 1 := by
    obtain ⟨front, -, -, rfl, -⟩ := stands
    exact ⟨_, rfl⟩
  rw [← lines_behind_iff] at stands stands'
  exact Option.some.inj (stands.symm.trans stands')

theorem length_lines_behind (text : List Char) :
    (linesBehind text).length = text.count '\n' + 1 := by
  induction length : text.length using Nat.strongRecOn generalizing text with
  | _ size induction =>
  by_cases feed : '\n' ∈ text
  · obtain ⟨first, rest, rfl, one⟩ := List.eq_append_cons_of_mem feed
    have shorter : rest.length < size := by
      rw [List.length_append, List.length_cons] at length
      omega
    rw [lines_behind_feed one, List.length_cons, induction _ shorter rest rfl]
    simp [List.count_eq_zero.mpr one]
  · simp [lines_behind_alone feed, List.count_eq_zero.mpr feed]

theorem IsLine.in_range {text line : List Char} {number : Nat} (stands : IsLine text number line)
    (some : text ≠ []) : 1 ≤ number ∧ number ≤ (lines text).length := by
  obtain ⟨front, back, rfl, rfl, -⟩ := stands
  rw [lines_eq some, length_lines_behind]
  simp only [List.count_append]
  omega

section Location

def lastLine (front : List Char) : List Char :=
  (front.reverse.takeWhile (· ≠ '\n')).reverse

/-- What stands in front of the last line ends the lines before it. -/
theorem exists_last_line (front : List Char) : ∃ earlier, front = earlier ++ lastLine front ∧
    Begins earlier ∧ '\n' ∉ lastLine front ∧ earlier.count '\n' = front.count '\n' := by
  have split := List.takeWhile_append_dropWhile (p := (· ≠ '\n')) (l := front.reverse)
  have whole : '\n' ∉ lastLine front := by
    intro member
    have inside := List.all_eq_true.mp List.all_takeWhile '\n' (List.mem_reverse.mp member)
    simp at inside
  have same : front = (front.reverse.dropWhile (· ≠ '\n')).reverse ++ lastLine front := by
    rw [lastLine, ← List.reverse_append, split, List.reverse_reverse]
  refine ⟨_, same, ?_, whole, ?_⟩
  · have head := List.head?_dropWhile_not (fun c : Char => decide (c ≠ '\n')) front.reverse
    cases left : front.reverse.dropWhile (· ≠ '\n') with
    | nil => exact .inl rfl
    | cons c earlier =>
        rw [left] at head
        obtain rfl : c = '\n' := by simpa using head
        exact .inr (by simp)
  · conv_rhs => rw [same]
    rw [List.count_append, List.count_eq_zero.mpr whole, Nat.add_zero]

/-- At the end of a text its last line ends. -/
theorem last_is_line (front : List Char) :
    IsLine front (front.count '\n' + 1) (lastLine front) := by
  obtain ⟨earlier, split, begins, whole, count⟩ := exists_last_line front
  exact ⟨earlier, [], by simpa using split, by rw [count], begins, whole, .inl rfl⟩

/-- The line of a character that ends no line goes on with it behind what is in front of it. -/
theorem is_line_through (front : List Char) {c : Char} (noFeed : c ≠ '\n') (noReturn : c ≠ '\r')
    (rest : List Char) : ∃ tail, IsLine (front ++ c :: rest) (front.count '\n' + 1)
      (lastLine front ++ c :: tail) := by
  obtain ⟨earlier, split, begins, whole, count⟩ := exists_last_line front
  have whole' : ∀ body, '\n' ∉ c :: body → '\n' ∉ lastLine front ++ c :: body := by
    intro body one member
    exact (List.mem_append.mp member).elim whole one
  have text : front ++ c :: rest = earlier ++ (lastLine front ++ c :: rest) := by
    rw [← List.append_assoc, ← split]
  by_cases feed : '\n' ∈ c :: rest
  · obtain ⟨first, later, same, one⟩ := List.eq_append_cons_of_mem feed
    cases first with
    | nil => exact absurd (List.cons.inj same).1 noFeed
    | cons d body =>
        obtain ⟨rfl, rfl⟩ := List.cons.inj same
        obtain ⟨tail, kept⟩ := drop_return_keeps (lastLine front) noReturn body
        obtain ⟨back, behind, ends⟩ := ends_feed (lastLine front ++ c :: body) later
        have one' := feed_not_mem_drop_return (whole' body one)
        rw [kept] at behind ends one'
        refine ⟨tail, earlier, back, ?_, by rw [count], begins, one', ends⟩
        rw [text, List.append_assoc, ← behind]
        simp
  · exact ⟨rest, earlier, [], by rw [text]; simp, by rw [count], begins, whole' rest feed, .inl rfl⟩

end Location

end Sierra.Text
