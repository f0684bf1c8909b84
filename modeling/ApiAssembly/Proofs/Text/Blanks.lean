import ApiAssembly.Text.Whitespace
import Mathlib.Data.List.TakeWhile
/-! Cutting off blanks. What is cut off at either end is blank, a character that is not blank stays with
all that stands between it and the other end, and blanks around a text change nothing about what is
left of it. -/
namespace ApiAssembly.Text

/-- A text of blanks only. -/
def IsGap (gap : List Char) : Prop := ∀ c ∈ gap, isBlank c = true

theorem trimStart_append (text rest : List Char) :
    trimStart (text ++ rest) =
      if trimStart text = [] then trimStart rest else trimStart text ++ rest := by
  unfold trimStart
  rw [List.dropWhile_append]
  simp only [List.isEmpty_iff]

theorem trimStart_gap (gap rest : List Char) (c : Char) (blank : IsGap gap)
    (filled : isBlank c = false) : trimStart (gap ++ c :: rest) = c :: rest := by
  rw [trimStart, List.dropWhile_append_of_pos blank,
    List.dropWhile_cons_of_neg (Bool.eq_false_iff.mp filled)]

theorem trimStart_parts (cs : List Char) : ∃ gap, IsGap gap ∧ cs = gap ++ trimStart cs :=
  ⟨cs.takeWhile isBlank, List.all_eq_true.mp List.all_takeWhile,
    (List.takeWhile_append_dropWhile ..).symm⟩

theorem trimStart_eq_nil_iff (cs : List Char) : trimStart cs = [] ↔ IsGap cs :=
  List.dropWhile_eq_nil_iff

theorem trimEnd_eq (cs : List Char) : trimEnd cs = (trimStart cs.reverse).reverse := rfl

theorem IsGap.reverse {gap : List Char} (blank : IsGap gap) : IsGap gap.reverse :=
  fun c member => blank c (List.mem_reverse.mp member)

theorem trimEnd_append_gap (cs gap : List Char) (blank : IsGap gap) :
    trimEnd (cs ++ gap) = trimEnd cs := by
  rw [trimEnd, trimEnd, List.reverse_append, List.dropWhile_append_of_pos blank.reverse]

theorem trimEnd_parts (cs : List Char) : ∃ gap, IsGap gap ∧ cs = trimEnd cs ++ gap := by
  obtain ⟨gap, blank, parts⟩ := trimStart_parts cs.reverse
  refine ⟨gap.reverse, blank.reverse, ?_⟩
  rw [trimEnd_eq, ← List.reverse_append, ← parts, List.reverse_reverse]

theorem trimEnd_append (text rest : List Char) :
    trimEnd (text ++ rest) = if trimEnd rest = [] then trimEnd text else text ++ trimEnd rest := by
  rw [trimEnd_eq, trimEnd_eq rest, List.reverse_append, trimStart_append]
  simp only [List.reverse_eq_nil_iff]
  split
  · rfl
  · rw [List.reverse_append, List.reverse_reverse]

/-- A character that is not blank keeps all that stands in front of it. -/
theorem trimEnd_concat (text rest : List Char) (c : Char) (filled : isBlank c = false) :
    trimEnd (text ++ c :: rest) = text ++ c :: trimEnd rest := by
  have single : trimEnd [c] = [c] := by simp [trimEnd, filled]
  have last : trimEnd (c :: rest) = c :: trimEnd rest := by
    rw [← List.singleton_append, trimEnd_append]
    split
    · rename_i nothing
      rw [single, nothing]
    · rfl
  rw [trimEnd_append, last, if_neg (List.cons_ne_nil _ _)]

theorem mem_trimEnd (cs : List Char) (c : Char) (member : c ∈ cs) (filled : isBlank c = false) :
    c ∈ trimEnd cs := by
  obtain ⟨before, behind, rfl⟩ := List.append_of_mem member
  rw [trimEnd_concat _ _ _ filled]
  exact List.mem_append_right _ List.mem_cons_self

theorem trim_gap_append (gap cs : List Char) (blank : IsGap gap) : trim (gap ++ cs) = trim cs := by
  rw [trim, trim, trimStart_append, if_pos ((trimStart_eq_nil_iff gap).mpr blank)]

theorem trim_append_gap (cs gap : List Char) (blank : IsGap gap) : trim (cs ++ gap) = trim cs := by
  rw [trim, trim, trimStart_append]
  split
  · rename_i nothing
    rw [nothing, (trimStart_eq_nil_iff gap).mpr blank]
  · exact trimEnd_append_gap _ _ blank

theorem trim_gap (gap : List Char) (blank : IsGap gap) : trim gap = [] := by
  rw [trim, (trimStart_eq_nil_iff gap).mpr blank]
  rfl

theorem trim_of_head (c : Char) (rest : List Char) (filled : isBlank c = false) :
    trim (c :: rest) = trimEnd (c :: rest) := by
  rw [trim, trimStart, List.dropWhile_cons_of_neg (Bool.eq_false_iff.mp filled)]

theorem trim_of_start {text : List Char} (start : ∃ c rest, text = c :: rest ∧ isBlank c = false)
    (d : Char) (behind : List Char) (filled : isBlank d = false) :
    trim (text ++ d :: behind) = text ++ d :: trimEnd behind := by
  obtain ⟨c, rest, rfl, first⟩ := start
  rw [List.cons_append, trim_of_head c _ first, ← List.cons_append, trimEnd_concat _ _ d filled]

/-- A text that starts and ends with characters that are not blank. -/
structure IsTrim (cs : List Char) : Prop where
  first : ∃ c rest, cs = c :: rest ∧ isBlank c = false
  last : ∃ init c, cs = init ++ [c] ∧ isBlank c = false

theorem IsTrim.trim {cs : List Char} (trimmed : IsTrim cs) : trim cs = cs := by
  obtain ⟨c, rest, shape, filled⟩ := trimmed.first
  obtain ⟨init, d, ends, lastFilled⟩ := trimmed.last
  rw [shape, trim_of_head c rest filled, ← shape, ends, trimEnd_concat init [] d lastFilled]
  rfl

/-- Blanks on both sides of a text are cut off again, and nothing else is. -/
theorem IsTrim.trim_surrounded {cs : List Char} (trimmed : IsTrim cs) (before after : List Char)
    (blankBefore : IsGap before) (blankAfter : IsGap after) :
    Text.trim (before ++ cs ++ after) = cs := by
  rw [trim_append_gap _ _ blankAfter, trim_gap_append _ _ blankBefore, trimmed.trim]

theorem IsTrim.append {cs others : List Char} (left : IsTrim cs) (right : IsTrim others)
    (between : List Char) : IsTrim (cs ++ between ++ others) := by
  obtain ⟨c, rest, shape, filled⟩ := left.first
  obtain ⟨init, d, ends, lastFilled⟩ := right.last
  exact ⟨⟨c, rest ++ between ++ others, by simp [shape], filled⟩,
    ⟨cs ++ between ++ init, d, by simp [ends], lastFilled⟩⟩

theorem trim_trimEnd (cs : List Char) : trim (trimEnd cs) = trim cs := by
  obtain ⟨gap, blank, parts⟩ := trimEnd_parts cs
  rw [parts, trim_append_gap _ _ blank, ← parts]

theorem trim_trim (cs : List Char) : trim (trim cs) = trim cs := by
  obtain ⟨gap, blank, parts⟩ := trimStart_parts cs
  calc trim (trim cs) = trim (trimStart cs) := trim_trimEnd _
    _ = trim (gap ++ trimStart cs) := (trim_gap_append gap _ blank).symm
    _ = trim cs := by rw [← parts]

theorem trimEnd_of_head (c : Char) (rest : List Char) (filled : isBlank c = false) :
    trimEnd (c :: rest) = c :: trimEnd rest :=
  trimEnd_concat [] rest c filled

/-- What is left of a text starts with its first character that is not blank. -/
theorem trim_cases (cs : List Char) :
    IsGap cs ∨ ∃ before c rest, IsGap before ∧ isBlank c = false ∧ cs = before ++ c :: rest ∧
      trim cs = c :: trimEnd rest := by
  obtain ⟨before, blank, parts⟩ := trimStart_parts cs
  cases start : trimStart cs with
  | nil => exact .inl ((trimStart_eq_nil_iff cs).mp start)
  | cons c rest =>
    have filled : isBlank c = false := by
      have first := List.head?_dropWhile_not isBlank cs
      rw [← trimStart, start] at first
      simpa using first
    refine .inr ⟨before, c, rest, blank, filled, by rw [← start, ← parts], ?_⟩
    rw [trim, start, trimEnd_of_head c rest filled]

theorem trim_parts (cs : List Char) :
    ∃ before after, IsGap before ∧ IsGap after ∧ cs = before ++ trim cs ++ after := by
  obtain ⟨before, blankBefore, start⟩ := trimStart_parts cs
  obtain ⟨after, blankAfter, rest⟩ := trimEnd_parts (trimStart cs)
  refine ⟨before, after, blankBefore, blankAfter, ?_⟩
  rw [trim, List.append_assoc, ← rest, ← start]

end ApiAssembly.Text
