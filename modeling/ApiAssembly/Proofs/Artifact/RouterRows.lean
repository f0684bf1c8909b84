import ApiAssembly.Artifact.RouterReader
import ApiAssembly.Proofs.Text.Lines
import ApiAssembly.Proofs.Text.Quoted
/-! The reader of the route table, line by line. It takes one row where a line starts one, goes on at
the end of that line, and passes over lines and texts that start none. -/
namespace ApiAssembly.Router
open Text

/-! Steps of the search. -/

theorem rawRows_row (cs : List Char) (raw : RawRow) (found : rawRow? cs = some raw) :
    rawRows true cs = raw :: rawRows false raw.rest := by
  rw [rawRows]
  split
  · rename_i other same
    rw [if_pos rfl, found] at same
    cases same
    rfl
  · rename_i none
    rw [if_pos rfl, found] at none
    cases none

theorem rawRows_cons (lineStart : Bool) (c : Char) (rest : List Char)
    (none : lineStart = true → rawRow? (c :: rest) = none) :
    rawRows lineStart (c :: rest) = rawRows (c = '\n') rest := by
  rw [rawRows]
  split
  · rename_i raw found
    by_cases start : lineStart = true
    · rw [if_pos start, none start] at found
      cases found
    · rw [if_neg start] at found
      cases found
  · rfl

-- The end of the line behind the text lets the search go on at a line start, whichever way it came.
theorem rawRows_skip (lineStart : Bool) (text rest : List Char)
    (here : lineStart = true → rawRow? (text ++ '\n' :: rest) = none)
    (later : ∀ before after, text = before ++ '\n' :: after →
      rawRow? (after ++ '\n' :: rest) = none) :
    rawRows lineStart (text ++ '\n' :: rest) = rawRows true rest := by
  induction text generalizing lineStart with
  | nil => exact rawRows_cons lineStart '\n' rest here
  | cons c more ih =>
    rw [List.cons_append, rawRows_cons lineStart c (more ++ '\n' :: rest) here]
    refine ih _ ?_ ?_
    · intro newline
      exact later [] more (by rw [of_decide_eq_true newline]; rfl)
    · intro before after split
      exact later (c :: before) after (by rw [split]; rfl)

theorem rawRows_inLine (text rest : List Char) (inLine : '\n' ∉ text) :
    rawRows false (text ++ '\n' :: rest) = rawRows true rest := by
  refine rawRows_skip false text rest (fun start => by cases start) ?_
  intro before after split
  exact absurd (by rw [split]; simp) inLine

/-! Where a row can start. -/

/-- The blanks before a row are not part of it. They may be line ends. -/
def StartsRow (cs : List Char) : Prop := (rowStart ++ "\"").toList <+: trimStart cs

theorem after?_append (text rest : List Char) : after? text (text ++ rest) = some rest := by
  rw [after?, if_pos (List.isPrefixOf_iff_prefix.mpr (List.prefix_append text rest)),
    List.drop_left]

theorem startsRow_of_rawRow? (cs : List Char) (raw : RawRow) (found : rawRow? cs = some raw) :
    StartsRow cs := by
  unfold rawRow? at found
  obtain ⟨first, starts, -⟩ := Option.bind_eq_some_iff.mp found
  unfold after? at starts
  split at starts
  · rename_i isPrefix
    exact List.isPrefixOf_iff_prefix.mp isPrefix
  · cases starts

theorem rawRow?_none (cs : List Char) (other : ¬ StartsRow cs) : rawRow? cs = none := by
  cases found : rawRow? cs with
  | none => rfl
  | some raw => exact absurd (startsRow_of_rawRow? cs raw found) other

theorem rawRow?_blank (line rest : List Char) (blank : trimStart line = []) :
    rawRow? (line ++ rest) = rawRow? rest := by
  unfold rawRow?
  rw [trimStart_append, if_pos blank]

/-- A single line that is blank or has another first letter than a row. -/
structure OpensNoRow (line : List Char) : Prop where
  inLine : '\n' ∉ line
  other : (trimStart line).head? ≠ some 'R'

instance (line : List Char) : Decidable (OpensNoRow line) :=
  decidable_of_iff ('\n' ∉ line ∧ (trimStart line).head? ≠ some 'R')
    ⟨fun both => ⟨both.1, both.2⟩, fun opens => ⟨opens.inLine, opens.other⟩⟩

theorem opensNoRow_literal (cs : List Char) (opens : OpensNoRow cs) :
    OpensNoRow (String.ofList cs).toList := by
  rw [String.toList_ofList]
  exact opens

theorem opensNoRow_append (start behind : String) (opens : OpensNoRow start.toList)
    (filled : trimStart start.toList ≠ []) (inLine : '\n' ∉ behind.toList) :
    OpensNoRow (start ++ behind).toList := by
  refine ⟨not_mem_toList_append start behind opens.inLine inLine, ?_⟩
  have first := opens.other
  obtain ⟨c, more, shape⟩ := List.exists_cons_of_ne_nil filled
  rw [shape] at first
  rw [String.toList_append, trimStart_append, if_neg filled, shape]
  exact first

theorem not_startsRow (line rest : List Char) (c : Char) (more : List Char)
    (trimmed : trimStart line = c :: more) (other : c ≠ 'R') : ¬ StartsRow (line ++ rest) := by
  intro starts
  rw [StartsRow, trimStart_append, trimmed, if_neg (List.cons_ne_nil c more)] at starts
  have first : (rowStart ++ "\"").toList = 'R' :: "oute \x7b method: \"".toList := by decide
  rw [first, List.cons_append] at starts
  exact other (List.cons_prefix_cons.mp starts).1.symm

theorem rawRows_line (line rest : List Char) (opens : OpensNoRow line) :
    rawRows true (line ++ '\n' :: rest) = rawRows true rest := by
  have later : ∀ before after, line = before ++ '\n' :: after →
      rawRow? (after ++ '\n' :: rest) = none := by
    intro before after split
    exact absurd (by rw [split]; simp) opens.inLine
  cases trimmed : trimStart line with
  | nil =>
    -- A row behind blank lines is found already at the first of them.
    have same : rawRow? (line ++ '\n' :: rest) = rawRow? rest := by
      have blank : trimStart (line ++ ['\n']) = [] := by
        rw [trimStart_append, if_pos trimmed]
        decide
      have joined := rawRow?_blank (line ++ ['\n']) rest blank
      rw [List.append_assoc] at joined
      exact joined
    cases found : rawRow? rest with
    | none => exact rawRows_skip true line rest (fun _ => same.trans found) later
    | some raw => rw [rawRows_row _ raw (same.trans found), rawRows_row rest raw found]
  | cons c more =>
    have other : c ≠ 'R' := by
      intro equal
      exact opens.other (by rw [trimmed, equal]; rfl)
    refine rawRows_skip true line rest ?_ later
    exact fun _ => rawRow?_none _ (not_startsRow line _ c more trimmed other)

theorem rawRows_lines (lines : List String) (rest : List Char)
    (opens : ∀ line ∈ lines, OpensNoRow line.toList) :
    rawRows true ((unlines lines).toList ++ rest) = rawRows true rest := by
  rw [toList_unlines]
  induction lines with
  | nil => rfl
  | cons line more ih =>
    rw [List.flatMap_cons, List.append_assoc, List.append_assoc, List.singleton_append,
      rawRows_line _ _ (opens line List.mem_cons_self)]
    exact ih fun other member => opens other (List.mem_cons_of_mem line member)

/-! A row that is said to start in front of what cannot stand in a row start has started before. -/

theorem prefix_before (start text behind : List Char) (c : Char) (absent : c ∉ start)
    (isPrefix : start <+: text ++ c :: behind) : start <+: text := by
  induction text generalizing start with
  | nil =>
    cases start with
    | nil => exact List.nil_prefix
    | cons d more =>
      have same := (List.cons_prefix_cons.mp isPrefix).1
      exact absurd (same ▸ List.mem_cons_self) absent
  | cons d rest ih =>
    cases start with
    | nil => exact List.nil_prefix
    | cons e more =>
      obtain ⟨rfl, remains⟩ := List.cons_prefix_cons.mp isPrefix
      have inside := ih more (fun member => absent (List.mem_cons_of_mem _ member)) remains
      exact List.cons_prefix_cons.mpr ⟨rfl, inside⟩

theorem startsRow_before (text behind : List Char) (c : Char) (blank : isBlank c = false)
    (absent : c ∉ (rowStart ++ "\"").toList) (starts : StartsRow (text ++ c :: behind)) :
    StartsRow text := by
  have kept : trimStart (c :: behind) = c :: behind := by
    rw [trimStart, List.dropWhile_cons_of_neg (Bool.eq_false_iff.mp blank)]
  have trimmed : trimStart (text ++ c :: behind) = trimStart text ++ c :: behind := by
    rw [trimStart_append, kept]
    split
    · rename_i empty
      rw [empty, List.nil_append]
    · rfl
  rw [StartsRow, trimmed] at starts
  exact prefix_before _ _ behind c absent starts

theorem startsRow_before_space (text : List Char) (starts : StartsRow (text ++ [' '])) :
    StartsRow text := by
  rw [StartsRow, trimStart_append] at starts
  split at starts
  · exact absurd starts (by decide)
  · rcases List.prefix_concat_iff.mp starts with whole | inside
    · have last := congrArg List.getLast? whole
      rw [List.getLast?_concat] at last
      exact absurd last (by decide)
    · exact inside

end ApiAssembly.Router
