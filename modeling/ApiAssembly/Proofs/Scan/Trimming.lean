import ApiAssembly.Proofs.Scan.Continuation
import Mathlib.Data.List.Infix
/-! Texts without blanks and comments around them. What is dropped in front of a text is a sequence of
blanks and comments, and in the back only blanks are dropped. The scanner and the trimming agree on
line comments and on all block comments but those that start with `/*/`: there the scanner looks for
the closing mark behind the opening one, and the trimming finds it in the opening one. -/
namespace ApiAssembly.Scan
open Text

/-- A complete comment: the scanner takes all of it and no more, whatever stands behind it. -/
def IsComment (text : List Char) : Prop :=
  text.head? = some '/' ∧ ∀ more, trivia (text ++ more) = .taken text more

/-- What trimming drops as one comment. The star of the opening mark may be that of the closing one. -/
inductive IsDropped : List Char → Prop
  | line (inside : List Char) (one : '\n' ∉ inside) : IsDropped ('/' :: '/' :: (inside ++ ['\n']))
  | block (rest : List Char) (closed : blockEnd? ('*' :: rest) = some ('*' :: rest, [])) :
      IsDropped ('/' :: '*' :: rest)

/-- Sequences of blanks and comments. -/
inductive Filler (comment : List Char → Prop) : List Char → Prop
  | nil : Filler comment []
  | blank (c : Char) (rest : List Char) (blank : isBlank c = true) (behind : Filler comment rest) :
      Filler comment (c :: rest)
  | comment (text rest : List Char) (complete : comment text) (behind : Filler comment rest) :
      Filler comment (text ++ rest)

/-! The ends of comments. -/

theorem blockEnd?_getLast? (cs text rest : List Char) (found : blockEnd? cs = some (text, rest)) :
    text.getLast? = some '/' := by
  fun_induction blockEnd? cs generalizing text rest with
  | case1 => cases found
  | case2 =>
    cases found
    rfl
  | case3 c tail _ ih =>
    obtain ⟨pair, inner, same⟩ := Option.map_eq_some_iff.mp found
    cases same
    rw [List.getLast?_cons, ih pair.1 pair.2 inner]
    rfl

/-- The closing mark that was found is also found when nothing stands behind it. -/
theorem blockEnd?_alone (cs text rest : List Char) (found : blockEnd? cs = some (text, rest)) :
    blockEnd? text = some (text, []) := by
  fun_induction blockEnd? cs generalizing text rest with
  | case1 => cases found
  | case2 =>
    cases found
    rfl
  | case3 c tail unclosed ih =>
    obtain ⟨pair, inner, same⟩ := Option.map_eq_some_iff.mp found
    cases same
    have whole := blockEnd?_append tail pair.1 pair.2 inner
    have still : ∀ other, c = '*' → pair.1 = '/' :: other → False := by
      intro other star slash
      exact unclosed (other ++ pair.2) star (by rw [whole, slash, List.cons_append])
    rw [blockEnd?, ih pair.1 pair.2 inner]
    · rfl
    · exact still

theorem lineEnd_concat (inside rest : List Char) (one : '\n' ∉ inside) :
    lineEnd (inside ++ '\n' :: rest) = (inside ++ ['\n'], rest) := by
  induction inside with
  | nil => simp [lineEnd]
  | cons c more ih =>
    obtain ⟨differ, later⟩ := not_or.mp (mt List.mem_cons.mpr one)
    rw [List.cons_append, lineEnd, if_neg (Ne.symm differ), ih later]
    rfl

theorem lineEnd_of_not_mem (cs : List Char) (one : '\n' ∉ cs) : lineEnd cs = (cs, []) := by
  induction cs with
  | nil => rfl
  | cons c rest ih =>
    obtain ⟨differ, later⟩ := not_or.mp (mt List.mem_cons.mpr one)
    rw [lineEnd, if_neg (Ne.symm differ), ih later]

theorem afterLine_concat (inside rest : List Char) (one : '\n' ∉ inside) :
    afterLine (inside ++ '\n' :: rest) = rest := by
  have inLine : ∀ c ∈ inside, decide (c ≠ '\n') = true := by
    intro c member
    exact decide_eq_true fun same => one (same ▸ member)
  rw [afterLine, List.dropWhile_append_of_pos inLine, List.dropWhile_cons_of_neg (by simp)]
  rfl

theorem afterLine_of_not_mem (cs : List Char) (one : '\n' ∉ cs) : afterLine cs = [] := by
  rw [afterLine, List.dropWhile_eq_nil_iff.mpr]
  · rfl
  · intro c member
    exact decide_eq_true fun same => one (same ▸ member)

theorem isComment_line (inside : List Char) (one : '\n' ∉ inside) :
    IsComment ('/' :: '/' :: (inside ++ ['\n'])) := by
  refine ⟨rfl, ?_⟩
  intro more
  simp only [List.cons_append, List.append_assoc, List.nil_append, trivia,
    lineEnd_concat inside more one]
  rfl

theorem isComment_block (rest : List Char) (closed : blockEnd? rest = some (rest, [])) :
    IsComment ('/' :: '*' :: rest) := by
  refine ⟨rfl, ?_⟩
  intro more
  simp only [List.cons_append, trivia, blockEnd?_continued rest rest [] more closed]
  rfl

theorem ofFound_parts (first second : Char) (rest : List Char)
    (found : Option (List Char × List Char)) (behind : List Char)
    (taken : Trivia.ofFound [first, second] found = .taken (first :: second :: rest) behind) :
    found = some (rest, behind) := by
  obtain ⟨inner, same, whole⟩ := ofFound_taken _ _ _ _ taken
  cases whole
  exact same

theorem isComment_cases (text : List Char) (comment : IsComment text) :
    (∃ inside, '\n' ∉ inside ∧ text = '/' :: '/' :: (inside ++ ['\n'])) ∨
      ∃ rest, blockEnd? rest = some (rest, []) ∧ text = '/' :: '*' :: rest := by
  obtain ⟨slash, taken⟩ := comment
  obtain ⟨rest, rfl⟩ := List.head?_eq_some_iff.mp slash
  have absent (other : rest.head? ≠ some '/' ∧ rest.head? ≠ some '*') : False := by
    have nothing := (trivia_eq_absent_iff '/' rest).mpr ⟨by decide, fun _ => other⟩
    have all := taken []
    rw [List.append_nil, nothing] at all
    cases all
  cases rest with
  | nil => exact (absent ⟨nofun, nofun⟩).elim
  | cons c rest =>
    by_cases line : c = '/'
    · subst c
      refine .inl ?_
      -- With a letter behind it the comment still ends where it did, so its line is broken there.
      have ends : lineEnd (rest ++ ['a']) = (rest, ['a']) :=
        Option.some.inj (ofFound_parts _ _ _ _ _ (taken ['a']))
      by_cases broken : '\n' ∈ rest
      · obtain ⟨inside, behind, shape, one⟩ := List.eq_append_cons_of_mem broken
        subst shape
        have parts := lineEnd_concat inside (behind ++ ['a']) one
        rw [← List.cons_append, ← List.append_assoc, ends] at parts
        have empty : behind = [] := by simpa using (congrArg Prod.snd parts).symm
        exact ⟨inside, one, by rw [empty]⟩
      · rw [lineEnd_of_not_mem _ (by simpa using broken)] at ends
        cases (congrArg Prod.snd ends)
    · by_cases block : c = '*'
      · subst c
        have all := taken []
        rw [List.append_nil] at all
        exact .inr ⟨rest, ofFound_parts _ _ _ _ _ all, rfl⟩
      · exact (absent ⟨by simpa using line, by simpa using block⟩).elim

/-- A comment is a line with its break, or a block with its closing mark. -/
theorem isComment_iff (text : List Char) : IsComment text ↔
    (∃ inside, '\n' ∉ inside ∧ text = '/' :: '/' :: (inside ++ ['\n'])) ∨
      ∃ rest, blockEnd? rest = some (rest, []) ∧ text = '/' :: '*' :: rest := by
  constructor
  · exact isComment_cases text
  · rintro (⟨inside, one, rfl⟩ | ⟨rest, closed, rfl⟩)
    · exact isComment_line inside one
    · exact isComment_block rest closed

theorem IsComment.last {text : List Char} (comment : IsComment text) :
    ∃ init c, text = init ++ [c] ∧ (isBlank c = true ∨ c = '/') := by
  rcases (isComment_iff text).mp comment with ⟨inside, _, rfl⟩ | ⟨rest, closed, rfl⟩
  · exact ⟨'/' :: '/' :: inside, '\n', rfl, .inl (by decide)⟩
  · obtain ⟨init, shape⟩ := List.getLast?_eq_some_iff.mp (blockEnd?_getLast? _ _ _ closed)
    exact ⟨'/' :: '*' :: init, '/', by rw [shape]; rfl, .inr rfl⟩

/-- A comment is dropped as it is taken, unless its closing mark starts inside the opening one. -/
theorem isDropped_of_isComment (text : List Char) (comment : IsComment text)
    (apart : ¬ ['/', '*', '/'] <+: text) : IsDropped text := by
  rcases (isComment_iff text).mp comment with ⟨inside, one, rfl⟩ | ⟨rest, closed, rfl⟩
  · exact .line inside one
  · refine .block rest ?_
    have still : ∀ other, '*' = '*' → rest = '/' :: other → False := by
      rintro other _ rfl
      exact apart ⟨other, rfl⟩
    rw [blockEnd?, closed]
    · rfl
    · exact still

namespace Filler
variable {comment : List Char → Prop} {filler : List Char}

theorem append {others : List Char} (first : Filler comment filler)
    (second : Filler comment others) : Filler comment (filler ++ others) := by
  induction first with
  | nil => exact second
  | blank c rest blank _ ih => exact .blank c _ blank ih
  | comment text rest complete _ ih =>
    rw [List.append_assoc]
    exact .comment text _ complete ih

theorem of_gap (blank : IsGap filler) : Filler comment filler := by
  induction filler with
  | nil => exact .nil
  | cons c rest ih =>
    obtain ⟨head, tail⟩ := List.forall_mem_cons.mp blank
    exact .blank c rest head (ih tail)

/-- A sequence that is not blank throughout has a comment, and with it a slash. -/
theorem slash_mem (sequence : Filler IsComment filler) : IsGap filler ∨ '/' ∈ filler := by
  induction sequence with
  | nil => exact .inl nofun
  | blank c rest blank _ ih =>
    rcases ih with gap | inside
    · exact .inl (List.forall_mem_cons.mpr ⟨blank, gap⟩)
    · exact .inr (List.mem_cons_of_mem c inside)
  | comment text rest complete _ _ =>
    exact .inr (List.mem_append_left rest (List.mem_of_mem_head? complete.1))

theorem last (sequence : Filler IsComment filler) (c : Char) (ends : filler.getLast? = some c) :
    isBlank c = true ∨ c = '/' := by
  induction sequence with
  | nil => cases ends
  | blank d rest blank _ ih =>
    cases rest with
    | nil =>
      cases ends
      exact .inl blank
    | cons e more => exact ih ends
  | comment text rest complete _ ih =>
    cases rest with
    | nil =>
      obtain ⟨init, d, shape, known⟩ := complete.last
      rw [List.append_nil, shape, List.getLast?_concat] at ends
      cases ends
      exact known
    | cons e more =>
      rw [List.getLast?_append_of_ne_nil _ (List.cons_ne_nil e more)] at ends
      exact ih ends

theorem isDropped (sequence : Filler IsComment filler) (apart : ¬ ['/', '*', '/'] <:+: filler) :
    Filler IsDropped filler := by
  induction sequence with
  | nil => exact .nil
  | blank c rest blank _ ih =>
    exact .blank c rest blank (ih fun inside => apart (List.infix_cons inside))
  | comment text rest complete _ ih =>
    refine .comment text rest (isDropped_of_isComment text complete fun start => apart ?_) (ih ?_)
    · exact start.isInfix.trans (List.prefix_append text rest).isInfix
    · exact fun inside => apart (inside.trans (List.suffix_append text rest).isInfix)

end Filler

/-! Trimming step by step. -/

theorem bare_of_trim (cs trimmed : List Char) (shape : trim cs = trimmed)
    (other : trimmed.head? ≠ some '/') : bare cs = trimmed := by
  rw [bare]
  split
  · rename_i slashes
    rw [← shape, slashes] at other
    exact absurd rfl other
  · rename_i slashes
    rw [← shape, slashes] at other
    exact absurd rfl other
  · exact shape

theorem bare_of_line (cs rest : List Char) (shape : trim cs = '/' :: '/' :: rest) :
    bare cs = bare (afterLine rest) := by
  rw [bare]
  split
  · rename_i same
    rw [shape] at same
    cases same
    rfl
  · rename_i same
    rw [shape] at same
    cases same
  · rename_i line _
    exact absurd shape (line rest)

theorem bare_of_block (cs rest : List Char) (shape : trim cs = '/' :: '*' :: rest) :
    bare cs = bare (afterBlock ('*' :: rest)) := by
  rw [bare]
  split
  · rename_i same
    rw [shape] at same
    cases same
  · rename_i same
    rw [shape] at same
    cases same
    rfl
  · rename_i _ block
    exact absurd shape (block rest)

/-- Only what is left between the blanks matters. -/
theorem bare_congr (left right : List Char) (same : trim left = trim right) :
    bare left = bare right := by
  rw [bare, bare, same]

theorem bare_gap (gap : List Char) (blank : IsGap gap) : bare gap = [] :=
  bare_of_trim gap [] (trim_gap gap blank) nofun

theorem trim_comment (c : Char) (rest : List Char) (filled : isBlank c = false) :
    trim ('/' :: c :: rest) = '/' :: c :: trimEnd rest := by
  rw [trim_of_head _ _ (by decide), trimEnd_of_head _ _ (by decide), trimEnd_of_head _ _ filled]

/-- Blanks behind a line may hold its break, but then they are all that follows. -/
theorem trim_afterLine (cs gap : List Char) (blank : IsGap gap) :
    trim (afterLine (cs ++ gap)) = trim (afterLine cs) := by
  by_cases broken : '\n' ∈ cs
  · obtain ⟨inside, rest, rfl, one⟩ := List.eq_append_cons_of_mem broken
    rw [List.append_assoc, List.cons_append, afterLine_concat _ _ one, afterLine_concat _ _ one,
      trim_append_gap _ _ blank]
  · rw [afterLine_of_not_mem cs broken]
    by_cases later : '\n' ∈ gap
    · obtain ⟨inside, rest, rfl, one⟩ := List.eq_append_cons_of_mem later
      have rests : IsGap rest := fun c member =>
        blank c (List.mem_append_right _ (List.mem_cons_of_mem _ member))
      have none : '\n' ∉ cs ++ inside := by simp [broken, one]
      rw [← List.append_assoc, afterLine_concat _ _ none]
      exact trim_gap rest rests
    · rw [afterLine_of_not_mem _ (by simp [broken, later])]

theorem bare_line (rest : List Char) : bare ('/' :: '/' :: rest) = bare (afterLine rest) := by
  obtain ⟨gap, blank, parts⟩ := trimEnd_parts rest
  rw [bare_of_line _ _ (trim_comment '/' rest (by decide))]
  apply bare_congr
  rw [← trim_afterLine (trimEnd rest) gap blank, ← parts]

theorem bare_block (rest text behind : List Char)
    (found : blockEnd? ('*' :: rest) = some (text, behind)) :
    bare ('/' :: '*' :: rest) = bare behind := by
  have whole := blockEnd?_append _ _ _ found
  obtain ⟨init, shape⟩ := List.getLast?_eq_some_iff.mp (blockEnd?_getLast? _ _ _ found)
  -- The closing mark is not blank, so it is still there when the blanks in the back are cut off.
  have left : '*' :: trimEnd rest = text ++ trimEnd behind := by
    rw [← trimEnd_of_head '*' rest (by decide), whole, shape, List.append_assoc,
      List.singleton_append, trimEnd_concat init behind '/' (by decide), List.append_assoc]
    rfl
  have again := blockEnd?_continued _ _ _ (trimEnd behind) (blockEnd?_alone _ _ _ found)
  rw [bare_of_block _ _ (trim_comment '*' rest (by decide)), left, afterBlock, again]
  exact bare_congr _ _ (trim_trimEnd behind)

theorem bare_dropped (text more : List Char) (dropped : IsDropped text) :
    bare (text ++ more) = bare more := by
  cases dropped with
  | line inside one =>
    rw [List.cons_append, List.cons_append, bare_line, List.append_assoc, List.singleton_append,
      afterLine_concat inside more one]
  | block rest closed =>
    exact bare_block (rest ++ more) _ more (blockEnd?_continued _ _ _ more closed)

theorem bare_filler (filler more : List Char) (sequence : Filler IsDropped filler) :
    bare (filler ++ more) = bare more := by
  induction sequence with
  | nil => rfl
  | blank c rest blank _ ih =>
    rw [← ih]
    exact bare_congr _ _ (trim_gap_append [c] (rest ++ more) (by simpa [IsGap] using blank))
  | comment text rest dropped _ ih =>
    rw [List.append_assoc, bare_dropped text _ dropped, ih]

theorem afterLine_parts (cs : List Char) (filled : bare (afterLine cs) ≠ []) :
    ∃ inside, '\n' ∉ inside ∧ cs = inside ++ '\n' :: afterLine cs := by
  by_cases broken : '\n' ∈ cs
  · obtain ⟨inside, rest, shape, one⟩ := List.eq_append_cons_of_mem broken
    refine ⟨inside, one, ?_⟩
    rw [shape, afterLine_concat inside rest one]
  · rw [afterLine_of_not_mem cs broken] at filled
    exact absurd (bare_gap [] nofun) filled

theorem afterBlock_parts (rest : List Char) (filled : bare (afterBlock ('*' :: rest)) ≠ []) :
    ∃ inside, IsDropped ('/' :: '*' :: inside) ∧ rest = inside ++ afterBlock ('*' :: rest) := by
  rw [afterBlock] at filled ⊢
  cases found : blockEnd? ('*' :: rest) with
  | none =>
    rw [found] at filled
    exact absurd (bare_gap [] nofun) filled
  | some pair =>
    obtain ⟨text, behind⟩ := pair
    have whole := blockEnd?_append _ _ _ found
    have closed := blockEnd?_alone _ _ _ found
    cases text with
    | nil => cases blockEnd?_getLast? _ _ _ found
    | cons star inside =>
      cases whole
      exact ⟨inside, .block inside closed, rfl⟩

/-- Behind a sequence of blanks and comments stands a text that is left up to the blanks in its back. -/
def LeadsTo (cs left : List Char) : Prop :=
  ∃ lead c rest, cs = lead ++ c :: rest ∧ Filler IsDropped lead ∧ isBlank c = false ∧
    left = trimEnd (c :: rest)

theorem LeadsTo.behind {comment later left : List Char} (leads : LeadsTo later left)
    (cs : List Char) (dropped : IsDropped comment) (shape : trim cs = comment ++ later) :
    LeadsTo cs left := by
  obtain ⟨before, after, blankBefore, blankAfter, parts⟩ := trim_parts cs
  obtain ⟨lead, c, rest, innerParts, sequence, filled, same⟩ := leads
  refine ⟨before ++ (comment ++ lead), c, rest ++ after, ?_, ?_, filled, ?_⟩
  · rw [parts, shape, innerParts]
    simp
  · exact (Filler.of_gap blankBefore).append (.comment comment lead dropped sequence)
  · rw [same, ← List.cons_append, trimEnd_append_gap _ _ blankAfter]

theorem bare_leadsTo (cs : List Char) (filled : bare cs ≠ []) : LeadsTo cs (bare cs) := by
  fun_induction bare cs with
  | case1 cs rest trimmed ih =>
    obtain ⟨inside, one, parts⟩ := afterLine_parts rest filled
    apply (ih filled).behind cs (.line inside one)
    rw [trimmed, List.cons_append, List.cons_append, List.append_assoc, List.singleton_append,
      ← parts]
  | case2 cs rest trimmed ih =>
    obtain ⟨inside, dropped, parts⟩ := afterBlock_parts rest filled
    apply (ih filled).behind cs dropped
    rw [trimmed, List.cons_append, List.cons_append, ← parts]
  | case3 cs =>
    rcases trim_cases cs with blank | ⟨before, c, rest, blank, filledHead, parts, shape⟩
    · exact absurd (trim_gap cs blank) filled
    · refine ⟨before, c, rest, parts, .of_gap blank, filledHead, ?_⟩
      rw [shape, trimEnd_of_head c rest filledHead]

/-- More text behind what trimming leaves stays, up to its own blanks in the back. -/
theorem bare_append (cs more : List Char) (filled : bare cs ≠ [])
    (other : (bare cs).head? ≠ some '/') :
    ∃ gap, IsGap gap ∧ bare (cs ++ more) = trimEnd (bare cs ++ gap ++ more) := by
  obtain ⟨lead, c, rest, parts, dropped, filledHead, shape⟩ := bare_leadsTo cs filled
  obtain ⟨gap, blank, whole⟩ := trimEnd_parts (c :: rest)
  have slash : c ≠ '/' := by
    rintro rfl
    rw [shape, trimEnd_of_head _ _ filledHead] at other
    exact other rfl
  refine ⟨gap, blank, ?_⟩
  rw [parts, List.append_assoc, bare_filler lead _ dropped, ← parts, shape, ← whole]
  have left := trim_of_head c (rest ++ more) filledHead
  have head : (trimEnd (c :: (rest ++ more))).head? ≠ some '/' := by
    rw [trimEnd_of_head c _ filledHead]
    simpa using slash
  exact bare_of_trim _ _ left head

end ApiAssembly.Scan
