import ApiAssembly.Proofs.Scan.QuotedText
import ApiAssembly.Proofs.Scan.Trimming
/-! Literals with comments around them. In front of a literal comments are dropped, but for a block that
starts with `/*/`, whose closing mark is looked for too early. Behind a literal only blanks are
dropped: a comment there makes the text another literal or none. -/
namespace ApiAssembly.Scan
open Text

/-! Scalars. -/

theorem isBlank_numeral (c : Char) (numeral : isNumeral c = true) : isBlank c = false := by
  simp only [isNumeral, Bool.or_eq_true, decide_eq_true_eq] at numeral
  rcases numeral with ((((digit | rfl) | rfl) | rfl) | rfl) | rfl
  · exact isBlank_key c (isKeyChar_digit c digit)
  all_goals decide

theorem unescape?_append (first more inner : List Char) (read : unescape? first = some inner) :
    unescape? (first ++ more) = (unescape? more).map (inner ++ ·) := by
  fun_induction unescape? first generalizing inner with
  | case1 =>
    cases read
    simp
  | case2 => cases read
  | case3 c rest ih =>
    obtain ⟨later, found, rfl⟩ := Option.map_eq_some_iff.mp read
    rw [List.cons_append, List.cons_append, unescape?, ih later found, Option.map_map]
    rfl
  | case4 c rest lone escape ih =>
    obtain ⟨later, found, rfl⟩ := Option.map_eq_some_iff.mp read
    rw [List.cons_append, unescape?_plain _ _ (ne_backslash c rest lone escape), ih later found,
      Option.map_map]
    rfl

theorem unescape?_filled (cs inner : List Char) (filled : cs ≠ []) (read : unescape? cs = some inner) :
    inner ≠ [] := by
  fun_induction unescape? cs with
  | case1 => exact absurd rfl filled
  | case2 => cases read
  | case3 c rest =>
    obtain ⟨later, _, rfl⟩ := Option.map_eq_some_iff.mp read
    exact List.cons_ne_nil _ later
  | case4 c rest =>
    obtain ⟨later, _, rfl⟩ := Option.map_eq_some_iff.mp read
    exact List.cons_ne_nil _ later

/-- A scalar with a slash in it is a quoted text. -/
theorem string_of_slash (text : List Char) (value : Json) (read : scalar? text = some value)
    (slash : '/' ∈ text) : ∃ content, value = .str content := by
  rcases scalar?_cases text value read with ⟨named, _⟩ | ⟨inner, _, same⟩ | ⟨number, found, _⟩
  · have none : ∀ name ∈ names, '/' ∉ name := by decide
    exact absurd slash (none text named)
  · exact ⟨_, same⟩
  · have numeral := numerals_of_number text number found '/' slash
    cases numeral

/-- A quoted text that goes on behind its last quote says more than before, if it is one at all. -/
theorem scalar?_longer (text more : List Char) (value : Json) (read : scalar? text = some value)
    (slash : '/' ∈ more) : scalar? (text ++ more) ≠ some value := by
  intro again
  obtain ⟨content, rfl⟩ := string_of_slash _ _ again (List.mem_append_right text slash)
  obtain ⟨quote, inside, _, parts, unescaped⟩ := (scalar?_string_iff _ _).mp read
  obtain ⟨quote', inside', _, longer, unescaped'⟩ := (scalar?_string_iff _ _).mp again
  obtain ⟨init, last, rfl⟩ := List.eq_nil_or_concat' more |>.resolve_left (List.ne_nil_of_mem slash)
  have whole : inside' = inside ++ quote :: init := by
    rw [parts, quoted, quoted, List.cons_append] at longer
    have same := (List.cons.inj longer).2
    rw [← List.append_assoc] at same
    rw [← (List.append_inj' same rfl).1, List.append_assoc, List.singleton_append]
  rw [whole, unescape?_append inside _ _ unescaped] at unescaped'
  obtain ⟨rest, found, same⟩ := Option.map_eq_some_iff.mp unescaped'
  exact unescape?_filled _ _ (List.cons_ne_nil quote init) found (List.append_right_eq_self.mp same)

/-! Blanks and comments behind a literal. -/

theorem filled_of_read (cs : List Char) (value : Json) (read : literal? cs = some value) :
    bare cs ≠ [] := by
  intro empty
  rw [literal?_scalar cs empty nofun nofun] at read
  cases read

theorem head?_of_read (cs : List Char) (value : Json) (read : literal? cs = some value) :
    (bare cs).head? ≠ some '/' := by
  intro slash
  have list : (bare cs).head? ≠ some '[' := by simp [slash]
  have object : (bare cs).head? ≠ some '\x7b' := by simp [slash]
  rw [literal?_scalar cs rfl list object] at read
  obtain ⟨content, rfl⟩ := string_of_slash _ _ read (List.mem_of_mem_head? slash)
  obtain ⟨quote, inside, quotes, parts, _⟩ := (scalar?_string_iff _ _).mp read
  rw [parts] at slash
  cases slash
  cases quotes

/-- Text with a slash in it changes every literal that it stands behind. -/
theorem literal?_behind (cs more : List Char) (value : Json) (read : literal? cs = some value)
    (slash : '/' ∈ more) : literal? (cs ++ more) ≠ some value := by
  have filled := filled_of_read cs value read
  obtain ⟨gap, blank, shape⟩ := bare_append cs more filled (head?_of_read cs value read)
  have kept : '/' ∈ trimEnd (gap ++ more) :=
    mem_trimEnd _ '/' (List.mem_append_right gap slash) (by decide)
  rw [List.append_assoc, trimEnd_append, if_neg (List.ne_nil_of_mem kept)] at shape
  have heads : (bare cs ++ trimEnd (gap ++ more)).head? = (bare cs).head? :=
    List.head?_append_of_ne_nil _ filled
  intro again
  by_cases block : (bare cs).head? = some '[' ∨ (bare cs).head? = some '\x7b'
  · obtain ⟨inside, closed⟩ := block_of_literal cs rfl value read block
    obtain ⟨inside', closed'⟩ := block_of_literal _ shape value again (heads ▸ block)
    rw [block?_continued _ _ _ _ closed] at closed'
    have nothing := congrArg Prod.snd (Option.some.inj closed')
    exact List.ne_nil_of_mem kept nothing
  · obtain ⟨list, object⟩ := not_or.mp block
    rw [literal?_scalar cs rfl list object] at read
    rw [literal?_scalar _ shape (heads ▸ list) (heads ▸ object)] at again
    exact scalar?_longer _ _ value read kept again

theorem literal?_before_gap (cs gap : List Char) (blank : IsGap gap) :
    literal? (cs ++ gap) = literal? cs :=
  literal?_congr _ _ (bare_congr _ _ (trim_append_gap cs gap blank))

/-! Blanks and comments in front of a literal. -/

theorem literal?_behind_dropped (filler cs : List Char) (sequence : Filler IsDropped filler) :
    literal? (filler ++ cs) = literal? cs :=
  literal?_congr _ _ (bare_filler filler cs sequence)

/-- A digit behind comments is read as a number only when all of them are dropped. -/
theorem isDropped_of_digit {filler : List Char} (sequence : Filler IsComment filler)
    (number : Number) (read : literal? (filler ++ ['0']) = some (.num number)) :
    Filler IsDropped filler := by
  obtain ⟨lead, c, rest, parts, dropped, filled, shape⟩ :=
    bare_leadsTo _ (filled_of_read _ _ read)
  obtain ⟨list, object⟩ := not_block_of_read _ shape read ⟨nofun, nofun⟩
  rw [literal?_scalar _ shape list object] at read
  have numerals : ∀ d ∈ trimEnd (c :: rest), isNumeral d = true := by
    rcases scalar?_cases _ _ read with ⟨_, named⟩ | ⟨inner, _, same⟩ | ⟨other, found, _⟩
    · simp at named
    · cases same
    · exact numerals_of_number _ other found
  obtain ⟨init, last, ends⟩ :=
    (List.eq_nil_or_concat' (c :: rest)).resolve_left (List.cons_ne_nil c rest)
  rw [ends, ← List.append_assoc] at parts
  obtain ⟨whole, zero⟩ := List.append_inj' parts rfl
  cases zero
  rw [ends, trimEnd_concat init [] '0' (by decide)] at numerals
  -- What stands between the dropped part and the digit would end in a numeral, and no comment does.
  rcases List.eq_nil_or_concat' init with rfl | ⟨more, d, rfl⟩
  · rw [whole, List.append_nil]
    exact dropped
  · have numeral := numerals d (by simp)
    have final : filler.getLast? = some d := by rw [whole, ← List.append_assoc, List.getLast?_concat]
    rcases sequence.last d final with blank | rfl
    · rw [isBlank_numeral d numeral] at blank
      cases blank
    · cases numeral

/-- Which comments change nothing about a literal. Behind a literal it is none, and in front of one those
that are dropped, among them all without the mark `/*/`. -/
theorem literal_surrounded_iff (filler : List Char) (sequence : Filler IsComment filler) :
    (∀ cs, (literal? cs).isSome → (literal? (cs ++ filler) = literal? cs ↔ IsGap filler)) ∧
    ((∀ cs, (literal? cs).isSome → literal? (filler ++ cs) = literal? cs) ↔
      Filler IsDropped filler) ∧
    (¬ ['/', '*', '/'] <:+: filler → Filler IsDropped filler) := by
  refine ⟨?_, ⟨?_, ?_⟩, sequence.isDropped⟩
  · intro cs accepted
    obtain ⟨value, read⟩ := Option.isSome_iff_exists.mp accepted
    constructor
    · intro same
      refine sequence.slash_mem.resolve_right fun slash => ?_
      exact literal?_behind cs filler value read slash (same.trans read)
    · exact literal?_before_gap cs filler
  · intro unchanged
    have zero : literal? ['0'] = some (.num (.int 0)) := by decide +kernel
    apply isDropped_of_digit sequence (.int 0)
    rw [unchanged ['0'] (Option.isSome_of_eq_some zero), zero]
  · exact fun dropped cs _ => literal?_behind_dropped filler cs dropped

theorem Filler.of_block (rest : List Char) (closed : blockEnd? rest = some (rest, [])) :
    Filler IsComment ('/' :: '*' :: rest) := by
  have alone := Filler.comment _ [] (isComment_block rest closed) .nil
  rwa [List.append_nil] at alone

theorem literal_surrounded_red : Filler IsComment "/* red */".toList ∧
    literal? ("/* red */".toList ++ ['5']) = literal? ['5'] ∧
    literal? (['5'] ++ "/* red */".toList) ≠ literal? ['5'] := by
  have comment : Filler IsComment "/* red */".toList := .of_block _ (by decide +kernel)
  have five : (literal? ['5']).isSome := by decide +kernel
  obtain ⟨behind, before, apart⟩ := literal_surrounded_iff _ comment
  refine ⟨comment, before.mpr (apart (by decide)) ['5'] five, ?_⟩
  intro same
  have blank := (behind ['5'] five).mp same '/' (by decide)
  cases blank

/-- A comment behind a number, and one in front of it that starts with a closing mark as well. -/
theorem literal_lost_to_comment :
    Filler IsComment " /* five */".toList ∧ Filler IsComment "/*/ five */".toList ∧
    literal? "5".toList = some (.num (.int 5)) ∧
    literal? ("5".toList ++ " /* five */".toList) = none ∧
    literal? ("/*/ five */".toList ++ "5".toList) = none := by
  have first : Filler IsComment " /* five */".toList :=
    .blank ' ' _ (by decide) (.of_block _ (by decide +kernel))
  have second : Filler IsComment "/*/ five */".toList := .of_block _ (by decide +kernel)
  exact ⟨first, second, by decide +kernel, by decide +kernel, by decide +kernel⟩

end ApiAssembly.Scan
