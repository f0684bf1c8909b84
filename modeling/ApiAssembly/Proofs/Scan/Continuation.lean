import ApiAssembly.Proofs.Text.Lines
import ApiAssembly.Scan.Bracket
/-! Scanning a text that goes on. What the scanner has taken from the front of a text it takes again when
more text follows, as long as it stopped before the end: a closed block is closed by the same
bracket, whatever stands behind it. -/
namespace ApiAssembly.Scan
open Text

/-! Literals and comments. -/

theorem quote_cases (c : Char) (quotes : isQuote c = true) : c = '\'' ∨ c = '"' ∨ c = '\x60' := by
  simpa [isQuote, or_assoc] using quotes

theorem isBlank_quote (c : Char) (quotes : isQuote c = true) : isBlank c = false := by
  rcases quote_cases c quotes with rfl | rfl | rfl <;> decide

theorem quoteEnd?_plain (quote c : Char) (rest : List Char) (plain : c ≠ '\\') :
    quoteEnd? quote (c :: rest) = if c = quote then some ([c], rest)
      else (quoteEnd? quote rest).map fun found => (c :: found.1, found.2) := by
  rw [quoteEnd?]
  · exact fun escape => absurd escape plain
  · exact fun _ _ escape => absurd escape plain

theorem ne_backslash (c : Char) (tail : List Char) (lone : c = '\\' → tail = [] → False)
    (escape : ∀ d rest, c = '\\' → tail = d :: rest → False) : c ≠ '\\' := by
  intro backslash
  cases tail with
  | nil => exact lone backslash rfl
  | cons d rest => exact escape d rest backslash rfl

theorem quoteEnd?_continued (quote : Char) (cs text rest more : List Char)
    (found : quoteEnd? quote cs = some (text, rest)) :
    quoteEnd? quote (cs ++ more) = some (text, rest ++ more) := by
  fun_induction quoteEnd? quote cs generalizing text rest with
  | case1 => cases found
  | case2 => cases found
  | case3 c tail ih =>
    obtain ⟨pair, inner, same⟩ := Option.map_eq_some_iff.mp found
    cases same
    rw [List.cons_append, List.cons_append, quoteEnd?, ih pair.1 pair.2 inner]
    rfl
  | case4 tail lone escape =>
    cases found
    rw [List.cons_append, quoteEnd?_plain _ _ _ (ne_backslash _ tail lone escape), if_pos rfl]
  | case5 c tail lone escape differ ih =>
    obtain ⟨pair, inner, same⟩ := Option.map_eq_some_iff.mp found
    cases same
    rw [List.cons_append, quoteEnd?_plain _ _ _ (ne_backslash c tail lone escape), if_neg differ,
      ih pair.1 pair.2 inner]
    rfl

theorem blockEnd?_continued (cs text rest more : List Char)
    (found : blockEnd? cs = some (text, rest)) :
    blockEnd? (cs ++ more) = some (text, rest ++ more) := by
  fun_induction blockEnd? cs generalizing text rest with
  | case1 => cases found
  | case2 tail =>
    cases found
    rfl
  | case3 c tail unclosed ih =>
    obtain ⟨pair, inner, same⟩ := Option.map_eq_some_iff.mp found
    cases same
    cases tail with
    | nil => cases inner
    | cons d behind =>
      have still : ∀ other, c = '*' → d :: behind ++ more = '/' :: other → False := by
        intro other star slash
        cases slash
        exact unclosed behind star rfl
      rw [List.cons_append, blockEnd?, ih pair.1 pair.2 inner]
      · rfl
      · exact still

theorem lineEnd_continued (cs more : List Char) (inside : (lineEnd cs).2 ≠ []) :
    lineEnd (cs ++ more) = ((lineEnd cs).1, (lineEnd cs).2 ++ more) := by
  induction cs with
  | nil => exact absurd rfl inside
  | cons c rest ih =>
    rw [List.cons_append, lineEnd, lineEnd]
    rw [lineEnd] at inside
    by_cases newline : c = '\n'
    · rw [if_pos newline, if_pos newline]
    · rw [if_neg newline] at inside
      rw [if_neg newline, if_neg newline, ih inside]

theorem ofFound_taken (head : List Char) (found : Option (List Char × List Char))
    (text rest : List Char) (taken : Trivia.ofFound head found = .taken text rest) :
    ∃ inner, found = some (inner, rest) ∧ text = head ++ inner := by
  cases found with
  | none => cases taken
  | some pair =>
    cases taken
    exact ⟨pair.1, rfl, rfl⟩

/-- A line comment may go on with the text, and only at its very end. -/
theorem trivia_continued (cs text rest more : List Char) (taken : trivia cs = .taken text rest)
    (inside : rest ≠ []) : trivia (cs ++ more) = .taken text (rest ++ more) := by
  unfold trivia at taken
  split at taken
  · rename_i tail
    obtain ⟨inner, found, rfl⟩ := ofFound_taken _ _ _ _ taken
    have parts := Option.some.inj found
    have after : (lineEnd tail).2 = rest := by rw [parts]
    rw [List.cons_append, List.cons_append, trivia, lineEnd_continued tail more (after ▸ inside),
      parts]
    rfl
  · rename_i tail
    obtain ⟨inner, found, rfl⟩ := ofFound_taken _ _ _ _ taken
    rw [List.cons_append, List.cons_append, trivia, blockEnd?_continued _ _ _ more found]
    rfl
  · rename_i c tail line block
    split at taken
    · rename_i quotes
      obtain ⟨inner, found, rfl⟩ := ofFound_taken _ _ _ _ taken
      have plain : c ≠ '/' := by
        rintro rfl
        cases quotes
      rw [List.cons_append, trivia, if_pos quotes, quoteEnd?_continued _ _ _ _ more found]
      · rfl
      · exact fun _ slash => absurd slash plain
      · exact fun _ slash => absurd slash plain
    · cases taken
  · cases taken

theorem ofFound_ne_absent (head : List Char) (found : Option (List Char × List Char)) :
    Trivia.ofFound head found ≠ .absent := by
  cases found with
  | none => exact nofun
  | some _ => exact nofun

theorem trivia_eq_absent_iff (c : Char) (rest : List Char) :
    trivia (c :: rest) = .absent ↔
      isQuote c = false ∧ (c = '/' → rest.head? ≠ some '/' ∧ rest.head? ≠ some '*') := by
  constructor
  · intro absent
    unfold trivia at absent
    split at absent
    · exact absurd absent (ofFound_ne_absent _ _)
    · exact absurd absent (ofFound_ne_absent _ _)
    · rename_i d tail line block shape
      cases shape
      split at absent
      · exact absurd absent (ofFound_ne_absent _ _)
      · rename_i plain
        refine ⟨Bool.eq_false_iff.mpr plain, ?_⟩
        intro slash
        constructor
        · intro second
          obtain ⟨behind, shape⟩ := List.head?_eq_some_iff.mp second
          exact line behind slash shape
        · intro second
          obtain ⟨behind, shape⟩ := List.head?_eq_some_iff.mp second
          exact block behind slash shape
    · rename_i shape
      cases shape
  · rintro ⟨plain, alone⟩
    rw [trivia, if_neg (Bool.eq_false_iff.mp plain)]
    · intro behind slash shape
      exact (alone slash).1 (by rw [shape]; rfl)
    · intro behind slash shape
      exact (alone slash).2 (by rw [shape]; rfl)

/-- A character that starts no literal and no comment starts none when the text goes on, but for a
slash that was the last one. -/
theorem trivia_absent_continued (c : Char) (rest more : List Char)
    (absent : trivia (c :: rest) = .absent) (inside : rest ≠ [] ∨ c ≠ '/') :
    trivia (c :: (rest ++ more)) = .absent := by
  obtain ⟨plain, alone⟩ := (trivia_eq_absent_iff c rest).mp absent
  rw [trivia_eq_absent_iff]
  refine ⟨plain, ?_⟩
  intro slash
  rcases inside with filled | other
  · obtain ⟨d, behind, rfl⟩ := List.exists_cons_of_ne_nil filled
    exact alone slash
  · exact absurd slash other

/-! Blocks. One equation for each thing that can stand in front of the text. -/

theorem blockFrom_nil (awaited : List Char) : blockFrom awaited [] = none := by
  rw [blockFrom]
  rfl

theorem blockFrom_taken (awaited cs text rest : List Char) (taken : trivia cs = .taken text rest) :
    blockFrom awaited cs =
      (blockFrom awaited rest).map fun block => (text ++ block.1, block.2) := by
  rw [blockFrom]
  split
  · rename_i unclosed
    rw [taken] at unclosed
    cases unclosed
  · rename_i text' rest' same
    rw [taken] at same
    cases same
    rfl
  · rename_i absent
    rw [taken] at absent
    cases absent

theorem blockFrom_absent (awaited : List Char) (c : Char) (rest : List Char)
    (absent : trivia (c :: rest) = .absent) :
    blockFrom awaited (c :: rest) =
      match closer? c with
      | some close => (blockFrom (close :: awaited) rest).map fun block => (c :: block.1, block.2)
      | none =>
        if isCloser c then
          match awaited with
          | [] => none
          | close :: outer =>
            if close = c then
              if outer.isEmpty then some ([], rest)
              else (blockFrom outer rest).map fun block => (c :: block.1, block.2)
            else none
        else (blockFrom awaited rest).map fun block => (c :: block.1, block.2) := by
  rw [blockFrom]
  split
  · rename_i unclosed
    rw [absent] at unclosed
    cases unclosed
  · rename_i same
    rw [absent] at same
    cases same
  · rfl

theorem blockFrom_filled (awaited cs : List Char) (block : List Char × List Char)
    (closed : blockFrom awaited cs = some block) : cs ≠ [] := by
  rintro rfl
  rw [blockFrom_nil] at closed
  cases closed

theorem ne_slash_of_isCloser (c : Char) (closes : isCloser c = true) : c ≠ '/' := by
  rintro rfl
  cases closes

-- The scan never stops on a literal, a comment or a slash, so there always is text behind these.
theorem blockFrom_continued (awaited cs inside rest more : List Char)
    (found : blockFrom awaited cs = some (inside, rest)) :
    blockFrom awaited (cs ++ more) = some (inside, rest ++ more) := by
  fun_induction blockFrom awaited cs generalizing inside rest with
  | case1 => cases found
  | case2 awaited cs text tail taken ih =>
    obtain ⟨pair, inner, same⟩ := Option.map_eq_some_iff.mp found
    cases same
    have again := trivia_continued cs text tail more taken (blockFrom_filled _ _ _ inner)
    rw [blockFrom_taken _ _ _ _ again, ih pair.1 pair.2 inner]
    rfl
  | case3 => cases found
  | case4 awaited c tail absent close opens ih =>
    obtain ⟨pair, inner, same⟩ := Option.map_eq_some_iff.mp found
    cases same
    have again := trivia_absent_continued c tail more absent (Or.inl (blockFrom_filled _ _ _ inner))
    rw [List.cons_append, blockFrom_absent _ _ _ again, opens]
    simp only [ih pair.1 pair.2 inner]
    rfl
  | case5 => cases found
  | case6 tail c outer last absent plain closes =>
    cases found
    have again := trivia_absent_continued c tail more absent
      (Or.inr (ne_slash_of_isCloser c closes))
    rw [List.cons_append, blockFrom_absent _ _ _ again, plain]
    simp [closes, last]
  | case7 tail c outer open_ absent plain closes ih =>
    obtain ⟨pair, inner, same⟩ := Option.map_eq_some_iff.mp found
    cases same
    have again := trivia_absent_continued c tail more absent
      (Or.inr (ne_slash_of_isCloser c closes))
    rw [List.cons_append, blockFrom_absent _ _ _ again, plain]
    simp [closes, open_, ih pair.1 pair.2 inner]
  | case8 => cases found
  | case9 awaited c tail absent plain other ih =>
    obtain ⟨pair, inner, same⟩ := Option.map_eq_some_iff.mp found
    cases same
    have again := trivia_absent_continued c tail more absent (Or.inl (blockFrom_filled _ _ _ inner))
    rw [List.cons_append, blockFrom_absent _ _ _ again, plain]
    simp [other, ih pair.1 pair.2 inner]

theorem block?_continued (cs inside rest more : List Char)
    (found : block? cs = some (inside, rest)) :
    block? (cs ++ more) = some (inside, rest ++ more) := by
  cases cs with
  | nil => cases found
  | cons c tail =>
    obtain ⟨close, opens, closed⟩ := Option.bind_eq_some_iff.mp found
    rw [List.cons_append, block?, opens, Option.bind_some]
    exact blockFrom_continued [close] tail inside rest more closed

end ApiAssembly.Scan
