import ApiAssembly.Proofs.Scan.QuotedText
import ApiAssembly.Proofs.Scan.Trimming
/-! The inside of a block against the list it is split into. The scan for the closing bracket has the rest
of the text in front of it, the split has only the part in front of that bracket. What the scan has
taken ends in front of the bracket too, so the split takes the same literals and comments, and it
counts as many open brackets as the scan awaits, but for the one around the whole. -/
namespace ApiAssembly.Scan
open Text

/-! Literals and comments in a text that is cut off behind them. -/

theorem quoteEnd?_alone (quote : Char) (cs text rest : List Char)
    (found : quoteEnd? quote cs = some (text, rest)) : quoteEnd? quote text = some (text, []) := by
  fun_induction quoteEnd? quote cs generalizing text rest with
  | case1 => cases found
  | case2 => cases found
  | case3 c tail ih =>
    obtain ⟨pair, inner, same⟩ := Option.map_eq_some_iff.mp found
    cases same
    rw [quoteEnd?, ih pair.1 pair.2 inner]
    rfl
  | case4 tail lone escape =>
    cases found
    rw [quoteEnd?_plain _ _ _ (ne_backslash _ tail lone escape), if_pos rfl]
  | case5 c tail lone escape differ ih =>
    obtain ⟨pair, inner, same⟩ := Option.map_eq_some_iff.mp found
    cases same
    rw [quoteEnd?_plain _ _ _ (ne_backslash c tail lone escape), if_neg differ,
      ih pair.1 pair.2 inner]
    rfl

/-- A line that does not end with the text ends with a break. -/
theorem lineEnd_broken (cs : List Char) (behind : (lineEnd cs).2 ≠ []) :
    ∃ inside, '\n' ∉ inside ∧ (lineEnd cs).1 = inside ++ ['\n'] := by
  by_cases broken : '\n' ∈ cs
  · obtain ⟨inside, rest, rfl, one⟩ := List.eq_append_cons_of_mem broken
    exact ⟨inside, one, by rw [lineEnd_concat inside rest one]⟩
  · rw [lineEnd_of_not_mem cs broken] at behind
    exact absurd rfl behind

/-- What was taken in front of more text is taken whatever stands there. -/
theorem trivia_again (cs text rest more : List Char) (taken : trivia cs = .taken text rest)
    (behind : rest ≠ []) : trivia (text ++ more) = .taken text more := by
  unfold trivia at taken
  split at taken
  · rename_i tail
    cases taken
    obtain ⟨inside, one, line⟩ := lineEnd_broken tail behind
    rw [line]
    exact (isComment_line inside one).2 more
  · rename_i tail
    obtain ⟨inner, found, rfl⟩ := ofFound_taken _ _ _ _ taken
    exact (isComment_block inner (blockEnd?_alone _ _ _ found)).2 more
  · rename_i c tail line block
    split at taken
    · rename_i quotes
      obtain ⟨inner, found, rfl⟩ := ofFound_taken _ _ _ _ taken
      have again := quoteEnd?_continued _ _ _ _ more (quoteEnd?_alone _ _ _ _ found)
      rw [List.append_assoc, List.singleton_append, trivia_quote _ _ quotes, again]
      rfl
    · cases taken
  · cases taken

/-- A character starts no literal and no comment either when what stands behind it is cut off. -/
theorem trivia_absent_cut (c : Char) (rest behind : List Char)
    (absent : trivia (c :: (rest ++ behind)) = .absent) : trivia (c :: rest) = .absent := by
  obtain ⟨plain, alone⟩ := (trivia_eq_absent_iff c _).mp absent
  rw [trivia_eq_absent_iff]
  refine ⟨plain, fun slash => ?_⟩
  cases rest with
  | nil => exact ⟨nofun, nofun⟩
  | cons d more => exact alone slash

/-! The bracket behind the inside of a block. -/

/-- It is the one that was awaited last of all. -/
theorem blockFrom_closes (awaited cs inside rest : List Char) (opened : awaited ≠ [])
    (found : blockFrom awaited cs = some (inside, rest)) :
    ∃ close, awaited.getLast? = some close ∧ cs = inside ++ close :: rest := by
  fun_induction blockFrom awaited cs generalizing inside rest with
  | case1 => cases found
  | case2 awaited cs text tail taken ih =>
    obtain ⟨pair, inner, same⟩ := Option.map_eq_some_iff.mp found
    cases same
    obtain ⟨close, last, whole⟩ := ih pair.1 pair.2 opened inner
    refine ⟨close, last, ?_⟩
    rw [(trivia_append cs text tail taken).1, whole, List.append_assoc]
  | case3 => cases found
  | case4 awaited c tail _ _ _ ih =>
    obtain ⟨pair, inner, same⟩ := Option.map_eq_some_iff.mp found
    cases same
    obtain ⟨close, last, whole⟩ := ih pair.1 pair.2 (List.cons_ne_nil _ _) inner
    rw [List.getLast?_cons_of_ne_nil opened] at last
    exact ⟨close, last, congrArg (c :: ·) whole⟩
  | case5 => cases found
  | case6 tail c outer last =>
    cases found
    obtain rfl := List.isEmpty_iff.mp last
    exact ⟨c, rfl, rfl⟩
  | case7 tail c outer further _ _ _ ih =>
    have filled : outer ≠ [] := by simpa using further
    obtain ⟨pair, inner, same⟩ := Option.map_eq_some_iff.mp found
    cases same
    obtain ⟨close, last, whole⟩ := ih pair.1 pair.2 filled inner
    rw [List.getLast?_cons_of_ne_nil filled]
    exact ⟨close, last, congrArg (c :: ·) whole⟩
  | case8 => cases found
  | case9 awaited c tail _ _ _ ih =>
    obtain ⟨pair, inner, same⟩ := Option.map_eq_some_iff.mp found
    cases same
    obtain ⟨close, last, whole⟩ := ih pair.1 pair.2 opened inner
    exact ⟨close, last, congrArg (c :: ·) whole⟩

theorem block?_parts (text inside rest : List Char) (found : block? text = some (inside, rest)) :
    ∃ opening closing, closer? opening = some closing ∧
      text = opening :: (inside ++ closing :: rest) := by
  cases text with
  | nil => cases found
  | cons opening tail =>
    obtain ⟨closing, opens, inner⟩ := Option.bind_eq_some_iff.mp found
    obtain ⟨close, last, rfl⟩ := blockFrom_closes [closing] tail _ _ (List.cons_ne_nil _ _) inner
    cases last
    exact ⟨opening, closing, opens, rfl⟩

/-! The split of the inside. -/

theorem trivia_absent_inside (awaited : List Char) (c : Char) (cs inside rest : List Char)
    (opened : awaited ≠ []) (found : blockFrom awaited cs = some (inside, rest))
    (absent : trivia (c :: cs) = .absent) : trivia (c :: inside) = .absent := by
  obtain ⟨close, _, whole⟩ := blockFrom_closes awaited cs inside rest opened found
  rw [whole] at absent
  exact trivia_absent_cut c inside (close :: rest) absent

-- The stack of the scan has one bracket more than the split counts: that of the block itself.
theorem piecesFrom_inside (awaited cs inside rest : List Char) (opened : awaited ≠ [])
    (found : blockFrom awaited cs = some (inside, rest)) (piece : List Char) :
    ∃ pieces, piecesFrom (awaited.length - 1) piece inside = some pieces := by
  fun_induction blockFrom awaited cs generalizing inside rest piece with
  | case1 => cases found
  | case2 awaited cs text tail taken ih =>
    obtain ⟨pair, inner, same⟩ := Option.map_eq_some_iff.mp found
    cases same
    have again := trivia_again cs text tail pair.1 taken (blockFrom_filled _ _ _ inner)
    rw [piecesFrom_taken _ _ _ _ _ again]
    exact ih pair.1 pair.2 opened inner _
  | case3 => cases found
  | case4 awaited c tail absent close opens ih =>
    obtain ⟨pair, inner, same⟩ := Option.map_eq_some_iff.mp found
    cases same
    have inBlock := trivia_absent_inside _ c tail _ _ (List.cons_ne_nil _ _) inner absent
    have deeper : awaited.length - 1 + 1 = (close :: awaited).length - 1 :=
      Nat.sub_add_cancel (List.length_pos_iff.mpr opened)
    rw [piecesFrom_absent _ _ _ _ inBlock, opens, Option.isSome_some,
      if_pos rfl, deeper]
    exact ih pair.1 pair.2 (List.cons_ne_nil _ _) inner _
  | case5 => cases found
  | case6 tail c outer last =>
    cases found
    obtain rfl := List.isEmpty_iff.mp last
    exact ⟨_, piecesFrom_end piece⟩
  | case7 tail c outer further absent plain closes ih =>
    have filled : outer ≠ [] := by simpa using further
    obtain ⟨pair, inner, same⟩ := Option.map_eq_some_iff.mp found
    cases same
    have inBlock := trivia_absent_inside _ c tail _ _ filled inner absent
    have deeper : (c :: outer).length - 1 = outer.length - 1 + 1 :=
      (Nat.sub_add_cancel (List.length_pos_iff.mpr filled)).symm
    rw [piecesFrom_absent _ _ _ _ inBlock, plain, deeper]
    simp only [closes, Option.isSome_none, Bool.false_eq_true, if_true, if_false]
    exact ih pair.1 pair.2 filled inner _
  | case8 => cases found
  | case9 awaited c tail absent plain other ih =>
    obtain ⟨pair, inner, same⟩ := Option.map_eq_some_iff.mp found
    cases same
    have inBlock := trivia_absent_inside _ c tail _ _ opened inner absent
    rw [piecesFrom_absent _ _ _ _ inBlock, plain]
    simp only [other, Option.isSome_none, Bool.false_eq_true, if_false]
    split
    · rename_i separates
      obtain ⟨later, split⟩ := ih pair.1 pair.2 opened inner []
      rw [separates.2] at split
      exact ⟨_, by rw [split]; rfl⟩
    · exact ih pair.1 pair.2 opened inner _

/-- The inside of a block is never unbalanced. -/
theorem pieces?_inside (text inside rest : List Char) (found : block? text = some (inside, rest)) :
    ∃ pieces, pieces? inside = some pieces := by
  cases text with
  | nil => cases found
  | cons opening tail =>
    obtain ⟨closing, _, inner⟩ := Option.bind_eq_some_iff.mp found
    obtain ⟨pieces, split⟩ := piecesFrom_inside [closing] tail _ _ (List.cons_ne_nil _ _) inner []
    exact ⟨_, congrArg (Option.map _) split⟩

/-! Where the pieces stand. -/

/-- Parts of a text, one behind the other: each starts where the last one has ended, or later. -/
inductive InOrder : List (List Char) → List Char → Prop
  | nil (cs : List Char) : InOrder [] cs
  | cons (before part behind : List Char) (parts : List (List Char))
      (later : InOrder parts behind) : InOrder (part :: parts) (before ++ (part ++ behind))

theorem InOrder.behind {parts : List (List Char)} {cs : List Char} (order : InOrder parts cs)
    (before : List Char) : InOrder parts (before ++ cs) := by
  cases order with
  | nil => exact .nil _
  | cons gap part behind parts later =>
    rw [← List.append_assoc]
    exact .cons (before ++ gap) part behind parts later

theorem piecesFrom_inOrder (depth : Nat) (piece cs : List Char) (pieces : List (List Char))
    (found : piecesFrom depth piece cs = some pieces) : InOrder pieces (piece.reverse ++ cs) := by
  fun_induction piecesFrom depth piece cs generalizing pieces with
  | case1 => cases found
  | case2 depth piece cs text tail taken ih =>
    have order := ih pieces found
    rwa [List.reverse_append, List.reverse_reverse, List.append_assoc,
      ← (trivia_append cs text tail taken).1] at order
  | case3 piece =>
    cases found
    exact .cons [] piece.reverse [] [] (.nil [])
  | case4 => cases found
  | case5 depth piece c tail _ _ ih =>
    have order := ih pieces found
    rwa [List.reverse_cons, List.append_assoc] at order
  | case6 => cases found
  | case7 piece c tail _ _ _ depth ih =>
    have order := ih pieces found
    rwa [List.reverse_cons, List.append_assoc] at order
  | case8 depth piece c tail _ _ _ _ ih =>
    obtain ⟨later, inner, same⟩ := Option.map_eq_some_iff.mp found
    cases same
    exact .cons [] piece.reverse (c :: tail) later ((ih later inner).behind [c])
  | case9 depth piece c tail _ _ _ _ ih =>
    have order := ih pieces found
    rwa [List.reverse_cons, List.append_assoc] at order

/-- Trimming leaves a part of the text. -/
theorem bare_part (cs : List Char) (filled : bare cs ≠ []) :
    ∃ before behind, cs = before ++ (bare cs ++ behind) := by
  obtain ⟨lead, c, rest, whole, _, _, left⟩ := bare_leadsTo cs filled
  obtain ⟨gap, _, parts⟩ := trimEnd_parts (c :: rest)
  refine ⟨lead, gap, ?_⟩
  rw [left, ← parts]
  exact whole

theorem InOrder.bare {parts : List (List Char)} {cs : List Char} (order : InOrder parts cs) :
    InOrder ((parts.map Scan.bare).filter (! ·.isEmpty)) cs := by
  induction order with
  | nil cs => exact .nil cs
  | cons before part behind parts _ ih =>
    by_cases empty : Scan.bare part = []
    · rw [List.map_cons, List.filter_cons_of_neg (by simp [empty])]
      exact (ih.behind part).behind before
    · obtain ⟨lead, gap, whole⟩ := bare_part part empty
      have shape := calc
        before ++ (part ++ behind) = before ++ (lead ++ (Scan.bare part ++ gap) ++ behind) := by
          rw [← whole]
        _ = (before ++ lead) ++ (Scan.bare part ++ (gap ++ behind)) := by simp
      rw [List.map_cons, List.filter_cons_of_pos (by simpa using empty), shape]
      exact .cons _ _ _ _ (ih.behind gap)

theorem pieces?_inOrder (cs : List Char) (pieces : List (List Char))
    (found : pieces? cs = some pieces) : InOrder pieces cs := by
  obtain ⟨raw, split, rfl⟩ := Option.map_eq_some_iff.mp found
  exact (piecesFrom_inOrder 0 [] cs raw split).bare

theorem pieces?_filled (cs : List Char) (pieces : List (List Char))
    (found : pieces? cs = some pieces) : ∀ piece ∈ pieces, piece ≠ [] := by
  obtain ⟨raw, _, rfl⟩ := Option.map_eq_some_iff.mp found
  intro piece member
  simpa using (List.mem_filter.mp member).2

end ApiAssembly.Scan
