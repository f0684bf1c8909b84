import ApiAssembly.Proofs.Scan.Surroundings
/-! Texts that the scanner passes over as a whole, whichever brackets are open around them. A balanced
text is one of them, and so is every closed block, also with a slash in it that starts no comment.
With them come the literals: what is read from a text is passed over with all that stands in front of
it, unless a free quote or the mark `/*/` makes the scanner and the reader part. -/
namespace ApiAssembly.Scan
open Text

/-! A closed block. The brackets around it lie below its own ones and are reached when it is closed. -/

theorem blockFrom_within (awaited outer cs inside rest : List Char)
    (found : blockFrom awaited cs = some (inside, rest)) (within : outer ≠ []) :
    ∃ text, cs = text ++ rest ∧ blockFrom (awaited ++ outer) cs =
      (blockFrom outer rest).map fun block => (text ++ block.1, block.2) := by
  fun_induction blockFrom awaited cs generalizing inside rest with
  | case1 => cases found
  | case2 awaited cs first tail taken ih =>
    obtain ⟨pair, inner, same⟩ := Option.map_eq_some_iff.mp found
    cases same
    obtain ⟨text, whole, passed⟩ := ih pair.1 pair.2 inner
    refine ⟨first ++ text, ?_, ?_⟩
    · rw [(trivia_append cs first tail taken).1, List.append_assoc, ← whole]
    · rw [blockFrom_taken _ _ _ _ taken, passed, Option.map_map]
      simp only [Function.comp_def, List.append_assoc]
  | case3 => cases found
  | case4 awaited c tail absent close opens ih =>
    obtain ⟨pair, inner, same⟩ := Option.map_eq_some_iff.mp found
    cases same
    obtain ⟨text, whole, passed⟩ := ih pair.1 pair.2 inner
    refine ⟨c :: text, congrArg (c :: ·) whole, ?_⟩
    rw [List.cons_append] at passed
    rw [blockFrom_absent _ _ _ absent, opens]
    simp only [passed, Option.map_map]
    rfl
  | case5 => cases found
  | case6 tail c outer' last absent plain closes =>
    cases found
    -- The scan ended here; now it goes on with the brackets that lie below.
    obtain rfl := List.isEmpty_iff.mp last
    refine ⟨[c], rfl, ?_⟩
    rw [blockFrom_absent _ _ _ absent, plain]
    simp [closes, within]
  | case7 tail c outer' further absent plain closes ih =>
    obtain ⟨pair, inner, same⟩ := Option.map_eq_some_iff.mp found
    cases same
    obtain ⟨text, whole, passed⟩ := ih pair.1 pair.2 inner
    refine ⟨c :: text, congrArg (c :: ·) whole, ?_⟩
    rw [blockFrom_absent _ _ _ absent, plain]
    simp [closes, within, passed, Function.comp_def]
  | case8 => cases found
  | case9 awaited c tail absent plain other ih =>
    obtain ⟨pair, inner, same⟩ := Option.map_eq_some_iff.mp found
    cases same
    obtain ⟨text, whole, passed⟩ := ih pair.1 pair.2 inner
    refine ⟨c :: text, congrArg (c :: ·) whole, ?_⟩
    rw [blockFrom_absent _ _ _ absent, plain]
    simp [other, passed, Function.comp_def]

/-- Each awaited bracket is one level of depth, and below the last one no comma separates. -/
theorem piecesFrom_within (awaited cs inside rest : List Char)
    (found : blockFrom awaited cs = some (inside, rest)) (opened : awaited ≠ []) (depth : Nat)
    (piece : List Char) :
    ∃ text, cs = text ++ rest ∧ piecesFrom (depth + awaited.length) piece cs =
      piecesFrom depth (text.reverse ++ piece) rest := by
  fun_induction blockFrom awaited cs generalizing inside rest piece with
  | case1 => cases found
  | case2 awaited cs first tail taken ih =>
    obtain ⟨pair, inner, same⟩ := Option.map_eq_some_iff.mp found
    cases same
    obtain ⟨text, whole, passed⟩ := ih pair.1 pair.2 inner opened (first.reverse ++ piece)
    refine ⟨first ++ text, ?_, ?_⟩
    · rw [(trivia_append cs first tail taken).1, List.append_assoc, ← whole]
    · rw [piecesFrom_taken _ _ _ _ _ taken, passed, List.reverse_append, List.append_assoc]
  | case3 => cases found
  | case4 awaited c tail absent close opens ih =>
    obtain ⟨pair, inner, same⟩ := Option.map_eq_some_iff.mp found
    cases same
    obtain ⟨text, whole, passed⟩ := ih pair.1 pair.2 inner (List.cons_ne_nil _ _) (c :: piece)
    refine ⟨c :: text, congrArg (c :: ·) whole, ?_⟩
    rw [List.length_cons, ← Nat.add_assoc] at passed
    rw [piecesFrom_absent _ _ _ _ absent, opens]
    simp [passed]
  | case5 => cases found
  | case6 tail c outer' last absent plain closes =>
    cases found
    obtain rfl := List.isEmpty_iff.mp last
    refine ⟨[c], rfl, ?_⟩
    rw [piecesFrom_absent _ _ _ _ absent, plain]
    simp [closes]
  | case7 tail c outer' further absent plain closes ih =>
    obtain ⟨pair, inner, same⟩ := Option.map_eq_some_iff.mp found
    cases same
    obtain ⟨text, whole, passed⟩ := ih pair.1 pair.2 inner (by simpa using further) (c :: piece)
    refine ⟨c :: text, congrArg (c :: ·) whole, ?_⟩
    rw [piecesFrom_absent _ _ _ _ absent, plain]
    simp [closes, ← Nat.add_assoc, passed]
  | case8 => cases found
  | case9 awaited c tail absent plain other ih =>
    obtain ⟨pair, inner, same⟩ := Option.map_eq_some_iff.mp found
    cases same
    obtain ⟨text, whole, passed⟩ := ih pair.1 pair.2 inner opened (c :: piece)
    refine ⟨c :: text, congrArg (c :: ·) whole, ?_⟩
    rw [piecesFrom_absent _ _ _ _ absent, plain]
    simp [other, opened, passed]

/-! Texts passed over. -/

/-- Both scans take all of the text and go on behind it with the brackets that were open before. -/
structure IsPassed (cs : List Char) : Prop where
  block : ∀ awaited more, awaited ≠ [] → blockFrom awaited (cs ++ more) =
    (blockFrom awaited more).map fun block => (cs ++ block.1, block.2)
  pieces : ∀ depth piece more,
    piecesFrom depth piece (cs ++ more) = piecesFrom depth (cs.reverse ++ piece) more

namespace IsPassed
variable {cs others : List Char}

theorem append (first : IsPassed cs) (second : IsPassed others) : IsPassed (cs ++ others) where
  block awaited more within := by
    rw [List.append_assoc, first.block awaited _ within, second.block awaited more within,
      Option.map_map]
    simp only [Function.comp_def, List.append_assoc]
  pieces depth piece more := by
    rw [List.append_assoc, first.pieces, second.pieces, List.reverse_append, List.append_assoc]

theorem of_balanced (balanced : Balanced false cs) : IsPassed cs :=
  ⟨blockFrom_balanced balanced, fun depth piece more =>
    piecesFrom_balanced balanced depth piece more nofun⟩

theorem of_block (inside : List Char) (closed : block? cs = some (inside, [])) : IsPassed cs := by
  obtain ⟨c, tail, rfl⟩ := List.exists_cons_of_ne_nil (l := cs) (by rintro rfl; cases closed)
  obtain ⟨close, opens, found⟩ := Option.bind_eq_some_iff.mp closed
  have further (more : List Char) : blockFrom [close] (tail ++ more) = some (inside, more) :=
    blockFrom_continued [close] tail inside [] more found
  constructor
  · intro awaited more within
    obtain ⟨text, whole, passed⟩ := blockFrom_within [close] awaited _ _ _ (further more) within
    obtain rfl := List.append_cancel_right whole
    rw [List.singleton_append] at passed
    rw [List.cons_append, blockFrom_absent _ _ _ (trivia_opening c close _ opens), opens]
    simp only [passed, Option.map_map]
    rfl
  · intro depth piece more
    obtain ⟨text, whole, passed⟩ := piecesFrom_within [close] _ _ _ (further more)
      (List.cons_ne_nil _ _) depth (c :: piece)
    obtain rfl := List.append_cancel_right whole
    rw [List.length_singleton] at passed
    rw [List.cons_append, piecesFrom_absent _ _ _ _ (trivia_opening c close _ opens), opens]
    simp [passed]

/-- A block around it ends at its own bracket. -/
theorem block?_around (passed : IsPassed cs) (opening closing : Char) (more : List Char)
    (opens : closer? opening = some closing) :
    block? (opening :: (cs ++ closing :: more)) = some (cs, more) := by
  obtain ⟨opensNone, closes⟩ := isCloser_closing _ _ opens
  rw [block?, opens, Option.bind_some, passed.block _ _ (List.cons_ne_nil _ _),
    blockFrom_absent _ _ _ (trivia_closing _ _ _ opens), opensNone]
  simp [closes]

theorem piecesFrom_alone (passed : IsPassed cs) : piecesFrom 0 [] cs = some [cs] := by
  have alone := passed.pieces 0 [] []
  rw [List.append_nil, List.append_nil] at alone
  rw [alone, piecesFrom_end, List.reverse_reverse]

end IsPassed

/-! Pieces. Of a text in a block it matters that the brace behind it is found, and no comma before. -/

/-- Put between braces, the text is all that stands in them, and it is not split. -/
def IsPiece (cs : List Char) : Prop :=
  block? ('\x7b' :: (cs ++ ['\x7d'])) = some (cs, []) ∧ piecesFrom 0 [] cs = some [cs]

theorem IsPassed.isPiece {cs : List Char} (passed : IsPassed cs) : IsPiece cs :=
  ⟨passed.block?_around _ _ [] rfl, passed.piecesFrom_alone⟩

/-- What was read of a piece before is the beginning of the first piece. -/
theorem piecesFrom_behind (depth : Nat) (piece before cs : List Char) (pieces : List (List Char))
    (found : piecesFrom depth piece cs = some pieces) :
    piecesFrom depth (piece ++ before) cs = some (pieces.modifyHead (before.reverse ++ ·)) := by
  fun_induction piecesFrom depth piece cs generalizing pieces with
  | case1 => cases found
  | case2 depth piece cs text tail taken ih =>
    rw [piecesFrom_taken _ _ _ _ _ taken, ← List.append_assoc, ih pieces found]
  | case3 piece =>
    cases found
    rw [piecesFrom_end, List.reverse_append]
    rfl
  | case4 => cases found
  | case5 depth piece c tail absent opens ih =>
    rw [piecesFrom_absent _ _ _ _ absent, if_pos opens]
    exact ih pieces found
  | case6 => cases found
  | case7 piece c tail absent plain closes depth ih =>
    rw [piecesFrom_absent _ _ _ _ absent, if_neg plain, if_pos closes]
    exact ih pieces found
  | case8 depth piece c tail absent plain other separates ih =>
    obtain ⟨later, inner, same⟩ := Option.map_eq_some_iff.mp found
    cases same
    rw [piecesFrom_absent _ _ _ _ absent, if_neg plain, if_neg other, if_pos separates, inner]
    simp
  | case9 depth piece c tail absent plain other inside ih =>
    rw [piecesFrom_absent _ _ _ _ absent, if_neg plain, if_neg other, if_neg inside]
    exact ih pieces found

theorem IsPiece.behind {cs others : List Char} (piece : IsPiece cs) (passed : IsPassed others) :
    IsPiece (others ++ cs) := by
  obtain ⟨closed, alone⟩ := piece
  constructor
  · change blockFrom ['\x7d'] (cs ++ ['\x7d']) = some (cs, []) at closed
    change blockFrom ['\x7d'] (others ++ cs ++ ['\x7d']) = some (others ++ cs, [])
    rw [List.append_assoc, passed.block _ _ (List.cons_ne_nil _ _), closed]
    rfl
  · have joined := piecesFrom_behind 0 [] others.reverse cs [cs] alone
    rw [List.nil_append, List.reverse_reverse] at joined
    rw [passed.pieces, List.append_nil, joined]
    rfl

/-! Literals. -/

theorem Filler.balanced {filler : List Char} (sequence : Filler IsComment filler) :
    Balanced false filler := by
  induction sequence with
  | nil => exact .nil
  | blank c rest blank _ ih =>
    obtain ⟨plain, other⟩ := isPlain_blank c blank
    exact .plain plain (fun comma => absurd comma other) ih
  | comment text rest complete _ ih => exact .taken complete.2 ih

/-- Names and numbers are written without marks. -/
theorem scalar_balanced (text : List Char) (value : Json) (read : scalar? text = some value)
    (other : ∀ content, value ≠ .str content) : Balanced false text := by
  rcases scalar?_cases text value read with ⟨named, _⟩ | ⟨inner, _, same⟩ | ⟨number, found, _⟩
  · have letters : ∀ name ∈ names, name.all isKeyChar = true := by decide
    exact .of_plain fun c member => isPlain_key c (List.all_eq_true.mp (letters text named) c member)
  · exact absurd same (other _)
  · exact .of_plain fun c member =>
      isPlain_of isNumeral (by decide) c (numerals_of_number text number found c member)

/-- Scanner and reader see the same literal: in front of it stand comments for both, and if it is a
string it is one quoted text. -/
structure SeenAlike (cs : List Char) : Prop where
  surrounded : ∃ lead gap, cs = lead ++ bare cs ++ gap ∧ Filler IsComment lead ∧ IsGap gap
  quoted : ∀ content, literal? cs = some (.str content) → IsQuotedText (bare cs)

theorem bare_isPassed (cs : List Char) (value : Json) (read : literal? cs = some value)
    (quoted : ∀ content, value = .str content → IsQuotedText (bare cs)) : IsPassed (bare cs) := by
  by_cases opens : (bare cs).head? = some '[' ∨ (bare cs).head? = some '\x7b'
  · obtain ⟨inside, closed⟩ := block_of_literal cs rfl value read opens
    -- It need not be balanced: the scanner passes over a slash that starts no comment.
    exact .of_block inside closed
  · obtain ⟨list, object⟩ := not_or.mp opens
    rw [literal?_scalar cs rfl list object] at read
    by_cases string : ∃ content, value = .str content
    · obtain ⟨content, same⟩ := string
      obtain ⟨quote, inside, quotes, shape, closes⟩ :=
        (isQuotedText_iff_closes _).mp (quoted content same)
      rw [shape]
      exact .of_balanced (closes.whole quotes).balanced
    · exact .of_balanced (scalar_balanced _ value read (not_exists.mp string))

/-- A literal that both see alike is passed over with the blanks and comments around it. -/
theorem SeenAlike.isPassed {cs : List Char} (alike : SeenAlike cs) (value : Json)
    (read : literal? cs = some value) : IsPassed cs := by
  obtain ⟨lead, gap, parts, comments, blank⟩ := alike.surrounded
  have whole := bare_isPassed cs value read fun content same => alike.quoted content (same ▸ read)
  rw [parts]
  exact ((IsPassed.of_balanced comments.balanced).append whole).append
    (.of_balanced (.of_gap gap blank))

end ApiAssembly.Scan
