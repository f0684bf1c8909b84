import ApiAssembly.Proofs.Scan.Continuation
/-! Balanced texts. A text in which each bracket is closed and each literal and comment ends is passed
over as a whole by both scanners, whichever brackets are open around it. So a block of balanced
pieces ends at its own bracket, and splitting it at its commas gives the pieces back. -/
namespace ApiAssembly.Scan

/-- No literal, comment or bracket starts or ends at such a character. -/
def isPlain (c : Char) : Bool := !isQuote c && (closer? c).isNone && !isCloser c && c != '/'

/-- Texts that open and close what they hold. Whether commas may stand outside of brackets is the
parameter; inside of brackets they always may. -/
inductive Balanced : Bool → List Char → Prop
  | nil {commas : Bool} : Balanced commas []
  | plain {commas : Bool} {c : Char} {rest : List Char} (passed : isPlain c = true)
      (apart : c = ',' → commas = true) (behind : Balanced commas rest) :
      Balanced commas (c :: rest)
  | taken {commas : Bool} {text rest : List Char}
      (whole : ∀ more, trivia (text ++ more) = .taken text more) (behind : Balanced commas rest) :
      Balanced commas (text ++ rest)
  | block {commas : Bool} {opening closing : Char} {inside rest : List Char}
      (opens : closer? opening = some closing) (inner : Balanced true inside)
      (behind : Balanced commas rest) :
      Balanced commas (opening :: (inside ++ closing :: rest))

namespace Balanced
variable {commas : Bool} {cs others : List Char}

theorem append (first : Balanced commas cs) (second : Balanced commas others) :
    Balanced commas (cs ++ others) := by
  induction first with
  | nil => exact second
  | plain passed apart _ ih => exact .plain passed apart (ih second)
  | taken whole _ ih =>
    rw [List.append_assoc]
    exact .taken whole (ih second)
  | block opens inner _ _ ih =>
    rw [List.cons_append, List.append_assoc, List.cons_append]
    exact .block opens inner (ih second)

theorem withCommas (balanced : Balanced commas cs) : Balanced true cs := by
  induction balanced with
  | nil => exact .nil
  | plain passed _ _ ih => exact .plain passed (fun _ => rfl) ih
  | taken whole _ ih => exact .taken whole ih
  | block opens inner _ _ ih => exact .block opens inner ih

theorem of_plain (passed : ∀ c ∈ cs, isPlain c = true ∧ c ≠ ',') : Balanced commas cs := by
  induction cs with
  | nil => exact .nil
  | cons c rest ih =>
    obtain ⟨head, tail⟩ := List.forall_mem_cons.mp passed
    exact .plain head.1 (fun comma => absurd comma head.2) (ih tail)

theorem of_block {opening closing : Char} (opens : closer? opening = some closing)
    (inner : Balanced true cs) : Balanced commas (opening :: (cs ++ [closing])) :=
  .block opens inner .nil

/-- A list of pieces has no commas outside of brackets but those between its pieces. -/
theorem intercalate {pieces : List (List Char)} (each : ∀ piece ∈ pieces, Balanced commas piece) :
    Balanced true ([','].intercalate pieces) := by
  induction pieces with
  | nil => exact .nil
  | cons piece rest ih =>
    obtain ⟨head, tail⟩ := List.forall_mem_cons.mp each
    cases rest with
    | nil =>
      rw [List.intercalate_singleton]
      exact head.withCommas
    | cons next more =>
      rw [List.intercalate_cons_cons, List.append_assoc]
      exact head.withCommas.append (.plain (by decide) (fun _ => rfl) (ih tail))

end Balanced

/-! What the two scanners do at a character that starts no literal and no comment. -/

theorem trivia_absent_of (c : Char) (rest : List Char) (unquoted : isQuote c = false)
    (other : c ≠ '/') : trivia (c :: rest) = .absent :=
  (trivia_eq_absent_iff c rest).mpr ⟨unquoted, fun slash => absurd slash other⟩

theorem isPlain_iff (c : Char) : isPlain c = true ↔
    isQuote c = false ∧ closer? c = none ∧ isCloser c = false ∧ c ≠ '/' := by
  simp [isPlain, and_assoc]

theorem closer?_cases (opening closing : Char) (opens : closer? opening = some closing) :
    (opening = '\x7b' ∧ closing = '\x7d') ∨ (opening = '(' ∧ closing = ')') ∨
      (opening = '[' ∧ closing = ']') := by
  unfold closer? at opens
  split at opens
  · exact .inl ⟨‹_›, (Option.some.inj opens).symm⟩
  split at opens
  · exact .inr (.inl ⟨‹_›, (Option.some.inj opens).symm⟩)
  split at opens
  · exact .inr (.inr ⟨‹_›, (Option.some.inj opens).symm⟩)
  · cases opens

theorem trivia_opening (opening closing : Char) (rest : List Char)
    (opens : closer? opening = some closing) : trivia (opening :: rest) = .absent := by
  rcases closer?_cases _ _ opens with ⟨rfl, _⟩ | ⟨rfl, _⟩ | ⟨rfl, _⟩ <;>
    exact trivia_absent_of _ rest (by decide) (by decide)

theorem trivia_closing (opening closing : Char) (rest : List Char)
    (opens : closer? opening = some closing) : trivia (closing :: rest) = .absent := by
  rcases closer?_cases _ _ opens with ⟨_, rfl⟩ | ⟨_, rfl⟩ | ⟨_, rfl⟩ <;>
    exact trivia_absent_of _ rest (by decide) (by decide)

theorem isCloser_closing (opening closing : Char) (opens : closer? opening = some closing) :
    closer? closing = none ∧ isCloser closing = true := by
  rcases closer?_cases _ _ opens with ⟨_, rfl⟩ | ⟨_, rfl⟩ | ⟨_, rfl⟩ <;> decide

theorem piecesFrom_taken (depth : Nat) (piece cs text rest : List Char)
    (taken : trivia cs = .taken text rest) :
    piecesFrom depth piece cs = piecesFrom depth (text.reverse ++ piece) rest := by
  rw [piecesFrom]
  split
  · rename_i unclosed
    rw [taken] at unclosed
    cases unclosed
  · rename_i text' rest' same
    rw [taken] at same
    cases same
    rfl
  · rename_i absent
    rw [taken] at absent
    cases absent

theorem piecesFrom_absent (depth : Nat) (piece : List Char) (c : Char) (rest : List Char)
    (absent : trivia (c :: rest) = .absent) :
    piecesFrom depth piece (c :: rest) =
      if (closer? c).isSome then piecesFrom (depth + 1) (c :: piece) rest
      else if isCloser c then
        match depth with
        | 0 => none
        | depth + 1 => piecesFrom depth (c :: piece) rest
      else if c = ',' ∧ depth = 0 then
        (piecesFrom 0 [] rest).map fun pieces => piece.reverse :: pieces
      else piecesFrom depth (c :: piece) rest := by
  rw [piecesFrom]
  split
  · rename_i unclosed
    rw [absent] at unclosed
    cases unclosed
  · rename_i same
    rw [absent] at same
    cases same
  · rfl

theorem piecesFrom_end (piece : List Char) : piecesFrom 0 piece [] = some [piece.reverse] := by
  rw [piecesFrom]
  simp [trivia]

/-! Passing over balanced texts. -/

theorem blockFrom_balanced {commas : Bool} {cs : List Char} (balanced : Balanced commas cs)
    (awaited more : List Char) (within : awaited ≠ []) :
    blockFrom awaited (cs ++ more) =
      (blockFrom awaited more).map fun block => (cs ++ block.1, block.2) := by
  induction balanced generalizing awaited more with
  | nil => simp
  | @plain _ c rest passed _ _ ih =>
    obtain ⟨unquoted, opensNone, closesNone, other⟩ := (isPlain_iff c).mp passed
    rw [List.cons_append, blockFrom_absent _ _ _ (trivia_absent_of c _ unquoted other), opensNone]
    simp only [closesNone, Bool.false_eq_true, if_false, ih awaited more within, Option.map_map]
    rfl
  | @taken _ text rest whole _ ih =>
    rw [List.append_assoc, blockFrom_taken _ _ _ _ (whole (rest ++ more)), ih awaited more within,
      Option.map_map]
    simp only [Function.comp_def, List.append_assoc]
  | @block _ opening closing inside rest opens _ _ innerIh behindIh =>
    obtain ⟨opensNone, closes⟩ := isCloser_closing _ _ opens
    obtain ⟨awaitedFirst, awaitedRest, rfl⟩ := List.exists_cons_of_ne_nil within
    -- The inner bracket is awaited in front of the outer ones, and its end is met behind the inside.
    rw [List.cons_append, blockFrom_absent _ _ _ (trivia_opening _ _ _ opens), opens]
    simp only [List.append_assoc, List.cons_append]
    rw [innerIh (closing :: awaitedFirst :: awaitedRest) _ (List.cons_ne_nil _ _),
      blockFrom_absent _ _ _ (trivia_closing _ _ _ opens), opensNone]
    simp only [closes, List.isEmpty_cons, Bool.false_eq_true, if_true, if_false,
      behindIh _ more within, Option.map_map]
    simp only [Function.comp_def]

theorem piecesFrom_balanced {commas : Bool} {cs : List Char} (balanced : Balanced commas cs)
    (depth : Nat) (piece more : List Char) (inner : commas = true → 0 < depth) :
    piecesFrom depth piece (cs ++ more) = piecesFrom depth (cs.reverse ++ piece) more := by
  induction balanced generalizing depth piece more with
  | nil => rfl
  | @plain _ c rest passed apart _ ih =>
    obtain ⟨unquoted, opensNone, closesNone, other⟩ := (isPlain_iff c).mp passed
    have joined : ¬ (c = ',' ∧ depth = 0) := by
      rintro ⟨comma, outside⟩
      have := inner (apart comma)
      omega
    rw [List.cons_append, piecesFrom_absent _ _ _ _ (trivia_absent_of c _ unquoted other), opensNone]
    simp only [closesNone, joined, Option.isSome_none, Bool.false_eq_true, if_false]
    rw [ih depth (c :: piece) more inner, List.reverse_cons, List.append_assoc]
    rfl
  | @taken _ text rest whole _ ih =>
    rw [List.append_assoc, piecesFrom_taken _ _ _ _ _ (whole (rest ++ more)), ih depth _ more inner,
      List.reverse_append, List.append_assoc]
  | @block _ opening closing inside rest opens _ _ innerIh behindIh =>
    obtain ⟨opensNone, closes⟩ := isCloser_closing _ _ opens
    rw [List.cons_append, piecesFrom_absent _ _ _ _ (trivia_opening _ _ _ opens), opens]
    simp only [Option.isSome_some, if_true, List.append_assoc, List.cons_append]
    rw [innerIh (depth + 1) _ _ (fun _ => Nat.succ_pos depth),
      piecesFrom_absent _ _ _ _ (trivia_closing _ _ _ opens), opensNone]
    simp only [closes, Option.isSome_none, Bool.false_eq_true, if_true, if_false]
    rw [behindIh depth _ more inner]
    simp

/-- The commas between balanced pieces are where a list is split. -/
theorem piecesFrom_intercalate (pieces : List (List Char)) (filled : pieces ≠ [])
    (each : ∀ piece ∈ pieces, Balanced false piece) :
    piecesFrom 0 [] ([','].intercalate pieces) = some pieces := by
  induction pieces with
  | nil => exact absurd rfl filled
  | cons piece rest ih =>
    obtain ⟨head, tail⟩ := List.forall_mem_cons.mp each
    have passed := piecesFrom_balanced head 0 []
    simp only [Bool.false_eq_true, false_implies, List.append_nil, forall_const] at passed
    cases rest with
    | nil =>
      have alone := passed []
      rw [List.append_nil] at alone
      rw [List.intercalate_singleton, alone, piecesFrom_end, List.reverse_reverse]
    | cons next more =>
      rw [List.intercalate_cons_cons, List.append_assoc, passed, List.singleton_append,
        piecesFrom_absent _ _ _ _ (trivia_absent_of ',' _ (by decide) (by decide)),
        ih (List.cons_ne_nil _ _) tail, List.reverse_reverse]
      rfl

/-- A block of balanced text ends at its own closing bracket. -/
theorem block?_balanced (opening closing : Char) (inside more : List Char)
    (opens : closer? opening = some closing) (balanced : Balanced true inside) :
    block? (opening :: (inside ++ closing :: more)) = some (inside, more) := by
  obtain ⟨opensNone, closes⟩ := isCloser_closing _ _ opens
  rw [block?, opens, Option.bind_some, blockFrom_balanced balanced _ _ (List.cons_ne_nil _ _),
    blockFrom_absent _ _ _ (trivia_closing _ _ _ opens), opensNone]
  simp [closes]

end ApiAssembly.Scan
