import ApiAssembly.Proofs.Bytewise.Trivia
import ApiAssembly.Proofs.Scan.Agreement
import ApiAssembly.Proofs.Scan.Balance
/-! Blocks and lists by position. One loop looks for the closing bracket, with the awaited brackets on a
stack; the other cuts at commas and only counts how many brackets are open. Both end because what is
passed over gets on, and both find what the readers of characters find. -/
namespace ApiAssembly.Bytewise
open Scan

def closerByte? (b : UInt8) : Option UInt8 :=
  if b = '\x7b'.toUInt8 then some '\x7d'.toUInt8
  else if b = '('.toUInt8 then some ')'.toUInt8
  else if b = '['.toUInt8 then some ']'.toUInt8
  else none

def isCloserByte (b : UInt8) : Bool :=
  b = '\x7d'.toUInt8 || b = ')'.toUInt8 || b = ']'.toUInt8

/-- The position of the bracket that closes the last of the open ones. -/
def matchFrom (bs : List UInt8) (awaited : List UInt8) (position : Nat) :
    Except Fault (Option Nat) :=
  if position < bs.length then
    match _passed : skipTrivia bs position with
    | .error fault => .error fault
    | .ok .unclosed => .ok none
    | .ok (.past next) => matchFrom bs awaited next
    | .ok .absent => do
      let b ← byteAt bs position
      match closerByte? b with
      | some close => matchFrom bs (close :: awaited) (position + 1)
      | none =>
        if isCloserByte b then
          match awaited with
          | [] => pure none
          | close :: outer =>
            if close = b then
              if outer.isEmpty then pure (some position) else matchFrom bs outer (position + 1)
            else pure none
        else matchFrom bs awaited (position + 1)
  else .ok none
termination_by bs.length - position
decreasing_by
  all_goals try have := skipTrivia_past bs position _ _passed
  all_goals omega

def findMatching (cs : List Char) (opening : Nat) : Except Fault (Option Nat) :=
  match (bytes cs)[opening]?.bind closerByte? with
  | some close => matchFrom (bytes cs) [close] (opening + 1)
  | none => .ok none

/-- The pieces from a position on; the first one starts at `start`. -/
def splitFrom (body : List Char) (depth start position : Nat) :
    Except Fault (Option (List (List Char))) :=
  if position < (bytes body).length then
    match _passed : skipTrivia (bytes body) position with
    | .error fault => .error fault
    | .ok .unclosed => .ok none
    | .ok (.past next) => splitFrom body depth start next
    | .ok .absent => do
      let b ← byteAt (bytes body) position
      if (closerByte? b).isSome then splitFrom body (depth + 1) start (position + 1)
      else if isCloserByte b then
        if depth = 0 then pure none else splitFrom body (depth - 1) start (position + 1)
      else if b = ','.toUInt8 ∧ depth = 0 then
        let piece ← slice body start position
        let later ← splitFrom body 0 (position + 1) (position + 1)
        pure (later.map fun pieces => piece :: pieces)
      else splitFrom body depth start (position + 1)
  else if depth = 0 then do
    let piece ← slice body start (size body)
    pure (some [piece])
  else .ok none
termination_by (bytes body).length - position
decreasing_by
  all_goals try have := skipTrivia_past (bytes body) position _ _passed
  all_goals omega

def splitTopLevel (body : List Char) : Except Fault (Option (List (List Char))) := do
  let pieces ← splitFrom body 0 0 0
  pure (pieces.map fun pieces => (pieces.map bare).filter (! ·.isEmpty))

/-! One equation for each thing that can stand at a position. -/

theorem skipTrivia_large (bs : List UInt8) (position : Nat) (b : UInt8)
    (byte : bs[position]? = some b) (large : 128 ≤ b) : skipTrivia bs position = .ok .absent := by
  have other := ne_of_large '/' (by decide) b large
  have unquoted : isQuoteByte b = false := by
    simp [isQuoteByte, ne_of_large _ _ b large]
  rw [skipTrivia, byteAt, byte]
  simp only [ok_bind, unquoted, other, false_and, Bool.false_eq_true, if_false]
  rfl

section Blocks
variable (bs awaited : List UInt8) (position : Nat)

theorem matchFrom_behind (behind : bs.length ≤ position) :
    matchFrom bs awaited position = .ok none := by
  rw [matchFrom, if_neg (Nat.not_lt_of_le behind)]

theorem matchFrom_unclosed (inside : position < bs.length)
    (skip : skipTrivia bs position = .ok .unclosed) : matchFrom bs awaited position = .ok none := by
  rw [matchFrom, if_pos inside]
  split <;> simp_all

theorem matchFrom_past (next : Nat) (inside : position < bs.length)
    (skip : skipTrivia bs position = .ok (.past next)) :
    matchFrom bs awaited position = matchFrom bs awaited next := by
  rw [matchFrom, if_pos inside]
  split <;> simp_all

theorem matchFrom_absent (b : UInt8) (byte : bs[position]? = some b)
    (skip : skipTrivia bs position = .ok .absent) :
    matchFrom bs awaited position =
      match closerByte? b with
      | some close => matchFrom bs (close :: awaited) (position + 1)
      | none =>
        if isCloserByte b then
          match awaited with
          | [] => .ok none
          | close :: outer =>
            if close = b then
              if outer.isEmpty then .ok (some position) else matchFrom bs outer (position + 1)
            else .ok none
        else matchFrom bs awaited (position + 1) := by
  have inside := (List.getElem?_eq_some_iff.mp byte).1
  rw [matchFrom, if_pos inside]
  split
  · simp_all
  · simp_all
  · simp_all
  · rw [byteAt, byte]
    rfl

end Blocks

/-! Brackets as bytes and as characters. -/

theorem closerByte?_lead (c : Char) : closerByte? (lead c) = (closer? c).map Char.toUInt8 := by
  simp only [closerByte?, closer?, lead_eq_iff '\x7b' (by decide), lead_eq_iff '(' (by decide),
    lead_eq_iff '[' (by decide)]
  split_ifs <;> rfl

theorem isCloserByte_lead (c : Char) : isCloserByte (lead c) = isCloser c := by
  simp only [isCloserByte, isCloser, lead_eq_iff '\x7d' (by decide), lead_eq_iff ')' (by decide),
    lead_eq_iff ']' (by decide)]

theorem brackets_large (b : UInt8) (large : 128 ≤ b) :
    closerByte? b = none ∧ isCloserByte b = false := by
  simp [closerByte?, isCloserByte, ne_of_large _ _ b large]

theorem isCloser_ascii (c : Char) (closes : isCloser c = true) : c.toNat < 128 := by
  simp only [isCloser, Bool.or_eq_true, decide_eq_true_eq] at closes
  rcases closes with (rfl | rfl) | rfl <;> decide

theorem closer?_ascii (opening closing : Char) (opens : closer? opening = some closing) :
    opening.toNat < 128 ∧ closing.toNat < 128 := by
  rcases closer?_cases _ _ opens with ⟨rfl, rfl⟩ | ⟨rfl, rfl⟩ | ⟨rfl, rfl⟩ <;> decide

theorem toUInt8_eq_lead_iff (close c : Char) (closes : isCloser close = true) :
    close.toUInt8 = lead c ↔ close = c := by
  rw [eq_comm, lead_eq_iff close (isCloser_ascii close closes), eq_comm]

theorem matchFrom_character (before : List Char) (c : Char) (rest : List Char)
    (awaited : List UInt8) :
    matchFrom (bytes (before ++ c :: rest)) awaited (size before + 1) =
      matchFrom (bytes (before ++ c :: rest)) awaited (size (before ++ [c])) := by
  refine passed_character before c rest _ fun position b byte large => ?_
  obtain ⟨opensNone, closesNone⟩ := brackets_large b large
  rw [matchFrom_absent _ _ _ b byte (skipTrivia_large _ _ b byte large), opensNone, closesNone]
  rfl

/-- What one character does that starts no literal and no comment. -/
theorem matchFrom_step (before : List Char) (c : Char) (rest : List Char) (awaited : List UInt8)
    (absent : trivia (c :: rest) = .absent) :
    matchFrom (bytes (before ++ c :: rest)) awaited (size before) =
      match closer? c with
      | some close =>
        matchFrom (bytes (before ++ c :: rest)) (close.toUInt8 :: awaited) (size (before ++ [c]))
      | none =>
        if isCloser c then
          match awaited with
          | [] => .ok none
          | close :: outer =>
            if close = lead c then
              if outer.isEmpty then .ok (some (size before))
              else matchFrom (bytes (before ++ c :: rest)) outer (size (before ++ [c]))
            else .ok none
        else matchFrom (bytes (before ++ c :: rest)) awaited (size (before ++ [c])) := by
  have skip := skipTrivia_eq before c rest
  rw [absent] at skip
  rw [matchFrom_absent _ _ _ _ (bytes_at before c rest) skip, closerByte?_lead, isCloserByte_lead]
  simp only [matchFrom_character]
  cases closer? c <;> rfl

theorem filled_of_trivia (cs : List Char) (present : trivia cs ≠ .absent) :
    ∃ c rest, cs = c :: rest := by
  cases cs with
  | nil => exact absurd rfl present
  | cons c rest => exact ⟨c, rest, rfl⟩

theorem matchFrom_eq (awaited cs before : List Char)
    (closers : ∀ close ∈ awaited, isCloser close = true) :
    matchFrom (bytes (before ++ cs)) (awaited.map Char.toUInt8) (size before) =
      .ok ((blockFrom awaited cs).map fun block => size (before ++ block.1)) := by
  fun_induction blockFrom awaited cs generalizing before with
  | case1 awaited cs unclosed =>
    obtain ⟨c, rest, rfl⟩ := filled_of_trivia cs (by simp [unclosed])
    have skip := skipTrivia_eq before c rest
    rw [unclosed] at skip
    exact matchFrom_unclosed _ _ _ (size_lt before c rest) skip
  | case2 awaited cs text tail taken ih =>
    obtain ⟨c, rest, rfl⟩ := filled_of_trivia cs (by simp [taken])
    have skip := skipTrivia_eq before c rest
    have later := ih (before ++ text) closers
    rw [taken] at skip
    rw [List.append_assoc, ← (trivia_append _ text tail taken).1] at later
    rw [matchFrom_past _ _ _ _ (size_lt before c rest) skip, later, Option.map_map]
    simp only [Function.comp_def, List.append_assoc]
  | case3 =>
    rw [List.append_nil]
    exact matchFrom_behind _ _ _ (Nat.le_refl _)
  | case4 awaited c tail absent close opens ih =>
    have later := ih (before ++ [c])
      (List.forall_mem_cons.mpr ⟨(isCloser_closing c close opens).2, closers⟩)
    rw [List.append_assoc, List.singleton_append, List.map_cons] at later
    rw [matchFrom_step before c tail _ absent, opens]
    simp only [later, Option.map_map, Function.comp_def, List.append_assoc, List.singleton_append]
  | case5 c tail absent plain closes =>
    rw [matchFrom_step before c tail _ absent, plain]
    simp [closes]
  | case6 tail c outer last absent plain closes =>
    rw [matchFrom_step before c tail _ absent, plain]
    simp [closes, last, toUInt8_eq_lead_iff c c closes]
  | case7 tail c outer further absent plain closes ih =>
    have later := ih (before ++ [c]) (List.forall_mem_cons.mp closers).2
    rw [List.append_assoc, List.singleton_append] at later
    rw [matchFrom_step before c tail _ absent, plain]
    simp [closes, further, toUInt8_eq_lead_iff c c closes, later, Function.comp_def]
  | case8 c tail absent plain closes close outer differ =>
    have other := toUInt8_eq_lead_iff close c (closers close List.mem_cons_self)
    rw [matchFrom_step before c tail _ absent, plain]
    simp [closes, other, differ]
  | case9 awaited c tail absent plain other ih =>
    have later := ih (before ++ [c]) closers
    rw [List.append_assoc, List.singleton_append] at later
    rw [matchFrom_step before c tail _ absent, plain]
    simp [other, later, Function.comp_def]

theorem findMatching_at (before cs : List Char) :
    findMatching (before ++ cs) (size before) =
      .ok ((block? cs).map fun block => size before + 1 + size block.1) := by
  cases cs with
  | nil =>
    rw [List.append_nil, findMatching, size, List.getElem?_eq_none (Nat.le_refl _)]
    rfl
  | cons c rest =>
    rw [findMatching, bytes_at, Option.bind_some, closerByte?_lead, block?]
    cases opens : closer? c with
    | none => rfl
    | some close =>
      have closes := (isCloser_closing c close opens).2
      have found := matchFrom_eq [close] rest (before ++ [c]) (by simpa using closes)
      have ascii := (closer?_ascii c close opens).1
      rw [List.append_assoc, List.singleton_append, size_concat_ascii before c ascii] at found
      simp only [Option.map_some, Option.bind_some]
      rw [← List.map_singleton, found]
      simp only [size_append, size_concat_ascii before c ascii]

/-- A position is between characters, or neither of both finds a bracket there. -/
theorem position_cases (cs : List Char) (position : Nat) :
    (∃ before rest, cs = before ++ rest ∧ position = size before) ∨
      (bytes cs)[position]?.bind closerByte? = none ∧ block? (splitBytes position cs).2 = none := by
  induction cs generalizing position with
  | nil =>
    cases position with
    | zero => exact .inl ⟨[], [], rfl, rfl⟩
    | succ position => exact .inr ⟨rfl, rfl⟩
  | cons c rest ih =>
    by_cases whole : c.utf8Size ≤ position
    · rcases ih (position - c.utf8Size) with ⟨before, behind, rfl, same⟩ | nothing
      · refine .inl ⟨c :: before, behind, rfl, ?_⟩
        rw [size_cons]
        omega
      · rw [bytes, List.flatMap_cons, List.getElem?_append_right (by simpa using whole),
          String.length_utf8EncodeChar, splitBytes, if_pos whole]
        exact .inr nothing
    · cases position with
      | zero => exact .inl ⟨[], c :: rest, rfl, rfl⟩
      | succ position =>
        have long : position < (continuation c).length := by
          have count := String.length_utf8EncodeChar c
          rw [encode_eq, List.length_cons] at count
          omega
        have large : 128 ≤ c.toNat := by
          by_contra small
          rw [continuation_ascii c (Nat.lt_of_not_le small)] at long
          cases long
        have first : (128 : UInt8) ≤ lead c := UInt8.le_trans (by decide) (encode_large c large).1
        have opensNone : closer? c = none := by
          have none := (brackets_large _ first).1
          rwa [closerByte?_lead, Option.map_eq_none_iff] at none
        have byte := large_continuation c _ (List.getElem_mem long)
        right
        rw [bytes_cons, List.getElem?_cons_succ, List.getElem?_append_left long,
          List.getElem?_eq_getElem long, Option.bind_some, splitBytes, if_neg whole, block?,
          opensNone]
        exact ⟨(brackets_large _ byte).1, rfl⟩

/-- The closing bracket is found from any position at all, and by both in the same place. -/
theorem findMatching_eq (cs : List Char) (opening : Nat) :
    findMatching cs opening =
      .ok ((block? (splitBytes opening cs).2).map fun block => opening + 1 + size block.1) := by
  rcases position_cases cs opening with ⟨before, rest, rfl, rfl⟩ | ⟨noByte, noBlock⟩
  · rw [findMatching_at, splitBytes_size]
  · rw [findMatching, noByte, noBlock]
    rfl

/-- Between the brackets of a block stands its inside. -/
theorem slice_block (before text inside rest : List Char)
    (found : block? text = some (inside, rest)) :
    slice (before ++ text) (size before + 1) (size before + 1 + size inside) = .ok inside := by
  obtain ⟨opening, closing, opens, rfl⟩ := block?_parts _ _ _ found
  have front := size_concat_ascii before opening (closer?_ascii _ _ opens).1
  have part := slice_part (before ++ [opening]) inside (closing :: rest)
  rwa [size_append (before ++ [opening]), front, List.append_assoc] at part

/-! Pieces by position. -/

section Pieces
variable (body : List Char) (depth start position : Nat)

theorem splitFrom_end :
    splitFrom body depth start (size body) =
      if depth = 0 then do
        let piece ← slice body start (size body)
        pure (some [piece])
      else .ok none := by
  have ended : ¬ size body < (bytes body).length := Nat.lt_irrefl _
  rw [splitFrom, if_neg ended]

theorem splitFrom_unclosed (inside : position < (bytes body).length)
    (skip : skipTrivia (bytes body) position = .ok .unclosed) :
    splitFrom body depth start position = .ok none := by
  rw [splitFrom, if_pos inside]
  split <;> simp_all

theorem splitFrom_past (next : Nat) (inside : position < (bytes body).length)
    (skip : skipTrivia (bytes body) position = .ok (.past next)) :
    splitFrom body depth start position = splitFrom body depth start next := by
  rw [splitFrom, if_pos inside]
  split <;> simp_all

theorem splitFrom_absent (b : UInt8) (byte : (bytes body)[position]? = some b)
    (skip : skipTrivia (bytes body) position = .ok .absent) :
    splitFrom body depth start position =
      if (closerByte? b).isSome then splitFrom body (depth + 1) start (position + 1)
      else if isCloserByte b then
        if depth = 0 then .ok none else splitFrom body (depth - 1) start (position + 1)
      else if b = ','.toUInt8 ∧ depth = 0 then do
        let piece ← slice body start position
        let later ← splitFrom body 0 (position + 1) (position + 1)
        pure (later.map fun pieces => piece :: pieces)
      else splitFrom body depth start (position + 1) := by
  have inside := (List.getElem?_eq_some_iff.mp byte).1
  rw [splitFrom, if_pos inside]
  split
  · simp_all
  · simp_all
  · simp_all
  · rw [byteAt, byte]
    rfl

end Pieces

theorem splitFrom_character (before : List Char) (c : Char) (rest : List Char)
    (depth start : Nat) :
    splitFrom (before ++ c :: rest) depth start (size before + 1) =
      splitFrom (before ++ c :: rest) depth start (size (before ++ [c])) := by
  refine passed_character before c rest _ fun position b byte large => ?_
  obtain ⟨opensNone, closesNone⟩ := brackets_large b large
  have other := ne_of_large ',' (by decide) b large
  rw [splitFrom_absent _ _ _ _ b byte (skipTrivia_large _ _ b byte large), opensNone, closesNone]
  simp [other]

theorem splitFrom_step (before : List Char) (c : Char) (rest : List Char) (depth start : Nat)
    (absent : trivia (c :: rest) = .absent) :
    splitFrom (before ++ c :: rest) depth start (size before) =
      if (closer? c).isSome then
        splitFrom (before ++ c :: rest) (depth + 1) start (size (before ++ [c]))
      else if isCloser c then
        if depth = 0 then .ok none
        else splitFrom (before ++ c :: rest) (depth - 1) start (size (before ++ [c]))
      else if c = ',' ∧ depth = 0 then do
        let piece ← slice (before ++ c :: rest) start (size before)
        let later ← splitFrom (before ++ c :: rest) 0 (size before + 1) (size (before ++ [c]))
        pure (later.map fun pieces => piece :: pieces)
      else splitFrom (before ++ c :: rest) depth start (size (before ++ [c])) := by
  have skip := skipTrivia_eq before c rest
  rw [absent] at skip
  rw [splitFrom_absent _ _ _ _ _ (bytes_at before c rest) skip, closerByte?_lead, isCloserByte_lead]
  simp only [splitFrom_character, lead_eq_iff ',' (by decide), Option.isSome_map]

/-- A character more of the current piece is a character less in front of the loop. -/
theorem splitFrom_grown (before piece tail : List Char) (c : Char) (depth : Nat)
    (found : Except Fault (Option (List (List Char))))
    (later : splitFrom (before ++ (c :: piece).reverse ++ tail) depth (size before)
      (size (before ++ (c :: piece).reverse)) = found) :
    splitFrom (before ++ piece.reverse ++ c :: tail) depth (size before)
      (size (before ++ piece.reverse ++ [c])) = found := by
  rwa [List.reverse_cons, ← List.append_assoc, List.append_assoc (before ++ piece.reverse)] at later

/-- Of the current piece the reader of characters keeps the characters, and the loop its start. -/
theorem splitFrom_eq (depth : Nat) (piece cs before : List Char) :
    splitFrom (before ++ piece.reverse ++ cs) depth (size before) (size (before ++ piece.reverse)) =
      .ok (piecesFrom depth piece cs) := by
  fun_induction piecesFrom depth piece cs generalizing before with
  | case1 depth piece cs unclosed =>
    obtain ⟨c, rest, rfl⟩ := filled_of_trivia cs (by simp [unclosed])
    have skip := skipTrivia_eq (before ++ piece.reverse) c rest
    rw [unclosed] at skip
    exact splitFrom_unclosed _ _ _ _ (size_lt _ c rest) skip
  | case2 depth piece cs text tail taken ih =>
    obtain ⟨c, rest, rfl⟩ := filled_of_trivia cs (by simp [taken])
    have skip := skipTrivia_eq (before ++ piece.reverse) c rest
    have later := ih before
    rw [taken] at skip
    simp only [List.reverse_append, List.reverse_reverse, List.append_assoc,
      ← (trivia_append _ text tail taken).1] at later
    rw [splitFrom_past _ _ _ _ _ (size_lt _ c rest) skip]
    simp only [List.append_assoc, later]
  | case3 piece =>
    have whole := slice_part before piece.reverse []
    rw [List.append_nil] at whole
    rw [List.append_nil, splitFrom_end, if_pos rfl, whole]
    rfl
  | case4 depth piece _ nested =>
    rw [List.append_nil, splitFrom_end, if_neg nested]
  | case5 depth piece c tail absent opens ih =>
    rw [splitFrom_step _ c tail _ _ absent, if_pos opens]
    exact splitFrom_grown before piece tail c _ _ (ih before)
  | case6 piece c tail absent plain closes =>
    rw [splitFrom_step _ c tail _ _ absent, if_neg plain, if_pos closes, if_pos rfl]
  | case7 piece c tail absent plain closes depth ih =>
    rw [splitFrom_step _ c tail _ _ absent, if_neg plain, if_pos closes, if_neg (Nat.succ_ne_zero _)]
    exact splitFrom_grown before piece tail c _ _ (ih before)
  | case8 depth piece c tail absent plain other separates ih =>
    have part := slice_part before piece.reverse (c :: tail)
    have later := ih (before ++ piece.reverse ++ [c])
    have comma := separates.1
    subst c
    rw [← List.append_assoc] at part
    rw [List.reverse_nil, List.append_nil, List.append_assoc (before ++ piece.reverse),
      List.singleton_append, size_concat_ascii _ ',' (by decide)] at later
    rw [splitFrom_step _ ',' tail _ _ absent, if_neg plain, if_neg other, if_pos separates, part,
      ok_bind, size_concat_ascii _ ',' (by decide), later, ok_bind]
    rfl
  | case9 depth piece c tail absent plain other inside ih =>
    rw [splitFrom_step _ c tail _ _ absent, if_neg plain, if_neg other, if_neg inside]
    exact splitFrom_grown before piece tail c _ _ (ih before)

theorem splitTopLevel_eq (body : List Char) : splitTopLevel body = .ok (pieces? body) := by
  have whole := splitFrom_eq 0 [] body []
  rw [List.reverse_nil, List.append_nil, List.nil_append] at whole
  rw [splitTopLevel]
  change (splitFrom body 0 (size []) (size []) >>= _) = _
  rw [whole]
  rfl

/-! Both loops on one block. -/

/-- A closing bracket that is found stands behind the opening one and is of its kind. The text between
them is always split, and its pieces are filled and stand in it one behind the other. -/
theorem matched_block_splits (cs : List Char) (opening closing : Nat)
    (found : findMatching cs opening = .ok (some closing)) :
    ∃ before bracket inside close behind pieces,
      cs = before ++ bracket :: (inside ++ close :: behind) ∧
      opening = size before ∧ closing = size (before ++ bracket :: inside) ∧ opening < closing ∧
      closer? bracket = some close ∧ (bytes cs)[opening]? = some bracket.toUInt8 ∧
      (bytes cs)[closing]? = some close.toUInt8 ∧
      block? (bracket :: (inside ++ close :: behind)) = some (inside, behind) ∧
      slice cs (opening + 1) closing = .ok inside ∧
      pieces? inside = some pieces ∧ splitTopLevel inside = .ok (some pieces) ∧
      (∀ piece ∈ pieces, piece ≠ []) ∧ InOrder pieces inside := by
  rcases position_cases cs opening with ⟨before, text, rfl, rfl⟩ | ⟨_, nothing⟩
  · rw [findMatching_at, Except.ok.injEq] at found
    obtain ⟨⟨inside, behind⟩, block, rfl⟩ := Option.map_eq_some_iff.mp found
    have part := slice_block before text inside behind block
    obtain ⟨bracket, close, opens, rfl⟩ := block?_parts _ _ _ block
    obtain ⟨openingAscii, closingAscii⟩ := closer?_ascii _ _ opens
    obtain ⟨pieces, split⟩ := pieces?_inside _ _ _ block
    have place : size before + 1 + size inside = size (before ++ bracket :: inside) := by
      rw [← List.singleton_append, ← List.append_assoc, size_append,
        size_concat_ascii before bracket openingAscii]
    have first := bytes_at before bracket (inside ++ close :: behind)
    have last := bytes_at (before ++ bracket :: inside) close behind
    rw [lead_ascii bracket openingAscii] at first
    rw [lead_ascii close closingAscii, List.append_assoc, List.cons_append, ← place] at last
    exact ⟨before, bracket, inside, close, behind, pieces, rfl, rfl, place, by omega, opens, first,
      last, block, part, split, by rw [splitTopLevel_eq, split], pieces?_filled inside pieces split,
      pieces?_inOrder inside pieces split⟩
  · rw [findMatching_eq, nothing] at found
    cases found

/-- Brackets in quotes and in comments do not count, and the text in front is longer in bytes. -/
theorem matched_block_splits_quoted :
    findMatching "é = [a, 'ü]', /* ] */ (b, c),]".toList 5 = .ok (some 31) ∧
    ∃ inside pieces,
      slice "é = [a, 'ü]', /* ] */ (b, c),]".toList 6 31 = .ok inside ∧
      splitTopLevel inside = .ok (some pieces) ∧ InOrder pieces inside := by
  have found : findMatching "é = [a, 'ü]', /* ] */ (b, c),]".toList 5 = .ok (some 31) := by
    decide +kernel
  obtain ⟨_, _, inside, _, _, pieces, _, _, _, _, _, _, _, _, part, _, split, _, order⟩ :=
    matched_block_splits _ _ _ found
  exact ⟨found, inside, pieces, part, split, order⟩

end ApiAssembly.Bytewise
