import ApiAssembly.Scan.Trivia
import ApiAssembly.Text.Whitespace
/-! Blocks between brackets and lists between commas. Brackets inside literals and comments do not
count; each closing bracket must be of the kind opened last. -/
namespace ApiAssembly.Scan
open Text

def closer? (c : Char) : Option Char :=
  if c = '\x7b' then some '\x7d'
  else if c = '(' then some ')'
  else if c = '[' then some ']'
  else none

def isCloser (c : Char) : Bool := c = '\x7d' || c = ')' || c = ']'

/-- The text up to the bracket that closes the last of the open ones, and the text behind it.
The open brackets are listed by their closing ones, innermost first. -/
def blockFrom (awaited : List Char) (cs : List Char) : Option (List Char × List Char) :=
  match _taken : trivia cs with
  | .unclosed => none
  | .taken text rest =>
    (blockFrom awaited rest).map fun block => (text ++ block.1, block.2)
  | .absent =>
    match cs with
    | [] => none
    | c :: rest =>
      match closer? c with
      | some close => (blockFrom (close :: awaited) rest).map fun block => (c :: block.1, block.2)
      | none =>
        if isCloser c then
          match awaited with
          | [] => none
          | close :: outer =>
            if close = c then
              if outer.isEmpty then some ([], rest)
              else (blockFrom outer rest).map fun block => (c :: block.1, block.2)
            else none
        else (blockFrom awaited rest).map fun block => (c :: block.1, block.2)
termination_by cs.length
decreasing_by
  all_goals first
    | exact trivia_shorter _ _ _ _taken
    | simp

/-- The inside of the block that starts with the text, and what follows the block. -/
def block? : List Char → Option (List Char × List Char)
  | [] => none
  | c :: rest => (closer? c).bind fun close => blockFrom [close] rest

/-- The pieces between commas outside of brackets; the current piece is kept
last character first. -/
def piecesFrom (depth : Nat) (piece : List Char) (cs : List Char) : Option (List (List Char)) :=
  match _taken : trivia cs with
  | .unclosed => none
  | .taken text rest => piecesFrom depth (text.reverse ++ piece) rest
  | .absent =>
    match cs with
    | [] => if depth = 0 then some [piece.reverse] else none
    | c :: rest =>
      if (closer? c).isSome then piecesFrom (depth + 1) (c :: piece) rest
      else if isCloser c then
        match depth with
        | 0 => none
        | depth + 1 => piecesFrom depth (c :: piece) rest
      else if c = ',' ∧ depth = 0 then
        (piecesFrom 0 [] rest).map fun pieces => piece.reverse :: pieces
      else piecesFrom depth (c :: piece) rest
termination_by cs.length
decreasing_by
  all_goals first
    | exact trivia_shorter _ _ _ _taken
    | simp

theorem blockFrom_append (awaited cs inside rest : List Char)
    (found : blockFrom awaited cs = some (inside, rest)) :
    ∃ close, isCloser close = true ∧ cs = inside ++ close :: rest := by
  fun_induction blockFrom awaited cs generalizing inside rest with
  | case1 => simp at found
  | case2 awaited cs text tail taken ih =>
    obtain ⟨pair, inner, same⟩ := Option.map_eq_some_iff.mp found
    obtain ⟨close, closes, shorter⟩ := ih pair.1 pair.2 inner
    cases same
    exact ⟨close, closes, by simp [(trivia_append cs text tail taken).1, shorter]⟩
  | case3 => simp at found
  | case4 awaited c tail _ close opens ih =>
    obtain ⟨pair, inner, same⟩ := Option.map_eq_some_iff.mp found
    obtain ⟨close, closes, shorter⟩ := ih pair.1 pair.2 inner
    cases same
    exact ⟨close, closes, by simp [shorter]⟩
  | case5 => simp at found
  | case6 =>
    simp only [Option.some.injEq, Prod.mk.injEq] at found
    obtain ⟨rfl, rfl⟩ := found
    exact ⟨_, by assumption, rfl⟩
  | case7 =>
    rename_i ih
    obtain ⟨pair, inner, same⟩ := Option.map_eq_some_iff.mp found
    obtain ⟨close, closes, shorter⟩ := ih pair.1 pair.2 inner
    cases same
    exact ⟨close, closes, by simp [shorter]⟩
  | case8 => simp at found
  | case9 awaited c tail _ _ _ ih =>
    obtain ⟨pair, inner, same⟩ := Option.map_eq_some_iff.mp found
    obtain ⟨close, closes, shorter⟩ := ih pair.1 pair.2 inner
    cases same
    exact ⟨close, closes, by simp [shorter]⟩

theorem block?_length (cs inside rest : List Char) (found : block? cs = some (inside, rest)) :
    inside.length + rest.length + 2 = cs.length := by
  cases cs with
  | nil => simp [block?] at found
  | cons c tail =>
    obtain ⟨close, _, inner⟩ := Option.bind_eq_some_iff.mp found
    obtain ⟨last, _, whole⟩ := blockFrom_append _ _ _ _ inner
    simp [whole]
    omega

theorem piecesFrom_length (depth : Nat) (piece cs : List Char) (pieces : List (List Char))
    (found : piecesFrom depth piece cs = some pieces) :
    ∀ part ∈ pieces, part.length ≤ piece.length + cs.length := by
  fun_induction piecesFrom depth piece cs generalizing pieces with
  | case1 => simp at found
  | case2 depth piece cs text tail taken ih =>
    intro part member
    have := ih pieces found part member
    simp [(trivia_append cs text tail taken).1] at *
    omega
  | case3 =>
    simp only [Option.some.injEq] at found
    subst found
    simp
  | case4 => simp at found
  | case5 depth piece c tail _ _ ih =>
    intro part member
    have := ih pieces found part member
    simp at *
    omega
  | case6 => simp at found
  | case7 piece c tail _ _ _ depth ih =>
    intro part member
    have := ih pieces found part member
    simp at *
    omega
  | case8 depth piece c tail _ _ _ _ ih =>
    obtain ⟨later, inner, same⟩ := Option.map_eq_some_iff.mp found
    subst same
    intro part member
    rcases List.mem_cons.mp member with head | behind
    · simp [head]
    · have := ih later inner part behind
      simp at *
      omega
  | case9 depth piece c tail _ _ _ _ ih =>
    intro part member
    have := ih pieces found part member
    simp at *
    omega

def afterLine (cs : List Char) : List Char := (cs.dropWhile (· ≠ '\n')).drop 1

def afterBlock (cs : List Char) : List Char :=
  match blockEnd? cs with
  | some found => found.2
  | none => []

theorem afterLine_length (cs : List Char) : (afterLine cs).length ≤ cs.length := by
  have rest := (List.dropWhile_suffix (fun c => decide (c ≠ '\n')) (l := cs)).length_le
  unfold afterLine
  rw [List.length_drop]
  omega

theorem afterBlock_length (cs : List Char) : (afterBlock cs).length ≤ cs.length := by
  unfold afterBlock
  split
  · rename_i found equal
    have whole := blockEnd?_append cs found.1 found.2 equal
    rw [whole]
    simp
  · simp

theorem trim_length (cs : List Char) : (trim cs).length ≤ cs.length := by
  have front := (List.dropWhile_suffix isBlank (l := cs)).length_le
  have back := (List.dropWhile_suffix isBlank (l := (trimStart cs).reverse)).length_le
  simp [trim, trimEnd, trimStart] at *
  omega

/-- A text without the blanks around it and the comments in front of it. The search for the end of
a block comment starts at its opening mark, so the mark `/*/` is a comment of its own. -/
def bare (cs : List Char) : List Char :=
  match _trimmed : trim cs with
  | '/' :: '/' :: rest => bare (afterLine rest)
  | '/' :: '*' :: rest => bare (afterBlock ('*' :: rest))
  | trimmed => trimmed
termination_by cs.length
decreasing_by
  · have shorter := afterLine_length rest
    have whole := trim_length cs
    simp [_trimmed] at whole
    omega
  · have shorter := afterBlock_length ('*' :: rest)
    have whole := trim_length cs
    simp [_trimmed] at shorter whole
    omega

theorem bare_length (cs : List Char) : (bare cs).length ≤ cs.length := by
  fun_induction bare cs with
  | case1 cs rest trimmed ih =>
    have shorter := afterLine_length rest
    have whole := trim_length cs
    simp [trimmed] at whole
    omega
  | case2 cs rest trimmed ih =>
    have shorter := afterBlock_length ('*' :: rest)
    have whole := trim_length cs
    simp [trimmed] at shorter whole
    omega
  | case3 cs => exact trim_length cs

/-- The pieces of a list, without comments and without those that are empty. -/
def pieces? (cs : List Char) : Option (List (List Char)) :=
  (piecesFrom 0 [] cs).map fun pieces => (pieces.map bare).filter (! ·.isEmpty)

theorem pieces?_length (cs : List Char) (pieces : List (List Char))
    (found : pieces? cs = some pieces) : ∀ part ∈ pieces, part.length ≤ cs.length := by
  obtain ⟨raw, inner, same⟩ := Option.map_eq_some_iff.mp found
  subst same
  intro part member
  obtain ⟨origin, mem, rfl⟩ := List.mem_map.mp (List.mem_filter.mp member).1
  have bound := piecesFrom_length 0 [] cs raw inner origin mem
  have shorter := bare_length origin
  simp at bound
  omega

end ApiAssembly.Scan
