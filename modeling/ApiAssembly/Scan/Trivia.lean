/-! Quoted literals and comments in source text of the C family. Three characters quote, a
backslash takes the character behind it along, a line comment ends with its line, and a block
comment at the first closing mark. Whatever starts one of these is passed over as a whole. -/
namespace ApiAssembly.Scan

def isQuote (c : Char) : Bool := c = '\'' || c = '"' || c = '\x60'

/-- What stands up to and including the closing quote, and what follows it. -/
def quoteEnd? (quote : Char) : List Char → Option (List Char × List Char)
  | [] => none
  | ['\\'] => none
  | '\\' :: c :: rest =>
    (quoteEnd? quote rest).map fun found => ('\\' :: c :: found.1, found.2)
  | c :: rest =>
    if c = quote then some ([c], rest)
    else (quoteEnd? quote rest).map fun found => (c :: found.1, found.2)

def lineEnd : List Char → List Char × List Char
  | [] => ([], [])
  | c :: rest => if c = '\n' then ([c], rest) else (c :: (lineEnd rest).1, (lineEnd rest).2)

def blockEnd? : List Char → Option (List Char × List Char)
  | [] => none
  | '*' :: '/' :: rest => some (['*', '/'], rest)
  | c :: rest => (blockEnd? rest).map fun found => (c :: found.1, found.2)

inductive Trivia where
  | absent
  | unclosed
  | taken (text rest : List Char)

def Trivia.ofFound (head : List Char) : Option (List Char × List Char) → Trivia
  | some (text, rest) => .taken (head ++ text) rest
  | none => .unclosed

def trivia : List Char → Trivia
  | '/' :: '/' :: rest => .ofFound ['/', '/'] (some (lineEnd rest))
  | '/' :: '*' :: rest => .ofFound ['/', '*'] (blockEnd? rest)
  | c :: rest => if isQuote c then .ofFound [c] (quoteEnd? c rest) else .absent
  | [] => .absent

theorem quoteEnd?_append (quote : Char) (cs text rest : List Char)
    (found : quoteEnd? quote cs = some (text, rest)) : cs = text ++ rest := by
  fun_induction quoteEnd? quote cs generalizing text rest with
  | case1 => simp at found
  | case2 => simp at found
  | case3 c tail ih =>
    obtain ⟨pair, inner, same⟩ := Option.map_eq_some_iff.mp found
    have shorter := ih pair.1 pair.2 inner
    cases same
    simp [shorter]
  | case4 tail =>
    simp only [Option.some.injEq, Prod.mk.injEq] at found
    obtain ⟨rfl, rfl⟩ := found
    rfl
  | case5 c tail _ _ _ ih =>
    obtain ⟨pair, inner, same⟩ := Option.map_eq_some_iff.mp found
    have shorter := ih pair.1 pair.2 inner
    cases same
    simp [shorter]

theorem lineEnd_append (cs : List Char) : cs = (lineEnd cs).1 ++ (lineEnd cs).2 := by
  induction cs with
  | nil => rfl
  | cons c rest ih =>
    unfold lineEnd
    split
    · simp
    · simpa using ih

theorem blockEnd?_append (cs text rest : List Char)
    (found : blockEnd? cs = some (text, rest)) : cs = text ++ rest := by
  fun_induction blockEnd? cs generalizing text rest with
  | case1 => simp at found
  | case2 tail =>
    simp only [Option.some.injEq, Prod.mk.injEq] at found
    obtain ⟨rfl, rfl⟩ := found
    rfl
  | case3 c tail _ ih =>
    obtain ⟨pair, inner, same⟩ := Option.map_eq_some_iff.mp found
    have shorter := ih pair.1 pair.2 inner
    cases same
    simp [shorter]

/-- A literal or comment is taken from the front of the text, and it is never empty. -/
theorem trivia_append (cs text rest : List Char) (taken : trivia cs = .taken text rest) :
    cs = text ++ rest ∧ text ≠ [] := by
  unfold trivia at taken
  split at taken
  · rename_i tail
    simp only [Trivia.ofFound, Trivia.taken.injEq] at taken
    obtain ⟨rfl, rfl⟩ := taken
    simpa using lineEnd_append tail
  · rename_i tail
    cases found : blockEnd? tail with
    | none => simp [found, Trivia.ofFound] at taken
    | some pair =>
      simp only [found, Trivia.ofFound, Trivia.taken.injEq] at taken
      obtain ⟨rfl, rfl⟩ := taken
      simpa using blockEnd?_append tail _ _ found
  · rename_i c tail _ _
    split at taken
    · cases found : quoteEnd? c tail with
      | none => simp [found, Trivia.ofFound] at taken
      | some pair =>
        simp only [found, Trivia.ofFound, Trivia.taken.injEq] at taken
        obtain ⟨rfl, rfl⟩ := taken
        simpa using quoteEnd?_append c tail _ _ found
    · simp at taken
  · simp at taken

theorem trivia_shorter (cs text rest : List Char) (taken : trivia cs = .taken text rest) :
    rest.length < cs.length := by
  obtain ⟨whole, nonempty⟩ := trivia_append cs text rest taken
  have := List.length_pos_iff.mpr nonempty
  simp [whole]
  omega

end ApiAssembly.Scan
