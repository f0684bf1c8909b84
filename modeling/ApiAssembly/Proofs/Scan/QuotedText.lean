import ApiAssembly.Proofs.Scan.Token
/-! Quoted texts: how they are written, where they end, and which texts are read as strings. The scanner
ends a quoted text at the first quote without a backslash; the reader only looks at the first and the
last character. The two agree on every text that was written, and on all others unless such a quote
stands in between: then several literals, and whatever joins them, are read as one. -/
namespace ApiAssembly.Scan
open Text

/-! Where a quoted text ends. -/

abbrev QuoteMark := {c : Char // isQuote c = true}

def quoted (quote : Char) (inside : List Char) : List Char := quote :: (inside ++ [quote])

/-- No quote inside ends the text, and none is missing at its end. -/
def Closes (quote : Char) (inside : List Char) : Prop :=
  ∀ more, quoteEnd? quote (inside ++ quote :: more) = some (inside ++ [quote], more)

theorem ne_backslash_of_isQuote (quote : Char) (quotes : isQuote quote = true) : quote ≠ '\\' := by
  rintro rfl
  cases quotes

theorem trivia_quote (quote : Char) (rest : List Char) (quotes : isQuote quote = true) :
    trivia (quote :: rest) = .ofFound [quote] (quoteEnd? quote rest) := by
  have other : quote ≠ '/' := by
    rintro rfl
    cases quotes
  rw [trivia, if_pos quotes]
  · exact fun _ slash => absurd slash other
  · exact fun _ slash => absurd slash other

theorem trivia_quoted (quote : Char) (inside more : List Char) (quotes : isQuote quote = true)
    (closes : Closes quote inside) :
    trivia (quoted quote inside ++ more) = .taken (quoted quote inside) more := by
  rw [quoted, List.cons_append, List.append_assoc, List.singleton_append,
    trivia_quote quote _ quotes, closes more]
  rfl

theorem Closes.whole {quote : Char} {inside : List Char} (closes : Closes quote inside)
    (quotes : isQuote quote = true) : IsWhole (quoted quote inside) where
  balanced := by
    rw [← List.append_nil (quoted quote inside)]
    exact .taken (trivia_quoted quote inside · quotes closes) .nil
  trimmed := ⟨⟨quote, _, rfl, isBlank_quote quote quotes⟩,
    ⟨quote :: inside, quote, rfl, isBlank_quote quote quotes⟩⟩
  start := by
    intro slash
    cases slash
    cases quotes

section Steps
variable (quote c : Char) (rest : List Char)

theorem closes_nil (quotes : isQuote quote = true) : Closes quote [] := by
  intro more
  rw [List.nil_append, quoteEnd?_plain _ _ _ (ne_backslash_of_isQuote quote quotes), if_pos rfl]
  rfl

theorem closes_escape : Closes quote ('\\' :: c :: rest) ↔ Closes quote rest := by
  refine forall_congr' fun more => ?_
  simp [quoteEnd?, Prod.ext_iff]

theorem closes_plain (plain : c ≠ '\\') :
    Closes quote (c :: rest) ↔ c ≠ quote ∧ Closes quote rest := by
  by_cases same : c = quote
  · subst c
    simp [Closes, quoteEnd?_plain _ _ _ plain]
  · simp [Closes, quoteEnd?_plain _ _ _ plain, same, Prod.ext_iff]

end Steps

/-- Without backslashes the first quote ends the text. -/
theorem Closes.of_plain {quote : Char} {inside : List Char} (quotes : isQuote quote = true)
    (unescaped : '\\' ∉ inside) (other : quote ∉ inside) : Closes quote inside := by
  induction inside with
  | nil => exact closes_nil quote quotes
  | cons c rest ih =>
    obtain ⟨plain, plainRest⟩ := not_or.mp (mt List.mem_cons.mpr unescaped)
    obtain ⟨differs, differRest⟩ := not_or.mp (mt List.mem_cons.mpr other)
    exact (closes_plain quote c rest (Ne.symm plain)).mpr
      ⟨Ne.symm differs, ih plainRest differRest⟩

/-! Writing. -/

/-- A line break and a tab are named by a letter; the backslash and the quote stand behind one. -/
def escape (quote c : Char) : List Char :=
  if c = '\n' then ['\\', 'n']
  else if c = '\t' then ['\\', 't']
  else if c = '\\' ∨ c = quote then ['\\', c]
  else [c]

def escaped (quote : Char) (cs : List Char) : List Char := cs.flatMap (escape quote)

theorem escape_cases (quote c : Char) :
    (∃ named, escape quote c = ['\\', named]) ∨ escape quote c = [c] ∧ c ≠ '\\' ∧ c ≠ quote := by
  unfold escape
  split
  · exact .inl ⟨_, rfl⟩
  split
  · exact .inl ⟨_, rfl⟩
  split
  · exact .inl ⟨_, rfl⟩
  · rename_i other
    exact .inr ⟨rfl, not_or.mp other⟩

theorem Closes.of_escaped {quote : Char} (quotes : isQuote quote = true) (cs : List Char) :
    Closes quote (escaped quote cs) := by
  induction cs with
  | nil => exact closes_nil quote quotes
  | cons c rest ih =>
    rw [escaped, List.flatMap_cons, ← escaped]
    rcases escape_cases quote c with ⟨named, shape⟩ | ⟨shape, plain, differs⟩
    · rw [shape]
      exact (closes_escape quote named _).mpr ih
    · rw [shape]
      exact (closes_plain quote c _ plain).mpr ⟨differs, ih⟩

theorem unescape?_plain (c : Char) (rest : List Char) (plain : c ≠ '\\') :
    unescape? (c :: rest) = (unescape? rest).map (c :: ·) := by
  rw [unescape?]
  · exact fun escape => absurd escape plain
  · exact fun _ _ escape => absurd escape plain

/-- What stands behind the backslash is read as the character it was written for. -/
theorem unescape?_escape (quote c : Char) (quotes : isQuote quote = true) (rest : List Char) :
    unescape? (escape quote c ++ rest) = (unescape? rest).map (c :: ·) := by
  unfold escape
  split
  · rename_i newline
    subst newline
    rfl
  split
  · rename_i tab
    subst tab
    rfl
  split
  · rename_i behind
    have letters : c ≠ 'n' ∧ c ≠ 't' := by
      rcases behind with rfl | rfl
      · decide
      · constructor <;> (rintro rfl; cases quotes)
    simp [unescape?, letters]
  · rename_i other
    exact unescape?_plain c rest (not_or.mp other).1

theorem unescape?_escaped (quote : Char) (quotes : isQuote quote = true) (cs : List Char) :
    unescape? (escaped quote cs) = some cs := by
  induction cs with
  | nil => rfl
  | cons c rest ih =>
    rw [escaped, List.flatMap_cons, ← escaped, unescape?_escape quote c quotes, ih]
    rfl

/-! Reading. -/

theorem unquote?_quoted (quote : Char) (inside : List Char) (quotes : isQuote quote = true) :
    unquote? (quoted quote inside) = unescape? inside := by
  simp [quoted, unquote?, quotes]

theorem quoted_unnamed (quote : Char) (inside : List Char) (quotes : isQuote quote = true) :
    quoted quote inside ∉ names := by
  intro named
  have starts : ∀ name ∈ names, name.head?.any isQuote = false := by decide
  have start := starts _ named
  rw [quoted, List.head?_cons, Option.any_some, quotes] at start
  cases start

theorem unquote?_parts (text inner : List Char) (read : unquote? text = some inner) :
    ∃ quote inside, isQuote quote = true ∧ text = quoted quote inside ∧
      unescape? inside = some inner := by
  cases text with
  | nil => cases read
  | cons quote rest =>
    rw [unquote?] at read
    split at read
    · rename_i marks
      obtain ⟨quotes, ends⟩ := Bool.and_eq_true_iff.mp marks
      obtain ⟨inside, rfl⟩ := List.getLast?_eq_some_iff.mp (of_decide_eq_true ends)
      rw [List.dropLast_concat] at read
      exact ⟨quote, inside, quotes, rfl, read⟩
    · cases read

/-- A string is read from a text that starts and ends with the same quote. -/
theorem scalar?_string_iff (text : List Char) (content : String) :
    scalar? text = some (.str content) ↔ ∃ quote inside, isQuote quote = true ∧
      text = quoted quote inside ∧ unescape? inside = some content.toList := by
  constructor
  · intro read
    rcases scalar?_cases text _ read with ⟨_, named⟩ | ⟨inner, found, same⟩ | ⟨number, _, same⟩
    · simp at named
    · cases same
      rw [String.toList_ofList]
      exact unquote?_parts text inner found
    · cases same
  · rintro ⟨quote, inside, quotes, rfl, unescaped⟩
    rw [scalar?_unnamed _ (quoted_unnamed quote inside quotes), unquote?_quoted quote _ quotes,
      unescaped]
    exact congrArg (some ∘ Json.str) String.ofList_toList

theorem literal?_string_iff (cs : List Char) (content : String) :
    literal? cs = some (.str content) ↔ ∃ quote inside, isQuote quote = true ∧
      bare cs = quoted quote inside ∧ unescape? inside = some content.toList := by
  rw [← scalar?_string_iff]
  constructor
  · intro read
    obtain ⟨list, object⟩ := not_block_of_read cs rfl read ⟨nofun, nofun⟩
    rwa [literal?_scalar cs rfl list object] at read
  · intro read
    obtain ⟨quote, inside, quotes, shape, _⟩ := (scalar?_string_iff _ _).mp read
    have unlike (c : Char) (other : isQuote c = false) : (bare cs).head? ≠ some c := by
      intro head
      rw [shape] at head
      cases head
      rw [quotes] at other
      cases other
    rwa [literal?_scalar cs rfl (unlike '[' (by decide)) (unlike '\x7b' (by decide))]

/-! Several literals in one. -/

/-- One quoted literal: the scanner takes all of the text. -/
def IsQuotedText (text : List Char) : Prop :=
  ∃ quote rest, isQuote quote = true ∧ text = quote :: rest ∧ trivia text = .taken text []

/-- A quote without a backslash before it. -/
def FreeQuote (quote : Char) (inside : List Char) : Prop :=
  ∃ before after, inside = before ++ quote :: after ∧ (unescape? before).isSome

/-! One step of the scan for each way a quoted text goes on. -/
section Steps
variable (quote c : Char) (rest : List Char)

theorem unescape?_isSome_escape : (unescape? ('\\' :: c :: rest)).isSome ↔ (unescape? rest).isSome := by
  simp [unescape?]

theorem unescape?_isSome_plain (plain : c ≠ '\\') :
    (unescape? (c :: rest)).isSome ↔ (unescape? rest).isSome := by
  rw [unescape?_plain c rest plain, Option.isSome_map]

theorem freeQuote_escape (quotes : isQuote quote = true) :
    FreeQuote quote ('\\' :: c :: rest) ↔ FreeQuote quote rest := by
  constructor
  · rintro ⟨before, after, shape, escaped⟩
    rcases before with _ | ⟨first, _ | ⟨second, before⟩⟩
    · exact absurd (List.cons.inj shape).1.symm (ne_backslash_of_isQuote quote quotes)
    · cases shape
      cases escaped
    · cases shape
      exact ⟨before, after, rfl, (unescape?_isSome_escape _ before).mp escaped⟩
  · rintro ⟨before, after, rfl, escaped⟩
    exact ⟨'\\' :: c :: before, after, rfl, (unescape?_isSome_escape c before).mpr escaped⟩

theorem freeQuote_plain (plain : c ≠ '\\') :
    FreeQuote quote (c :: rest) ↔ c = quote ∨ FreeQuote quote rest := by
  constructor
  · rintro ⟨before, after, shape, escaped⟩
    cases before with
    | nil => exact .inl (List.cons.inj shape).1
    | cons first before =>
      cases shape
      exact .inr ⟨before, after, rfl, (unescape?_isSome_plain c before plain).mp escaped⟩
  · rintro (rfl | ⟨before, after, rfl, escaped⟩)
    · exact ⟨[], rest, rfl, rfl⟩
    · exact ⟨c :: before, after, rfl, (unescape?_isSome_plain c before plain).mpr escaped⟩

end Steps

/-- The scanner needs the closing quote where the reader looks for it: no escape may swallow it, and no
quote may stand before it. -/
theorem closes_iff (quote : Char) (inside : List Char) (quotes : isQuote quote = true) :
    Closes quote inside ↔ (unescape? inside).isSome ∧ ¬ FreeQuote quote inside := by
  -- Scanner and reader pass over an escape in the same way, so each step is one on both sides.
  fun_induction unescape? inside with
  | case1 =>
    have none : ¬ FreeQuote quote [] := by
      rintro ⟨before, after, shape, _⟩
      simp at shape
    simp [closes_nil quote quotes, none]
  | case2 =>
    have swallowed : ¬ Closes quote ['\\'] := fun closes => nomatch closes []
    simp [swallowed]
  | case3 c rest ih =>
    rw [closes_escape, freeQuote_escape quote c rest quotes, Option.isSome_map, ih]
  | case4 c rest lone escape ih =>
    have plain := ne_backslash c rest lone escape
    rw [closes_plain quote c rest plain, freeQuote_plain quote c rest plain, Option.isSome_map, ih]
    tauto

theorem quoteEnd?_getLast? (quote : Char) (cs text rest : List Char)
    (found : quoteEnd? quote cs = some (text, rest)) : text.getLast? = some quote := by
  fun_induction quoteEnd? quote cs generalizing text rest with
  | case1 => cases found
  | case2 => cases found
  | case3 c tail ih =>
    obtain ⟨pair, inner, same⟩ := Option.map_eq_some_iff.mp found
    cases same
    rw [List.getLast?_cons, List.getLast?_cons, ih pair.1 pair.2 inner]
    rfl
  | case4 =>
    cases found
    rfl
  | case5 c tail _ _ _ ih =>
    obtain ⟨pair, inner, same⟩ := Option.map_eq_some_iff.mp found
    cases same
    rw [List.getLast?_cons, ih pair.1 pair.2 inner]
    rfl

theorem isQuotedText_iff_closes (text : List Char) :
    IsQuotedText text ↔ ∃ quote inside, isQuote quote = true ∧ text = quoted quote inside ∧
      Closes quote inside := by
  constructor
  · rintro ⟨quote, rest, quotes, rfl, taken⟩
    rw [trivia_quote quote rest quotes] at taken
    obtain ⟨inner, found, whole⟩ := ofFound_taken _ _ _ _ taken
    have same : rest = inner := (List.cons.inj whole).2
    subst same
    obtain ⟨inside, rfl⟩ := List.getLast?_eq_some_iff.mp (quoteEnd?_getLast? _ _ _ _ found)
    refine ⟨quote, inside, quotes, rfl, ?_⟩
    intro more
    have further := quoteEnd?_continued _ _ _ _ more found
    rwa [List.append_assoc] at further
  · rintro ⟨quote, inside, quotes, rfl, closes⟩
    have taken := trivia_quoted quote inside [] quotes closes
    rw [List.append_nil] at taken
    exact ⟨quote, _, quotes, rfl, taken⟩

/-- A text is one quoted literal exactly when nothing surrounds it, it is read as a string, and none of
its quotes stands free between the first and the last. -/
theorem quoted_text_iff (text : List Char) :
    IsQuotedText text ↔ bare text = text ∧ (∃ content, literal? text = some (.str content)) ∧
      ¬ ∃ quote inside, text = quoted quote inside ∧ FreeQuote quote inside := by
  rw [isQuotedText_iff_closes]
  constructor
  · rintro ⟨quote, inside, quotes, rfl, closes⟩
    have whole := (closes.whole quotes).bare
    obtain ⟨unescaped, none⟩ := (closes_iff quote inside quotes).mp closes
    obtain ⟨content, found⟩ := Option.isSome_iff_exists.mp unescaped
    refine ⟨whole, ⟨String.ofList content, ?_⟩, ?_⟩
    · rw [literal?_string_iff, String.toList_ofList]
      exact ⟨quote, inside, quotes, whole, found⟩
    · rintro ⟨other, also, same, free⟩
      obtain ⟨rfl, same⟩ := List.cons.inj same
      cases List.append_inj_left' same rfl
      exact none free
  · rintro ⟨whole, ⟨content, read⟩, none⟩
    obtain ⟨quote, inside, quotes, shape, found⟩ := (literal?_string_iff text content).mp read
    rw [whole] at shape
    refine ⟨quote, inside, quotes, shape, (closes_iff quote inside quotes).mpr ⟨?_, ?_⟩⟩
    · exact Option.isSome_of_eq_some found
    · exact fun free => none ⟨quote, inside, shape, free⟩

/-- Two literals with a plus between them are read as one string. -/
theorem joined_literals_read : bare "'a' + 'b'".toList = "'a' + 'b'".toList ∧
    literal? "'a' + 'b'".toList = some (.str "a' + 'b") ∧ ¬ IsQuotedText "'a' + 'b'".toList := by
  refine ⟨by decide +kernel, by decide +kernel, ?_⟩
  rintro ⟨quote, rest, _, _, taken⟩
  have first : trivia "'a' + 'b'".toList = .taken "'a'".toList " + 'b'".toList := rfl
  rw [first] at taken
  cases taken

end ApiAssembly.Scan
