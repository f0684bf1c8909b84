import ApiAssembly.Proofs.Bytewise.Utf8
import ApiAssembly.Proofs.Scan.QuotedText
/-! Quoted literals and comments passed over by position. From any byte of a text the position gets larger,
and it stays in the text, also where a backslash takes the first byte of a longer character along. From
the start of a character it gets to where the characters of the literal or comment end. -/
namespace ApiAssembly.Bytewise
open Scan

def isQuoteByte (b : UInt8) : Bool :=
  b = '\''.toUInt8 || b = '"'.toUInt8 || b = '\x60'.toUInt8

/-- The position behind the closing quote. A backslash takes one byte along, which need not be a whole
character and need not be there. -/
def quoteFrom (bs : List UInt8) (quote : UInt8) (position : Nat) : Except Fault (Option Nat) :=
  if position < bs.length then do
    let b ← byteAt bs position
    if b = '\\'.toUInt8 then quoteFrom bs quote (position + 2)
    else if b = quote then pure (some (position + 1))
    else quoteFrom bs quote (position + 1)
  else pure none
termination_by bs.length - position

/-- How many bytes stand in front of the mark that closes a block comment. -/
def closingMark? : List UInt8 → Option Nat
  | [] => none
  | b :: rest =>
    if b = '*'.toUInt8 ∧ rest.head? = some '/'.toUInt8 then some 0
    else (closingMark? rest).map (· + 1)

inductive Skip where
  | absent
  | unclosed
  | past (position : Nat)
deriving DecidableEq

def Skip.ofFound : Option Nat → Skip
  | some position => .past position
  | none => .unclosed

def skipTrivia (bs : List UInt8) (position : Nat) : Except Fault Skip := do
  let b ← byteAt bs position
  if isQuoteByte b then
    let found ← quoteFrom bs b (position + 1)
    pure (.ofFound found)
  else if b = '/'.toUInt8 ∧ bs[position + 1]? = some '/'.toUInt8 then
    let line ← bytesFrom bs position
    match line.findIdx? (· = '\n'.toUInt8) with
    | some count => pure (.past (position + count + 1))
    | none => pure (.past bs.length)
  else if b = '/'.toUInt8 ∧ bs[position + 1]? = some '*'.toUInt8 then
    let rest ← bytesFrom bs (position + 2)
    pure (.ofFound ((closingMark? rest).map fun count => position + 2 + count + 2))
  else pure .absent

/-! From any byte of any text the position gets on, and it stays in the text. -/

theorem byteAt_inside (bs : List UInt8) (position : Nat) (inside : position < bs.length) :
    byteAt bs position = .ok bs[position] := by
  rw [byteAt, List.getElem?_eq_getElem inside]

theorem quoteFrom_gets_on (bs : List UInt8) (quote : UInt8) (position : Nat) :
    ∃ found, quoteFrom bs quote position = .ok found ∧
      ∀ stop, found = some stop → position < stop ∧ stop ≤ bs.length := by
  fun_induction quoteFrom bs quote position with
  | case1 position inside escaped later =>
    rw [byteAt_inside bs position inside, ok_bind]
    split
    · obtain ⟨found, run, bound⟩ := escaped
      refine ⟨found, run, fun stop same => ?_⟩
      have := bound stop same
      omega
    split
    · refine ⟨_, rfl, ?_⟩
      rintro stop ⟨⟩
      omega
    · obtain ⟨found, run, bound⟩ := later
      refine ⟨found, run, fun stop same => ?_⟩
      have := bound stop same
      omega
  | case2 => exact ⟨none, rfl, nofun⟩

theorem closingMark?_room (bs : List UInt8) (count : Nat) (found : closingMark? bs = some count) :
    count + 2 ≤ bs.length := by
  induction bs generalizing count with
  | nil => cases found
  | cons b rest ih =>
    rw [closingMark?] at found
    split at found
    · rename_i closes
      obtain ⟨behind, rfl⟩ := List.head?_eq_some_iff.mp closes.2
      cases found
      simp
    · obtain ⟨fewer, inner, rfl⟩ := Option.map_eq_some_iff.mp found
      have := ih fewer inner
      simp
      omega

theorem bytesFrom_inside (bs : List UInt8) (position : Nat) (inside : position ≤ bs.length) :
    bytesFrom bs position = .ok (bs.drop position) :=
  if_pos inside

theorem Skip.ofFound_eq_past (found : Option Nat) (next : Nat) (same : ofFound found = .past next) :
    found = some next := by
  cases found with
  | none => cases same
  | some position =>
    cases same
    rfl

theorem skipTrivia_gets_on (bs : List UInt8) (position : Nat) (inside : position < bs.length) :
    ∃ skip, skipTrivia bs position = .ok skip ∧
      ∀ next, skip = .past next → position < next ∧ next ≤ bs.length := by
  rw [skipTrivia, byteAt_inside bs position inside, ok_bind]
  split
  · obtain ⟨found, run, bound⟩ := quoteFrom_gets_on bs bs[position] (position + 1)
    rw [run, ok_bind]
    refine ⟨_, rfl, fun next same => ?_⟩
    have := bound next (Skip.ofFound_eq_past found next same)
    omega
  split
  · rw [bytesFrom_inside bs position (Nat.le_of_lt inside), ok_bind]
    split
    · rename_i count ends
      have room := (List.findIdx?_eq_some_iff_getElem.mp ends).1
      rw [List.length_drop] at room
      refine ⟨_, rfl, ?_⟩
      rintro next ⟨⟩
      omega
    · refine ⟨_, rfl, ?_⟩
      rintro next ⟨⟩
      exact ⟨inside, Nat.le_refl _⟩
  split
  · rename_i opens
    have second := (List.getElem?_eq_some_iff.mp opens.2).1
    rw [bytesFrom_inside bs (position + 2) second, ok_bind]
    refine ⟨_, rfl, fun next same => ?_⟩
    obtain ⟨count, found, rfl⟩ := Option.map_eq_some_iff.mp (Skip.ofFound_eq_past _ next same)
    have room := closingMark?_room _ count found
    rw [List.length_drop] at room
    omega
  · exact ⟨_, rfl, nofun⟩

/-- What the loops below rely on to end. -/
theorem skipTrivia_past (bs : List UInt8) (position next : Nat)
    (past : skipTrivia bs position = .ok (.past next)) : position < next := by
  by_cases inside : position < bs.length
  · obtain ⟨skip, run, bound⟩ := skipTrivia_gets_on bs position inside
    rw [run] at past
    exact (bound next (Except.ok.inj past)).1
  · rw [skipTrivia, byteAt, List.getElem?_eq_none (Nat.le_of_not_lt inside)] at past
    cases past

/-! From the start of a character the position gets to where the characters do. -/

section Quotes
variable (bs : List UInt8) (quote : UInt8) (position : Nat)

theorem quoteFrom_behind (behind : bs.length ≤ position) : quoteFrom bs quote position = .ok none := by
  rw [quoteFrom, if_neg (Nat.not_lt_of_le behind)]
  rfl

theorem quoteFrom_at (b : UInt8) (byte : bs[position]? = some b) :
    quoteFrom bs quote position =
      if b = '\\'.toUInt8 then quoteFrom bs quote (position + 2)
      else if b = quote then .ok (some (position + 1))
      else quoteFrom bs quote (position + 1) := by
  have inside := (List.getElem?_eq_some_iff.mp byte).1
  rw [quoteFrom, if_pos inside, byteAt, byte]
  rfl

end Quotes

theorem isQuote_ascii (quote : Char) (quotes : isQuote quote = true) : quote.toNat < 128 := by
  rcases quote_cases quote quotes with rfl | rfl | rfl <;> decide

theorem isQuoteByte_lead (c : Char) : isQuoteByte (lead c) = isQuote c := by
  simp only [isQuoteByte, isQuote, lead_eq_iff '\'' (by decide), lead_eq_iff '"' (by decide),
    lead_eq_iff '\x60' (by decide)]

section Characters
variable (quote : Char) (quotes : isQuote quote = true)
include quotes

theorem quoteFrom_character (before : List Char) (c : Char) (rest : List Char) :
    quoteFrom (bytes (before ++ c :: rest)) quote.toUInt8 (size before + 1) =
      quoteFrom (bytes (before ++ c :: rest)) quote.toUInt8 (size (before ++ [c])) := by
  refine passed_character before c rest _ fun position b byte large => ?_
  rw [quoteFrom_at _ _ _ b byte, if_neg (ne_of_large '\\' (by decide) b large),
    if_neg (ne_of_large quote (isQuote_ascii quote quotes) b large)]

theorem quoteFrom_eq (before cs : List Char) :
    quoteFrom (bytes (before ++ cs)) quote.toUInt8 (size before) =
      .ok ((quoteEnd? quote cs).map fun found => size (before ++ found.1)) := by
  have backslash : '\\'.toNat < 128 := by decide
  fun_induction quoteEnd? quote cs generalizing before with
  | case1 =>
    rw [List.append_nil]
    exact quoteFrom_behind _ _ _ (Nat.le_refl _)
  | case2 =>
    -- The byte taken along is missing, and the text is over before it would be read.
    rw [quoteFrom_at _ _ _ _ (bytes_at before '\\' []), if_pos (lead_ascii _ backslash)]
    refine quoteFrom_behind _ _ _ ?_
    have last := size_concat_ascii before '\\' backslash
    rw [size] at last
    omega
  | case3 c rest ih =>
    -- Of the character taken along only the first byte is jumped over.
    rw [quoteFrom_at _ _ _ _ (bytes_at before '\\' (c :: rest)), if_pos (lead_ascii _ backslash)]
    have first := size_concat_ascii before '\\' backslash
    have passed := quoteFrom_character quote quotes (before ++ ['\\']) c rest
    have later := ih (before ++ ['\\', c])
    simp only [List.append_assoc, List.cons_append, List.nil_append] at passed later
    rw [first] at passed
    rw [passed, later, Option.map_map]
    simp only [Function.comp_def]
  | case4 tail lone escape =>
    have plain := ne_backslash quote tail lone escape
    rw [quoteFrom_at _ _ _ _ (bytes_at before quote tail),
      if_neg (mt (lead_eq_iff '\\' backslash quote).mp plain),
      if_pos (lead_ascii quote (isQuote_ascii quote quotes)), Option.map_some,
      size_concat_ascii before quote (isQuote_ascii quote quotes)]
  | case5 c tail lone escape differ ih =>
    have plain := ne_backslash c tail lone escape
    have later := ih (before ++ [c])
    rw [List.append_assoc, List.singleton_append] at later
    rw [quoteFrom_at _ _ _ _ (bytes_at before c tail),
      if_neg (mt (lead_eq_iff '\\' backslash c).mp plain),
      if_neg (mt (lead_eq_iff quote (isQuote_ascii quote quotes) c).mp differ),
      quoteFrom_character quote quotes before c tail, later, Option.map_map]
    simp only [Function.comp_def, List.append_assoc, List.singleton_append]

end Characters

theorem ne_of_mem_encode (mark : Char) (ascii : mark.toNat < 128) (c : Char) (differ : c ≠ mark)
    (b : UInt8) (member : b ∈ String.utf8EncodeChar c) : b ≠ mark.toUInt8 := by
  rw [encode_eq, List.mem_cons] at member
  rcases member with rfl | behind
  · exact mt (lead_eq_iff mark ascii c).mp differ
  · exact ne_of_large mark ascii b (large_continuation c b behind)

/-- The line ends behind the first line break, or with the text. -/
theorem findIdx?_newline (cs : List Char) :
    (match (bytes cs).findIdx? (· = '\n'.toUInt8) with
      | some count => count + 1
      | none => size cs) = size (lineEnd cs).1 := by
  have newline : '\n'.toNat < 128 := by decide
  induction cs with
  | nil => rfl
  | cons c rest ih =>
    by_cases same : c = '\n'
    · subst c
      rw [bytes_cons, lead_ascii '\n' newline, lineEnd, if_pos rfl]
      rfl
    · have none : (String.utf8EncodeChar c).findIdx? (· = '\n'.toUInt8) = none := by
        rw [List.findIdx?_eq_none_iff]
        intro b member
        exact decide_eq_false (ne_of_mem_encode '\n' newline c same b member)
      rw [lineEnd, if_neg same, size_cons, size_cons, ← ih, bytes, List.flatMap_cons,
        List.findIdx?_append, none, Option.none_or, String.length_utf8EncodeChar, bytes]
      cases (rest.flatMap String.utf8EncodeChar).findIdx? (· = '\n'.toUInt8) with
      | none => rfl
      | some count =>
        change count + c.utf8Size + 1 = c.utf8Size + (count + 1)
        omega

theorem closingMark?_behind (run rest : List UInt8) (other : ∀ b ∈ run, b ≠ '*'.toUInt8) :
    closingMark? (run ++ rest) = (closingMark? rest).map (· + run.length) := by
  induction run with
  | nil => simp
  | cons b run ih =>
    obtain ⟨head, tail⟩ := List.forall_mem_cons.mp other
    rw [List.cons_append, closingMark?, if_neg (fun closes => head closes.1), ih tail,
      Option.map_map]
    rfl

theorem head?_bytes (cs : List Char) : (bytes cs).head? = cs.head?.map lead := by
  cases cs with
  | nil => rfl
  | cons c rest =>
    rw [bytes_cons]
    rfl

theorem head?_bytes_iff (mark : Char) (ascii : mark.toNat < 128) (cs : List Char) :
    (bytes cs).head? = some mark.toUInt8 ↔ cs.head? = some mark := by
  rw [head?_bytes]
  cases cs with
  | nil => simp
  | cons c rest => simpa using lead_eq_iff mark ascii c

theorem closingMark?_eq (cs : List Char) :
    (closingMark? (bytes cs)).map (· + 2) = (blockEnd? cs).map fun found => size found.1 := by
  have star : '*'.toNat < 128 := by decide
  have slash : '/'.toNat < 128 := by decide
  fun_induction blockEnd? cs with
  | case1 => rfl
  | case2 rest =>
    rw [bytes_cons, bytes_cons, lead_ascii _ star, lead_ascii _ slash, continuation_ascii _ star,
      continuation_ascii _ slash, closingMark?, if_pos ⟨rfl, rfl⟩]
    rfl
  | case3 c rest unclosed ih =>
    have behind : closingMark? (bytes (c :: rest)) =
        (closingMark? (bytes rest)).map (· + c.utf8Size) := by
      by_cases same : c = '*'
      · subst c
        have open_ : (bytes rest).head? ≠ some '/'.toUInt8 := by
          rw [Ne, head?_bytes_iff '/' slash]
          intro closes
          obtain ⟨more, shape⟩ := List.head?_eq_some_iff.mp closes
          exact unclosed more rfl shape
        rw [bytes_cons, continuation_ascii _ star, List.nil_append, closingMark?,
          if_neg (fun closes => open_ closes.2)]
        rfl
      · rw [bytes, List.flatMap_cons, closingMark?_behind _ _ (ne_of_mem_encode '*' star c same),
          String.length_utf8EncodeChar]
        rfl
    rw [behind, Option.map_map, Option.map_map]
    have shifted := congrArg (Option.map (c.utf8Size + ·)) ih
    rw [Option.map_map, Option.map_map] at shifted
    simpa only [Function.comp_def, size_cons, Nat.add_comm, Nat.add_left_comm, Nat.add_assoc]
      using shifted

/-- Where a literal or comment ends that starts behind the given text. -/
def Skip.ofTrivia (before : List Char) : Trivia → Skip
  | .absent => .absent
  | .unclosed => .unclosed
  | .taken text _ => .past (size (before ++ text))

theorem drop_size (before cs : List Char) : (bytes (before ++ cs)).drop (size before) = bytes cs := by
  rw [bytes_append, size, List.drop_left]

theorem bytes_behind (before : List Char) (c : Char) (rest : List Char) (ascii : c.toNat < 128) :
    (bytes (before ++ c :: rest))[size before + 1]? = rest.head?.map lead := by
  have whole : before ++ c :: rest = (before ++ [c]) ++ rest := by simp
  rw [← size_concat_ascii before c ascii, whole, ← head?_bytes, ← List.head?_drop, drop_size]

theorem second_iff (before : List Char) (rest : List Char) (mark : Char) (ascii : mark.toNat < 128) :
    (bytes (before ++ '/' :: rest))[size before + 1]? = some mark.toUInt8 ↔
      rest.head? = some mark := by
  rw [bytes_behind before '/' rest (by decide), ← head?_bytes, head?_bytes_iff mark ascii]

theorem skipTrivia_quote (before : List Char) (quote : Char) (rest : List Char)
    (quotes : isQuote quote = true) :
    skipTrivia (bytes (before ++ quote :: rest)) (size before) =
      .ok (.ofTrivia before (trivia (quote :: rest))) := by
  have ascii := isQuote_ascii quote quotes
  have passed := quoteFrom_eq quote quotes (before ++ [quote]) rest
  rw [List.append_assoc, List.singleton_append, size_concat_ascii before quote ascii] at passed
  rw [skipTrivia, byteAt_lead, ok_bind, isQuoteByte_lead, if_pos quotes, lead_ascii quote ascii,
    passed, ok_bind, trivia_quote quote rest quotes]
  cases quoteEnd? quote rest with
  | none => rfl
  | some found =>
    simp only [Option.map_some, List.append_assoc]
    rfl

theorem skipTrivia_line (before more : List Char) :
    skipTrivia (bytes (before ++ '/' :: '/' :: more)) (size before) =
      .ok (.past (size (before ++ '/' :: '/' :: (lineEnd more).1))) := by
  have second := (second_iff before ('/' :: more) '/' (by decide)).mpr rfl
  have ends := findIdx?_newline ('/' :: '/' :: more)
  rw [lineEnd, if_neg (by decide), lineEnd, if_neg (by decide)] at ends
  rw [skipTrivia, byteAt_lead, ok_bind, isQuoteByte_lead, if_neg (by decide),
    if_pos ⟨lead_ascii '/' (by decide), second⟩,
    bytesFrom_inside _ _ (Nat.le_of_lt (size_lt before '/' _)), drop_size, ok_bind, size_append]
  cases found : (bytes ('/' :: '/' :: more)).findIdx? (· = '\n'.toUInt8) with
  | none =>
    rw [found] at ends
    simp only [← ends, ← size_append]
    rfl
  | some count =>
    rw [found] at ends
    simp only [← ends, ← Nat.add_assoc]
    rfl

theorem skipTrivia_block (before more : List Char) :
    skipTrivia (bytes (before ++ '/' :: '*' :: more)) (size before) =
      .ok (.ofFound ((blockEnd? more).map fun found =>
        size (before ++ '/' :: '*' :: found.1))) := by
  have second := (second_iff before ('*' :: more) '*' (by decide)).mpr rfl
  have other : ¬ (lead '/' = '/'.toUInt8 ∧
      (bytes (before ++ '/' :: '*' :: more))[size before + 1]? = some '/'.toUInt8) := by
    rw [second]
    decide
  have whole : before ++ '/' :: '*' :: more = (before ++ ['/', '*']) ++ more := by simp
  have behind : size (before ++ ['/', '*']) = size before + 2 := size_append before _
  have inside : size before + 2 ≤ (bytes (before ++ '/' :: '*' :: more)).length := by
    rw [← behind, whole]
    exact (Nat.le_add_right _ _).trans_eq (size_append _ more).symm
  rw [skipTrivia, byteAt_lead, ok_bind, isQuoteByte_lead, if_neg (by decide), if_neg other,
    if_pos ⟨lead_ascii '/' (by decide), second⟩, bytesFrom_inside _ _ inside, ← behind, whole,
    drop_size, ok_bind]
  have ends := congrArg (Option.map (size (before ++ ['/', '*']) + ·)) (closingMark?_eq more)
  rw [Option.map_map, Option.map_map] at ends
  simp only [Function.comp_def, ← Nat.add_assoc, ← size_append, List.append_assoc, List.cons_append,
    List.nil_append] at ends ⊢
  rw [ends]
  rfl

/-- Passing over by position and passing over by characters meet the same literals and comments. -/
theorem skipTrivia_eq (before : List Char) (c : Char) (rest : List Char) :
    skipTrivia (bytes (before ++ c :: rest)) (size before) =
      .ok (.ofTrivia before (trivia (c :: rest))) := by
  by_cases quotes : isQuote c = true
  · exact skipTrivia_quote before c rest quotes
  by_cases slash : c = '/'
  · subst c
    by_cases line : rest.head? = some '/'
    · obtain ⟨more, rfl⟩ := List.head?_eq_some_iff.mp line
      exact skipTrivia_line before more
    by_cases block : rest.head? = some '*'
    · obtain ⟨more, rfl⟩ := List.head?_eq_some_iff.mp block
      rw [skipTrivia_block, trivia]
      cases blockEnd? more <;> rfl
    · have absent := (trivia_eq_absent_iff '/' rest).mpr ⟨by decide, fun _ => ⟨line, block⟩⟩
      have first := mt (second_iff before rest '/' (by decide)).mp line
      have second := mt (second_iff before rest '*' (by decide)).mp block
      rw [skipTrivia, byteAt_lead, ok_bind, isQuoteByte_lead, if_neg quotes,
        if_neg (fun opens => first opens.2), if_neg (fun opens => second opens.2), absent]
      rfl
  · have absent := (trivia_eq_absent_iff c rest).mpr
      ⟨Bool.eq_false_iff.mpr quotes, fun same => absurd same slash⟩
    have other := mt (lead_eq_iff '/' (by decide) c).mp slash
    rw [skipTrivia, byteAt_lead, ok_bind, isQuoteByte_lead, if_neg quotes,
      if_neg (fun opens => other opens.1), if_neg (fun opens => other opens.1), absent]
    rfl

end ApiAssembly.Bytewise
