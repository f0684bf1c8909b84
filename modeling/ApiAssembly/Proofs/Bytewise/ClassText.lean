import ApiAssembly.Declaration.ClassText
import ApiAssembly.Proofs.Bytewise.Registration
/-! Classes by position. A class reaches from the position of its start to that of the next one. Inside,
the bracket of the constructor is the last character that the search for it has matched, and the
documentation is cut out between marks that are looked for from the back. -/
namespace ApiAssembly.Bytewise
open Scan Text

/-! Where classes start and end. -/

/-- The names of the classes, each with the text from where the class starts on. -/
def heads (lineStart : Bool) (cs : List Char) : List (List Char × List Char) :=
  match _head : if lineStart then ClassText.head? cs else none with
  | some (name, rest) => (name, cs) :: heads false rest
  | none =>
    match cs with
    | [] => []
    | c :: rest => heads (c = '\n') rest
termination_by cs.length
decreasing_by
  · split at _head
    · exact ClassText.head?_length cs name rest _head
    · simp at _head
  · simp

/-- The positions where the classes start. The given texts are the ends of the whole one. -/
def starts (whole : List Char) (found : List (List Char × List Char)) : List (List Char × Nat) :=
  found.map fun head => (head.1, size whole - size head.2)

/-- The classes with their texts. The last one reaches to the end of the whole text. -/
def regions (whole : List Char) :
    List (List Char × Nat) → Except Fault (List (List Char × List Char))
  | [] => .ok []
  | (name, start) :: later => do
    let stop := (later.head?.map Prod.snd).getD (size whole)
    let region ← slice whole start stop
    let others ← regions whole later
    pure ((name, region) :: others)

/-! The comment in front of a constructor. -/

/-- The text behind the first place where the mark stands. -/
def behindMark? (mark : List Char) : List Char → Option (List Char)
  | [] => none
  | c :: rest =>
    if mark.isPrefixOf (c :: rest) then some ((c :: rest).drop mark.length)
    else behindMark? mark rest

/-- The position of the last place where the mark stands. -/
def lastMark? (mark cs : List Char) : Option Nat := (behindMark? mark.reverse cs.reverse).map size

/-- The comment that ends with the closing mark at the position. -/
def docUpTo (before : List Char) (stop : Nat) : Except Fault (Option (List Char)) := do
  let inside ← slice before 0 stop
  match lastMark? ['/', '*', '*'] inside with
  | none => pure none
  | some start =>
    let doc ← slice before start (stop + 2)
    pure (some doc)

def docBefore (region : List Char) (position : Nat) : Except Fault (Option (List Char)) := do
  let before ← slice region 0 position
  match lastMark? ['*', '/'] before with
  | none => pure none
  | some stop =>
    let behind ← slice before (stop + 2) (size before)
    if (trim behind).isEmpty then docUpTo before stop else pure none

/-! The constructor of a class. -/

def ofRegion (name : String) (region : List Char) : Except Fault ClassText.Reading :=
  match ClassText.constructorFrom [] region with
  | none => .ok ⟨some ⟨name, []⟩, []⟩
  | some (before, signature) => do
    let opening ← below (size region - size signature.tail)
    match ← findMatching region opening with
    | none => pure ⟨none, [.unbalanced]⟩
    | some closing =>
      let inside ← slice region (opening + 1) closing
      match ← splitTopLevel inside with
      | none => pure ⟨none, [.unreadable]⟩
      | some pieces =>
        let doc ← docBefore region (size before)
        let docs := (doc.map DocComment.ofText).getD []
        let found := pieces.foldr (ClassText.addParameter docs) ([], [])
        pure ⟨some ⟨name, found.1⟩, found.2⟩

def readings (cs : List Char) : Except Fault (List (String × ClassText.Reading)) := do
  let found ← regions cs (starts cs (heads true cs))
  found.mapM fun entry => do
    let reading ← ofRegion (String.ofList entry.1) entry.2
    pure (String.ofList entry.1, reading)

/-! The texts between the positions are those that are collected character by character. -/

theorem afterKeyword?_suffix (word cs rest : List Char)
    (found : ClassText.afterKeyword? word cs = some rest) : rest <:+ cs := by
  unfold ClassText.afterKeyword? at found
  split at found
  · cases found
    exact (List.dropWhile_suffix isBlank).trans (List.drop_suffix _ _)
  · cases found

theorem skipKeyword_suffix (word cs : List Char) : ClassText.skipKeyword word cs <:+ cs := by
  unfold ClassText.skipKeyword
  cases found : ClassText.afterKeyword? word cs with
  | none => exact List.suffix_rfl
  | some rest => exact afterKeyword?_suffix word cs rest found

theorem name?_suffix (cs name rest : List Char) (found : DocComment.name? cs = some (name, rest)) :
    rest <:+ cs := by
  cases cs with
  | nil => cases found
  | cons c tail =>
    rw [DocComment.name?] at found
    split at found
    · cases found
      exact (List.dropWhile_suffix _).trans (List.suffix_cons c tail)
    · cases found

theorem head?_suffix (cs name rest : List Char) (found : ClassText.head? cs = some (name, rest)) :
    rest <:+ cs := by
  obtain ⟨behind, keyword, named⟩ := Option.bind_eq_some_iff.mp found
  have first : trimStart cs <:+ cs := List.dropWhile_suffix isBlank
  exact (name?_suffix _ _ _ named).trans <| (afterKeyword?_suffix _ _ _ keyword).trans <|
    (skipKeyword_suffix _ _).trans <| (skipKeyword_suffix _ _).trans <|
    (skipKeyword_suffix _ _).trans first

theorem regionsFrom_head (lineStart : Bool) (current : Option (List Char × List Char))
    (cs name rest : List Char)
    (found : (if lineStart then ClassText.head? cs else none) = some (name, rest)) :
    ClassText.regionsFrom lineStart current cs = ClassText.close current ++
      ClassText.regionsFrom false (some (name, (cs.take (cs.length - rest.length)).reverse))
        rest := by
  rw [ClassText.regionsFrom.eq_def]
  split
  · rename_i same
    rw [found] at same
    cases same
    rfl
  · rename_i none
    rw [found] at none
    cases none

theorem regionsFrom_end (lineStart : Bool) (current : Option (List Char × List Char))
    (found : (if lineStart then ClassText.head? [] else none) = none) :
    ClassText.regionsFrom lineStart current [] = ClassText.close current := by
  rw [ClassText.regionsFrom.eq_def]
  split
  · rename_i same
    rw [found] at same
    cases same
  · rfl

theorem regionsFrom_cons (lineStart : Bool) (current : Option (List Char × List Char)) (c : Char)
    (rest : List Char)
    (found : (if lineStart then ClassText.head? (c :: rest) else none) = none) :
    ClassText.regionsFrom lineStart current (c :: rest) = ClassText.regionsFrom (c = '\n')
      (current.map fun entry => (entry.1, c :: entry.2)) rest := by
  rw [ClassText.regionsFrom.eq_def]
  split
  · rename_i same
    rw [found] at same
    cases same
  · rfl

theorem parts_of_head (lineStart : Bool) (cs name rest : List Char)
    (found : (if lineStart then ClassText.head? cs else none) = some (name, rest)) :
    (cs.take (cs.length - rest.length)).reverse.reverse ++ rest = cs := by
  cases lineStart with
  | false => cases found
  | true =>
    rw [List.reverse_reverse]
    exact List.suffix_iff_eq_append.mp (head?_suffix cs name rest found)

/-- What has been collected of a class is the text from its start to the place of the search. -/
theorem regions_started (lineStart : Bool) (cs before name text : List Char) :
    regions (before ++ (text.reverse ++ cs)) ((name, size before) ::
        starts (before ++ (text.reverse ++ cs)) (heads lineStart cs)) =
      .ok (ClassText.regionsFrom lineStart (some (name, text)) cs) := by
  fun_induction heads lineStart cs generalizing before name text with
  | case1 lineStart cs next rest found ih =>
    have parts := parts_of_head lineStart cs next rest found
    have later := ih (before ++ text.reverse) next (cs.take (cs.length - rest.length)).reverse
    have start : size (before ++ (text.reverse ++ cs)) - size cs = size (before ++ text.reverse) := by
      rw [← List.append_assoc, size_append, Nat.add_sub_cancel]
    have part := slice_part before text.reverse cs
    rw [parts, List.append_assoc] at later
    rw [regionsFrom_head lineStart _ cs next rest found, regions, starts, List.map_cons, start]
    simp only [List.head?_cons, Option.map_some, Option.getD_some, part, ok_bind]
    rw [← starts, later]
    rfl
  | case2 lineStart found =>
    rw [regionsFrom_end lineStart _ found, List.append_nil]
    simp only [regions, starts, List.map_nil, List.head?_nil, Option.map_none, Option.getD_none,
      slice_behind, ok_bind]
    rfl
  | case3 lineStart c rest found ih =>
    have later := ih before name (c :: text)
    rw [List.reverse_cons, List.append_assoc, List.singleton_append] at later
    rw [regionsFrom_cons lineStart _ c rest found]
    exact later

theorem regions_eq (lineStart : Bool) (before cs : List Char) :
    regions (before ++ cs) (starts (before ++ cs) (heads lineStart cs)) =
      .ok (ClassText.regionsFrom lineStart none cs) := by
  fun_induction heads lineStart cs generalizing before with
  | case1 lineStart cs name rest found ih =>
    have parts := parts_of_head lineStart cs name rest found
    have later := regions_started false rest before name (cs.take (cs.length - rest.length)).reverse
    have start : size (before ++ cs) - size cs = size before := by
      rw [size_append, Nat.add_sub_cancel]
    rw [parts] at later
    rw [regionsFrom_head lineStart _ cs name rest found, starts, List.map_cons, start]
    exact later
  | case2 lineStart found =>
    rw [regionsFrom_end lineStart _ found]
    rfl
  | case3 lineStart c rest found ih =>
    have later := ih (before ++ [c])
    rw [List.append_assoc, List.singleton_append] at later
    rw [regionsFrom_cons lineStart _ c rest found]
    exact later

/-! The last mark in a text is the first one from the back. -/

theorem behindMark?_parts (mark cs rest : List Char) (found : behindMark? mark cs = some rest) :
    ∃ passed, cs = passed ++ (mark ++ rest) := by
  induction cs with
  | nil => cases found
  | cons c tail ih =>
    rw [behindMark?] at found
    split at found
    · rename_i isPrefix
      obtain ⟨behind, whole⟩ := List.isPrefixOf_iff_prefix.mp isPrefix
      rw [← whole, List.drop_left] at found
      cases found
      exact ⟨[], whole.symm⟩
    · obtain ⟨passed, whole⟩ := ih found
      exact ⟨c :: passed, congrArg (c :: ·) whole⟩

theorem behindMark?_gap (first : Char) (mark gap rest : List Char) (apart : first ∉ gap) :
    behindMark? (first :: mark) (gap ++ (first :: mark ++ rest)) = some rest := by
  induction gap with
  | nil =>
    rw [List.nil_append, List.cons_append, behindMark?, ← List.cons_append,
      if_pos (List.isPrefixOf_iff_prefix.mpr (List.prefix_append _ _)), List.drop_left]
  | cons c gap ih =>
    obtain ⟨differ, later⟩ := not_or.mp (mt List.mem_cons.mpr apart)
    have other : ¬ (first :: mark).isPrefixOf (c :: (gap ++ (first :: mark ++ rest))) := by
      rw [List.isPrefixOf_iff_prefix, List.cons_prefix_cons]
      exact fun starts => differ starts.1
    rw [List.cons_append, behindMark?, if_neg other, ih later]

/-- The comment opens at its first mark from the back, and what is passed on the way there is kept. -/
theorem openingFrom_eq (kept cs : List Char) :
    match behindMark? ['*', '*', '/'] cs with
    | none => DocComment.openingFrom kept cs = none
    | some front => ∃ passed, cs = passed ++ '*' :: '*' :: '/' :: front ∧
        DocComment.openingFrom kept cs = some ('/' :: '*' :: '*' :: (passed.reverse ++ kept)) := by
  fun_induction DocComment.openingFrom kept cs with
  | case1 kept front => exact ⟨[], rfl, rfl⟩
  | case2 kept c rest other ih =>
    have none : ¬ ['*', '*', '/'].isPrefixOf (c :: rest) := by
      intro isPrefix
      obtain ⟨behind, whole⟩ := List.isPrefixOf_iff_prefix.mp isPrefix
      cases whole
      exact other behind rfl rfl
    rw [behindMark?, if_neg none]
    split
    · rename_i unfound
      rw [unfound] at ih
      exact ih
    · rename_i front found
      rw [found] at ih
      obtain ⟨passed, whole, opened⟩ := ih
      refine ⟨c :: passed, congrArg (c :: ·) whole, ?_⟩
      rw [opened, List.reverse_cons, List.append_assoc]
      rfl
  | case3 => rfl

theorem docUpTo_eq (earlier behind : List Char) :
    docUpTo (earlier.reverse ++ (['*', '/'] ++ behind)) (size earlier.reverse) =
      .ok (DocComment.openingFrom ['*', '/'] earlier) := by
  have marks : lastMark? ['/', '*', '*'] earlier.reverse =
      (behindMark? ['*', '*', '/'] earlier).map size := by
    rw [lastMark?, List.reverse_reverse]
    rfl
  have opening := openingFrom_eq ['*', '/'] earlier
  rw [docUpTo, slice_front, ok_bind, marks]
  cases found : behindMark? ['*', '*', '/'] earlier with
  | none =>
    rw [found] at opening
    rw [opening]
    rfl
  | some front =>
    rw [found] at opening
    obtain ⟨passed, whole, opened⟩ := opening
    have stop : size earlier.reverse + 2 = size (earlier.reverse ++ ['*', '/']) :=
      (size_append earlier.reverse ['*', '/']).symm
    have parts : earlier.reverse ++ ['*', '/'] =
        front.reverse ++ '/' :: '*' :: '*' :: (passed.reverse ++ ['*', '/']) := by
      simp [whole]
    have part := slice_part front.reverse ('/' :: '*' :: '*' :: (passed.reverse ++ ['*', '/'])) behind
    rw [← List.append_assoc, ← parts, size_reverse] at part
    rw [Option.map_some, opened]
    simp only [stop]
    rw [← List.append_assoc, part, ok_bind]
    rfl

theorem ofReversed?_closed (gap earlier : List Char) (blank : IsGap gap) :
    DocComment.ofReversed? (gap ++ '/' :: '*' :: earlier) =
      DocComment.openingFrom ['*', '/'] earlier := by
  have start := trimStart_gap gap ('*' :: earlier) '/' blank (by decide)
  rw [trimStart] at start
  simp only [DocComment.ofReversed?, start]

theorem ofReversed?_unclosed (cs : List Char)
    (other : ∀ gap earlier, IsGap gap → cs ≠ gap ++ '/' :: '*' :: earlier) :
    DocComment.ofReversed? cs = none := by
  rw [DocComment.ofReversed?]
  split
  · rename_i earlier start
    obtain ⟨gap, blank, parts⟩ := trimStart_parts cs
    rw [trimStart, start] at parts
    exact absurd parts (other gap earlier blank)
  · rfl

theorem isEmpty_trim_iff (cs : List Char) : (trim cs).isEmpty = true ↔ IsGap cs := by
  rw [List.isEmpty_iff]
  refine ⟨fun empty => ?_, trim_gap cs⟩
  rcases trim_cases cs with blank | ⟨_, c, rest, _, _, _, shape⟩
  · exact blank
  · rw [shape] at empty
    cases empty

/-- The comment is cut out between the last marks in front of the constructor. -/
theorem docBefore_eq (before rest : List Char) :
    docBefore (before ++ rest) (size before) = .ok (DocComment.ofReversed? before.reverse) := by
  have closes : ∀ gap earlier, IsGap gap → before.reverse = gap ++ '/' :: '*' :: earlier →
      behindMark? ['/', '*'] before.reverse = some earlier := by
    intro gap earlier blank whole
    have apart : '/' ∉ gap := fun member => absurd (blank '/' member) (by decide)
    rw [whole]
    exact behindMark?_gap '/' ['*'] gap earlier apart
  have marks : lastMark? ['*', '/'] before = (behindMark? ['/', '*'] before.reverse).map size := rfl
  rw [docBefore, slice_front, ok_bind, marks]
  cases found : behindMark? ['/', '*'] before.reverse with
  | none =>
    rw [ofReversed?_unclosed]
    · rfl
    · intro gap earlier blank whole
      rw [closes gap earlier blank whole] at found
      cases found
  | some earlier =>
    obtain ⟨passed, whole⟩ := behindMark?_parts _ _ _ found
    have parts : before = earlier.reverse ++ (['*', '/'] ++ passed.reverse) := by
      rw [← List.reverse_reverse before, whole]
      simp
    have stop : size earlier + 2 = size (earlier.reverse ++ ['*', '/']) := by
      rw [size_append, size_reverse]
      rfl
    have behind := slice_behind (earlier.reverse ++ ['*', '/']) passed.reverse
    have doc := docUpTo_eq earlier passed.reverse
    rw [List.append_assoc, ← parts, ← stop] at behind
    rw [← parts, size_reverse] at doc
    simp only [Option.map_some, behind, ok_bind, doc]
    by_cases blank : IsGap passed.reverse
    · have forward : IsGap passed := by simpa using blank.reverse
      rw [if_pos ((isEmpty_trim_iff _).mpr blank), whole, List.cons_append, List.singleton_append,
        ofReversed?_closed passed earlier forward]
    · rw [if_neg (mt (isEmpty_trim_iff _).mp blank), ofReversed?_unclosed]
      · rfl
      · intro gap front gapBlank same
        rw [closes gap front gapBlank same] at found
        cases found
        rw [same] at whole
        exact blank (List.append_cancel_right whole ▸ gapBlank).reverse

/-- The character that the search has matched last is the bracket of the constructor. -/
theorem constructorFrom_parts (before cs found signature : List Char)
    (starts : ClassText.constructorFrom before cs = some (found, signature)) :
    ∃ between rest, signature = '(' :: rest ∧
      before.reverse ++ cs = found.reverse ++ (between ++ signature) := by
  fun_induction ClassText.constructorFrom before cs with
  | case1 cs before word behind here =>
    obtain ⟨sameBefore, sameSignature⟩ := Prod.mk.inj (Option.some.inj starts)
    rw [← sameBefore, ← sameSignature]
    simp only [Bool.and_eq_true, decide_eq_true_eq] at here
    obtain ⟨rest, shape⟩ := List.head?_eq_some_iff.mp here.1.2
    obtain ⟨more, whole⟩ := List.isPrefixOf_iff_prefix.mp here.1.1
    obtain ⟨gap, _, parts⟩ := trimStart_parts (cs.drop word.length)
    refine ⟨word ++ gap, rest, shape, ?_⟩
    rw [List.append_assoc, ← parts, ← whole, List.drop_left]
  | case2 => cases starts
  | case3 before word c rest behind other ih =>
    obtain ⟨between, inside, shape, whole⟩ := ih starts
    refine ⟨between, inside, shape, ?_⟩
    rw [← whole, List.reverse_cons, List.append_assoc]
    rfl

theorem ofRegion_eq (name : String) (region : List Char) :
    ofRegion name region = .ok (ClassText.ofRegion name region) := by
  rw [ofRegion, ClassText.ofRegion]
  cases found : ClassText.constructorFrom [] region with
  | none => rfl
  | some parts =>
    obtain ⟨before, signature⟩ := parts
    obtain ⟨between, rest, rfl, whole⟩ := constructorFrom_parts _ _ _ _ found
    rw [List.reverse_nil, List.nil_append, ← List.append_assoc] at whole
    have last : below (size region - size rest) = .ok (size (before.reverse ++ between)) := by
      have front := size_append (before.reverse ++ between ++ ['(']) rest
      rw [List.append_assoc, List.singleton_append, ← whole] at front
      rw [front, Nat.add_sub_cancel, below_concat _ '(' (by decide)]
    have doc := docBefore_eq before.reverse (between ++ '(' :: rest)
    rw [← List.append_assoc, ← whole, size_reverse, List.reverse_reverse] at doc
    have matching := findMatching_at (before.reverse ++ between) ('(' :: rest)
    rw [← whole] at matching
    simp only [List.tail_cons, last, ok_bind, matching, doc]
    cases block : block? ('(' :: rest) with
    | none => rfl
    | some pair =>
      have part := slice_block (before.reverse ++ between) _ _ _ block
      rw [← whole] at part
      simp only [Option.map_some, part, ok_bind, splitTopLevel_eq]
      cases pieces? pair.1 <;> rfl

theorem readings_eq (cs : List Char) :
    readings cs = .ok (ClassText.readings (String.ofList cs)) := by
  have found := regions_eq true [] cs
  rw [List.nil_append] at found
  rw [readings, found, ok_bind, ClassText.readings, String.toList_ofList]
  refine mapM_ok _ _ _ fun entry _ => ?_
  rw [ofRegion_eq, ok_bind]
  rfl

/-! All readers of a text. -/

/-- No reader of a text runs into a fault, whatever the text is. Passing over gets on from every byte, a
closing bracket is looked for from any position, and what is read by position is what is read
character by character. -/
theorem scanning_faultless (cs : List Char) :
    (∀ position < size cs, ∃ skip, skipTrivia (bytes cs) position = .ok skip ∧
      ∀ next, skip = .past next → position < next ∧ next ≤ size cs) ∧
    (∀ opening, findMatching cs opening =
      .ok ((block? (splitBytes opening cs).2).map fun block => opening + 1 + size block.1)) ∧
    splitTopLevel cs = .ok (pieces? cs) ∧ splitEntry cs = .ok (keyValue? cs) ∧
    unquote cs = .ok (unquote? cs) ∧ literal cs = .ok (literal? cs) ∧
    registrations cs = .ok ((Registration.all cs).map fun call => (call.name, call.blocks)) ∧
    readings cs = .ok (ClassText.readings (String.ofList cs)) :=
  ⟨skipTrivia_gets_on (bytes cs), findMatching_eq cs, splitTopLevel_eq cs, splitEntry_eq cs,
    unquote_eq cs, literal_eq cs, registrations_eq cs, readings_eq cs⟩

/-- A backslash takes the first byte of a longer character along, and one in the back a byte that is not
there. -/
theorem scanning_faultless_backslash :
    skipTrivia (bytes "'\\é'".toList) 0 = .ok (.past 5) ∧
    skipTrivia (bytes "'\\".toList) 0 = .ok .unclosed ∧
    splitTopLevel "'\\".toList = .ok none ∧ findMatching "'\\é'[]".toList 5 = .ok (some 6) := by
  obtain ⟨_, _, split, _⟩ := scanning_faultless "'\\".toList
  obtain ⟨_, found, _⟩ := scanning_faultless "'\\é'[]".toList
  refine ⟨by decide +kernel, by decide +kernel, ?_, ?_⟩
  · rw [split]
    decide +kernel
  · rw [found]
    decide +kernel

end ApiAssembly.Bytewise
