import ApiAssembly.Declaration.ClassText
import ApiAssembly.Proofs.Declaration.ForeignTypes
/-! The parameters of a constructor, read back. A parameter ends at the first comma outside of
parentheses and its type at the first equals sign, so types of functions, generic types with several
arguments and quoted texts with an equals sign are cut. All other types come back as they were
written. -/
namespace ApiAssembly.ClassText
open Scan Text DocComment

/-! Names. -/

structure Name where
  chars : List Char
  start : ∃ c rest, chars = c :: rest ∧ isNameStart c = true
  each : ∀ c ∈ chars, isNameChar c = true

theorem Name.read (name : Name) (c : Char) (rest : List Char) (apart : isNameChar c = false) :
    name? (name.chars ++ c :: rest) = some (name.chars, c :: rest) := by
  obtain ⟨first, more, shape, starts⟩ := name.start
  have each : ∀ d ∈ more, isNameChar d = true := fun d member =>
    name.each d (shape ▸ List.mem_cons_of_mem first member)
  rw [shape, List.cons_append, name?, if_pos starts,
    List.takeWhile_append_of_pos each, List.dropWhile_append_of_pos each,
    List.takeWhile_cons_of_neg (by simp [apart]), List.dropWhile_cons_of_neg (by simp [apart]),
    List.append_nil]

/-- A name from characters that are checked. -/
def Name.ofChars (c : Char) (rest : List Char) (starts : isNameStart c = true)
    (each : (c :: rest).all isNameChar = true) : Name where
  chars := c :: rest
  start := ⟨c, rest, rfl, starts⟩
  each := List.all_eq_true.mp each

def Name.word (name : Name) : Word where
  chars := name.chars
  filled := by
    obtain ⟨c, rest, shape, _⟩ := name.start
    rw [shape]
    exact List.cons_ne_nil c rest
  each := name.each

theorem Name.line (name : Name) : '\n' ∉ name.chars := name.word.line

theorem head?_trimStart_name (c : Char) (rest : List Char) (named : isNameChar c = true) :
    (trimStart (c :: rest)).head? ≠ some '(' := by
  rw [trimStart, List.dropWhile_cons_of_neg (Bool.eq_false_iff.mp (isBlank_name c named)),
    List.head?_cons]
  rintro ⟨⟩
  cases named

section Keywords
variable {word chars rest : List Char} {c : Char} (wordEach : word.all isNameChar = true)
  (each : ∀ d ∈ chars, isNameChar d = true) (apart : isNameChar c = false)
include wordEach each apart

/-- A word in front of a text is the start of the name there. Behind it stands the rest of the name or
what follows the name. -/
theorem behind_word (starts : word <+: chars ++ c :: rest) :
    ∃ d more, (chars ++ c :: rest).drop word.length = d :: more ∧
      (isNameChar d = true ∨ d = c ∧ more = rest) := by
  rcases List.prefix_or_prefix_of_prefix starts (List.prefix_append chars (c :: rest)) with
    ⟨more, rfl⟩ | ⟨more, rfl⟩
  · rw [List.append_assoc, List.drop_left]
    cases more with
    | nil => exact ⟨c, rest, rfl, .inr ⟨rfl, rfl⟩⟩
    | cons d more => exact ⟨d, more ++ c :: rest, rfl, .inl (each d (by simp))⟩
  · cases more with
    | nil => exact ⟨c, rest, by rw [List.append_nil, List.drop_left], .inr ⟨rfl, rfl⟩⟩
    | cons d more =>
      obtain ⟨rfl, _⟩ := List.cons_prefix_cons.mp ((List.prefix_append_right_inj chars).mp starts)
      have named := List.all_eq_true.mp wordEach d (List.mem_append_right chars List.mem_cons_self)
      rw [apart] at named
      cases named

theorem afterKeyword?_name (filled : isBlank c = false) :
    afterKeyword? word (chars ++ c :: rest) = none := by
  rw [afterKeyword?]
  refine if_neg ?_
  rw [Bool.and_eq_true, List.isPrefixOf_iff_prefix]
  rintro ⟨starts, blank⟩
  obtain ⟨d, more, shape, named | ⟨rfl, _⟩⟩ := behind_word wordEach each apart starts
  · rw [shape] at blank
    simp [isBlank_name d named] at blank
  · rw [shape] at blank
    simp [filled] at blank

end Keywords

theorem skipModifiers_name (name : Name) (c : Char) (rest : List Char) (fuel : Nat)
    (apart : isNameChar c = false) (filled : isBlank c = false) :
    skipModifiers fuel (name.chars ++ c :: rest) = name.chars ++ c :: rest := by
  have modifiersEach : ∀ word ∈ modifiers, word.all isNameChar = true := by decide
  have none : afterModifier? (name.chars ++ c :: rest) = none := by
    rw [afterModifier?, List.findSome?_eq_none_iff]
    intro word modifier
    rw [afterKeyword?_name (modifiersEach word modifier) name.each apart filled]
    rfl
  cases fuel with
  | zero => rfl
  | succ fuel => rw [skipModifiers, none]

/-! Types. -/

theorem ending?_filled {cs : List Char} (filled : ∃ c ∈ cs, isBlank c = false) (unmarked : '=' ∉ cs) :
    ending? cs = none := by
  obtain ⟨c, member, apart⟩ := filled
  obtain ⟨gap, blank, parts⟩ := trimStart_parts cs
  rw [ending?]
  cases start : trimStart cs with
  | nil =>
    rw [(trimStart_eq_nil_iff cs).mp start c member] at apart
    cases apart
  | cons d rest =>
    have other : d ≠ '=' := by
      rintro rfl
      exact unmarked (parts ▸ List.mem_append_right gap (start ▸ List.mem_cons_self))
    split
    · rename_i same
      cases same
    · rename_i same
      exact absurd (List.cons.inj same).1 other
    · rfl

/-- A type without an equals sign is read up to its last character. -/
theorem typeFrom_whole (type cs : List Char) (last : ∀ c ∈ cs.getLast?, isBlank c = false)
    (unmarked : '=' ∉ cs) : typeFrom type cs = (type.reverse ++ cs, none) := by
  induction cs generalizing type with
  | nil => simp [typeFrom, ending?, trimStart]
  | cons c rest ih =>
    have final := List.getLast?_eq_some_getLast (List.cons_ne_nil c rest)
    have filled := last _ final
    have behind : ∀ d ∈ rest.getLast?, isBlank d = false := by
      intro d member
      exact last d (by rw [List.getLast?_cons, member]; rfl)
    rw [typeFrom, ending?_filled ⟨_, List.getLast_mem _, filled⟩ unmarked]
    simp only
    rw [ih (c :: type) behind fun member => unmarked (List.mem_cons_of_mem c member),
      List.reverse_cons, List.append_assoc, List.singleton_append]

/-- A type is read no further than to the first equals sign that something stands behind. -/
theorem typeFrom_cut (type front rest : List Char) (c : Char) :
    (typeFrom type (front ++ '=' :: c :: rest)).1.length ≤ type.length + front.length := by
  induction front generalizing type with
  | nil => simp [typeFrom, ending?, trimStart, isBlank]
  | cons d front ih =>
    rw [List.cons_append, typeFrom]
    split
    · simp
    · have shorter := ih (d :: type)
      simp only [List.length_cons] at shorter ⊢
      omega

/-! Parameters. -/

structure TypedName where
  name : Name
  type : ForeignType

namespace TypedName

def source (typed : TypedName) : List Char :=
  typed.name.chars ++ '?' :: ':' :: ' ' :: typed.type.text

def declared (typed : TypedName) : TypeParameter :=
  ⟨String.ofList typed.name.chars, some (String.ofList typed.type.text), none, none⟩

/-- The type is a single piece of a list, and it is read to its end. -/
def Readable (typed : TypedName) : Prop := typed.type.Uncut ∧ '=' ∉ typed.type.text

theorem rawParameter?_source (typed : TypedName) (c : Char) (rest : List Char)
    (shape : typed.type.text = c :: rest) : rawParameter? typed.source =
      some ⟨typed.name.chars, some (trim (typeFrom [c] rest).1), (typeFrom [c] rest).2⟩ := by
  have first : isBlank c = false := by
    obtain ⟨d, more, same, edge⟩ := typed.type.head
    rw [shape] at same
    cases same
    exact isBlank_edge c edge
  have colon : trimStart (dropOne '?' ('?' :: ':' :: ' ' :: c :: rest)) = ':' :: ' ' :: c :: rest := by
    simp [dropOne, trimStart, isBlank]
  have behind : trimStart (' ' :: c :: rest) = c :: rest :=
    trimStart_gap [' '] rest c isGap_space first
  rw [rawParameter?, source, shape, skipModifiers_name _ _ _ _ (by decide) (by decide),
    typed.name.read _ _ (by decide)]
  simp only [Option.bind_eq_bind, Option.bind_some, colon, behind]
  rfl

/-- An equals sign in a type stands behind its first character, and something stands behind it. -/
theorem marked_parts (type : ForeignType) {c : Char} {rest : List Char}
    (shape : type.text = c :: rest) (marked : '=' ∈ type.text) :
    ∃ front d more, rest = front ++ '=' :: d :: more := by
  obtain ⟨_, _, same, edge⟩ := type.head
  obtain ⟨init, final, ends, finalEdge⟩ := type.last
  rw [shape] at same marked ends
  cases same
  have inside := (List.mem_cons.mp marked).resolve_left (ne_of_isEdge edge (by decide)).symm
  obtain ⟨front, behind, rfl⟩ := List.append_of_mem inside
  cases behind with
  | nil =>
    rw [← List.cons_append] at ends
    have same := (List.cons.inj (List.append_inj' ends rfl).2).1
    exact absurd same.symm (ne_of_isEdge finalEdge (by decide))
  | cons d more => exact ⟨front, d, more, rfl⟩

/-- What is read of a parameter that is not split. -/
theorem source_read (typed : TypedName) : ∃ found, rawParameter? typed.source = some found ∧
    (parameter [] found = typed.declared ↔ '=' ∉ typed.type.text) := by
  obtain ⟨c, rest, shape, _⟩ := typed.type.head
  have trimmed := typed.type.trimmed
  refine ⟨_, rawParameter?_source typed c rest shape, ?_⟩
  constructor
  · intro same marked
    obtain ⟨front, d, more, parts⟩ := marked_parts typed.type shape marked
    have types := Option.some.inj (congrArg TypeParameter.type same)
    have read : trim (typeFrom [c] rest).1 = typed.type.text := String.ofList_inj.mp types
    have bound := trim_length (typeFrom [c] rest).1
    have cut := typeFrom_cut [c] front more d
    rw [read, shape, parts] at bound
    simp only [List.length_cons, List.length_append, List.length_nil] at bound cut
    omega
  · intro unmarked
    rw [shape] at trimmed unmarked
    have last : ∀ d ∈ rest.getLast?, isBlank d = false := by
      intro d member
      obtain ⟨init, final, ends, filled⟩ := trimmed.last
      have same : (c :: rest).getLast? = some d := by
        rw [List.getLast?_cons, Option.mem_def.mp member]
        rfl
      rw [ends, List.getLast?_concat] at same
      exact Option.some.inj same ▸ filled
    rw [typeFrom_whole [c] rest last fun member => unmarked (List.mem_cons_of_mem c member),
      List.reverse_singleton, List.singleton_append, trimmed.trim, declared, shape]
    rfl

theorem source_start (typed : TypedName) : StartsAtEdge typed.source :=
  typed.name.word.start.append _

theorem source_pieces (typed : TypedName) :
    ∃ count, HasPieces count typed.source ∧ (count = 1 ↔ typed.type.Uncut) := by
  have mark : Balanced false ['?', ':', ' '] := balanced_of_all (by decide)
  exact ForeignType.labelled_pieces typed.name.word mark typed.type typed.type.split

theorem source_whole (typed : TypedName) (uncut : typed.type.Uncut) : IsWhole typed.source := by
  obtain ⟨count, pieces, whole⟩ := typed.source_pieces
  rw [whole.mpr uncut] at pieces
  obtain ⟨c, rest, shape, edge⟩ := typed.source_start
  obtain ⟨init, final, ends, filled⟩ := typed.type.trimmed.last
  refine ⟨pieces.single.1, ⟨⟨c, rest, shape, isBlank_edge c edge⟩, ?_⟩, ?_⟩
  · exact ⟨typed.name.chars ++ '?' :: ':' :: ' ' :: init, final, by simp [source, ends], filled⟩
  · rw [shape]
    simpa using ne_of_isEdge edge (by decide)

end TypedName

/-! Lists of parameters. -/

theorem isPrefixOf_edge {piece : List Char} (start : StartsAtEdge piece) :
    ['.', '.', '.'].isPrefixOf piece = false := by
  obtain ⟨c, rest, rfl, edge⟩ := start
  have other : c ≠ '.' := ne_of_isEdge edge (by decide)
  simp [List.isPrefixOf, other.symm]

/-- A piece gives a parameter or a fault. -/
theorem pieces_counted (docs : List ParameterDoc) (pieces : List (List Char))
    (starts : ∀ piece ∈ pieces, StartsAtEdge piece) :
    (pieces.foldr (addParameter docs) ([], [])).1.length +
      (pieces.foldr (addParameter docs) ([], [])).2.length = pieces.length := by
  induction pieces with
  | nil => rfl
  | cons piece rest ih =>
    obtain ⟨start, later⟩ := List.forall_mem_cons.mp starts
    have counted := ih later
    rw [List.foldr_cons, addParameter, if_neg (Bool.eq_false_iff.mp (isPrefixOf_edge start))]
    cases rawParameter? piece with
    | some raw =>
      simp only [List.length_cons]
      omega
    | none =>
      simp only [List.length_cons]
      omega

theorem sources_read_iff (parameters : List TypedName) :
    (parameters.map TypedName.source).foldr (addParameter []) ([], []) =
      (parameters.map TypedName.declared, []) ↔ ∀ typed ∈ parameters, '=' ∉ typed.type.text := by
  induction parameters with
  | nil => simp
  | cons typed rest ih =>
    obtain ⟨raw, read, declared⟩ := typed.source_read
    have kept := Bool.eq_false_iff.mp (isPrefixOf_edge typed.source_start)
    rw [List.map_cons, List.map_cons, List.foldr_cons, addParameter, if_neg kept, read]
    simp only
    rw [List.forall_mem_cons, ← ih, ← declared, Prod.ext_iff, Prod.ext_iff, List.cons.injEq,
      and_assoc]

/-- The parameters of a list come back exactly when none of them is cut. -/
theorem list_read_iff (parameters : List TypedName) :
    ∃ pieces, pieces? (listText (parameters.map TypedName.source)) = some pieces ∧
      (pieces.foldr (addParameter []) ([], []) = (parameters.map TypedName.declared, []) ↔
        ∀ typed ∈ parameters, typed.Readable) := by
  by_cases whole : ∀ typed ∈ parameters, typed.type.Uncut
  · refine ⟨parameters.map TypedName.source, pieces?_listText (List.forall_mem_map.mpr
      fun typed member => typed.source_whole (whole typed member)), ?_⟩
    rw [sources_read_iff]
    exact forall₂_congr fun typed member => (and_iff_right (whole typed member)).symm
  · have some : parameters ≠ [] := by
      rintro rfl
      exact whole nofun
    obtain ⟨count, list, _, uncut⟩ := HasPieces.list TypedName.source (·.type.Uncut) parameters some
      fun typed _ => typed.source_pieces
    obtain ⟨pieces, read, number, starts⟩ := list.read
    refine ⟨pieces, read, ?_, fun readable => absurd (fun typed member => (readable typed member).1)
      whole⟩
    -- There are more pieces than parameters, and each gives a parameter or a fault.
    intro same
    have counted := pieces_counted [] pieces starts
    rw [same, List.length_map, List.length_nil, Nat.add_zero, number] at counted
    exact absurd (uncut.mp counted.symm) whole

/-! Classes. -/

structure Signature where
  name : Name
  parameters : List TypedName

namespace Signature

def inside (signature : Signature) : List Char :=
  listText (signature.parameters.map TypedName.source)

def text (signature : Signature) : List Char :=
  "class".toList ++ ' ' :: (signature.name.chars ++ ' ' :: '\x7b' :: ' ' ::
    ("constructor".toList ++ '(' :: (signature.inside ++ ')' :: [';', ' ', '\x7d'])))

def declaration (signature : Signature) : TypeDeclaration :=
  ⟨String.ofList signature.name.chars, signature.parameters.map TypedName.declared⟩

end Signature

theorem afterKeyword?_word (word text : List Char) (start : trimStart (' ' :: text) = text) :
    afterKeyword? word (word ++ ' ' :: text) = some text := by
  have within : word.isPrefixOf (word ++ ' ' :: text) = true :=
    List.isPrefixOf_iff_prefix.mpr (List.prefix_append _ _)
  have blank : isBlank ' ' = true := by decide
  simp [afterKeyword?, within, blank, start]

theorem skipKeyword_class (word text : List Char)
    (other : word ∈ ["export".toList, "declare".toList, "abstract".toList]) :
    skipKeyword word ("class".toList ++ text) = "class".toList ++ text := by
  have apart : ∀ word ∈ ["export".toList, "declare".toList, "abstract".toList],
      word.isPrefixOf ("class".toList ++ text) = false := by simp [List.isPrefixOf]
  rw [skipKeyword, afterKeyword?, apart word other]
  rfl

theorem head?_class (name : Name) (rest : List Char) :
    head? ("class".toList ++ ' ' :: (name.chars ++ ' ' :: rest)) = some (name.chars, ' ' :: rest) := by
  obtain ⟨c, more, shape, _⟩ := name.start
  have filled : isBlank c = false := isBlank_name c (name.each c (shape ▸ List.mem_cons_self))
  have behind : trimStart (' ' :: (name.chars ++ ' ' :: rest)) = name.chars ++ ' ' :: rest := by
    rw [shape]
    exact trimStart_gap [' '] _ c isGap_space filled
  have start (text : List Char) : trimStart ("class".toList ++ text) = "class".toList ++ text := by
    simp [trimStart, isBlank]
  rw [head?, start, skipKeyword_class _ _ (by simp), skipKeyword_class _ _ (by simp),
    skipKeyword_class _ _ (by simp), afterKeyword?_word _ _ behind]
  exact name.read ' ' rest (by decide)

theorem regionsFrom_class (current : Option (List Char × List Char)) (name front rest : List Char)
    (found : head? (front ++ rest) = some (name, rest)) :
    regionsFrom true current (front ++ rest) =
      close current ++ regionsFrom false (some (name, front.reverse)) rest := by
  rw [regionsFrom.eq_def]
  split
  · rename_i head
    rw [if_pos rfl, found] at head
    cases head
    rw [List.length_append, Nat.add_sub_cancel, List.take_left]
  · rename_i head
    rw [if_pos rfl, found] at head
    cases head

/-- A class reaches to the end of a text without line ends. -/
theorem regionsFrom_line (name before cs : List Char) (line : '\n' ∉ cs) :
    regionsFrom false (some (name, before)) cs = [(name, before.reverse ++ cs)] := by
  induction cs generalizing before with
  | nil => simp [regionsFrom, close]
  | cons c rest ih =>
    obtain ⟨other, later⟩ := not_or.mp (mt List.mem_cons.mpr line)
    have step : regionsFrom false (some (name, before)) (c :: rest) =
        regionsFrom false (some (name, c :: before)) rest := by
      rw [regionsFrom]
      simp [Ne.symm other]
    rw [step, ih (c :: before) later, List.reverse_cons, List.append_assoc, List.singleton_append]

/-! The constructor of the class. -/

theorem constructorFrom_step (before : List Char) (c : Char) (rest : List Char)
    (closed : "constructor".toList <+: c :: rest →
      (trimStart ((c :: rest).drop "constructor".toList.length)).head? ≠ some '(') :
    constructorFrom before (c :: rest) = constructorFrom (c :: before) rest := by
  rw [constructorFrom]
  refine if_neg ?_
  rw [Bool.and_eq_true, Bool.and_eq_true, List.isPrefixOf_iff_prefix, decide_eq_true_iff]
  exact fun found => closed found.1.1 found.1.2

theorem constructorFrom_other (before : List Char) (c : Char) (rest : List Char) (other : c ≠ 'c') :
    constructorFrom before (c :: rest) = constructorFrom (c :: before) rest := by
  refine constructorFrom_step before c rest fun starts => absurd ?_ other
  have first : "constructor".toList = 'c' :: "onstructor".toList := by decide
  rw [first] at starts
  exact (List.cons_prefix_cons.mp starts).1.symm

/-- No constructor starts in a word when no bracket opens behind it. -/
theorem constructorFrom_word (before chars rest : List Char)
    (each : ∀ c ∈ chars, isNameChar c = true) (closed : (trimStart rest).head? ≠ some '(') :
    constructorFrom before (chars ++ ' ' :: rest) =
      constructorFrom (' ' :: (chars.reverse ++ before)) rest := by
  induction chars generalizing before with
  | nil => exact constructorFrom_other before ' ' rest (by decide)
  | cons c more ih =>
    have step : constructorFrom before (c :: (more ++ ' ' :: rest)) =
        constructorFrom (c :: before) (more ++ ' ' :: rest) := by
      refine constructorFrom_step before c _ fun starts => ?_
      obtain ⟨d, tail, shape, named | ⟨rfl, rfl⟩⟩ :=
        behind_word (by decide) each (by decide) starts
      · rw [List.cons_append] at shape
        rw [shape]
        exact head?_trimStart_name d tail named
      · rw [List.cons_append] at shape
        rwa [shape, trimStart, List.dropWhile_cons_of_pos (by decide)]
    rw [List.cons_append, step, ih (c :: before) fun d member => each d (List.mem_cons_of_mem c member),
      List.reverse_cons, List.append_assoc, List.singleton_append]

theorem constructorFrom_here (before rest : List Char) (apart : before.head?.any isWordChar = false) :
    constructorFrom before ("constructor".toList ++ '(' :: rest) = some (before, '(' :: rest) := by
  have within : "constructor".toList.isPrefixOf ("constructor".toList ++ '(' :: rest) = true :=
    List.isPrefixOf_iff_prefix.mpr (List.prefix_append _ _)
  have opens : trimStart ('(' :: rest) = '(' :: rest :=
    List.dropWhile_cons_of_neg (by decide)
  rw [constructorFrom.eq_def]
  simp only [within, List.drop_left, opens, apart]
  rfl

theorem constructorFrom_class (name : Name) (rest : List Char) :
    constructorFrom [] ("class".toList ++ ' ' :: (name.chars ++ ' ' :: '\x7b' :: ' ' ::
      ("constructor".toList ++ '(' :: rest))) =
      some (' ' :: '\x7b' :: ' ' :: (name.chars.reverse ++ ' ' :: "class".toList.reverse),
        '(' :: rest) := by
  obtain ⟨c, more, shape, _⟩ := name.start
  have named : isNameChar c = true := name.each c (shape ▸ List.mem_cons_self)
  have closed (text : List Char) : (trimStart (name.chars ++ text)).head? ≠ some '(' := by
    rw [shape]
    exact head?_trimStart_name c _ named
  rw [constructorFrom_word _ _ _ (List.all_eq_true.mp (by decide)) (closed _),
    constructorFrom_word _ _ _ name.each (by simp [trimStart, isBlank]),
    constructorFrom_other _ _ _ (by decide), constructorFrom_other _ _ _ (by decide),
    constructorFrom_here _ _ rfl, List.append_nil]

namespace Signature

theorem line (signature : Signature) : '\n' ∉ signature.text := by
  have inside : '\n' ∉ signature.inside := by
    refine line_listText (List.forall_mem_map.mpr fun typed _ => ?_)
    simp [TypedName.source, typed.name.line, typed.type.line]
  have keywords : '\n' ∉ "class".toList ∧ '\n' ∉ "constructor".toList := by decide
  simp only [text, List.mem_append, List.mem_cons, not_or]
  exact ⟨keywords.1, by decide, signature.name.line, by decide, by decide, by decide, keywords.2, by decide, inside,
    by decide⟩

theorem readings_text (signature : Signature) :
    readings (String.ofList signature.text) =
      [(String.ofList signature.name.chars,
        ofRegion (String.ofList signature.name.chars) signature.text)] := by
  have line := signature.line
  obtain ⟨rest, shape⟩ : ∃ rest, signature.text =
      ("class".toList ++ ' ' :: signature.name.chars) ++ ' ' :: rest := ⟨_, by
    rw [text, List.append_assoc, List.cons_append]⟩
  have found := head?_class signature.name rest
  rw [← List.cons_append, ← List.append_assoc] at found
  rw [shape] at line ⊢
  have later : '\n' ∉ ' ' :: rest := fun member => line (List.mem_append_right _ member)
  rw [readings, String.toList_ofList, regionsFrom_class _ _ _ _ found,
    regionsFrom_line _ _ _ later, List.reverse_reverse]
  rfl

theorem inside_balanced (signature : Signature) : Balanced true signature.inside := by
  refine listText_balanced (List.forall_mem_map.mpr fun typed _ => ?_)
  obtain ⟨_, pieces, _⟩ := typed.source_pieces
  exact pieces.balanced

theorem ofRegion_text (signature : Signature) (name : String) (pieces : List (List Char))
    (read : pieces? signature.inside = some pieces) :
    ofRegion name signature.text =
      ⟨some ⟨name, (pieces.foldr (addParameter []) ([], [])).1⟩,
        (pieces.foldr (addParameter []) ([], [])).2⟩ := by
  have undocumented (more : List Char) : ofReversed? (' ' :: '\x7b' :: ' ' :: more) = none := by
    simp [ofReversed?, isBlank]
  have block := block?_balanced '(' ')' signature.inside [';', ' ', '\x7d'] rfl
    signature.inside_balanced
  rw [ofRegion, text, constructorFrom_class]
  simp only [block, read, undocumented]
  rfl

end Signature

/-- Exactly one class is found. Its parameters come back, without a warning, exactly when each type has
neither an equals sign nor, outside of parentheses, a generic type with several arguments. -/
theorem parameters_read_iff (signature : Signature) (label : String) :
    (∃ parameters, declarations (String.ofList signature.text) =
      [⟨String.ofList signature.name.chars, parameters⟩]) ∧
    (declarations (String.ofList signature.text) = [signature.declaration] ∧
      warnings label (String.ofList signature.text) = [] ↔
        ∀ typed ∈ signature.parameters, typed.Readable) := by
  obtain ⟨pieces, read, same⟩ := list_read_iff signature.parameters
  have reading := signature.ofRegion_text (String.ofList signature.name.chars) pieces read
  rw [← same, declarations, warnings, signature.readings_text, reading, Signature.declaration,
    Prod.ext_iff]
  simp

/-- The arrow of a function ends its parameter as an equals sign does, and a generic type with two
arguments is cut at its comma. -/
theorem parameters_cut :
    (∃ signature : Signature,
      String.ofList signature.text = "class X \x7b constructor(p?: (a: number) => string); \x7d" ∧
      signature.declaration = ⟨"X", [⟨"p", some "(a: number) => string", none, none⟩]⟩ ∧
      declarations (String.ofList signature.text) =
        [⟨"X", [⟨"p", some "(a: number)", none, none⟩]⟩]) ∧
    ∃ signature : Signature,
      String.ofList signature.text = "class X \x7b constructor(p?: Map<string, number>); \x7d" ∧
      signature.declaration = ⟨"X", [⟨"p", some "Map<string, number>", none, none⟩]⟩ ∧
      declarations (String.ofList signature.text) = [⟨"X", [⟨"p", some "Map<string", none, none⟩]⟩] ∧
      warnings "x.ts" (String.ofList signature.text) =
        ["x.ts: class 'X': unrecognised parameter `number>`"] := by
  constructor
  · refine ⟨⟨.ofChars 'X' [] rfl rfl, [⟨.ofChars 'p' [] rfl rfl,
      .function [((Name.ofChars 'a' [] rfl rfl).word,
          .named (Name.ofChars 'n' "umber".toList rfl (by decide)).word)]
        (.named (Name.ofChars 's' "tring".toList rfl (by decide)).word)⟩]⟩, ?_, ?_, ?_⟩ <;>
      decide +kernel
  · refine ⟨⟨.ofChars 'X' [] rfl rfl, [⟨.ofChars 'p' [] rfl rfl,
      .generic (Name.ofChars 'M' "ap".toList rfl (by decide)).word
        (.named (Name.ofChars 's' "tring".toList rfl (by decide)).word)
        [.named (Name.ofChars 'n' "umber".toList rfl (by decide)).word]⟩]⟩, ?_, ?_, ?_, ?_⟩ <;>
      decide +kernel

end ApiAssembly.ClassText
