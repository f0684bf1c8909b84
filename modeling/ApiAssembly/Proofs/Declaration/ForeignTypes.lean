import ApiAssembly.Declaration.DocComment
import ApiAssembly.Proofs.Scan.Writing
/-! Types as they are written in declarations: names, unions of quoted texts, arrays, generic types and
types of functions, with parentheses around them or without. Their brackets are balanced. A list is
split at all their commas but those in parentheses, for the brackets of a generic type do not count. -/
namespace ApiAssembly
open Scan Text DocComment

/-! Characters. -/

theorem wordRuns_apart :
    ∀ blank ∈ blankRuns, ∀ run ∈ wordRuns, blank.2.1 < run.1 ∨ run.2.1 < blank.1 := by
  decide +kernel

theorem ascii_name_apart :
    ∀ code < 128, isBlank (Char.ofNat code) = true → isNameChar (Char.ofNat code) = false := by
  decide

theorem isBlank_name (c : Char) (named : isNameChar c = true) : isBlank c = false := by
  rw [← Bool.not_eq_true]
  intro blank
  by_cases ascii : c.toNat < 128
  · rw [← Char.ofNat_toNat c] at blank named
    rw [ascii_name_apart c.toNat ascii blank] at named
    cases named
  · have other : c ≠ '$' := by
      rintro rfl
      exact ascii (by decide)
    rw [isNameChar, isWordChar, if_neg ascii, covers_blank _ wordRuns_apart c ascii blank] at named
    simp [other] at named

/-- The characters that a type starts and ends with. -/
def isEdge (c : Char) : Bool :=
  isNameChar c || isQuote c || c = '(' || c = ')' || c = ']' || c = '>'

theorem isEdge_name (c : Char) (named : isNameChar c = true) : isEdge c = true := by
  simp [isEdge, named]

theorem isEdge_quote (c : Char) (quotes : isQuote c = true) : isEdge c = true := by
  simp [isEdge, quotes]

theorem isBlank_edge (c : Char) (edge : isEdge c = true) : isBlank c = false := by
  simp only [isEdge, Bool.or_eq_true, decide_eq_true_eq] at edge
  rcases edge with ((((named | quotes) | rfl) | rfl) | rfl) | rfl
  · exact isBlank_name c named
  · exact isBlank_quote c quotes
  all_goals decide

theorem ne_of_isEdge {c mark : Char} (edge : isEdge c = true) (other : isEdge mark = false) :
    c ≠ mark := by
  rintro rfl
  rw [edge] at other
  cases other

/-- The text starts with such a character. -/
def StartsAtEdge (text : List Char) : Prop := ∃ c rest, text = c :: rest ∧ isEdge c = true

theorem StartsAtEdge.append {text : List Char} (start : StartsAtEdge text) (more : List Char) :
    StartsAtEdge (text ++ more) := by
  obtain ⟨c, rest, rfl, edge⟩ := start
  exact ⟨c, rest ++ more, rfl, edge⟩

/-! Writing. -/

/-- A name in a type, in any script. -/
structure Word where
  chars : List Char
  filled : chars ≠ []
  each : ∀ c ∈ chars, isNameChar c = true

/-- A quoted text on one line, escapes included. -/
structure LineLiteral where
  quote : QuoteMark
  inside : List Char
  closes : Closes quote.1 inside
  line : '\n' ∉ inside

def LineLiteral.text (literal : LineLiteral) : List Char := quoted literal.quote literal.inside

inductive ForeignType where
  | named (word : Word)
  | literals (first : LineLiteral) (rest : List LineLiteral)
  | array (element : ForeignType)
  | generic (head : Word) (first : ForeignType) (rest : List ForeignType)
  | function (parameters : List (Word × ForeignType)) (result : ForeignType)
  | grouped (inner : ForeignType)

def listText (texts : List (List Char)) : List Char := [',', ' '].intercalate texts

namespace ForeignType

mutual
def text : ForeignType → List Char
  | .named word => word.chars
  | .literals first rest =>
    first.text ++ rest.flatMap fun literal => ' ' :: '|' :: ' ' :: literal.text
  | .array element => element.text ++ ['[', ']']
  | .generic head first rest =>
    head.chars ++ '<' :: (listText (first.text :: argumentTexts rest) ++ ['>'])
  | .function parameters result =>
    '(' :: (listText (parameterTexts parameters) ++ ')' :: (" => ".toList ++ result.text))
  | .grouped inner => '(' :: (inner.text ++ [')'])
def argumentTexts : List ForeignType → List (List Char)
  | [] => []
  | type :: rest => type.text :: argumentTexts rest
def parameterTexts : List (Word × ForeignType) → List (List Char)
  | [] => []
  | (name, type) :: rest => (name.chars ++ ':' :: ' ' :: type.text) :: parameterTexts rest
end

/-- Outside of parentheses no generic type has several arguments. -/
def Uncut : ForeignType → Prop
  | .array element => element.Uncut
  | .generic _ first rest => first.Uncut ∧ rest = []
  | .function _ result => result.Uncut
  | _ => True

def parameterText (parameter : Word × ForeignType) : List Char :=
  parameter.1.chars ++ ':' :: ' ' :: parameter.2.text

theorem argumentTexts_eq (types : List ForeignType) : argumentTexts types = types.map text := by
  induction types with
  | nil => rfl
  | cons type rest ih => exact congrArg _ ih

theorem parameterTexts_eq (parameters : List (Word × ForeignType)) :
    parameterTexts parameters = parameters.map parameterText := by
  induction parameters with
  | nil => rfl
  | cons parameter rest ih => exact congrArg _ ih

/-- What holds of a type whenever it holds of its parts holds of every type. -/
theorem induct {motive : ForeignType → Prop} (named : ∀ word, motive (.named word))
    (literals : ∀ first rest, motive (.literals first rest))
    (array : ∀ element, motive element → motive (.array element))
    (generic : ∀ head first rest, motive first → (∀ type ∈ rest, motive type) →
      motive (.generic head first rest))
    (function : ∀ parameters result, (∀ parameter ∈ parameters, motive parameter.2) →
      motive result → motive (.function parameters result))
    (grouped : ∀ inner, motive inner → motive (.grouped inner)) (type : ForeignType) : motive type :=
  @ForeignType.rec motive (fun types => ∀ type ∈ types, motive type)
    (fun parameters => ∀ parameter ∈ parameters, motive parameter.2)
    (fun parameter => motive parameter.2) named literals array generic function grouped nofun
    (fun _ _ first later => List.forall_mem_cons.mpr ⟨first, later⟩) nofun
    (fun _ _ first later => List.forall_mem_cons.mpr ⟨first, later⟩) (fun _ _ inner => inner) type

end ForeignType

/-! Pieces. -/

theorem isGap_nil : IsGap [] := List.forall_mem_nil _

theorem isGap_space : IsGap [' '] := List.forall_mem_singleton.mpr (by decide)

/-- Behind blanks stands the start of a type or a name, so the piece is no comment and not empty. -/
def Filled (piece : List Char) : Prop :=
  ∃ gap text, IsGap gap ∧ StartsAtEdge text ∧ piece = gap ++ text

theorem StartsAtEdge.filled {text : List Char} (start : StartsAtEdge text) : Filled text :=
  ⟨[], text, isGap_nil, start, rfl⟩

theorem Filled.append {piece : List Char} (filled : Filled piece) (more : List Char) :
    Filled (piece ++ more) := by
  obtain ⟨gap, text, blank, start, rfl⟩ := filled
  exact ⟨gap, text ++ more, blank, start.append more, List.append_assoc ..⟩

theorem Filled.behind {piece : List Char} (filled : Filled piece) (gap : List Char)
    (blank : IsGap gap) : Filled (gap ++ piece) := by
  obtain ⟨more, text, others, start, rfl⟩ := filled
  exact ⟨gap ++ more, text, List.forall_mem_append.mpr ⟨blank, others⟩, start,
    (List.append_assoc ..).symm⟩

theorem Filled.bare {piece : List Char} (filled : Filled piece) : StartsAtEdge (Scan.bare piece) := by
  obtain ⟨gap, text, blank, ⟨c, rest, rfl, edge⟩, rfl⟩ := filled
  have left : trim (gap ++ c :: rest) = c :: trimEnd rest := by
    rw [trim_gap_append _ _ blank, trim_of_head c rest (isBlank_edge c edge),
      trimEnd_of_head c rest (isBlank_edge c edge)]
  have other : (c :: trimEnd rest).head? ≠ some '/' := by
    simpa using ne_of_isEdge edge (by decide)
  exact ⟨c, trimEnd rest, bare_of_trim _ _ left other, edge⟩

/-- A text with the number of pieces that its commas outside of brackets split it into. -/
inductive HasPieces : Nat → List Char → Prop
  | one {text : List Char} (balanced : Balanced false text) (filled : Filled text) : HasPieces 1 text
  | more {count : Nat} {first rest : List Char} (balanced : Balanced false first)
      (filled : Filled first) (behind : HasPieces count rest) :
      HasPieces (count + 1) (first ++ ',' :: rest)

namespace HasPieces
variable {count others : Nat} {text rest : List Char}

theorem pos (pieces : HasPieces count text) : 0 < count := by
  cases pieces with
  | one => exact Nat.one_pos
  | more => exact Nat.succ_pos _

theorem single (pieces : HasPieces 1 text) : Balanced false text ∧ Filled text := by
  generalize number : 1 = count at pieces
  cases pieces with
  | one balanced filled => exact ⟨balanced, filled⟩
  | more _ _ behind =>
    have := behind.pos
    omega

theorem balanced (pieces : HasPieces count text) : Balanced true text := by
  induction pieces with
  | one balanced => exact balanced.withCommas
  | more balanced _ _ ih => exact balanced.withCommas.append (.plain (by decide) (fun _ => rfl) ih)

theorem append (pieces : HasPieces count text) (balanced : Balanced false rest) :
    HasPieces count (text ++ rest) := by
  induction pieces with
  | one whole filled => exact .one (whole.append balanced) (filled.append rest)
  | more first filled _ ih =>
    rw [List.append_assoc, List.cons_append]
    exact .more first filled ih

theorem behind (pieces : HasPieces count text) {front : List Char} (balanced : Balanced false front)
    (fills : ∀ piece, Filled piece → Filled (front ++ piece)) : HasPieces count (front ++ text) := by
  cases pieces with
  | one whole filled => exact .one (balanced.append whole) (fills _ filled)
  | more first filled behind =>
    rw [← List.append_assoc]
    exact .more (balanced.append first) (fills _ filled) behind

theorem join (pieces : HasPieces count text) (later : HasPieces others rest) :
    HasPieces (count + others) (text ++ ',' :: rest) := by
  induction pieces with
  | one balanced filled =>
    rw [Nat.add_comm]
    exact .more balanced filled later
  | more balanced filled _ ih =>
    rw [List.append_assoc, List.cons_append, Nat.add_right_comm]
    exact .more balanced filled ih

theorem labelled (pieces : HasPieces count text) {front : List Char} (balanced : Balanced false front)
    (start : StartsAtEdge front) : HasPieces count (front ++ text) :=
  pieces.behind balanced fun piece _ => start.filled.append piece

/-- A list is split into as many pieces as it has parts exactly when no part is split. -/
theorem list {α : Type} (written : α → List Char) (Whole : α → Prop) (parts : List α)
    (some : parts ≠ []) (each : ∀ part ∈ parts,
      ∃ count, HasPieces count (written part) ∧ (count = 1 ↔ Whole part)) :
    ∃ count, HasPieces count (listText (parts.map written)) ∧ parts.length ≤ count ∧
      (count = parts.length ↔ ∀ part ∈ parts, Whole part) := by
  induction parts with
  | nil => exact absurd rfl some
  | cons part rest ih =>
    obtain ⟨head, tail⟩ := List.forall_mem_cons.mp each
    obtain ⟨first, pieces, whole⟩ := head
    cases rest with
    | nil =>
      refine ⟨first, ?_, pieces.pos, by simpa using whole⟩
      rwa [List.map_singleton, listText, List.intercalate_singleton]
    | cons next more =>
      obtain ⟨later, behind, least, wholeRest⟩ := ih (List.cons_ne_nil _ _) tail
      have filled := pieces.pos
      have spaced := behind.behind (.of_gap _ isGap_space) fun piece inner =>
        inner.behind _ isGap_space
      refine ⟨first + later, ?_, ?_, ?_⟩
      · rw [List.map_cons, List.map_cons, listText, List.intercalate_cons_cons, List.append_assoc]
        exact pieces.join spaced
      · rw [List.length_cons]
        omega
      · rw [List.forall_mem_cons, ← whole, ← wholeRest, List.length_cons (a := part)]
        omega

theorem parts (pieces : HasPieces count text) : ∃ parts, text = [','].intercalate parts ∧
    parts.length = count ∧ ∀ part ∈ parts, Balanced false part ∧ Filled part := by
  induction pieces with
  | @one text balanced filled =>
    exact ⟨[text], List.intercalate_singleton.symm, rfl, by simp [balanced, filled]⟩
  | @more _ first _ balanced filled behind ih =>
    obtain ⟨parts, rfl, number, each⟩ := ih
    have least := behind.pos
    cases parts with
    | nil =>
      rw [List.length_nil] at number
      omega
    | cons part rest =>
      refine ⟨first :: part :: rest, ?_, ?_, List.forall_mem_cons.mpr ⟨⟨balanced, filled⟩, each⟩⟩
      · rw [List.intercalate_cons_cons, List.append_assoc]
        rfl
      · rw [List.length_cons, number]

/-- No piece is dropped when the list is read. -/
theorem read (pieces : HasPieces count text) : ∃ parts, pieces? text = some parts ∧
    parts.length = count ∧ ∀ part ∈ parts, StartsAtEdge part := by
  obtain ⟨raw, rfl, number, each⟩ := pieces.parts
  have filled : raw ≠ [] := by
    rintro rfl
    exact pieces.pos.ne number
  have starts : ∀ part ∈ raw.map bare, StartsAtEdge part :=
    List.forall_mem_map.mpr fun part member => (each part member).2.bare
  have kept : (raw.map bare).filter (! ·.isEmpty) = raw.map bare := by
    rw [List.filter_eq_self]
    intro part member
    obtain ⟨c, rest, rfl, _⟩ := starts part member
    rfl
  refine ⟨raw.map bare, ?_, by rw [List.length_map, number], starts⟩
  rw [pieces?, piecesFrom_intercalate raw filled fun part member => (each part member).1,
    Option.map_some, kept]

end HasPieces

/-! Lists. -/

theorem listText_balanced {texts : List (List Char)} (each : ∀ text ∈ texts, Balanced true text) :
    Balanced true (listText texts) := by
  induction texts with
  | nil => exact .nil
  | cons text rest ih =>
    obtain ⟨head, tail⟩ := List.forall_mem_cons.mp each
    cases rest with
    | nil => rwa [listText, List.intercalate_singleton]
    | cons next more =>
      rw [listText, List.intercalate_cons_cons, List.append_assoc]
      exact head.append (.plain (by decide) (fun _ => rfl) (.plain (by decide) (by decide) (ih tail)))

theorem line_listText {texts : List (List Char)} (each : ∀ text ∈ texts, '\n' ∉ text) :
    '\n' ∉ listText texts := by
  induction texts with
  | nil => exact List.not_mem_nil
  | cons text rest ih =>
    obtain ⟨first, later⟩ := List.forall_mem_cons.mp each
    cases rest with
    | nil => rwa [listText, List.intercalate_singleton]
    | cons next more =>
      rw [listText, List.intercalate_cons_cons]
      have behind := ih later
      rw [listText] at behind
      simp [first, behind]

/-- The texts of a list with the blanks in front of them. -/
def spaced (before : Gap) : List (List Char) → List (Spaced (List Char))
  | [] => []
  | text :: rest =>
    ⟨before, text, ⟨[], isGap_nil⟩⟩ :: spaced ⟨[' '], isGap_space⟩ rest

theorem spaced_value (before : Gap) (texts : List (List Char)) :
    (spaced before texts).map Spaced.value = texts := by
  induction texts generalizing before with
  | nil => rfl
  | cons text rest ih => exact congrArg _ (ih _)

theorem joined_spaced (before : Gap) (text : List Char) (rest : List (List Char)) :
    joined (spaced before (text :: rest)) none = before ++ listText (text :: rest) := by
  induction rest generalizing before text with
  | nil => simp [spaced, joined, listText, Spaced.text]
  | cons next more ih =>
    have behind := ih ⟨[' '], isGap_space⟩ next
    simp only [joined, Option.toList_none, List.map_nil, List.append_nil] at behind ⊢
    rw [spaced, List.map_cons, listText, List.intercalate_cons_cons]
    rw [spaced, List.map_cons] at behind ⊢
    rw [List.intercalate_cons_cons, behind, listText, Spaced.text]
    simp

theorem pieces?_listText {texts : List (List Char)} (each : ∀ text ∈ texts, IsWhole text) :
    pieces? (listText texts) = some texts := by
  cases texts with
  | nil => decide +kernel
  | cons text rest =>
    have whole : ∀ part ∈ spaced ⟨[], isGap_nil⟩ (text :: rest), IsWhole part.value := by
      rw [← List.forall_mem_map, spaced_value]
      exact each
    have pieces := pieces?_joined whole none
    rwa [joined_spaced, spaced_value, List.nil_append] at pieces

/-! The pieces of a type. -/

theorem balanced_of_all {marks : List Char} (plain : (marks.all fun c => isPlain c && c != ',') = true) :
    Balanced false marks := by
  refine .of_plain fun c member => ?_
  simpa using List.all_eq_true.mp plain c member

theorem Word.plain (word : Word) : Balanced false word.chars :=
  .of_plain fun c member => isPlain_of isNameChar (by decide) c (word.each c member)

theorem Word.start (word : Word) : StartsAtEdge word.chars := by
  obtain ⟨c, rest, shape⟩ := List.exists_cons_of_ne_nil word.filled
  exact ⟨c, rest, shape, isEdge_name c (word.each c (shape ▸ List.mem_cons_self))⟩

theorem Word.line (word : Word) : '\n' ∉ word.chars := by
  intro member
  have named := word.each _ member
  revert named
  decide

theorem LineLiteral.balanced (literal : LineLiteral) : Balanced false literal.text :=
  (literal.closes.whole literal.quote.2).balanced

theorem LineLiteral.line_text (literal : LineLiteral) : '\n' ∉ literal.text := by
  have quote : '\n' ≠ literal.quote.1 := by
    intro same
    have quotes := literal.quote.2
    rw [← same] at quotes
    cases quotes
  simp [text, quoted, quote, literal.line]

namespace ForeignType

theorem literals_balanced (first : LineLiteral) (rest : List LineLiteral) :
    Balanced false (literals first rest).text := by
  rw [text]
  refine first.balanced.append ?_
  induction rest with
  | nil => exact .nil
  | cons literal rest ih =>
    rw [List.flatMap_cons]
    have bar : Balanced false [' ', '|', ' '] := balanced_of_all (by decide)
    exact (bar.append literal.balanced).append ih

/-- A name and marks in front of a type change nothing about its pieces. -/
theorem labelled_pieces (name : Word) {mark : List Char} (plain : Balanced false mark)
    (type : ForeignType) (split : ∃ count, HasPieces count type.text ∧ (count = 1 ↔ type.Uncut)) :
    ∃ count, HasPieces count (name.chars ++ (mark ++ type.text)) ∧ (count = 1 ↔ type.Uncut) := by
  obtain ⟨count, pieces, whole⟩ := split
  have labelled := pieces.labelled (name.plain.append plain) (name.start.append mark)
  rw [List.append_assoc] at labelled
  exact ⟨count, labelled, whole⟩

/-- A type is split at the commas of its generic types, unless parentheses are around them. -/
theorem split (type : ForeignType) :
    ∃ count, HasPieces count type.text ∧ (count = 1 ↔ type.Uncut) := by
  induction type using induct with
  | named word =>
    exact ⟨1, .one word.plain word.start.filled, by simp [Uncut]⟩
  | literals first rest =>
    have start : StartsAtEdge first.text := ⟨first.quote, _, rfl, isEdge_quote _ first.quote.2⟩
    exact ⟨1, .one (literals_balanced first rest) (start.filled.append _), by simp [Uncut]⟩
  | array element ih =>
    obtain ⟨count, pieces, whole⟩ := ih
    exact ⟨count, pieces.append (.of_block rfl .nil), whole⟩
  | generic head first rest ihFirst ihRest =>
    obtain ⟨count, pieces, least, whole⟩ := HasPieces.list text Uncut (first :: rest)
      (List.cons_ne_nil _ _) (List.forall_mem_cons.mpr ⟨ihFirst, ihRest⟩)
    have opening : Balanced false ['<'] := balanced_of_all (by decide)
    have closing : Balanced false ['>'] := balanced_of_all (by decide)
    have labelled := (pieces.append closing).labelled (head.plain.append opening)
      (head.start.append ['<'])
    refine ⟨count, ?_, ?_⟩
    · rw [text, argumentTexts_eq, ← List.map_cons]
      rwa [List.append_assoc] at labelled
    · cases rest with
      | nil => simpa [Uncut] using whole
      | cons second others =>
        have several : count ≠ 1 := by
          rw [List.length_cons, List.length_cons] at least
          omega
        simp [Uncut, several]
  | function parameters result ihParameters ihResult =>
    obtain ⟨count, pieces, whole⟩ := ihResult
    have colon : Balanced false [':', ' '] := balanced_of_all (by decide)
    have inside : Balanced false ('(' :: (listText (parameters.map parameterText) ++ [')'])) := by
      refine .of_block rfl (listText_balanced (List.forall_mem_map.mpr fun parameter member => ?_))
      obtain ⟨_, pieces, _⟩ :=
        labelled_pieces parameter.1 colon parameter.2 (ihParameters parameter member)
      exact pieces.balanced
    have arrow : Balanced false " => ".toList := balanced_of_all (by decide)
    have labelled := pieces.labelled (inside.append arrow) ⟨'(', _, rfl, rfl⟩
    refine ⟨count, ?_, whole⟩
    rw [text, parameterTexts_eq]
    simpa using labelled
  | grouped inner ih =>
    obtain ⟨count, pieces, _⟩ := ih
    have start : StartsAtEdge ('(' :: (inner.text ++ [')'])) := ⟨'(', _, rfl, rfl⟩
    exact ⟨1, .one (.of_block rfl pieces.balanced) start.filled, by simp [Uncut]⟩

theorem head (type : ForeignType) : StartsAtEdge type.text := by
  induction type using induct with
  | named word => exact word.start
  | literals first => exact ⟨first.quote, _, rfl, isEdge_quote _ first.quote.2⟩
  | array element ih => exact ih.append _
  | generic head => exact head.start.append _
  | function => exact ⟨'(', _, rfl, rfl⟩
  | grouped => exact ⟨'(', _, rfl, rfl⟩

theorem last (type : ForeignType) : ∃ init c, type.text = init ++ [c] ∧ isEdge c = true := by
  induction type using induct with
  | named word =>
    exact ⟨_, _, (List.dropLast_append_getLast word.filled).symm,
      isEdge_name _ (word.each _ (List.getLast_mem word.filled))⟩
  | literals first rest =>
    rcases List.eq_nil_or_concat' rest with rfl | ⟨init, final, rfl⟩
    · exact ⟨first.quote :: first.inside, first.quote, by simp [text, LineLiteral.text, quoted],
        isEdge_quote _ first.quote.2⟩
    · refine ⟨(literals first init).text ++ ' ' :: '|' :: ' ' :: final.quote :: final.inside,
        final.quote, ?_, isEdge_quote _ final.quote.2⟩
      simp [text, LineLiteral.text, quoted]
  | array element => exact ⟨element.text ++ ['['], ']', by simp [text], rfl⟩
  | generic head first rest =>
    exact ⟨head.chars ++ '<' :: listText (first.text :: argumentTexts rest), '>', by simp [text], rfl⟩
  | function parameters result _ ih =>
    obtain ⟨init, c, shape, edge⟩ := ih
    refine ⟨'(' :: (listText (parameterTexts parameters) ++ ')' :: (" => ".toList ++ init)), c, ?_,
      edge⟩
    rw [text, shape]
    simp
  | grouped inner => exact ⟨'(' :: inner.text, ')', by simp [text], rfl⟩

theorem trimmed (type : ForeignType) : IsTrim type.text := by
  obtain ⟨c, rest, shape, edge⟩ := type.head
  obtain ⟨init, final, ends, finalEdge⟩ := type.last
  exact ⟨⟨c, rest, shape, isBlank_edge c edge⟩, ⟨init, final, ends, isBlank_edge final finalEdge⟩⟩

theorem line (type : ForeignType) : '\n' ∉ type.text := by
  induction type using induct with
  | named word => exact word.line
  | literals first rest =>
    simp [text, first.line_text, LineLiteral.line_text]
  | array element ih => simp [text, ih]
  | generic head first rest ihFirst ihRest =>
    have inside : '\n' ∉ listText ((first :: rest).map text) :=
      line_listText (List.forall_mem_map.mpr (List.forall_mem_cons.mpr ⟨ihFirst, ihRest⟩))
    rw [List.map_cons] at inside
    simp [text, argumentTexts_eq, head.line, inside]
  | function parameters result ihParameters ihResult =>
    have inside : '\n' ∉ listText (parameters.map parameterText) := by
      refine line_listText (List.forall_mem_map.mpr fun parameter member => ?_)
      simp [parameterText, parameter.1.line, ihParameters parameter member]
    simp [text, parameterTexts_eq, inside, ihResult]
  | grouped inner ih => simp [text, ih]

end ForeignType
end ApiAssembly
