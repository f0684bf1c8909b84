import ApiAssembly.Declaration.Schema
import ApiAssembly.Proofs.Scan.QuotedKey
import ApiAssembly.Proofs.Scan.Writing
/-! Unions of quoted texts. Blanks around the members and members that stand for absence are dropped, and
what is left decides: two texts or more are an enumeration, in the order in which they are written. A
single text is taken for the name of a type that is not known. -/
namespace ApiAssembly.TypeSchema
open Scan Text

/-- A quoted text without escapes that the union is not split in. -/
structure TextLiteral where
  quote : QuoteMark
  content : List Char
  unescaped : '\\' ∉ content
  other : quote.1 ∉ content
  apart : '|' ∉ content

def TextLiteral.text (literal : TextLiteral) : List Char := quoted literal.quote literal.content

inductive Member where
  | literal (given : TextLiteral)
  | undefined
  | null

namespace Member

def text : Member → List Char
  | .literal given => given.text
  | .undefined => "undefined".toList
  | .null => "null".toList

def literal? : Member → Option TextLiteral
  | .literal given => some given
  | _ => none

end Member

def partText (part : Spaced Member) : List Char := part.before ++ part.value.text ++ part.after

def unionText (parts : List (Spaced Member)) : List Char := ['|'].intercalate (parts.map partText)

def literals (parts : List (Spaced Member)) : List TextLiteral :=
  parts.filterMap fun part => part.value.literal?

def enumeration (texts : List TextLiteral) : Json :=
  .obj [("enum", .arr (texts.map fun literal => .str (String.ofList literal.content))),
    ("type", .str "string")]

/-! Splitting. -/

theorem splitOn_other {separator c : Char} (other : c ≠ separator) (rest piece : List Char)
    (more : List (List Char)) (parts : splitOn separator rest = piece :: more) :
    splitOn separator (c :: rest) = (c :: piece) :: more := by
  rw [splitOn, if_neg other, parts]

theorem splitOn_eq (separator : Char) (cs : List Char) :
    splitOn separator cs = cs.splitOn separator := by
  unfold List.splitOn
  induction cs with
  | nil => rfl
  | cons c rest ih =>
    rw [List.splitOnP_cons_eq_if_modifyHead, ← ih, splitOn]
    by_cases same : c = separator
    · simp [same]
    · obtain ⟨piece, more, parts⟩ := List.exists_cons_of_ne_nil (ih ▸ List.splitOnP_ne_nil _ rest)
      rw [if_neg same, if_neg (by simpa using same), parts]
      rfl

theorem splitOn_ne_nil (separator : Char) (cs : List Char) : splitOn separator cs ≠ [] := by
  rw [splitOn_eq]
  exact List.splitOnP_ne_nil _ _

/-- What is put in front of a text comes into its first piece. -/
theorem splitOn_append_front {separator : Char} (front cs piece : List Char) (more : List (List Char))
    (free : separator ∉ front) (parts : splitOn separator cs = piece :: more) :
    splitOn separator (front ++ cs) = (front ++ piece) :: more := by
  induction front with
  | nil => exact parts
  | cons c rest ih =>
    obtain ⟨other, later⟩ := not_or.mp (mt List.mem_cons.mpr free)
    exact splitOn_other (Ne.symm other) _ _ _ (ih later)

/-- What is put behind a text comes into its last piece. -/
theorem splitOn_append_back {separator : Char} (cs back : List Char) (free : separator ∉ back) :
    ∃ init last, splitOn separator cs = init ++ [last] ∧
      splitOn separator (cs ++ back) = init ++ [last ++ back] := by
  induction cs with
  | nil =>
    have alone := splitOn_append_front back [] [] [] free rfl
    rw [List.append_nil] at alone
    exact ⟨[], [], rfl, alone⟩
  | cons c rest ih =>
    obtain ⟨init, last, short, long⟩ := ih
    by_cases same : c = separator
    · exact ⟨[] :: init, last, by simp [splitOn, same, short], by simp [splitOn, same, long]⟩
    · cases init with
      | nil => exact ⟨[], c :: last, splitOn_other same _ _ _ short, splitOn_other same _ _ _ long⟩
      | cons first more =>
        exact ⟨(c :: first) :: more, last, splitOn_other same _ _ _ short,
          splitOn_other same _ _ _ long⟩

theorem bar_not_mem_gap (gap : List Char) (blank : IsGap gap) : '|' ∉ gap := by
  intro member
  have filled : isBlank '|' = false := by decide
  rw [blank '|' member] at filled
  cases filled

/-- Each member is trimmed, so blanks around the whole union make no difference. -/
theorem members_surrounded (before cs after : List Char) (blankBefore : IsGap before)
    (blankAfter : IsGap after) : members (before ++ cs ++ after) = members cs := by
  have front : (splitOn '|' (before ++ cs)).map trim = (splitOn '|' cs).map trim := by
    obtain ⟨piece, more, parts⟩ := List.exists_cons_of_ne_nil (splitOn_ne_nil '|' cs)
    rw [splitOn_append_front before cs piece more (bar_not_mem_gap before blankBefore) parts, parts,
      List.map_cons, List.map_cons, trim_gap_append _ _ blankBefore]
  have back : (splitOn '|' (before ++ cs ++ after)).map trim = (splitOn '|' (before ++ cs)).map trim := by
    obtain ⟨init, last, short, long⟩ :=
      splitOn_append_back (before ++ cs) after (bar_not_mem_gap after blankAfter)
    rw [short, long, List.map_append, List.map_append, List.map_singleton, List.map_singleton,
      trim_append_gap _ _ blankAfter]
  rw [members, members, back, front]

theorem members_trim (cs : List Char) : members (trim cs) = members cs := by
  obtain ⟨before, after, blankBefore, blankAfter, parts⟩ := trim_parts cs
  calc members (trim cs) = members (before ++ trim cs ++ after) :=
        (members_surrounded before _ after blankBefore blankAfter).symm
    _ = members cs := by rw [← parts]

/-! The members that are written. -/

theorem TextLiteral.whole (literal : TextLiteral) : IsWhole literal.text :=
  (Closes.of_plain literal.quote.2 literal.unescaped literal.other).whole literal.quote.2

theorem TextLiteral.text_ne (literal : TextLiteral) (name : List Char)
    (plain : name.head?.any isQuote = false) : literal.text ≠ name := by
  rintro rfl
  rw [text, quoted, List.head?_cons, Option.any_some, literal.quote.2] at plain
  cases plain

theorem Member.text_trim (member : Member) : IsTrim member.text := by
  cases member with
  | literal given => exact given.whole.trimmed
  | undefined => exact ⟨⟨'u', _, rfl, by decide⟩, ⟨"undefine".toList, 'd', rfl, by decide⟩⟩
  | null => exact ⟨⟨'n', _, rfl, by decide⟩, ⟨"nul".toList, 'l', rfl, by decide⟩⟩

theorem Member.bar_not_mem (member : Member) : '|' ∉ member.text := by
  cases member with
  | literal given =>
    have quote : '|' ≠ given.quote.1 := by
      intro same
      have quotes := given.quote.2
      rw [← same] at quotes
      cases quotes
    change '|' ∉ quoted given.quote given.content
    rw [quoted, List.mem_cons, List.mem_append, List.mem_singleton]
    exact fun member => member.elim quote fun later => later.elim given.apart quote
  | undefined => decide
  | null => decide

/-- What the reader keeps of the members. -/
def isPresent (member : List Char) : Bool :=
  member ≠ "undefined".toList && member ≠ "null".toList

theorem TextLiteral.isPresent (literal : TextLiteral) : TypeSchema.isPresent literal.text = true := by
  rw [TypeSchema.isPresent, Bool.and_eq_true, decide_eq_true_eq, decide_eq_true_eq]
  exact ⟨literal.text_ne _ rfl, literal.text_ne _ rfl⟩

theorem filter_isPresent (parts : List (Spaced Member)) :
    (parts.map fun part => part.value.text).filter isPresent = (literals parts).map TextLiteral.text := by
  induction parts with
  | nil => rfl
  | cons part rest ih =>
    rw [List.map_cons, literals, List.filterMap_cons, ← literals]
    cases part.value with
    | literal given =>
      change List.filter isPresent (given.text :: _) = given.text :: _
      rw [List.filter_cons_of_pos given.isPresent, ih]
    | undefined =>
      rw [List.filter_cons_of_neg (by decide), ih]
      rfl
    | null =>
      rw [List.filter_cons_of_neg (by decide), ih]
      rfl

/-- The members of a written union are its quoted texts. -/
theorem members_unionText (parts : List (Spaced Member)) (filled : parts ≠ []) :
    members (unionText parts) = (literals parts).map TextLiteral.text := by
  have pieces : splitOn '|' (unionText parts) = parts.map partText := by
    rw [splitOn_eq, unionText, List.splitOn_intercalate _ _ (by simpa using filled)]
    rw [List.forall_mem_map]
    intro part _
    rw [partText, List.mem_append, List.mem_append, not_or, not_or]
    exact ⟨⟨bar_not_mem_gap _ part.before.2, part.value.bar_not_mem⟩, bar_not_mem_gap _ part.after.2⟩
  have trimmed : (splitOn '|' (unionText parts)).map trim = parts.map fun part => part.value.text := by
    rw [pieces, List.map_map]
    exact List.map_congr_left fun part _ =>
      part.value.text_trim.trim_surrounded _ _ part.before.2 part.after.2
  change ((splitOn '|' (unionText parts)).map trim).filter isPresent = _
  rw [trimmed, filter_isPresent]

/-! The schema. -/

theorem literalText?_text (literal : TextLiteral) :
    literalText? literal.text = some (.str (String.ofList literal.content)) := by
  have read : literal? literal.text = some (.str (String.ofList literal.content)) := by
    rw [literal?_string_iff, String.toList_ofList]
    exact ⟨literal.quote.1, literal.content, literal.quote.2, literal.whole.bare,
      unescape?_unescaped _ literal.unescaped⟩
  rw [literalText?, read]

/-- A quoted text ends with its quote, so it is no array type. -/
theorem element?_text (literal : TextLiteral) : element? literal.text = none := by
  have last : literal.text.reverse = literal.quote.1 :: (literal.quote.1 :: literal.content).reverse := by
    simp [TextLiteral.text, quoted]
  rw [element?, last]
  rcases quote_cases _ literal.quote.2 with quote | quote | quote <;> (rw [quote]; rfl)

theorem named_text (literal : TextLiteral) : named literal.text =
    .obj [("type", .str "object"), (foreignMark, .str (String.ofList literal.text))] := by
  have other (name : String) (plain : name.toList.head?.any isQuote = false) :
      String.ofList literal.text ≠ name := by
    intro same
    refine literal.text_ne name.toList plain ?_
    rw [← same, String.toList_ofList]
  unfold named
  simp [other "number" rfl, other "float" rfl, other "double" rfl, other "integer" rfl,
    other "int" rfl, other "boolean" rfl, other "bool" rfl, other "string" rfl]

section Schema
variable {cs : List Char} {texts : List TextLiteral} (found : members cs = texts.map TextLiteral.text)
include found

theorem trim_filled (filled : texts ≠ []) : trim cs ≠ [] := by
  intro nothing
  obtain ⟨first, rest, rfl⟩ := List.exists_cons_of_ne_nil filled
  -- The one member of an empty union is empty, and no quoted text is.
  have empty : members [] = [[]] := by decide
  rw [← members_trim, nothing, empty] at found
  exact first.whole.filled (List.cons.inj found).1.symm

theorem ofText_several (several : 1 < texts.length) : ofText cs = enumeration texts := by
  have filled : texts ≠ [] := List.ne_nil_of_length_pos (by omega)
  have read : (members (trim cs)).mapM literalText? =
      some (texts.map fun literal => Json.str (String.ofList literal.content)) := by
    rw [members_trim, found]
    exact mapM_written TextLiteral.text literalText? _ texts fun literal _ => literalText?_text literal
  have count : (members (trim cs)).length > 1 := by
    rw [members_trim, found, List.length_map]
    exact several
  rw [ofText]
  simp only [List.isEmpty_iff, trim_filled found filled, if_false, count, if_true, read]
  rfl

theorem ofText_single (only : TextLiteral) (one : texts = [only]) : ofText cs = named only.text := by
  subst one
  have first : single (trim cs) = only.text := by
    rw [single, members_trim, found]
    rfl
  have count : ¬ (members (trim cs)).length > 1 := by
    rw [members_trim, found]
    simp
  rw [ofText]
  simp only [List.isEmpty_iff, trim_filled found (List.cons_ne_nil _ _), if_false, count]
  split
  · rename_i inner element
    rw [first, element?_text] at element
    cases element
  · rw [first]

end Schema

theorem ofType_unionText (parts : List (Spaced Member)) (initial : Option Json)
    (filled : literals parts ≠ []) :
    ofType (some (String.ofList (unionText parts))) initial = ofText (unionText parts) := by
  have some : parts ≠ [] := by
    rintro rfl
    exact filled rfl
  have visible : isBlankText (String.ofList (unionText parts)) = false := by
    rw [isBlankText, String.toList_ofList, Bool.eq_false_iff]
    intro blank
    exact trim_filled (members_unionText parts some) filled
      (trim_gap _ (List.all_eq_true.mp blank))
  rw [ofType, visible, String.toList_ofList]
  rfl

/-- A union with quoted texts is the enumeration of these texts exactly when there are two or more. With
a single one the schema is that of a type that is not known, an object, with the quoted text as its
name, also where the union says that the text may be absent. -/
theorem enumeration_read_iff (parts : List (Spaced Member)) (initial : Option Json)
    (filled : literals parts ≠ []) :
    (ofType (some (String.ofList (unionText parts))) initial = enumeration (literals parts) ↔
      1 < (literals parts).length) ∧
    ∀ only, literals parts = [only] →
      ofType (some (String.ofList (unionText parts))) initial =
        .obj [("type", .str "object"), (foreignMark, .str (String.ofList only.text))] := by
  have some : parts ≠ [] := by
    rintro rfl
    exact filled rfl
  have found := members_unionText parts some
  rw [ofType_unionText parts initial filled]
  have lone (only : TextLiteral) (one : literals parts = [only]) : ofText (unionText parts) =
      .obj [("type", .str "object"), (foreignMark, .str (String.ofList only.text))] := by
    rw [ofText_single found only one, named_text]
  refine ⟨⟨?_, ofText_several found⟩, lone⟩
  intro same
  by_contra few
  have one : (literals parts).length = 1 := by
    have := List.length_pos_iff.mpr filled
    omega
  obtain ⟨only, shape⟩ := List.length_eq_one_iff.mp one
  simp [lone only shape, enumeration] at same

/-- Two texts in quotes of two kinds, with absence between them. -/
theorem enumeration_read_sides :
    let front : TextLiteral := ⟨⟨'\'', rfl⟩, "front".toList, by decide, by decide, by decide⟩
    let back : TextLiteral := ⟨⟨'"', rfl⟩, "back".toList, by decide, by decide, by decide⟩
    let none : Gap := ⟨[], nofun⟩
    let blank : Gap := ⟨[' '], by simp [IsGap, isBlank]⟩
    let parts : List (Spaced Member) :=
      [⟨none, .literal front, blank⟩, ⟨blank, .undefined, none⟩, ⟨none, .literal back, blank⟩]
    unionText parts = "'front' | undefined|\"back\" ".toList ∧ literals parts ≠ [] ∧
    ofType (some (String.ofList (unionText parts))) (some .null) = enumeration [front, back] := by
  intro front back none blank parts
  have filled : literals parts ≠ [] := List.cons_ne_nil _ _
  exact ⟨by decide, filled, (enumeration_read_iff parts (some .null) filled).1.mpr (by decide)⟩

/-- An optional parameter that takes one text only is described as an object. -/
theorem single_text_misread :
    let front : TextLiteral := ⟨⟨'\'', rfl⟩, "front".toList, by decide, by decide, by decide⟩
    let none : Gap := ⟨[], nofun⟩
    let blank : Gap := ⟨[' '], by simp [IsGap, isBlank]⟩
    let parts : List (Spaced Member) := [⟨none, .literal front, blank⟩, ⟨blank, .undefined, none⟩]
    unionText parts = "'front' | undefined".toList ∧ literals parts = [front] ∧
    ofType (some "'front' | undefined") Option.none =
      .obj [("type", .str "object"), (foreignMark, .str "'front'")] ∧
    ofType (some "'front' | undefined") Option.none ≠ enumeration [front] := by
  intro front none blank parts
  exact ⟨by decide, rfl, by decide +kernel, by decide +kernel⟩

end ApiAssembly.TypeSchema
