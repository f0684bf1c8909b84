import ApiAssembly.Artifact.PythonLiteral
import ApiAssembly.Proofs.Decimal.Texts
import ApiAssembly.Proofs.Json.Quoted
/-! Literals that tell their values. The first character of a literal tells what kind of value it is.
A quoted text ends where its reader says, and a number at the first character that no number has; so
behind a literal the rest of the text is known too, and lists and objects are told part by part. -/
namespace ApiAssembly

namespace PythonLiteral

/-! Kinds of values. -/

inductive Kind where
  | null
  | truth
  | number
  | text
  | list
  | object

def Kind.ofValue : Json → Kind
  | .null => null
  | .bool _ => truth
  | .num _ => number
  | .str _ => text
  | .arr _ => list
  | .obj _ => object

def Kind.ofStart? (c : Char) : Option Kind :=
  if Scan.isNumeral c then some number
  else if c = 'N' then some null
  else if c = 'T' ∨ c = 'F' then some truth
  else if c = '"' then some text
  else if c = '[' then some list
  else if c = '\x7b' then some object
  else none

theorem render_start (value : Json) :
    ∃ c rest, render value = c :: rest ∧ Kind.ofStart? c = some (Kind.ofValue value) := by
  cases value with
  | null => exact ⟨'N', _, rfl, rfl⟩
  | bool value =>
    cases value with
    | true => exact ⟨'T', _, rfl, rfl⟩
    | false => exact ⟨'F', _, rfl, rfl⟩
  | num value =>
    obtain ⟨c, rest, shape⟩ := List.exists_cons_of_ne_nil value.render_filled
    have numeral := value.numerals_render c (shape ▸ List.mem_cons_self)
    exact ⟨c, rest, by rw [render, shape], by rw [Kind.ofStart?, if_pos numeral]; rfl⟩
  | str value => exact ⟨'"', _, by rw [render, Json.quote]; rfl, rfl⟩
  | arr items => exact ⟨'[', _, by rw [render]; rfl, rfl⟩
  | obj fields => exact ⟨'\x7b', _, by rw [render]; rfl, rfl⟩

theorem kind_eq {left right : Json} {rest others : List Char}
    (same : render left ++ rest = render right ++ others) :
    Kind.ofValue left = Kind.ofValue right := by
  obtain ⟨c, _, shape, kind⟩ := render_start left
  obtain ⟨d, _, shape', kind'⟩ := render_start right
  rw [shape, shape', List.cons_append, List.cons_append] at same
  obtain rfl := (List.cons.inj same).1
  exact Option.some.inj (kind.symm.trans kind')

/-! What stands behind a literal. -/

/-- Behind a literal nothing stands, or what separates or closes. -/
def Ends (rest : List Char) : Prop := ∀ c ∈ rest.head?, c = ',' ∨ c = ']' ∨ c = '\x7d'

theorem ends_cons {c : Char} (rest : List Char) (marks : c = ',' ∨ c = ']' ∨ c = '\x7d') :
    Ends (c :: rest) := by
  intro d head
  obtain rfl := Option.some.inj head
  exact marks

theorem Ends.numeral {rest : List Char} (ends : Ends rest) :
    rest.takeWhile Scan.isNumeral = [] ∧ rest.dropWhile Scan.isNumeral = rest := by
  cases rest with
  | nil => exact ⟨rfl, rfl⟩
  | cons c rest =>
    have other : ¬ Scan.isNumeral c = true := by
      rcases ends c rfl with rfl | rfl | rfl <;> decide
    exact ⟨List.takeWhile_cons_of_neg other, List.dropWhile_cons_of_neg other⟩

/-- The text of a value, with what stands behind it, is that of no other value. -/
def Told {α : Type} (text : α → List Char) (value : α) : Prop :=
  ∀ other rest others, Ends rest → Ends others → text value ++ rest = text other ++ others →
    value = other ∧ rest = others

theorem told_number (number : Number) : Told Number.render number := by
  intro other rest others ends otherEnds same
  have parts (number : Number) {rest : List Char} (ends : Ends rest) :
      (number.render ++ rest).takeWhile Scan.isNumeral = number.render ∧
        (number.render ++ rest).dropWhile Scan.isNumeral = rest := by
    rw [List.takeWhile_append_of_pos number.numerals_render, ends.numeral.1, List.append_nil,
      List.dropWhile_append_of_pos number.numerals_render, ends.numeral.2]
    exact ⟨rfl, rfl⟩
  obtain ⟨text, behind⟩ := parts number ends
  rw [same] at text behind
  exact ⟨(Number.render_inj ((parts other otherEnds).1.symm.trans text)).symm,
    behind.symm.trans (parts other otherEnds).2⟩

/-! Lists of parts. -/

def separated (texts : List (List Char)) : List Char := [',', ' '].intercalate texts

theorem renderItems_eq (items : List Json) : renderItems items = separated (items.map render) := by
  induction items with
  | nil => rw [renderItems]; rfl
  | cons item rest ih =>
    cases rest with
    | nil => rw [renderItems, List.map_singleton, separated, List.intercalate_singleton]
    | cons next more =>
      rw [renderItems, ih]
      · simp [separated, List.intercalate_cons_cons]
      · exact List.cons_ne_nil next more

def fieldText (field : String × Json) : List Char :=
  Json.quote field.1 ++ ':' :: ' ' :: render field.2

theorem renderFields_eq (fields : List (String × Json)) :
    renderFields fields = separated (fields.map fieldText) := by
  induction fields with
  | nil => rw [renderFields]; rfl
  | cons field rest ih =>
    obtain ⟨name, value⟩ := field
    cases rest with
    | nil => rw [renderFields, List.map_singleton, separated, List.intercalate_singleton, fieldText]
    | cons next more =>
      rw [renderFields, ih]
      · simp [separated, fieldText, List.intercalate_cons_cons]
      · exact List.cons_ne_nil next more

/-- What stands behind the first part of a list that is closed. -/
def behindPart (texts : List (List Char)) (closing : List Char) : List Char :=
  if texts = [] then closing else ',' :: ' ' :: (separated texts ++ closing)

theorem separated_cons (first : List Char) (texts : List (List Char)) (closing : List Char) :
    separated (first :: texts) ++ closing = first ++ behindPart texts closing := by
  cases texts with
  | nil => simp [separated, behindPart]
  | cons next more => simp [separated, behindPart, List.intercalate_cons_cons]

theorem ends_behindPart (texts : List (List Char)) {closing : List Char} (ends : Ends closing) :
    Ends (behindPart texts closing) := by
  unfold behindPart
  split
  · exact ends
  · exact ends_cons _ (.inl rfl)

section Lists
variable {α : Type} {text : α → List Char} {close : Char} (closes : close = ']' ∨ close = '\x7d')
  (starts : ∀ value, ∃ c rest, text value = c :: rest ∧ c ≠ close)
include closes starts

theorem separated_told (left right : List α) (rest others : List Char)
    (each : ∀ value ∈ left, Told text value)
    (same : separated (left.map text) ++ close :: rest =
      separated (right.map text) ++ close :: others) : left = right ∧ rest = others := by
  have filled (value : α) (values : List α) (behind closing : List Char) :
      close :: behind ≠ separated ((value :: values).map text) ++ closing := by
    obtain ⟨c, more, shape, other⟩ := starts value
    rw [List.map_cons, separated_cons, shape]
    exact fun same => other (List.cons.inj same).1.symm
  have ends (rest : List Char) : Ends (close :: rest) := ends_cons rest (.inr closes)
  induction left generalizing right with
  | nil =>
    cases right with
    | nil => exact ⟨rfl, (List.cons.inj same).2⟩
    | cons value values => exact absurd same (filled value values rest _)
  | cons first left ih =>
    cases right with
    | nil => exact absurd same.symm (filled first left others _)
    | cons value right =>
      obtain ⟨head, tail⟩ := List.forall_mem_cons.mp each
      rw [List.map_cons, List.map_cons, separated_cons, separated_cons] at same
      obtain ⟨rfl, behind⟩ := head value _ _ (ends_behindPart _ (ends rest))
        (ends_behindPart _ (ends others)) same
      have comma : close ≠ ',' := by
        rcases closes with rfl | rfl <;> decide
      -- Both lists end here, or a comma follows in both.
      cases left with
      | nil =>
        cases right with
        | nil => exact ⟨rfl, (List.cons.inj behind).2⟩
        | cons next more => exact absurd (List.cons.inj behind).1 comma
      | cons next more =>
        cases right with
        | nil => exact absurd (List.cons.inj behind).1.symm comma
        | cons other others =>
          have later := (List.cons.inj (List.cons.inj behind).2).2
          obtain ⟨parts, after⟩ := ih (other :: others) tail later
          exact ⟨congrArg _ parts, after⟩

end Lists

/-! Values. -/

theorem fieldText_told (field : String × Json) (value : Told render field.2) :
    Told fieldText field := by
  intro other rest others ends otherEnds same
  rw [fieldText, fieldText, List.append_assoc, List.append_assoc] at same
  obtain ⟨name, behind⟩ := Json.quote_append_inj same
  have values := (List.cons.inj (List.cons.inj behind).2).2
  obtain ⟨inside, after⟩ := value other.2 rest others ends otherEnds values
  exact ⟨Prod.ext name inside, after⟩

theorem render_told (value : Json) : Told render value := by
  induction value using Json.induct with
  | null =>
    intro other rest others _ _ same
    cases other <;> cases kind_eq same
    exact ⟨rfl, List.append_cancel_left same⟩
  | bool value =>
    intro other rest others _ _ same
    cases other <;> cases kind_eq same
    rename_i other
    cases value <;> cases other
    · exact ⟨rfl, List.append_cancel_left same⟩
    · cases (List.cons.inj same).1
    · cases (List.cons.inj same).1
    · exact ⟨rfl, List.append_cancel_left same⟩
  | num value =>
    intro other rest others ends otherEnds same
    cases other <;> cases kind_eq same
    rename_i other
    rw [render, render] at same
    obtain ⟨number, behind⟩ := told_number value other rest others ends otherEnds same
    exact ⟨congrArg Json.num number, behind⟩
  | str value =>
    intro other rest others _ _ same
    cases other <;> cases kind_eq same
    rename_i other
    rw [render, render] at same
    obtain ⟨text, behind⟩ := Json.quote_append_inj same
    exact ⟨congrArg Json.str text, behind⟩
  | arr items ih =>
    intro other rest others _ _ same
    cases other <;> cases kind_eq same
    rename_i other
    have starts (value : Json) : ∃ c rest, render value = c :: rest ∧ c ≠ ']' := by
      obtain ⟨c, rest, shape, kind⟩ := render_start value
      refine ⟨c, rest, shape, ?_⟩
      rintro rfl
      cases kind
    rw [render, render, renderItems_eq, renderItems_eq, List.cons_append, List.cons_append,
      List.append_assoc, List.append_assoc] at same
    obtain ⟨parts, behind⟩ := separated_told (.inl rfl) starts items other rest others ih
      (List.cons.inj same).2
    exact ⟨congrArg Json.arr parts, behind⟩
  | obj fields ih =>
    intro other rest others _ _ same
    cases other <;> cases kind_eq same
    rename_i other
    have starts (field : String × Json) : ∃ c rest, fieldText field = c :: rest ∧ c ≠ '\x7d' :=
      ⟨'"', _, by rw [fieldText, Json.quote]; rfl, by decide⟩
    rw [render, render, renderFields_eq, renderFields_eq, List.cons_append, List.cons_append,
      List.append_assoc, List.append_assoc] at same
    obtain ⟨parts, behind⟩ := separated_told (.inr rfl) starts fields other rest others
      (fun field member => fieldText_told field (ih field member)) (List.cons.inj same).2
    exact ⟨congrArg Json.obj parts, behind⟩

/-- A value can be told from its literal, whatever its texts and keys contain. -/
theorem literal_eq_iff (left right : Json) : text left = text right ↔ left = right := by
  constructor
  · intro same
    have texts : render left ++ [] = render right ++ [] :=
      congrArg (· ++ []) (String.ofList_injective same)
    exact (render_told left right [] [] nofun nofun texts).1
  · exact congrArg text

end PythonLiteral
end ApiAssembly
