import ApiAssembly.Proofs.Scan.Trimming
import ApiAssembly.Scan.Literal
/-! What a literal is read as. The bare text decides: a list and an object are told by their opening
bracket and must be one block, a quoted text by its first and last character, and what is neither is
a name or a number. -/
namespace ApiAssembly.Scan
open Text

def member? (entry : List Char × List Char) : Option (String × Json) :=
  (literal? entry.2).map fun value => (String.ofList entry.1, value)

def Shape.read? : Shape → Option Json
  | .scalar value => some value
  | .list items => (items.mapM literal?).map .arr
  | .members entries => (entries.mapM member?).map Json.ofFields

theorem mapM_attach {α β : Type} (items : List α) (read : α → Option β) :
    (items.attach.mapM fun item => read item.1) = items.mapM read := by
  rw [List.mapM_subtype (g := read) fun _ _ => rfl, List.unattach_attach]

theorem literal?_eq (cs : List Char) : literal? cs = (shape? cs).bind Shape.read? := by
  rw [literal?]
  split
  · rename_i shape
    rw [shape]
    rfl
  · rename_i value shape
    rw [shape]
    rfl
  · rename_i items shape
    rw [shape]
    exact congrArg (Option.map Json.arr) (mapM_attach items literal?)
  · rename_i entries shape
    rw [shape]
    exact congrArg (Option.map Json.ofFields) (mapM_attach entries member?)

theorem literal?_congr (left right : List Char) (same : bare left = bare right) :
    literal? left = literal? right := by
  rw [literal?_eq, literal?_eq, shape?, shape?, same]

section Shapes
variable (cs : List Char) {text : List Char} (shape : bare cs = text)
include shape

theorem literal?_list (opens : text.head? = some '[') :
    literal? cs = (parts? text).bind fun items => (items.mapM literal?).map .arr := by
  rw [literal?_eq, shape?, shape, if_pos opens]
  cases parts? text <;> rfl

theorem literal?_object (opens : text.head? = some '\x7b') :
    literal? cs = ((parts? text).bind fun parts => parts.mapM keyValue?).bind fun entries =>
      (entries.mapM member?).map Json.ofFields := by
  have other : text.head? ≠ some '[' := by
    rw [opens]
    decide
  rw [literal?_eq, shape?, shape, if_neg other, if_pos opens]
  cases parts? text with
  | none => rfl
  | some parts =>
    change (Option.map _ (parts.mapM keyValue?)).bind _ = _
    cases entries : parts.mapM keyValue? <;> simp [entries, Shape.read?]

theorem literal?_scalar (list : text.head? ≠ some '[') (object : text.head? ≠ some '\x7b') :
    literal? cs = scalar? text := by
  rw [literal?_eq, shape?, shape, if_neg list, if_neg object]
  cases scalar? text <;> rfl

/-- A literal that starts with a bracket is one block, and nothing follows it. -/
theorem block_of_literal (value : Json) (read : literal? cs = some value)
    (opens : text.head? = some '[' ∨ text.head? = some '\x7b') :
    ∃ inside, block? text = some (inside, []) := by
  have parts : (parts? text).isSome := by
    rcases opens with list | object
    · rw [literal?_list cs shape list] at read
      obtain ⟨items, found, _⟩ := Option.bind_eq_some_iff.mp read
      exact Option.isSome_of_eq_some found
    · rw [literal?_object cs shape object] at read
      obtain ⟨entries, found, _⟩ := Option.bind_eq_some_iff.mp read
      obtain ⟨items, found, _⟩ := Option.bind_eq_some_iff.mp found
      exact Option.isSome_of_eq_some found
  unfold parts? at parts
  split at parts
  · exact ⟨_, ‹_›⟩
  · cases parts

theorem not_block_of_read {value : Json} (read : literal? cs = some value)
    (plain : (∀ items, value ≠ .arr items) ∧ ∀ fields, value ≠ .obj fields) :
    text.head? ≠ some '[' ∧ text.head? ≠ some '\x7b' := by
  constructor
  · intro list
    rw [literal?_list cs shape list] at read
    obtain ⟨items, _, found⟩ := Option.bind_eq_some_iff.mp read
    obtain ⟨values, _, same⟩ := Option.map_eq_some_iff.mp found
    exact plain.1 values same.symm
  · intro object
    rw [literal?_object cs shape object] at read
    obtain ⟨entries, _, found⟩ := Option.bind_eq_some_iff.mp read
    obtain ⟨fields, _, same⟩ := Option.map_eq_some_iff.mp found
    exact plain.2 _ same.symm

end Shapes

/-- What is left of an entry is read behind its key, whatever blanks stand around the colon. -/
theorem keyValue?_of_key {text key gap : List Char} (value : List Char)
    (start : ∃ c rest, text = c :: rest ∧ isBlank c = false) (blank : IsGap gap)
    (read : ∀ rest, entryKey? (text ++ (gap ++ ':' :: rest)) = some (key, gap ++ ':' :: rest)) :
    keyValue? (text ++ (gap ++ ':' :: value)) = some (key, trim value) := by
  obtain ⟨c, rest, shape, filled⟩ := start
  have trimmed : trim (text ++ (gap ++ ':' :: value)) = text ++ (gap ++ ':' :: trimEnd value) := by
    have first : ∃ d more, text ++ gap = d :: more ∧ isBlank d = false :=
      ⟨c, rest ++ gap, by rw [shape, List.cons_append], filled⟩
    rw [← List.append_assoc, trim_of_start first ':' value (by decide), List.append_assoc]
  rw [keyValue?, trimmed, read, Option.bind_eq_bind, Option.bind_some]
  simp only [trimStart_gap gap _ ':' blank (by decide), trim_trimEnd]

/-! A text that is no name is a quoted text or a number. -/

def names : List (List Char) :=
  [[], "true".toList, "false".toList, "null".toList, "undefined".toList]

theorem scalar?_unnamed (text : List Char) (other : text ∉ names) :
    scalar? text = ((unquote? text).map fun inner => .str (String.ofList inner)).or
      ((number? text).map .num) := by
  simp only [names, List.mem_cons, List.not_mem_nil, or_false, not_or] at other
  obtain ⟨filled, notTrue, notFalse, notNull, notUndefined⟩ := other
  rw [scalar?, if_neg filled, if_neg notTrue, if_neg notFalse,
    if_neg (not_or.mpr ⟨notNull, notUndefined⟩)]
  cases unquote? text <;> rfl

theorem scalar?_name (text : List Char) (value : Json) (named : text ∈ names)
    (read : scalar? text = some value) : value = .null ∨ ∃ truth, value = .bool truth := by
  simp only [names, List.mem_cons, List.not_mem_nil, or_false] at named
  rcases named with rfl | rfl | rfl | rfl | rfl
  · cases read
  · exact .inr ⟨true, (Option.some.inj read).symm⟩
  · exact .inr ⟨false, (Option.some.inj read).symm⟩
  · exact .inl (Option.some.inj read).symm
  · exact .inl (Option.some.inj read).symm

/-- A name, a quoted text or a number, told apart by the value that is read. -/
theorem scalar?_cases (text : List Char) (value : Json) (read : scalar? text = some value) :
    (text ∈ names ∧ (value = .null ∨ ∃ truth, value = .bool truth)) ∨
      (∃ inner, unquote? text = some inner ∧ value = .str (String.ofList inner)) ∨
      ∃ number, number? text = some number ∧ value = .num number := by
  by_cases named : text ∈ names
  · exact .inl ⟨named, scalar?_name text value named read⟩
  rw [scalar?_unnamed text named] at read
  cases found : unquote? text with
  | some inner =>
    rw [found] at read
    exact .inr (.inl ⟨inner, rfl, (Option.some.inj read).symm⟩)
  | none =>
    rw [found] at read
    obtain ⟨number, found, same⟩ := Option.map_eq_some_iff.mp read
    exact .inr (.inr ⟨number, found, same.symm⟩)

/-! Numbers are written with few characters. -/

def isNumeral (c : Char) : Bool :=
  c.isDigit || c = '+' || c = '-' || c = '.' || c = 'e' || c = 'E'

theorem isNumeral_digit (c : Char) (digit : c.isDigit = true) : isNumeral c = true := by
  simp [isNumeral, digit]

theorem numerals_of_sign (cs : List Char) (rest : ∀ c ∈ (Decimal.sign cs).2, isNumeral c = true) :
    ∀ c ∈ cs, isNumeral c = true := by
  unfold Decimal.sign at rest
  split at rest
  · exact List.forall_mem_cons.mpr ⟨by decide, rest⟩
  · exact List.forall_mem_cons.mpr ⟨by decide, rest⟩
  · exact rest

theorem numerals_of_integer (cs : List Char) (value : Int) (read : Decimal.integer? cs = some value) :
    ∀ c ∈ cs, isNumeral c = true := by
  apply numerals_of_sign
  simp only [Decimal.integer?] at read
  split at read
  · cases read
  · rename_i digits
    simp only [Bool.or_eq_true, Bool.not_eq_true', not_or, Bool.not_eq_false] at digits
    intro c member
    exact isNumeral_digit c (List.all_eq_true.mp digits.2 c member)

theorem numerals_of_power (cs : List Char) (power : Int) (read : Decimal.power? cs = some power) :
    ∀ c ∈ cs, isNumeral c = true := by
  cases cs with
  | nil => exact nofun
  | cons c rest =>
    rw [Decimal.power?] at read
    split at read
    · rename_i mark
      refine List.forall_mem_cons.mpr ⟨?_, numerals_of_integer rest power read⟩
      rcases (by simpa using mark : c = 'e' ∨ c = 'E') with rfl | rfl <;> decide
    · cases read

theorem numerals_of_digits (cs : List Char)
    (rest : ∀ c ∈ cs.dropWhile Char.isDigit, isNumeral c = true) : ∀ c ∈ cs, isNumeral c = true := by
  intro c member
  rw [← List.takeWhile_append_dropWhile (p := Char.isDigit) (l := cs), List.mem_append] at member
  rcases member with digit | later
  · exact isNumeral_digit c (List.mem_takeWhile_imp digit)
  · exact rest c later

theorem numerals_of_scientific (cs : List Char) (found : Bool × Nat × Int)
    (read : Decimal.scientific? cs = some found) : ∀ c ∈ cs, isNumeral c = true := by
  apply numerals_of_sign
  apply numerals_of_digits
  simp only [Decimal.scientific?] at read
  split at read
  · rename_i more shape
    split at read
    · cases read
    · obtain ⟨power, found, _⟩ := Option.bind_eq_some_iff.mp read
      rw [shape]
      exact List.forall_mem_cons.mpr
        ⟨by decide, numerals_of_digits more (numerals_of_power _ power found)⟩
  · split at read
    · cases read
    · obtain ⟨power, found, _⟩ := Option.bind_eq_some_iff.mp read
      exact numerals_of_power _ power found

theorem numerals_of_number (cs : List Char) (value : Number) (read : number? cs = some value) :
    ∀ c ∈ cs, isNumeral c = true := by
  have fraction (found : ((Decimal.read? cs).map Number.real).isSome) :
      ∀ c ∈ cs, isNumeral c = true := by
    rw [Option.isSome_map] at found
    obtain ⟨decimal, found⟩ := Option.isSome_iff_exists.mp found
    obtain ⟨parts, scientific, _⟩ := Option.bind_eq_some_iff.mp found
    exact numerals_of_scientific cs parts scientific
  unfold number? at read
  split at read
  · rename_i integer whole
    exact numerals_of_integer cs integer whole
  · exact fraction (Option.isSome_of_eq_some read)

end ApiAssembly.Scan
