import ApiAssembly.Proofs.Identifier.NameChars
import ApiAssembly.Proofs.Text.Quoted
/-! Texts that stay on their line. A text made of lines has exactly those lines when none of them has a
line end inside. Names and quoted texts have none, whatever they were made from. -/
namespace ApiAssembly

namespace Text

/-- The characters at which a generated program ends a line. -/
def endsLine (c : Char) : Bool := c = '\n' || c = '\r'

theorem endsLine_cases (c : Char) (ends : endsLine c = true) : c = '\n' ∨ c = '\r' := by
  simpa [endsLine] using ends

/-- Characters are looked at one by one: there are too many to go through all that there are. -/
theorem inLine_chars (cs : List Char) (plain : cs.any endsLine = false) :
    ∀ c ∈ cs, endsLine c = false := by
  simpa using List.any_eq_false.mp plain

/-- No line ends inside the text. -/
def InLine (text : String) : Prop := ∀ c ∈ text.toList, endsLine c = false

theorem inLine_iff_any (text : String) : InLine text ↔ text.toList.any endsLine = false := by
  rw [InLine, List.any_eq_false]
  simp

instance (text : String) : Decidable (InLine text) :=
  decidable_of_iff _ (inLine_iff_any text).symm

theorem inLine_literal (cs : List Char) (plain : cs.any endsLine = false) :
    InLine (String.ofList cs) := by
  rw [InLine, String.toList_ofList]
  exact inLine_chars cs plain

/-- The lines of a text; the current line is kept last character first. -/
def linesFrom (current : List Char) : List Char → List (List Char)
  | [] => if current.isEmpty then [] else [current.reverse]
  | c :: rest =>
    if endsLine c then current.reverse :: linesFrom [] rest else linesFrom (c :: current) rest

def linesOf (text : String) : List String := (linesFrom [] text.toList).map String.ofList

theorem linesFrom_line (current line rest : List Char) (inLine : ∀ c ∈ line, endsLine c = false) :
    linesFrom current (line ++ '\n' :: rest) = (current.reverse ++ line) :: linesFrom [] rest := by
  induction line generalizing current with
  | nil =>
    -- The line end that is put behind the line closes it, and nothing is kept for the next one.
    rw [List.nil_append, linesFrom, if_pos (by decide), List.append_nil]
  | cons c more ih =>
    rw [List.cons_append, linesFrom, if_neg (by simp [inLine c List.mem_cons_self]),
      ih _ fun d member => inLine d (List.mem_cons_of_mem c member)]
    simp

theorem linesFrom_append (current text rest : List Char) :
    linesFrom current (text ++ '\n' :: rest) =
      linesFrom current (text ++ ['\n']) ++ linesFrom [] rest := by
  induction text generalizing current with
  | nil =>
    have ends : endsLine '\n' = true := by decide
    rw [List.nil_append, List.nil_append, linesFrom, linesFrom, if_pos ends, if_pos ends]
    rfl
  | cons c more ih =>
    rw [List.cons_append, List.cons_append, linesFrom, linesFrom]
    by_cases ends : endsLine c = true
    · rw [if_pos ends, if_pos ends, ih, List.cons_append]
    · rw [if_neg ends, if_neg ends, ih]

theorem inLine_of_mem_linesFrom (current text line : List Char)
    (plain : ∀ c ∈ current, endsLine c = false) (member : line ∈ linesFrom current text) :
    ∀ c ∈ line, endsLine c = false := by
  induction text generalizing current with
  | nil =>
    rw [linesFrom] at member
    split at member
    · cases member
    · rw [List.mem_singleton.mp member]
      simpa using plain
  | cons c rest ih =>
    rw [linesFrom] at member
    by_cases ends : endsLine c = true
    · rw [if_pos ends] at member
      rcases List.mem_cons.mp member with rfl | later
      · simpa using plain
      · exact ih [] (by simp) later
    · rw [if_neg ends] at member
      refine ih (c :: current) ?_ member
      intro d inside
      rcases List.mem_cons.mp inside with rfl | earlier
      · exact Bool.eq_false_iff.mpr ends
      · exact plain d earlier

theorem linesOf_unlines (lines : List String) (inLine : ∀ line ∈ lines, InLine line) :
    linesOf (unlines lines) = lines := by
  rw [linesOf, toList_unlines]
  induction lines with
  | nil => rfl
  | cons line rest ih =>
    rw [List.flatMap_cons, List.append_assoc, List.singleton_append,
      linesFrom_line [] line.toList _ (inLine line List.mem_cons_self), List.map_cons,
      ih fun other member => inLine other (List.mem_cons_of_mem line member)]
    simp

/-- The lines of what is put together are the lines of the parts. -/
theorem linesOf_unlines_cons (line : String) (rest : List String) :
    linesOf (unlines (line :: rest)) = linesOf (unlines [line]) ++ linesOf (unlines rest) := by
  have parts : (unlines (line :: rest)).toList = line.toList ++ '\n' :: (unlines rest).toList := by
    rw [toList_unlines, toList_unlines, List.flatMap_cons, List.append_assoc, List.singleton_append]
  have alone : (unlines [line]).toList = line.toList ++ ['\n'] := by
    rw [toList_unlines, List.flatMap_singleton]
  rw [linesOf, parts, linesFrom_append, List.map_append, ← alone]
  rfl

theorem linesOf_unlines_append (first second : List String) :
    linesOf (unlines (first ++ second)) = linesOf (unlines first) ++ linesOf (unlines second) := by
  induction first with
  | nil => rfl
  | cons line rest ih =>
    rw [List.cons_append, linesOf_unlines_cons, ih, ← List.append_assoc, ← linesOf_unlines_cons]

/-- The lines of a text are the lines that it was made of, unless one of these had a line end. -/
theorem linesOf_unlines_iff (lines : List String) :
    linesOf (unlines lines) = lines ↔ ∀ line ∈ lines, InLine line := by
  constructor
  · intro same line member
    rw [← same] at member
    obtain ⟨read, listed, rfl⟩ := List.mem_map.mp member
    rw [InLine, String.toList_ofList]
    exact inLine_of_mem_linesFrom [] _ read (by simp) listed
  · exact linesOf_unlines lines

/-! Texts put together. -/

theorem inLine_append (first second : String) :
    InLine (first ++ second) ↔ InLine first ∧ InLine second := by
  simp only [InLine, String.toList_append, List.forall_mem_append]

theorem InLine.append {first second : String} (left : InLine first) (right : InLine second) :
    InLine (first ++ second) :=
  (inLine_append first second).mpr ⟨left, right⟩

theorem InLine.newline_not_mem {text : String} (inLine : InLine text) : '\n' ∉ text.toList := by
  intro member
  cases inLine '\n' member

theorem inLine_ofList (cs : List Char) :
    InLine (String.ofList cs) ↔ ∀ c ∈ cs, endsLine c = false := by
  rw [InLine, String.toList_ofList]

theorem inLine_join (texts : List String) (inLine : ∀ text ∈ texts, InLine text) :
    InLine (String.join texts) := by
  intro c member
  rw [String.toList_join] at member
  obtain ⟨text, listed, inside⟩ := List.mem_flatMap.mp member
  exact inLine text listed c inside

theorem inLine_oneLine (text : String) : InLine (oneLine text) := by
  intro c member
  rw [Bool.eq_false_iff]
  intro ends
  -- A line end is a blank, and the only blanks left are spaces.
  have blank : isBlank c = true := by
    rcases endsLine_cases c ends with rfl | rfl
    · decide
    · decide
  rw [blank_of_mem_oneLine text c member blank] at ends
  cases ends

theorem inLine_notice (title version : String) (titleInLine : InLine title)
    (versionInLine : InLine version) : InLine (notice title version) := by
  have opening : InLine "@generated by specweave-gen from " := inLine_literal _ rfl
  have space : InLine " " := inLine_literal _ rfl
  have closing : InLine ". Do not edit." := inLine_literal _ rfl
  exact (((opening.append titleInLine).append space).append versionInLine).append closing

theorem endsLine_of_isNameChar (c : Char) (name : Identifier.isNameChar c = true) :
    endsLine c = false := by
  rw [Bool.eq_false_iff]
  intro ends
  rcases endsLine_cases c ends with rfl | rfl
  · exact absurd name (by decide)
  · exact absurd name (by decide)

theorem endsLine_of_mem_digits (number : Nat) (c : Char) (member : c ∈ Nat.toDigits 10 number) :
    endsLine c = false := by
  have digit : c.isDigit = true := Nat.isDigit_of_mem_toDigits (by decide) (by decide) member
  apply endsLine_of_isNameChar
  simp [Identifier.isNameChar, Char.isAlphanum, digit]

theorem inLine_natural (number : Nat) : InLine (toString number) := by
  rw [Nat.toString_eq_repr, Nat.repr_eq_ofList_toDigits, inLine_ofList]
  exact endsLine_of_mem_digits number

namespace Quoted

theorem endsLine_of_mem_numbered (c d : Char) (member : d ∈ numbered c) : endsLine d = false := by
  rw [Bool.eq_false_iff]
  intro ends
  -- No digit ends a line, and neither do the braces around the digits.
  have digit : d ∉ Nat.toDigits 16 c.toNat := by
    rcases endsLine_cases d ends with rfl | rfl
    · exact not_mem_digits c.toNat '\n' (by decide)
    · exact not_mem_digits c.toNat '\r' (by decide)
  simp only [numbered, List.mem_append, digit, or_false, List.mem_cons, List.not_mem_nil] at member
  rcases member with (rfl | rfl | rfl) | rfl <;> cases ends

theorem endsLine_of_mem_escapeChar (shown : Char → Bool) (c d : Char)
    (member : d ∈ escapeChar shown c) : endsLine d = false := by
  unfold escapeChar at member
  have escape (letter : Char) (plain : endsLine letter = false) (inside : d ∈ ['\\', letter]) :
      endsLine d = false := by
    rcases List.mem_cons.mp inside with rfl | named
    · decide
    · exact List.mem_singleton.mp named ▸ plain
  split at member
  · exact escape '"' (by decide) member
  split at member
  · exact escape '\\' (by decide) member
  split at member
  · exact escape 'n' (by decide) member
  split at member
  · exact escape 't' (by decide) member
  split at member
  · exact escape 'r' (by decide) member
  split at member
  · exact escape '0' (by decide) member
  split at member
  · -- Both line ends have been written as letters above.
    rename_i newline _ _ _ _
    rw [List.mem_singleton.mp member]
    simp_all [endsLine]
  · exact endsLine_of_mem_numbered c d member

theorem inLine_quote (text : String) : InLine (quote text) := by
  rw [quote, inLine_ofList]
  intro c member
  rw [List.cons_append, List.mem_cons, List.mem_append, List.mem_singleton] at member
  rcases member with rfl | inside | rfl
  · decide
  · obtain ⟨d, _, escaped⟩ := List.mem_flatMap.mp inside
    exact endsLine_of_mem_escapeChar isPrintable d c escaped
  · decide

end Quoted
end Text

/-- Names stay on their line. -/
theorem Identifier.Wordlike.inLine {text : String} (name : Wordlike text) : Text.InLine text := by
  intro c member
  exact Text.endsLine_of_isNameChar c (name c member)

end ApiAssembly
