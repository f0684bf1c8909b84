import ApiAssembly.Decimal.Reader
import ApiAssembly.Json.Basic
import ApiAssembly.Scan.Bracket
import ApiAssembly.Text.Alphanumeric
/-! Literals of source text, read as JSON values: the names of truth values and absence, numbers,
quoted texts, lists, and objects whose members are literals again. -/
namespace ApiAssembly.Scan
open Text

def isKeyChar (c : Char) : Bool := isAlphanumeric c || c = '_' || c = '$' || c = '-'

/-- The key of an entry as written, without its quotes, and what stands behind it. -/
def entryKey? : List Char → Option (List Char × List Char)
  | [] => none
  | c :: rest =>
    if isQuote c then (quoteEnd? c rest).map fun found => (found.1.dropLast, found.2)
    else
      let key := (c :: rest).takeWhile isKeyChar
      if key.isEmpty then none else some (key, (c :: rest).dropWhile isKeyChar)

/-- An entry is a key and a value around a colon. -/
def keyValue? (cs : List Char) : Option (List Char × List Char) := do
  let (key, rest) ← entryKey? (trim cs)
  match trimStart rest with
  | ':' :: value => some (key, trim value)
  | _ => none

def unescape? : List Char → Option (List Char)
  | [] => some []
  | ['\\'] => none
  | '\\' :: c :: rest =>
    (unescape? rest).map fun text =>
      (if c = 'n' then '\n' else if c = 't' then '\t' else c) :: text
  | c :: rest => (unescape? rest).map fun text => c :: text

/-- Only the first and the last character are looked at for quotes. -/
def unquote? : List Char → Option (List Char)
  | [] => none
  | c :: rest =>
    if isQuote c && rest.getLast? = some c then unescape? rest.dropLast else none

def number? (cs : List Char) : Option Number :=
  match Decimal.integer? cs with
  | some value =>
    if -0x8000000000000000 ≤ value ∧ value < 0x8000000000000000 then some (.int value)
    else (Decimal.read? cs).map .real
  | none => (Decimal.read? cs).map .real

theorem entryKey?_length (cs key rest : List Char) (found : entryKey? cs = some (key, rest)) :
    rest.length ≤ cs.length := by
  cases cs with
  | nil => simp [entryKey?] at found
  | cons c tail =>
    simp only [entryKey?] at found
    split at found
    · obtain ⟨pair, inner, same⟩ := Option.map_eq_some_iff.mp found
      have whole := quoteEnd?_append c tail pair.1 pair.2 inner
      cases same
      simp [whole]
      omega
    · have shorter := (List.dropWhile_suffix isKeyChar (l := c :: tail)).length_le
      split at found
      · simp at found
      · simp only [Option.some.injEq, Prod.mk.injEq] at found
        rw [← found.2]
        exact shorter

theorem keyValue?_length (cs key value : List Char) (found : keyValue? cs = some (key, value)) :
    value.length < cs.length := by
  obtain ⟨pair, inner, outer⟩ := Option.bind_eq_some_iff.mp found
  have keyed := entryKey?_length (trim cs) pair.1 pair.2 inner
  have trimmed := trim_length cs
  have front := (List.dropWhile_suffix isBlank (l := pair.2)).length_le
  simp only at outer
  split at outer
  · rename_i rest starts
    have back := trim_length rest
    simp only [trimStart] at starts
    rw [starts] at front
    simp only [Option.some.injEq, Prod.mk.injEq] at outer
    rw [← outer.2]
    simp at front
    omega
  · simp at outer

/-- What a literal consists of, before its parts are read. -/
inductive Shape where
  | scalar (value : Json)
  | list (items : List (List Char))
  | members (entries : List (List Char × List Char))

def scalar? (text : List Char) : Option Json :=
  if text = [] then none
  else if text = "true".toList then some (.bool true)
  else if text = "false".toList then some (.bool false)
  else if text = "null".toList ∨ text = "undefined".toList then some .null
  else
    match unquote? text with
    | some inner => some (.str (String.ofList inner))
    | none => (number? text).map .num

/-- The pieces inside a block that takes up the whole text. -/
def parts? (text : List Char) : Option (List (List Char)) :=
  match block? text with
  | some (inside, []) => pieces? inside
  | _ => none

def shape? (cs : List Char) : Option Shape :=
  let text := bare cs
  if text.head? = some '[' then (parts? text).map .list
  else if text.head? = some '\x7b' then
    (parts? text).bind fun parts => (parts.mapM keyValue?).map .members
  else (scalar? text).map .scalar

theorem parts?_length (text : List Char) (parts : List (List Char))
    (found : parts? text = some parts) : ∀ part ∈ parts, part.length < text.length := by
  intro part member
  unfold parts? at found
  split at found
  · rename_i inside block
    have outer := block?_length text inside [] block
    have inner := pieces?_length inside parts found part member
    simp at outer
    omega
  · simp at found

theorem mem_mapM_entry (parts : List (List Char)) (entries : List (List Char × List Char))
    (found : parts.mapM keyValue? = some entries) :
    ∀ entry ∈ entries, ∃ part ∈ parts, keyValue? part = some entry := by
  induction parts generalizing entries with
  | nil => simp_all
  | cons part rest ih =>
    rw [List.mapM_cons] at found
    obtain ⟨head, first, tail⟩ := Option.bind_eq_some_iff.mp found
    obtain ⟨later, others, same⟩ := Option.bind_eq_some_iff.mp tail
    simp only [Option.pure_def, Option.some.injEq] at same
    subst same
    intro entry member
    rcases List.mem_cons.mp member with equal | behind
    · exact ⟨part, by simp, equal ▸ first⟩
    · obtain ⟨origin, mem, reads⟩ := ih later others entry behind
      exact ⟨origin, by simp [mem], reads⟩

theorem shape?_list (cs : List Char) (items : List (List Char))
    (found : shape? cs = some (.list items)) : ∀ item ∈ items, item.length < cs.length := by
  intro item member
  have outer := bare_length cs
  simp only [shape?] at found
  split at found
  · obtain ⟨parts, inner, same⟩ := Option.map_eq_some_iff.mp found
    cases same
    have := parts?_length _ items inner item member
    omega
  · split at found
    · obtain ⟨parts, _, same⟩ := Option.bind_eq_some_iff.mp found
      obtain ⟨_, _, same⟩ := Option.map_eq_some_iff.mp same
      cases same
    · obtain ⟨_, _, same⟩ := Option.map_eq_some_iff.mp found
      cases same

theorem shape?_members (cs : List Char) (entries : List (List Char × List Char))
    (found : shape? cs = some (.members entries)) :
    ∀ entry ∈ entries, entry.2.length < cs.length := by
  intro entry member
  have outer := bare_length cs
  simp only [shape?] at found
  split at found
  · obtain ⟨_, _, same⟩ := Option.map_eq_some_iff.mp found
    cases same
  · split at found
    · obtain ⟨parts, inner, same⟩ := Option.bind_eq_some_iff.mp found
      obtain ⟨list, keyed, same⟩ := Option.map_eq_some_iff.mp same
      cases same
      obtain ⟨part, mem, reads⟩ := mem_mapM_entry parts entries keyed entry member
      have shorter := keyValue?_length part entry.1 entry.2 reads
      have := parts?_length _ parts inner part mem
      omega
    · obtain ⟨_, _, same⟩ := Option.map_eq_some_iff.mp found
      cases same

/-- A repeated key keeps its last value. -/
def literal? (cs : List Char) : Option Json :=
  match _shape : shape? cs with
  | none => none
  | some (.scalar value) => some value
  | some (.list items) => (items.attach.mapM fun item => literal? item.1).map .arr
  | some (.members entries) =>
    (entries.attach.mapM fun entry =>
      (literal? entry.1.2).map fun value => (String.ofList entry.1.1, value)).map Json.ofFields
termination_by cs.length
decreasing_by
  · exact shape?_list cs items _shape item.1 item.2
  · exact shape?_members cs entries _shape entry.1 entry.2

end ApiAssembly.Scan
