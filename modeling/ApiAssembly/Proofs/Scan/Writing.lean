import ApiAssembly.Proofs.Dict.Lookup
import ApiAssembly.Proofs.Scan.QuotedText
import Mathlib.Data.Set.List
/-! Values written as literals. A value may be written in many ways: the quotes, the blanks, the order
of members and a comma behind the last part are free. Whichever way is taken, the scanners find the
parts where the writer put them, and reading gives the value back. -/
namespace ApiAssembly.Scan
open Text

/-! Keys. -/

/-- A key is a name, or a quoted text in which nothing is escaped. -/
inductive Key where
  | name (cs : List Char) (word : IsWord cs)
  | quoted (quote : QuoteMark) (cs : List Char) (unescaped : '\\' ∉ cs) (other : quote.1 ∉ cs)

namespace Key

def value : Key → List Char
  | .name cs _ => cs
  | .quoted _ cs _ _ => cs

def text : Key → List Char
  | .name cs _ => cs
  | .quoted quote cs _ _ => Scan.quoted quote cs

theorem whole (key : Key) : IsWhole key.text := by
  cases key with
  | name cs word => exact word.whole
  | quoted quote cs unescaped other => exact (Closes.of_plain quote.2 unescaped other).whole quote.2

theorem read (key : Key) (c : Char) (rest : List Char) (apart : isKeyChar c = false) :
    entryKey? (key.text ++ c :: rest) = some (key.value, c :: rest) := by
  cases key with
  | name cs word =>
    obtain ⟨filled, each⟩ := word
    -- The character behind the name is none of a name, so the name is not read any further.
    have taken : (cs ++ c :: rest).takeWhile isKeyChar = cs := by
      rw [List.takeWhile_append_of_pos each, List.takeWhile_cons_of_neg (by simp [apart]),
        List.append_nil]
    have left : (cs ++ c :: rest).dropWhile isKeyChar = c :: rest := by
      rw [List.dropWhile_append_of_pos each, List.dropWhile_cons_of_neg (by simp [apart])]
    cases cs with
    | nil => exact absurd rfl filled
    | cons first more =>
      have plain := (isPlain_key first (each first List.mem_cons_self)).1
      have unquoted := ((isPlain_iff first).mp plain).1
      rw [text, value, List.cons_append, entryKey?, unquoted]
      rw [List.cons_append] at taken left
      simp [taken, left]
  | quoted quote cs unescaped other =>
    have closes := Closes.of_plain quote.2 unescaped other (c :: rest)
    simp [text, value, Scan.quoted, entryKey?, quote.2, closes]

end Key

/-! Values. -/

abbrev Gap := {gap : List Char // IsGap gap}

structure Spaced (α : Type) where
  before : Gap
  value : α
  after : Gap

def Spaced.text (part : Spaced (List Char)) : List Char := part.before ++ part.value ++ part.after

/-- Blanks alone, without a part, may stand behind the last comma or fill an empty list. -/
def joined (parts : List (Spaced (List Char))) (rest : Option Gap) : List Char :=
  [','].intercalate (parts.map Spaced.text ++ rest.toList.map Subtype.val)

def colon (before after : Gap) : List Char := before ++ ':' :: after

/-- A value together with a way to write it. A whole number fits 64 bits with a sign. -/
inductive Written where
  | null
  | bool (value : Bool)
  | int (value : Int) (fits : -0x8000000000000000 ≤ value ∧ value < 0x8000000000000000)
  | str (quote : QuoteMark) (content : String)
  | list (items : List (Spaced Written)) (rest : Option Gap)
  | object (members : List (Spaced Key × Spaced Written)) (rest : Option Gap)

namespace Written

mutual
def value : Written → Json
  | .null => .null
  | .bool value => .bool value
  | .int value _ => .num (.int value)
  | .str _ content => .str content
  | .list items _ => .arr (itemValues items)
  | .object members _ => Json.ofFields (memberValues members)
def itemValues : List (Spaced Written) → List Json
  | [] => []
  | ⟨_, item, _⟩ :: rest => item.value :: itemValues rest
def memberValues : List (Spaced Key × Spaced Written) → List (String × Json)
  | [] => []
  | (key, ⟨_, item, _⟩) :: rest =>
    (String.ofList key.value.value, item.value) :: memberValues rest
end

mutual
def text : Written → List Char
  | .null => "null".toList
  | .bool value => (if value then "true" else "false").toList
  | .int value _ => wholeText value
  | .str quote content => quoted quote (escaped quote content.toList)
  | .list items rest => '[' :: (joined (itemTexts items) rest ++ [']'])
  | .object members rest => '\x7b' :: (joined (memberTexts members) rest ++ ['\x7d'])
def itemTexts : List (Spaced Written) → List (Spaced (List Char))
  | [] => []
  | ⟨before, item, after⟩ :: rest => ⟨before, item.text, after⟩ :: itemTexts rest
def memberTexts : List (Spaced Key × Spaced Written) → List (Spaced (List Char))
  | [] => []
  | (key, ⟨before, item, after⟩) :: rest =>
    ⟨key.before, key.value.text ++ colon key.after before ++ item.text, after⟩ :: memberTexts rest
end

def itemText (item : Spaced Written) : Spaced (List Char) := ⟨item.before, item.value.text, item.after⟩

def member (part : Spaced Key × Spaced Written) : String × Json :=
  (String.ofList part.1.value.value, part.2.value.value)

/-- The text of a member that an entry is read from. -/
def entryText (part : Spaced Key × Spaced Written) : List Char :=
  part.1.value.text ++ colon part.1.after part.2.before ++ part.2.value.text

def memberText (part : Spaced Key × Spaced Written) : Spaced (List Char) :=
  ⟨part.1.before, entryText part, part.2.after⟩

theorem itemValues_eq (items : List (Spaced Written)) :
    itemValues items = items.map fun item => item.value.value := by
  induction items with
  | nil => rfl
  | cons item rest ih => exact congrArg _ ih

theorem memberValues_eq (members : List (Spaced Key × Spaced Written)) :
    memberValues members = members.map member := by
  induction members with
  | nil => rfl
  | cons part rest ih => exact congrArg _ ih

theorem itemTexts_eq (items : List (Spaced Written)) : itemTexts items = items.map itemText := by
  induction items with
  | nil => rfl
  | cons item rest ih => exact congrArg _ ih

theorem memberTexts_eq (members : List (Spaced Key × Spaced Written)) :
    memberTexts members = members.map memberText := by
  induction members with
  | nil => rfl
  | cons part rest ih => exact congrArg _ ih

/-- What holds of a value whenever it holds of its parts holds of every written value. -/
theorem induct {motive : Written → Prop} (null : motive .null) (bool : ∀ value, motive (.bool value))
    (int : ∀ value fits, motive (.int value fits))
    (str : ∀ quote content, motive (.str quote content))
    (list : ∀ items rest, (∀ item ∈ items, motive item.value) → motive (.list items rest))
    (object : ∀ members rest, (∀ part ∈ members, motive part.2.value) →
      motive (.object members rest)) (written : Written) : motive written :=
  @Written.rec motive (fun items => ∀ item ∈ items, motive item.value)
    (fun members => ∀ part ∈ members, motive part.2.value) (fun item => motive item.value)
    (fun part => motive part.2.value) null bool int str list object nofun
    (fun _ _ first later => List.forall_mem_cons.mpr ⟨first, later⟩) nofun
    (fun _ _ first later => List.forall_mem_cons.mpr ⟨first, later⟩) (fun _ _ _ inner => inner)
    (fun _ _ inner => inner) written

end Written

/-! Parts between commas. -/

section Parts
variable {parts : List (Spaced (List Char))} (each : ∀ part ∈ parts, IsWhole part.value)
include each

theorem joined_pieces (rest : Option Gap) :
    ∀ piece ∈ parts.map Spaced.text ++ rest.toList.map Subtype.val, Balanced false piece := by
  intro piece member
  rcases List.mem_append.mp member with filled | blank
  · obtain ⟨part, among, rfl⟩ := List.mem_map.mp filled
    exact ((Balanced.of_gap _ part.before.2).append (each part among).balanced).append
      (.of_gap _ part.after.2)
  · obtain ⟨gap, _, rfl⟩ := List.mem_map.mp blank
    exact .of_gap _ gap.2

theorem joined_balanced (rest : Option Gap) : Balanced true (joined parts rest) :=
  .intercalate (joined_pieces each rest)

/-- The parts come back without the blanks around them, and a part that is all blank is none. -/
theorem pieces?_joined (rest : Option Gap) :
    pieces? (joined parts rest) = some (parts.map Spaced.value) := by
  have bared : (parts.map Spaced.text).map bare = parts.map Spaced.value := by
    rw [List.map_map]
    exact List.map_congr_left fun part among =>
      (each part among).bare_surrounded _ _ part.before.2 part.after.2
  have filled : (parts.map Spaced.value).filter (! ·.isEmpty) = parts.map Spaced.value := by
    rw [List.filter_eq_self]
    intro piece member
    obtain ⟨part, among, rfl⟩ := List.mem_map.mp member
    simpa using (each part among).filled
  have dropped : ((rest.toList.map Subtype.val).map bare).filter (! ·.isEmpty) = [] := by
    rw [List.filter_eq_nil_iff]
    intro piece member
    obtain ⟨_, inner, rfl⟩ := List.mem_map.mp member
    obtain ⟨gap, _, rfl⟩ := List.mem_map.mp inner
    simp [bare_gap _ gap.2]
  -- Splitting a text gives at least one piece, also when none was written: that one is empty.
  by_cases empty : parts.map Spaced.text ++ rest.toList.map Subtype.val = []
  · obtain ⟨none, _⟩ := List.append_eq_nil_iff.mp empty
    rw [joined, empty, List.map_eq_nil_iff.mp none]
    decide +kernel
  · rw [pieces?, joined, piecesFrom_intercalate _ empty (joined_pieces each rest)]
    simp only [Option.map_some, List.map_append, List.filter_append, bared, filled, dropped,
      List.append_nil]

theorem parts?_joined (rest : Option Gap) (opening closing : Char)
    (opens : closer? opening = some closing) :
    parts? (opening :: (joined parts rest ++ [closing])) = some (parts.map Spaced.value) := by
  rw [parts?, block?_balanced opening closing _ [] opens (joined_balanced each rest)]
  exact pieces?_joined each rest

end Parts

/-! Entries. -/

theorem colon_balanced (before after : Gap) : Balanced false (colon before after) :=
  (Balanced.of_gap _ before.2).append (.plain (by decide) (by decide) (.of_gap _ after.2))

/-- Blanks and the colon end a key. -/
theorem Key.entry (key : Key) (gap value : List Char) (blank : IsGap gap) :
    keyValue? (key.text ++ (gap ++ ':' :: value)) = some (key.value, trim value) := by
  apply keyValue?_of_key value key.whole.trimmed.first blank
  intro rest
  cases gap with
  | nil => exact key.read ':' rest (by decide)
  | cons c more => exact key.read c _ (isKeyChar_blank c (blank c List.mem_cons_self))

theorem keyValue?_written (key : Key) (before after : Gap) (inside : List Char)
    (whole : IsWhole inside) :
    keyValue? (key.text ++ colon before after ++ inside) = some (key.value, inside) := by
  have left : trim (after ++ inside) = inside := by
    rw [trim_gap_append _ _ after.2, whole.trimmed.trim]
  have entry := key.entry before (after ++ inside) before.2
  rw [left] at entry
  rwa [colon, List.append_assoc, List.append_assoc]

theorem Written.entryText_whole (part : Spaced Key × Spaced Written)
    (whole : IsWhole part.2.value.text) : IsWhole (entryText part) :=
  part.1.value.whole.append whole _ (colon_balanced part.1.after part.2.before)

/-! Whole values. -/

namespace Written

theorem whole (written : Written) : IsWhole written.text := by
  induction written using induct with
  | null => exact IsWord.whole ⟨by decide, List.all_eq_true.mp (by decide)⟩
  | bool value =>
    cases value <;> exact IsWord.whole ⟨by decide, List.all_eq_true.mp (by decide)⟩
  | int value => exact (isWord_wholeText value).whole
  | str quote content => exact (Closes.of_escaped quote.2 content.toList).whole quote.2
  | list items rest ih =>
    rw [text, itemTexts_eq]
    refine .block rfl (joined_balanced ?_ rest)
    rw [List.forall_mem_map]
    exact ih
  | object members rest ih =>
    rw [text, memberTexts_eq]
    refine .block rfl (joined_balanced ?_ rest)
    rw [List.forall_mem_map]
    exact fun part among => entryText_whole part (ih part among)

theorem read (written : Written) : literal? written.text = some written.value := by
  induction written using induct with
  | null => decide +kernel
  | bool value => cases value <;> decide +kernel
  | int value fits =>
    have word := isWord_wholeText value
    have list := word.head?_ne '[' (by decide)
    have object := word.head?_ne '\x7b' (by decide)
    exact (literal?_scalar _ word.whole.bare list object).trans (wholeText_read value fits)
  | str quote content =>
    exact (literal?_string_iff _ _).mpr ⟨quote.1, _, quote.2, (str quote content).whole.bare,
      unescape?_escaped quote.1 quote.2 content.toList⟩
  | list items rest ih =>
    have each : ∀ part ∈ items.map itemText, IsWhole part.value :=
      List.forall_mem_map.mpr fun item _ => item.value.whole
    have parts : parts? (list items rest).text = some (items.map fun item => item.value.text) := by
      rw [text, itemTexts_eq, parts?_joined each rest '[' ']' rfl, List.map_map]
      rfl
    rw [literal?_list _ (list items rest).whole.bare rfl, parts, Option.bind_some,
      mapM_written _ literal? (fun item => item.value.value) items ih, value, itemValues_eq]
    rfl
  | object members rest ih =>
    have each : ∀ part ∈ members.map memberText, IsWhole part.value :=
      List.forall_mem_map.mpr fun part _ => entryText_whole part part.2.value.whole
    have parts : parts? (object members rest).text = some (members.map entryText) := by
      rw [text, memberTexts_eq, parts?_joined each rest '\x7b' '\x7d' rfl, List.map_map]
      rfl
    rw [literal?_object _ (object members rest).whole.bare rfl, parts, Option.bind_some,
      mapM_written entryText keyValue? (fun part => (part.1.value.value, part.2.value.text)) members
        fun part _ => keyValue?_written _ _ _ _ part.2.value.whole, Option.bind_some,
      mapM_written _ member? member members, value, memberValues_eq]
    · rfl
    · intro part among
      rw [member?, ih part among]
      rfl

end Written

/-! Every value of these kinds can be written, as long as its keys can. -/

def Key.Writable (name : String) : Prop :=
  IsWord name.toList ∨ '\\' ∉ name.toList ∧ ∃ quote : QuoteMark, quote.1 ∉ name.toList

inductive Writable : Json → Prop
  | null : Writable .null
  | bool (value : Bool) : Writable (.bool value)
  | int (value : Int) (fits : -0x8000000000000000 ≤ value ∧ value < 0x8000000000000000) :
      Writable (.num (.int value))
  | str (content : String) : Writable (.str content)
  | arr (items : List Json) (each : ∀ item ∈ items, Writable item) : Writable (.arr items)
  | obj (fields : List (String × Json)) (sorted : Entries.Sorted fields)
      (keys : ∀ field ∈ fields, Key.Writable field.1) (each : ∀ field ∈ fields, Writable field.2) :
      Writable (.obj fields)

theorem Key.exists_value (name : String) (writable : Key.Writable name) :
    ∃ key : Key, String.ofList key.value = name := by
  rcases writable with word | ⟨unescaped, quote, other⟩
  · exact ⟨.name _ word, String.ofList_toList⟩
  · exact ⟨.quoted quote _ unescaped other, String.ofList_toList⟩

theorem Written.exists_value (value : Json) (writable : Writable value) :
    ∃ written : Written, written.value = value := by
  have noGap : Gap := ⟨[], nofun⟩
  induction writable with
  | null => exact ⟨null, rfl⟩
  | bool value => exact ⟨bool value, rfl⟩
  | int value fits => exact ⟨int value fits, rfl⟩
  | str content => exact ⟨str ⟨'"', rfl⟩ content, rfl⟩
  | arr values _ ih =>
    have each : values ∈ Set.range (List.map fun item : Spaced Written => item.value.value) := by
      rw [Set.range_list_map]
      intro value member
      obtain ⟨written, rfl⟩ := ih value member
      exact ⟨⟨noGap, written, noGap⟩, rfl⟩
    obtain ⟨items, rfl⟩ := each
    exact ⟨list items none, by rw [Written.value, itemValues_eq]⟩
  | obj fields sorted keys _ ih =>
    have each : fields ∈ Set.range (List.map Written.member) := by
      rw [Set.range_list_map]
      intro field member
      obtain ⟨key, named⟩ := Key.exists_value field.1 (keys field member)
      obtain ⟨written, read⟩ := ih field member
      exact ⟨(⟨noGap, key, noGap⟩, ⟨noGap, written, noGap⟩), Prod.ext named read⟩
    obtain ⟨members, rfl⟩ := each
    refine ⟨object members none, ?_⟩
    rw [Written.value, memberValues_eq]
    exact congrArg Json.obj (Entries.ofList_of_sorted _ sorted)

/-- Whichever way a value is written, it is read back, blanks around it or not. -/
theorem literal_of_written (written : Written) (before after : Gap) :
    literal? (before ++ written.text ++ after) = some written.value := by
  rw [← written.read]
  apply literal?_congr
  rw [written.whole.bare, written.whole.bare_surrounded _ _ before.2 after.2]

example : (Written.list [⟨⟨[], nofun⟩, .str ⟨'\'', rfl⟩ "it's", ⟨[' '], by simp [IsGap, isBlank]⟩⟩,
    ⟨⟨[], nofun⟩, .int (-5) (by decide), ⟨[], nofun⟩⟩] (some ⟨[], nofun⟩)).text =
    "['it\\'s' ,-5,]".toList := by
  decide +kernel

end ApiAssembly.Scan
