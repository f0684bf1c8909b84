import Mathlib.Data.List.Basic
/-! Texts as bytes, read by position. A position counts the bytes in front of it, so it may lie outside of
the text or inside of a character, and reading there is a fault. A part of a text is taken between two
positions: it starts and ends where a character does, and it does not end before it starts. -/
namespace ApiAssembly.Bytewise

def bytes (cs : List Char) : List UInt8 := cs.flatMap String.utf8EncodeChar

/-- The position behind the last byte. -/
def size (cs : List Char) : Nat := (bytes cs).length

/-- A byte that is not there, a part that is not made of whole characters, and a position in front of
the first one. -/
inductive Fault where
  | outside (position : Nat)
  | cut (start stop : Nat)
  | negative
deriving DecidableEq

def byteAt (bs : List UInt8) (position : Nat) : Except Fault UInt8 :=
  match bs[position]? with
  | some b => .ok b
  | none => .error (.outside position)

def bytesFrom (bs : List UInt8) (position : Nat) : Except Fault (List UInt8) :=
  if position ≤ bs.length then .ok (bs.drop position) else .error (.outside position)

def below : Nat → Except Fault Nat
  | 0 => .error .negative
  | position + 1 => .ok position

/-- The end of the text, or a byte that starts a character: those from 128 to 191 continue one. -/
def isBoundary (bs : List UInt8) (position : Nat) : Bool :=
  position = bs.length || bs[position]?.any fun b => b < 128 || 192 ≤ b

/-- The characters that end at a position or in front of it, and the others. -/
def splitBytes (position : Nat) : List Char → List Char × List Char
  | [] => ([], [])
  | c :: rest =>
    if c.utf8Size ≤ position then
      let parts := splitBytes (position - c.utf8Size) rest
      (c :: parts.1, parts.2)
    else ([], c :: rest)

def slice (cs : List Char) (start stop : Nat) : Except Fault (List Char) :=
  if start ≤ stop && isBoundary (bytes cs) start && isBoundary (bytes cs) stop then
    .ok (splitBytes start (splitBytes stop cs).1).2
  else .error (.cut start stop)

theorem ok_bind {α β : Type} (value : α) (next : α → Except Fault β) :
    (Except.ok value >>= next) = next value := rfl

/-! How a character is written: one byte that starts it, and bytes that continue it. Marks below 128 are
one byte, and no other character has that byte. -/

def lead (c : Char) : UInt8 := (String.utf8EncodeChar c).headD 0

def continuation (c : Char) : List UInt8 := (String.utf8EncodeChar c).tail

theorem encode_eq (c : Char) : String.utf8EncodeChar c = lead c :: continuation c := by
  obtain ⟨b, more, shape⟩ := List.exists_cons_of_ne_nil (String.utf8EncodeChar_ne_nil (c := c))
  rw [lead, continuation, shape]
  rfl

theorem encode_ascii (c : Char) (ascii : c.toNat < 128) :
    String.utf8EncodeChar c = [c.toUInt8] := by
  rw [String.utf8EncodeChar_eq_singleton]
  · rfl
  · rw [Char.utf8Size_eq_one_iff, UInt32.le_iff_toNat_le]
    exact Nat.le_of_lt_succ ascii

theorem lead_ascii (c : Char) (ascii : c.toNat < 128) : lead c = c.toUInt8 := by
  rw [lead, encode_ascii c ascii]
  rfl

theorem continuation_ascii (c : Char) (ascii : c.toNat < 128) : continuation c = [] := by
  rw [continuation, encode_ascii c ascii]
  rfl

theorem encode_large (c : Char) (large : 128 ≤ c.toNat) :
    192 ≤ lead c ∧ ∀ b ∈ continuation c, 128 ≤ b := by
  have value : c.val.toNat = c.toNat := rfl
  simp only [lead, continuation, String.utf8EncodeChar]
  split
  · omega
  split
  · simp only [List.headD_cons, List.tail_cons, List.mem_singleton, forall_eq,
      UInt8.le_iff_toNat_le, UInt8.toNat_ofNat', UInt8.reduceToNat]
    omega
  split
  · simp [UInt8.le_iff_toNat_le]
    omega
  · simp [UInt8.le_iff_toNat_le]
    omega

theorem large_continuation (c : Char) : ∀ b ∈ continuation c, 128 ≤ b := by
  by_cases ascii : c.toNat < 128
  · rw [continuation_ascii c ascii]
    exact nofun
  · exact (encode_large c (Nat.le_of_not_lt ascii)).2

theorem toNat_toUInt8 (c : Char) (ascii : c.toNat < 128) : c.toUInt8.toNat = c.toNat := by
  change c.toNat % 256 = c.toNat
  omega

theorem lead_starts (c : Char) : lead c < 128 ∨ 192 ≤ lead c := by
  by_cases ascii : c.toNat < 128
  · left
    rw [lead_ascii c ascii, UInt8.lt_iff_toNat_lt, toNat_toUInt8 c ascii]
    exact ascii
  · exact .inr (encode_large c (Nat.le_of_not_lt ascii)).1

section Marks
variable (mark : Char) (ascii : mark.toNat < 128)
include ascii

theorem ne_of_large (b : UInt8) (large : 128 ≤ b) : b ≠ mark.toUInt8 := by
  rintro rfl
  rw [UInt8.le_iff_toNat_le, toNat_toUInt8 mark ascii] at large
  exact Nat.not_le_of_lt ascii large

theorem lead_eq_iff (c : Char) : lead c = mark.toUInt8 ↔ c = mark := by
  constructor
  · intro same
    by_cases small : c.toNat < 128
    · rw [lead_ascii c small] at same
      have code : c.toNat = mark.toNat := by
        rw [← toNat_toUInt8 c small, same, toNat_toUInt8 mark ascii]
      rw [← Char.ofNat_toNat c, code, Char.ofNat_toNat]
    · have large := (encode_large c (Nat.le_of_not_lt small)).1
      have least : (128 : UInt8) ≤ lead c := UInt8.le_trans (by decide) large
      exact absurd same (ne_of_large mark ascii _ least)
  · rintro rfl
    exact lead_ascii c ascii

end Marks

/-! Positions between the characters of a text. -/

theorem bytes_append (first second : List Char) :
    bytes (first ++ second) = bytes first ++ bytes second :=
  List.flatMap_append

theorem bytes_cons (c : Char) (rest : List Char) :
    bytes (c :: rest) = lead c :: (continuation c ++ bytes rest) := by
  rw [bytes, List.flatMap_cons, encode_eq]
  rfl

theorem size_append (first second : List Char) : size (first ++ second) = size first + size second := by
  rw [size, bytes_append, List.length_append]
  rfl

theorem size_cons (c : Char) (rest : List Char) : size (c :: rest) = c.utf8Size + size rest := by
  rw [size, bytes, List.flatMap_cons, List.length_append, String.length_utf8EncodeChar]
  rfl

theorem size_nil : size [] = 0 := rfl

theorem size_reverse (cs : List Char) : size cs.reverse = size cs := by
  induction cs with
  | nil => rfl
  | cons c rest ih =>
    rw [List.reverse_cons, size_append, ih, size_cons, size_cons, size_nil]
    omega

theorem size_concat (before : List Char) (c : Char) :
    size (before ++ [c]) = size before + 1 + (continuation c).length := by
  rw [size_append, size, size, bytes_cons]
  simp [bytes]
  omega

theorem size_concat_ascii (before : List Char) (c : Char) (ascii : c.toNat < 128) :
    size (before ++ [c]) = size before + 1 := by
  rw [size_concat, continuation_ascii c ascii, List.length_nil]

theorem bytes_at (before : List Char) (c : Char) (rest : List Char) :
    (bytes (before ++ c :: rest))[size before]? = some (lead c) := by
  rw [bytes_append, size, List.getElem?_append_right (Nat.le_refl _), Nat.sub_self, bytes_cons]
  rfl

theorem byteAt_lead (before : List Char) (c : Char) (rest : List Char) :
    byteAt (bytes (before ++ c :: rest)) (size before) = .ok (lead c) := by
  rw [byteAt, bytes_at]

theorem size_lt (before : List Char) (c : Char) (rest : List Char) :
    size before < (bytes (before ++ c :: rest)).length :=
  (List.getElem?_eq_some_iff.mp (bytes_at before c rest)).1

/-- What goes on to the next position at every byte from 128 on passes the bytes that continue a
character. -/
theorem passed_character {α : Type} (before : List Char) (c : Char) (rest : List Char)
    (value : Nat → α)
    (step : ∀ position b, (bytes (before ++ c :: rest))[position]? = some b → 128 ≤ b →
      value position = value (position + 1)) :
    value (size before + 1) = value (size (before ++ [c])) := by
  have within : ∀ count, count ≤ (continuation c).length →
      value (size before + 1) = value (size before + 1 + count) := by
    intro count
    induction count with
    | zero => exact fun _ => rfl
    | succ count ih =>
      intro room
      have inside : count < (continuation c).length := room
      have byte : (bytes (before ++ c :: rest))[size before + 1 + count]? =
          some (continuation c)[count] := by
        rw [bytes_append, size, Nat.add_assoc,
          List.getElem?_append_right (Nat.le_add_right _ _), Nat.add_sub_cancel_left, bytes_cons,
          Nat.add_comm 1 count, List.getElem?_cons_succ, List.getElem?_append_left inside,
          List.getElem?_eq_getElem inside]
      rw [ih (Nat.le_of_succ_le room),
        step _ _ byte (large_continuation c _ (List.getElem_mem inside))]
      rfl
  rw [within _ (Nat.le_refl _), size_concat]

/-! Parts of a text. -/

theorem isBoundary_size (before rest : List Char) :
    isBoundary (bytes (before ++ rest)) (size before) = true := by
  cases rest with
  | nil => simp [isBoundary, size]
  | cons c rest =>
    rw [isBoundary, bytes_at]
    simpa using Or.inr (lead_starts c)

theorem splitBytes_size (before rest : List Char) :
    splitBytes (size before) (before ++ rest) = (before, rest) := by
  induction before with
  | nil =>
    cases rest with
    | nil => rfl
    | cons c rest =>
      rw [size_nil, List.nil_append, splitBytes, if_neg (Nat.not_le_of_lt c.utf8Size_pos)]
  | cons c before ih =>
    rw [List.cons_append, splitBytes, size_cons, if_pos (Nat.le_add_right _ _),
      Nat.add_sub_cancel_left, ih]

/-- Between the positions around a part of a text stands that part. -/
theorem slice_part (before part behind : List Char) :
    slice (before ++ (part ++ behind)) (size before) (size (before ++ part)) = .ok part := by
  have first := isBoundary_size before (part ++ behind)
  have second := isBoundary_size (before ++ part) behind
  rw [List.append_assoc] at second
  have order : size before ≤ size (before ++ part) := by
    rw [size_append]
    exact Nat.le_add_right _ _
  rw [slice, first, second, if_pos (by simpa using order), ← List.append_assoc, splitBytes_size,
    splitBytes_size]

theorem slice_front (part behind : List Char) :
    slice (part ++ behind) 0 (size part) = .ok part :=
  slice_part [] part behind

theorem slice_behind (before part : List Char) :
    slice (before ++ part) (size before) (size (before ++ part)) = .ok part := by
  have whole := slice_part before part []
  rwa [List.append_nil] at whole

/-- The part behind a first character of one byte. -/
theorem slice_inside (c : Char) (ascii : c.toNat < 128) (part behind : List Char) :
    slice (c :: (part ++ behind)) 1 (size (c :: part)) = .ok part := by
  have one : size [c] = 1 := size_concat_ascii [] c ascii
  have inside := slice_part [c] part behind
  rwa [one] at inside

end ApiAssembly.Bytewise
