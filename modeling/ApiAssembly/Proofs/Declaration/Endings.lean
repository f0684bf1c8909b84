import ApiAssembly.Declaration.Discriminator
import ApiAssembly.Proofs.Identifier.AsciiWords
import Mathlib.Data.List.TakeDrop
import Mathlib.Data.String.Basic
import Mathlib.Tactic.Tauto
/-! The ending that a type name loses. Endings are tried from the longest on, and one that would leave
nothing is passed over. So a name loses its longest ending among those that are shorter than it,
whatever the order of the endings; and a name that is itself an ending is not kept whole when a
shorter one fits. -/
namespace ApiAssembly.Discriminator
open Text

def lowered (endings : List String) : List (List Char) :=
  endings.map fun ending => (lowerAscii ending).toList

/-- The length of the longest ending that the text has, zero when it has none. -/
def longest (endings : List (List Char)) (text : List Char) : Nat :=
  ((endings.filter (·.isSuffixOf text)).map List.length).foldr max 0

def withoutLongest (endings : List (List Char)) (text : List Char) : List Char :=
  text.take (text.length - longest endings text)

/-- A text that is one of the endings is kept. -/
def keptWhole (endings : List (List Char)) (text : List Char) : List Char :=
  if text ∈ endings then text else withoutLongest endings text

/-! The longest ending. -/

section Longest
variable {endings : List (List Char)} {text : List Char}

theorem longest_le_iff (bound : Nat) :
    longest endings text ≤ bound ↔ ∀ ending ∈ endings, ending <:+ text → ending.length ≤ bound := by
  unfold longest
  induction endings with
  | nil => simp
  | cons first rest ih =>
    by_cases fits : first <:+ text
    · simp [List.isSuffixOf_iff_suffix.mpr fits, fits, ← ih]
    · have other : ¬ first.isSuffixOf text = true := fun ends => fits (List.isSuffixOf_iff_suffix.mp ends)
      simp [other, fits, ih]

theorem le_longest {ending : List Char} (member : ending ∈ endings) (fits : ending <:+ text) :
    ending.length ≤ longest endings text :=
  (longest_le_iff _).mp (Nat.le_refl _) ending member fits

theorem longest_eq {ending : List Char} (member : ending ∈ endings) (fits : ending <:+ text)
    (most : ∀ other ∈ endings, other <:+ text → other.length ≤ ending.length) :
    longest endings text = ending.length :=
  Nat.le_antisymm ((longest_le_iff _).mpr most) (le_longest member fits)

theorem longest_le_length : longest endings text ≤ text.length :=
  (longest_le_iff _).mpr fun _ _ fits => fits.length_le

/-- Only which endings there are counts, not their order and not how often they are given. -/
theorem longest_congr {others : List (List Char)} (same : ∀ ending, ending ∈ endings ↔ ending ∈ others)
    (text : List Char) : longest endings text = longest others text := by
  apply Nat.le_antisymm
  · exact (longest_le_iff _).mpr fun ending member fits => le_longest ((same ending).mp member) fits
  · exact (longest_le_iff _).mpr fun ending member fits => le_longest ((same ending).mpr member) fits

/-- What is left is the text when no ending but the empty one fits. -/
theorem withoutLongest_eq_self_iff :
    withoutLongest endings text = text ↔ ∀ ending ∈ endings, ending <:+ text → ending = [] := by
  have bound : longest endings text ≤ text.length := longest_le_length
  have none : withoutLongest endings text = text ↔ longest endings text ≤ 0 := by
    rw [withoutLongest, List.take_eq_self_iff]
    omega
  rw [none, longest_le_iff]
  simp only [Nat.le_zero, List.length_eq_zero_iff]

end Longest

/-! Sizes. Endings are compared by their bytes as they are given; among those that fit one text this is
the order of their lengths, as one of them ends with the other. -/

theorem utf8Size_toLower (c : Char) : c.toLower.utf8Size = c.utf8Size := by
  by_cases capital : c.val ≥ 'A'.val ∧ c.val ≤ 'Z'.val
  · have ascii : c.toNat < 128 :=
      Nat.lt_of_le_of_lt (UInt32.le_iff_toNat_le.mp capital.2) (by decide)
    exact of_table (fun c => c.toLower.utf8Size = c.utf8Size) (by decide) c ascii
  · exact congrArg Char.utf8Size (dif_neg capital)

theorem utf8ByteSize_lowerAscii (text : String) :
    String.utf8Len (lowerAscii text).toList = text.utf8ByteSize := by
  have sizes (cs : List Char) : String.utf8Len (cs.map Char.toLower) = String.utf8Len cs := by
    induction cs with
    | nil => rfl
    | cons c rest ih => rw [List.map_cons, String.utf8Len_cons, String.utf8Len_cons, ih, utf8Size_toLower]
  rw [lowerAscii, String.toList_ofList, sizes, ← String.utf8ByteSize_ofList, String.ofList_toList]

theorem length_le_of_size {text ending other : List Char} (fits : ending <:+ text)
    (otherFits : other <:+ text) (size : String.utf8Len other ≤ String.utf8Len ending) :
    other.length ≤ ending.length := by
  by_contra longer
  obtain ⟨more, rfl⟩ := List.suffix_of_suffix_length_le fits otherFits (by omega)
  have filled : String.utf8Len more ≠ 0 := by
    rw [Ne, String.utf8Len_eq_zero]
    rintro rfl
    simp at longer
  rw [String.utf8Len_append] at size
  omega

theorem endingBefore_trans (first second third : String) (front : endingBefore first second = true)
    (back : endingBefore second third = true) : endingBefore first third = true := by
  simp only [endingBefore, Bool.or_eq_true, Bool.and_eq_true, decide_eq_true_eq] at *
  rcases front with shorter | ⟨level, order⟩ <;> rcases back with again | ⟨same, next⟩
  · exact .inl (by omega)
  · exact .inl (by omega)
  · exact .inl (by omega)
  · exact .inr ⟨by omega, String.le_trans order next⟩

theorem endingBefore_total (first second : String) :
    (endingBefore first second || endingBefore second first) = true := by
  simp only [endingBefore, Bool.or_eq_true, Bool.and_eq_true, decide_eq_true_eq]
  rcases Nat.lt_trichotomy first.utf8ByteSize second.utf8ByteSize with shorter | level | longer
  · exact .inr (.inl shorter)
  · exact (String.le_total first second).imp (fun order => .inr ⟨level, order⟩)
      fun order => .inr ⟨level.symm, order⟩
  · exact .inl (.inl longer)

theorem size_of_endingBefore {first second : String} (before : endingBefore first second = true) :
    second.utf8ByteSize ≤ first.utf8ByteSize := by
  simp only [endingBefore, Bool.or_eq_true, Bool.and_eq_true, decide_eq_true_eq] at before
  omega

/-! The name. -/

theorem dropEnd?_eq_some_iff (ending text rest : List Char) :
    dropEnd? ending text = some rest ↔
      ending <:+ text ∧ rest = text.take (text.length - ending.length) := by
  unfold dropEnd?
  by_cases fits : ending <:+ text
  · rw [if_pos (List.isPrefixOf_iff_prefix.mpr (List.reverse_prefix.mpr fits))]
    simp [fits, eq_comm]
  · rw [if_neg fun ends => fits (List.reverse_prefix.mp (List.isPrefixOf_iff_prefix.mp ends))]
    simp [fits]

/-- An ending is taken from a text that is longer. -/
theorem dropEnd?_filled_iff (ending text rest : List Char) :
    (dropEnd? ending text).filter (! ·.isEmpty) = some rest ↔
      ending <:+ text ∧ ending ≠ text ∧ rest = text.take (text.length - ending.length) := by
  rw [Option.filter_eq_some_iff, dropEnd?_eq_some_iff]
  constructor
  · rintro ⟨⟨fits, rfl⟩, filled⟩
    refine ⟨fits, ?_, rfl⟩
    rintro rfl
    simp at filled
  · rintro ⟨fits, other, rfl⟩
    refine ⟨⟨fits, rfl⟩, ?_⟩
    have shorter : ending.length < text.length :=
      Nat.lt_of_le_of_ne fits.length_le fun level => other (fits.eq_of_length level)
    simp only [Bool.not_eq_true', List.isEmpty_eq_false_iff, ne_eq, List.take_eq_nil_iff, not_or]
    exact ⟨by omega, List.ne_nil_of_length_pos (by omega)⟩

/-- A name loses the longest of the endings that are not all of it. -/
theorem ofTypeName_toList (endings : List String) (name : String) :
    (ofTypeName endings name).toList =
      withoutLongest ((lowered endings).filter (· ≠ (lowerAscii name).toList))
        (lowerAscii name).toList := by
  have member (ending : List Char) : ending ∈ (lowered endings).filter (· ≠ (lowerAscii name).toList) ↔
      (∃ given ∈ endings, (lowerAscii given).toList = ending) ∧ ending ≠ (lowerAscii name).toList := by
    simp [lowered]
  have tried (given : String) : given ∈ endings.mergeSort endingBefore ↔ given ∈ endings :=
    List.mem_mergeSort
  unfold ofTypeName
  simp only
  split
  · rename_i rest found
    rw [String.toList_ofList]
    obtain ⟨before, ending, after, parts, taken, passed⟩ := List.findSome?_eq_some_iff.mp found
    obtain ⟨fits, other, rfl⟩ := (dropEnd?_filled_iff _ _ _).mp taken
    have given : ending ∈ endings := by
      rw [← tried, parts]
      simp
    have sorted := List.pairwise_mergeSort endingBefore_trans endingBefore_total endings
    rw [parts] at sorted
    rw [withoutLongest, longest_eq ((member _).mpr ⟨⟨ending, given, rfl⟩, other⟩) fits]
    intro candidate among candidateFits
    obtain ⟨⟨rival, listed, rfl⟩, shorter⟩ := (member _).mp among
    rw [← tried, parts, List.mem_append, List.mem_cons] at listed
    rcases listed with earlier | rfl | later
    · -- An earlier one that fits would have been taken.
      have untaken := passed rival earlier
      rw [(dropEnd?_filled_iff _ _ _).mpr ⟨candidateFits, shorter, rfl⟩] at untaken
      cases untaken
    · exact Nat.le_refl _
    · apply length_le_of_size fits candidateFits
      rw [utf8ByteSize_lowerAscii, utf8ByteSize_lowerAscii]
      exact size_of_endingBefore
        ((List.pairwise_cons.mp (List.pairwise_append.mp sorted).2.1).1 rival later)
  · rename_i missing
    refine (withoutLongest_eq_self_iff.mpr ?_).symm
    intro ending among fits
    obtain ⟨⟨given, listed, rfl⟩, shorter⟩ := (member _).mp among
    have untaken := List.findSome?_eq_none_iff.mp missing given ((tried given).mpr listed)
    rw [(dropEnd?_filled_iff _ _ _).mpr ⟨fits, shorter, rfl⟩] at untaken
    cases untaken

/-- A name that is none of the endings loses the longest one that it has. A name that is itself an
ending is kept whole exactly when no other one but the empty one fits; else it loses the longest of
those. Neither the order of the endings nor their repetition counts. -/
theorem longest_ending_lost_iff (endings : List String) (name : String) :
    ((ofTypeName endings name).toList = keptWhole (lowered endings) (lowerAscii name).toList ↔
      ((lowerAscii name).toList ∈ lowered endings → ∀ ending ∈ lowered endings,
        ending <:+ (lowerAscii name).toList → ending = (lowerAscii name).toList ∨ ending = [])) ∧
    (ofTypeName endings name).toList =
      withoutLongest ((lowered endings).filter (· ≠ (lowerAscii name).toList))
        (lowerAscii name).toList ∧
    ∀ others, (∀ ending, ending ∈ lowered endings ↔ ending ∈ lowered others) →
      ofTypeName others name = ofTypeName endings name := by
  refine ⟨?_, ofTypeName_toList endings name, ?_⟩
  · rw [ofTypeName_toList, keptWhole]
    by_cases listed : (lowerAscii name).toList ∈ lowered endings
    · rw [if_pos listed, withoutLongest_eq_self_iff]
      simp only [listed, forall_const, List.mem_filter, decide_eq_true_eq, and_imp]
      refine forall₂_congr fun ending _ => ?_
      tauto
    · have all : (lowered endings).filter (· ≠ (lowerAscii name).toList) = lowered endings := by
        rw [List.filter_eq_self]
        intro ending member
        exact decide_eq_true fun same => listed (same ▸ member)
      rw [all, if_neg listed]
      exact iff_of_true rfl fun member => absurd member listed
  · intro others same
    have kept (ending : List Char) :
        ending ∈ (lowered others).filter (· ≠ (lowerAscii name).toList) ↔
          ending ∈ (lowered endings).filter (· ≠ (lowerAscii name).toList) := by
      simp only [List.mem_filter, same ending]
    rw [← String.toList_inj, ofTypeName_toList, ofTypeName_toList, withoutLongest, withoutLongest,
      longest_congr kept]

/-- With the endings that are given by default a name that is the longer one loses the shorter. -/
theorem ending_lost_by_ending :
    let endings := ["buffergeometry", "geometry"]
    (lowerAscii "BufferGeometry").toList ∈ lowered endings ∧
    keptWhole (lowered endings) (lowerAscii "BufferGeometry").toList = "buffergeometry".toList ∧
    ofTypeName endings "BufferGeometry" = "buffer" := by
  intro endings
  refine ⟨by decide, by decide, ?_⟩
  rw [← String.toList_inj, ofTypeName_toList]
  decide

end ApiAssembly.Discriminator
