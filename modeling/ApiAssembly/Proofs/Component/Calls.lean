import ApiAssembly.Component.Registration
import ApiAssembly.Proofs.Scan.Continuation
import Mathlib.Data.List.Basic
/-! The calls of a text. The search finds each call at the first place where one is spelled, and goes on
behind its comma. A call has one parenthesis and one comma, so no call that starts in front of
another can reach into it: whatever stands before a call, the search arrives at its start. -/
namespace ApiAssembly.Registration
open Scan Text

/-! How a call is spelled. -/

/-- The parts of a call up to the comma behind its name. -/
structure Spelling where
  beforeParenthesis : List Char
  beforeName : List Char
  opening : Char
  name : List Char
  closing : Char
  beforeComma : List Char
  blank : ∀ gap ∈ [beforeParenthesis, beforeName, beforeComma], ∀ c ∈ gap, isBlank c = true
  quoted : isQuote opening = true ∧ isQuote closing = true
  filled : name ≠ []
  plain : ∀ c ∈ name, isNameChar c = true

namespace Spelling

/-- What stands behind the parenthesis. -/
def argument (call : Spelling) : List Char :=
  call.beforeName ++ call.opening :: (call.name ++ call.closing :: (call.beforeComma ++ [',']))

def text (call : Spelling) : List Char :=
  callName ++ call.beforeParenthesis ++ '(' :: call.argument

end Spelling

theorem isNameChar_quote (c : Char) (quotes : isQuote c = true) : isNameChar c = false := by
  rcases quote_cases c quotes with rfl | rfl | rfl <;> decide

theorem character?_cons (expected : Char → Bool) (c : Char) (rest : List Char)
    (meets : expected c = true) : character? expected (c :: rest) = some rest := by
  rw [character?, if_pos meets]

theorem of_character? (expected : Char → Bool) (cs rest : List Char)
    (found : character? expected cs = some rest) : ∃ c, expected c = true ∧ cs = c :: rest := by
  cases cs with
  | nil => cases found
  | cons c tail =>
    rw [character?] at found
    split at found
    · rename_i meets
      cases found
      exact ⟨c, meets, rfl⟩
    · cases found

/-- Every spelling of a call is read as the call, whatever follows it. -/
theorem ofStart?_text (call : Spelling) (rest : List Char) :
    ofStart? (call.text ++ rest) = some ⟨String.ofList call.name, rest⟩ := by
  obtain ⟨openingQuotes, closingQuotes⟩ := call.quoted
  have blank : ∀ gap ∈ [call.beforeParenthesis, call.beforeName, call.beforeComma],
    ∀ c ∈ gap, isBlank c = true := call.blank
  have parts : call.text ++ rest = callName ++ (call.beforeParenthesis ++ '(' :: (call.beforeName ++
      call.opening :: (call.name ++ call.closing :: (call.beforeComma ++ ',' :: rest)))) := by
    simp [Spelling.text, Spelling.argument]
  have named : (call.name ++ call.closing :: (call.beforeComma ++ ',' :: rest)).takeWhile isNameChar =
      call.name := by
    rw [List.takeWhile_append_of_pos call.plain, List.takeWhile_cons_of_neg
      (Bool.eq_false_iff.mp (isNameChar_quote _ closingQuotes)), List.append_nil]
  have afterName : (call.name ++ call.closing :: (call.beforeComma ++ ',' :: rest)).dropWhile
      isNameChar = call.closing :: (call.beforeComma ++ ',' :: rest) := by
    rw [List.dropWhile_append_of_pos call.plain, List.dropWhile_cons_of_neg
      (Bool.eq_false_iff.mp (isNameChar_quote _ closingQuotes))]
  rw [parts, ofStart?, if_pos (List.isPrefixOf_iff_prefix.mpr (List.prefix_append _ _)),
    List.drop_left, trimStart_gap _ _ _ (blank _ (by simp)) (by decide), character?_cons _ _ _ rfl,
    Option.bind_eq_bind, Option.bind_some,
    trimStart_gap _ _ _ (blank _ (by simp)) (isBlank_quote _ openingQuotes),
    character?_cons _ _ _ openingQuotes, Option.bind_some]
  simp only [named, afterName]
  rw [if_neg (by simpa using call.filled), character?_cons _ _ _ closingQuotes, Option.bind_some,
    trimStart_gap _ _ _ (blank _ (by simp)) (by decide), character?_cons _ _ _ rfl]
  rfl

/-- What is read as a call is spelled as one. -/
theorem spelling_of_ofStart? (cs : List Char) (found : Registration)
    (starts : ofStart? cs = some found) :
    ∃ call : Spelling, found.name = String.ofList call.name ∧ cs = call.text ++ found.after := by
  unfold ofStart? at starts
  split at starts
  · rename_i isPrefix
    obtain ⟨behind, rfl⟩ := List.isPrefixOf_iff_prefix.mp isPrefix
    rw [List.drop_left] at starts
    obtain ⟨first, opens, starts⟩ := Option.bind_eq_some_iff.mp starts
    obtain ⟨second, quotes, starts⟩ := Option.bind_eq_some_iff.mp starts
    simp only at starts
    split at starts
    · cases starts
    · rename_i filled
      obtain ⟨third, closes, starts⟩ := Option.bind_eq_some_iff.mp starts
      obtain ⟨fourth, commas, starts⟩ := Option.bind_eq_some_iff.mp starts
      cases starts
      obtain ⟨parenthesis, isParenthesis, opened⟩ := of_character? _ _ _ opens
      obtain ⟨opening, isOpening, quoted⟩ := of_character? _ _ _ quotes
      obtain ⟨closing, isClosing, closed⟩ := of_character? _ _ _ closes
      obtain ⟨comma, isComma, ended⟩ := of_character? _ _ _ commas
      obtain ⟨beforeParenthesis, firstBlank, firstParts⟩ := trimStart_parts behind
      obtain ⟨beforeName, secondBlank, secondParts⟩ := trimStart_parts first
      obtain ⟨beforeComma, thirdBlank, thirdParts⟩ := trimStart_parts third
      have named := (List.takeWhile_append_dropWhile (p := isNameChar) (l := second)).symm
      have blank : ∀ gap ∈ [beforeParenthesis, beforeName, beforeComma],
          ∀ c ∈ gap, isBlank c = true := by
        simp only [List.forall_mem_cons]
        exact ⟨firstBlank, secondBlank, thirdBlank, nofun⟩
      let call : Spelling := {
        beforeParenthesis, beforeName, opening, closing, beforeComma, blank
        name := second.takeWhile isNameChar
        quoted := ⟨isOpening, isClosing⟩
        filled := by simpa using filled
        plain := List.all_eq_true.mp List.all_takeWhile }
      refine ⟨call, rfl, ?_⟩
      rw [firstParts, opened, of_decide_eq_true isParenthesis, secondParts, quoted, named, closed,
        thirdParts, ended, of_decide_eq_true isComma]
      simp [call, Spelling.text, Spelling.argument]
  · cases starts

/-- A text starts with a call, and this is what follows its comma. -/
def SpelledAt (cs : List Char) (found : Registration) : Prop :=
  ∃ call : Spelling, found.name = String.ofList call.name ∧ cs = call.text ++ found.after

theorem ofStart?_eq_some_iff (cs : List Char) (found : Registration) :
    ofStart? cs = some found ↔ SpelledAt cs found := by
  constructor
  · exact spelling_of_ofStart? cs found
  · rintro ⟨call, named, rfl⟩
    rw [ofStart?_text, ← named]

/-- The call with more text behind it. -/
def followedBy (more : List Char) (call : Registration) : Registration :=
  ⟨call.name, call.after ++ more⟩

theorem ofStart?_continued (cs more : List Char) (call : Registration)
    (starts : ofStart? cs = some call) : ofStart? (cs ++ more) = some (call.followedBy more) := by
  rw [ofStart?_eq_some_iff] at starts ⊢
  obtain ⟨spelling, named, rfl⟩ := starts
  exact ⟨spelling, named, List.append_assoc ..⟩

/-! No call reaches into another. -/

namespace Spelling

theorem not_mem_gap (call : Spelling) (gap : List Char) (c : Char) (filled : isBlank c = false)
    (part : gap ∈ [call.beforeParenthesis, call.beforeName, call.beforeComma]) : c ∉ gap := by
  intro member
  rw [call.blank gap part c member] at filled
  cases filled

theorem not_mem_name (call : Spelling) (c : Char) (other : isNameChar c = false) :
    c ∉ call.name := by
  intro member
  rw [call.plain c member] at other
  cases other

theorem ne_quote (c d : Char) (quotes : isQuote d = true) (other : isQuote c = false) : c ≠ d := by
  rintro rfl
  rw [quotes] at other
  cases other

/-- A mark that neither names nor quotes can stand in an argument only as its comma. -/
theorem not_mem_argument (call : Spelling) (c : Char) (filled : isBlank c = false)
    (named : isNameChar c = false) (quoted : isQuote c = false) :
    c ∉ call.beforeName ++ call.opening :: (call.name ++ call.closing :: call.beforeComma) := by
  have opening := ne_quote c _ call.quoted.1 quoted
  have closing := ne_quote c _ call.quoted.2 quoted
  have name := call.not_mem_name c named
  have first := call.not_mem_gap call.beforeName c filled (by simp)
  have last := call.not_mem_gap call.beforeComma c filled (by simp)
  simp [first, opening, name, closing, last]

theorem argument_eq (call : Spelling) : call.argument =
    (call.beforeName ++ call.opening :: (call.name ++ call.closing :: call.beforeComma)) ++ [','] := by
  simp [argument]

theorem parenthesis_not_mem_argument (call : Spelling) : '(' ∉ call.argument := by
  rw [argument_eq, List.mem_append, not_or]
  exact ⟨call.not_mem_argument '(' (by decide) (by decide) (by decide), by decide⟩

theorem parenthesis_not_mem_before (call : Spelling) :
    '(' ∉ callName ++ call.beforeParenthesis := by
  rw [List.mem_append, not_or]
  exact ⟨by decide, call.not_mem_gap _ '(' (by decide) (by simp)⟩

/-- The comma is the last character, and the only one of its kind. -/
theorem text_ends (call : Spelling) : ∃ start, call.text = start ++ [','] ∧ ',' ∉ start := by
  refine ⟨callName ++ call.beforeParenthesis ++ '(' :: (call.beforeName ++
    call.opening :: (call.name ++ call.closing :: call.beforeComma)), ?_, ?_⟩
  · rw [text, argument_eq]
    simp
  · have name : ',' ∉ callName := by decide
    have gap := call.not_mem_gap call.beforeParenthesis ',' (by decide) (by simp)
    have argument := call.not_mem_argument ',' (by decide) (by decide) (by decide)
    rw [List.mem_append, List.mem_append, List.mem_cons]
    simp only [name, gap, argument, or_false, false_or]
    decide

-- The one parenthesis of the outer call is that of the inner one, and then the last letter of the
-- inner name stands where the outer call has blanks only.
theorem text_ne_of_inner (outer inner : Spelling) (before behind : List Char) (filled : before ≠ []) :
    outer.text ≠ before ++ (inner.text ++ behind) := by
  intro same
  have parts : before ++ (inner.text ++ behind) =
      before ++ callName ++ inner.beforeParenthesis ++ '(' :: (inner.argument ++ behind) := by
    simp [text]
  rw [parts, text, List.append_cons_inj_of_notMem outer.parenthesis_not_mem_before
    outer.parenthesis_not_mem_argument] at same
  have long := List.length_pos_iff.mpr filled
  rcases List.append_eq_append_iff.mp same.1 with ⟨more, inside, gap⟩ | ⟨more, inside, _⟩
  · have short : more ≠ [] := by
      rintro rfl
      have lengths := congrArg List.length inside
      simp only [List.length_append, List.length_nil] at lengths
      omega
    have last : more.getLast? = some 't' := by
      have ends := congrArg List.getLast? inside
      rw [List.getLast?_append_of_ne_nil _ short] at ends
      rw [← ends, List.getLast?_append_of_ne_nil _ (by decide)]
      decide
    have letter : 't' ∈ outer.beforeParenthesis := by
      rw [gap]
      exact List.mem_append_left _ (List.mem_of_getLast? last)
    exact outer.not_mem_gap _ 't' (by decide) (by simp) letter
  · have lengths := congrArg List.length inside
    simp only [List.length_append] at lengths
    omega

end Spelling

/-- No call ends inside of another. -/
theorem Spelling.text_ne_of_start (outer inner : Spelling) (before inside behind : List Char)
    (reaches : inside ≠ []) (filled : before ≠ []) (text : outer.text = before ++ inside) :
    inner.text ≠ inside ++ behind := by
  intro same
  obtain ⟨start, ends, outside⟩ := inner.text_ends
  obtain ⟨outerStart, outerEnds, _⟩ := outer.text_ends
  have comma : ',' ∈ inside := by
    have last := congrArg List.getLast? text
    rw [outerEnds, List.getLast?_concat, List.getLast?_append_of_ne_nil _ reaches] at last
    exact List.mem_of_getLast? last.symm
  rcases List.eq_nil_or_concat behind with rfl | ⟨init, c, rfl⟩
  · rw [List.append_nil] at same
    apply outer.text_ne_of_inner inner before [] filled
    rw [List.append_nil, text, same]
  · rw [ends, List.concat_eq_append, ← List.append_assoc] at same
    have starts := (List.append_inj' same rfl).1
    exact outside (starts ▸ List.mem_append_left init comma)

/-- In front of a call none starts that was none before. -/
theorem ofStart?_before (before behind : List Char) (call : Registration) (filled : before ≠ [])
    (starts : ofStart? behind = some call) (unread : ofStart? before = none) :
    ofStart? (before ++ behind) = none := by
  cases found : ofStart? (before ++ behind) with
  | none => rfl
  | some other =>
    obtain ⟨outer, _, whole⟩ := spelling_of_ofStart? _ _ found
    obtain ⟨inner, _, rfl⟩ := spelling_of_ofStart? _ _ starts
    have apart : ∀ more, before ≠ outer.text ++ more := by
      intro more same
      rw [same, ofStart?_text] at unread
      cases unread
    rcases List.append_eq_append_iff.mp whole with ⟨more, text, rest⟩ | ⟨more, text, _⟩
    · have reaches : more ≠ [] := by
        rintro rfl
        exact apart [] (by rw [text, List.append_nil, List.append_nil])
      rcases List.append_eq_append_iff.mp rest with ⟨tail, part, _⟩ | ⟨tail, part, _⟩
      · rw [part] at text
        exact absurd text (outer.text_ne_of_inner inner before tail filled)
      · exact absurd part (outer.text_ne_of_start inner before more tail reaches filled text)
    · exact absurd text (apart more)

/-! The calls of a text, in order. -/

theorem all_of_starts (cs : List Char) (call : Registration) (starts : ofStart? cs = some call) :
    all cs = call :: all call.after := by
  rw [all]
  split
  · rename_i other same
    rw [starts] at same
    cases same
    rfl
  · rename_i unread
    rw [starts] at unread
    cases unread

theorem all_cons (c : Char) (rest : List Char) (unread : ofStart? (c :: rest) = none) :
    all (c :: rest) = all rest := by
  rw [all]
  split
  · rename_i call same
    rw [unread] at same
    cases same
  · rfl

/-- The calls in front of a call are found as if it were not there, and it is found behind them. -/
theorem all_before (before behind : List Char) (call : Registration)
    (starts : ofStart? behind = some call) :
    all (before ++ behind) = (all before).map (followedBy behind) ++ all behind := by
  fun_induction all before with
  | case1 before first found ih =>
    rw [all_of_starts _ _ (ofStart?_continued before behind first found)]
    exact congrArg (List.cons _) ih
  | case2 => rfl
  | case3 c rest unread ih =>
    have still := ofStart?_before (c :: rest) behind call (List.cons_ne_nil c rest) starts unread
    rw [List.cons_append] at still ⊢
    rw [all_cons _ _ still, ih]

/-- The calls of a text as the search for a pattern finds them: the next is the first that is spelled
anywhere, and the search goes on behind it. -/
inductive Found : List Char → List Registration → Prop
  | none (cs : List Char) (unread : ∀ part, part <:+ cs → ∀ call, ¬ SpelledAt part call) :
      Found cs []
  | next (passed cs : List Char) (call : Registration) (calls : List Registration)
      (unread : ∀ part, part <:+ passed → part ≠ [] → ∀ call, ¬ SpelledAt (part ++ cs) call)
      (spelled : SpelledAt cs call) (later : Found call.after calls) :
      Found (passed ++ cs) (call :: calls)

theorem not_spelledAt (cs : List Char) (unread : ofStart? cs = none) (call : Registration) :
    ¬ SpelledAt cs call := by
  rw [← ofStart?_eq_some_iff, unread]
  exact nofun

theorem Found.cons (c : Char) (cs : List Char) (calls : List Registration) (found : Found cs calls)
    (unread : ofStart? (c :: cs) = .none) : Found (c :: cs) calls := by
  cases found with
  | none _ others =>
    apply Found.none
    intro part suffix
    rcases List.suffix_cons_iff.mp suffix with rfl | later
    · exact not_spelledAt _ unread
    · exact others part later
  | next passed rest call calls others spelled later =>
    rw [← List.cons_append]
    apply Found.next (c :: passed) rest call calls _ spelled later
    intro part suffix filled
    rcases List.suffix_cons_iff.mp suffix with rfl | inside
    · exact not_spelledAt _ unread
    · exact others part inside filled

theorem found_all (cs : List Char) : Found cs (all cs) := by
  fun_induction all cs with
  | case1 cs call starts ih =>
    have spelled := (ofStart?_eq_some_iff cs call).mp starts
    apply Found.next [] cs call _ _ spelled ih
    intro part suffix filled
    exact absurd (List.suffix_nil.mp suffix) filled
  | case2 =>
    apply Found.none
    intro part suffix call
    rw [List.suffix_nil.mp suffix]
    exact not_spelledAt [] rfl call
  | case3 c rest unread ih => exact ih.cons c rest _ unread

/-! Text without calls around others. -/

theorem ofStart?_of_ne (c : Char) (rest : List Char) (other : c ≠ 'r') :
    ofStart? (c :: rest) = none := by
  rw [ofStart?, if_neg]
  rw [List.isPrefixOf_iff_prefix]
  intro starts
  exact other (List.cons_prefix_cons.mp (starts : 'r' :: _ <+: c :: rest)).1.symm

theorem all_behind_passed (passed cs : List Char) (other : 'r' ∉ passed) :
    all (passed ++ cs) = all cs := by
  induction passed with
  | nil => rfl
  | cons c rest ih =>
    obtain ⟨differs, later⟩ := not_or.mp (mt List.mem_cons.mpr other)
    rw [List.cons_append, all_cons _ _ (ofStart?_of_ne c _ (Ne.symm differs)), ih later]

/-- A call ends with its comma, so text without one completes no call. -/
theorem ofStart?_before_plain (cs more : List Char) (unread : ofStart? cs = none) (plain : ',' ∉ more) :
    ofStart? (cs ++ more) = none := by
  cases found : ofStart? (cs ++ more) with
  | none => rfl
  | some call =>
    obtain ⟨spelling, _, whole⟩ := spelling_of_ofStart? _ _ found
    obtain ⟨start, ends, _⟩ := spelling.text_ends
    rcases List.append_eq_append_iff.mp whole with ⟨part, text, behind⟩ | ⟨part, text, _⟩
    · rcases List.eq_nil_or_concat' part with rfl | ⟨init, c, rfl⟩
      · have starts := ofStart?_text spelling []
        rw [text, List.append_nil, List.append_nil, unread] at starts
        cases starts
      · rw [ends, ← List.append_assoc] at text
        cases (List.append_inj' text rfl).2
        exact absurd (by simp [behind]) plain
    · rw [text, ofStart?_text] at unread
      cases unread

theorem all_before_plain (cs more : List Char) (none : all cs = []) (plain : ',' ∉ more) :
    all (cs ++ more) = [] := by
  fun_induction all cs with
  | case1 => cases none
  | case2 =>
    induction more with
    | nil =>
      rw [List.append_nil, all]
      rfl
    | cons c rest ih =>
      rw [List.nil_append, all_cons _ _ (ofStart?_before_plain [] (c :: rest) rfl plain)]
      exact ih fun member => plain (List.mem_cons_of_mem c member)
  | case3 c rest unread ih =>
    have still := ofStart?_before_plain (c :: rest) more unread plain
    rw [List.cons_append] at still ⊢
    rw [all_cons _ _ still, ih none]

end ApiAssembly.Registration
