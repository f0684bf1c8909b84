import ApiAssembly.Proofs.Component.Calls
import ApiAssembly.Proofs.Scan.Continuation
/-! What each call of a text contributes. A call gives one component or one warning that it is passed
over, and it gives the same wherever it stands: neither the text in front of it nor the text behind
its closed definition matters, however broken they are. -/
namespace ApiAssembly

namespace Registration
open Scan Text

/-- The definition is an object whose block is closed. -/
def IsClosed (call : Registration) : Prop :=
  (trimStart call.after).head? = some '\x7b' ∧ (block? (trimStart call.after)).isSome

theorem trimStart_continued (cs more : List Char) (filled : trimStart cs ≠ []) :
    trimStart (cs ++ more) = trimStart cs ++ more := by
  rw [trimStart_append, if_neg filled]

theorem blocks_followedBy (call : Registration) (more : List Char) (closed : call.IsClosed) :
    (call.followedBy more).blocks = call.blocks := by
  obtain ⟨opens, blockCloses⟩ := closed
  obtain ⟨rest, definition⟩ := List.head?_eq_some_iff.mp opens
  obtain ⟨⟨inside, behind⟩, block⟩ := Option.isSome_iff_exists.mp blockCloses
  have filled : trimStart call.after ≠ [] := by
    rw [definition]
    exact List.cons_ne_nil _ rest
  have continued := block?_continued _ inside behind more block
  rw [definition] at block continued
  rw [blocks, blocks, followedBy, trimStart_continued _ more filled, definition]
  rw [List.cons_append] at continued ⊢
  simp only [block, continued]

end Registration

namespace Extraction
variable (label : String) (classifier : Classifier)

def skipWarning (name : String) (fault : BlockFault) : String :=
  label ++ ": skipped component '" ++ name ++ "': " ++ fault.message

def propertyWarning (name : String) (fault : String × BlockFault) : String :=
  label ++ ": skipped property '" ++ name ++ "." ++ fault.1 ++ "': " ++ fault.2.message

/-- What a call stands for: its component, with a warning for each property that is passed over, or one
warning that the component itself is. -/
inductive Contribution (call : Registration) : Extraction → Prop
  | component (blocks : PropertyBlocks) (read : call.blocks = .ok blocks) :
      Contribution call ⟨[⟨call.name, classifier.classify call.name, blocks.properties⟩],
        blocks.faults.map (propertyWarning label call.name)⟩
  | skipped (fault : BlockFault) (failed : call.blocks = .error fault) :
      Contribution call ⟨[], [skipWarning label call.name fault]⟩

theorem contribution_ofCall (call : Registration) :
    Contribution label classifier call (ofCall label classifier call) := by
  unfold ofCall
  cases outcome : call.blocks with
  | error fault => exact .skipped fault outcome
  | ok blocks => exact .component blocks outcome

theorem ofCall_followedBy (call : Registration) (more : List Char) (closed : call.IsClosed) :
    ofCall label classifier (call.followedBy more) = ofCall label classifier call := by
  unfold ofCall
  rw [call.blocks_followedBy more closed]
  rfl

/-- Contributions one after the other. -/
def join (parts : List Extraction) : Extraction :=
  ⟨parts.flatMap Extraction.components, parts.flatMap Extraction.warnings⟩

theorem foldl_append (parts : List Extraction) (start : Extraction) :
    parts.foldl append start = start.append (join parts) := by
  induction parts generalizing start with
  | nil => simp [append, join]
  | cons part rest ih =>
    rw [List.foldl_cons, ih]
    simp [append, join]

theorem ofText_eq (text : String) : ofText label classifier text =
    join ((Registration.all text.toList).map (ofCall label classifier)) := by
  rw [ofText, foldl_append]
  rfl

/-! Each call is accounted for. -/

/-- The warning says that a component is passed over. -/
def isSkip (warning : String) : Bool := Text.startsWith (label ++ ": skipped component '") warning

theorem isSkip_skipWarning (name : String) (fault : BlockFault) :
    isSkip label (skipWarning label name fault) = true := by
  unfold isSkip skipWarning Text.startsWith
  rw [List.isPrefixOf_iff_prefix]
  simp only [String.toList_append, List.append_assoc, List.prefix_append_right_inj]
  exact List.prefix_append _ _

theorem isSkip_propertyWarning (name : String) (fault : String × BlockFault) :
    isSkip label (propertyWarning label name fault) = false := by
  apply Bool.eq_false_iff.mpr
  unfold isSkip propertyWarning Text.startsWith
  rw [ne_eq, List.isPrefixOf_iff_prefix]
  simp only [String.toList_append, List.append_assoc, List.prefix_append_right_inj]
  intro starts
  -- The two kinds of warnings share the words in front of what is passed over.
  have kinds : ∀ rest, ¬ ": skipped component '".toList <+: ": skipped property '".toList ++ rest := by
    intro rest isPrefix
    have letter := List.prefix_iff_eq_take.mp isPrefix
    simp at letter
  exact kinds _ starts

theorem count_contribution (call : Registration) (part : Extraction)
    (contributes : Contribution label classifier call part) :
    part.components.length + (part.warnings.filter (isSkip label)).length = 1 := by
  cases contributes with
  | component blocks _ =>
    have silent : (blocks.faults.map (propertyWarning label call.name)).filter (isSkip label) = [] := by
      rw [List.filter_eq_nil_iff]
      intro warning member
      obtain ⟨fault, _, rfl⟩ := List.mem_map.mp member
      exact Bool.eq_false_iff.mp (isSkip_propertyWarning label call.name fault)
    rw [silent]
    rfl
  | skipped fault _ => rw [List.filter_cons_of_pos (isSkip_skipWarning label call.name fault)]; rfl

theorem count_join (calls : List Registration) (parts : List Extraction)
    (contribute : List.Forall₂ (Contribution label classifier) calls parts) :
    (join parts).components.length + ((join parts).warnings.filter (isSkip label)).length =
      calls.length := by
  induction contribute with
  | nil => rfl
  | cons first _ ih =>
    have one := count_contribution label classifier _ _ first
    simp only [join, List.flatMap_cons, List.length_append, List.filter_append, List.length_cons]
      at ih ⊢
    omega

theorem contributions_ofCall (calls : List Registration) :
    List.Forall₂ (Contribution label classifier) calls (calls.map (ofCall label classifier)) := by
  induction calls with
  | nil => exact .nil
  | cons call _ ih => exact .cons (contribution_ofCall label classifier call) ih

/-- Between two texts a call gives what it gives alone. The calls in front of it are those of the text in
front, and it is found right behind them. -/
def GivesTheSame (before registration behind : String) (call : Registration) : Prop :=
  ∃ earlier later others : List Registration,
    earlier = (Registration.all before.toList).map
      (Registration.followedBy (registration ++ behind).toList) ∧
    Registration.all (before ++ registration ++ behind).toList =
      earlier ++ call.followedBy behind.toList :: later ∧
    Registration.all registration.toList = call :: others ∧
    ofText label classifier (before ++ registration ++ behind) =
      join (earlier.map (ofCall label classifier) ++ ofCall label classifier call ::
        later.map (ofCall label classifier)) ∧
    ofText label classifier registration =
      join (ofCall label classifier call :: others.map (ofCall label classifier))

/-- Each call that is found in a text gives one component or one skip warning, in the order of the calls
and with nothing between them, and a call whose block is closed gives the same between any two texts
as alone. -/
theorem contributions_local :
    (∀ text : String,
      let calls := Registration.all text.toList
      let parts := calls.map (ofCall label classifier)
      Registration.Found text.toList calls ∧
      List.Forall₂ (Contribution label classifier) calls parts ∧
      ofText label classifier text = join parts ∧
      (ofText label classifier text).components.length +
        ((ofText label classifier text).warnings.filter (isSkip label)).length = calls.length) ∧
    (∀ (before registration behind : String) (call : Registration),
      Registration.SpelledAt registration.toList call → call.IsClosed →
      GivesTheSame label classifier before registration behind call) := by
  constructor
  · intro text calls parts
    have contribute := contributions_ofCall label classifier calls
    have joined := ofText_eq label classifier text
    refine ⟨Registration.found_all text.toList, contribute, joined, ?_⟩
    rw [joined]
    exact count_join label classifier calls parts contribute
  · intro before registration behind call spelled closed
    have starts := (Registration.ofStart?_eq_some_iff _ _).mpr spelled
    have continued := Registration.ofStart?_continued _ behind.toList call starts
    have alone := Registration.all_of_starts _ call starts
    have whole : Registration.all (before ++ registration ++ behind).toList =
        (Registration.all before.toList).map
          (Registration.followedBy (registration ++ behind).toList) ++
        call.followedBy behind.toList :: Registration.all (call.followedBy behind.toList).after := by
      rw [← Registration.all_of_starts _ _ continued, String.toList_append, String.toList_append,
        String.toList_append, List.append_assoc, Registration.all_before _ _ _ continued]
    refine ⟨_, _, _, rfl, whole, alone, ?_, ?_⟩
    · rw [ofText_eq, whole, List.map_append, List.map_cons,
        ofCall_followedBy label classifier call _ closed]
    · rw [ofText_eq, alone, List.map_cons]

def lampText : String :=
  "registerComponent('lamp', \x7bschema: \x7ba: \x7btype: 'color'\x7d, b: \x7btype: x\x7d\x7d\x7d)"

def lampCall : Registration :=
  ⟨"lamp", " \x7bschema: \x7ba: \x7btype: 'color'\x7d, b: \x7btype: x\x7d\x7d\x7d)".toList⟩

/-- In front of the call stand an open comment, an open quote and the start of another call. Behind it
stand brackets that close nothing and a call without an end. -/
theorem contributions_local_broken :
    Registration.SpelledAt lampText.toList lampCall ∧ lampCall.IsClosed ∧
    (ofCall "lib.js" .builtin lampCall).components.map Component.name = ["lamp"] ∧
    (ofCall "lib.js" .builtin lampCall).warnings =
      ["lib.js: skipped property 'lamp.b': type marker `x` is not a string literal"] ∧
    GivesTheSame "lib.js" .builtin "/* ' registerComponent(\"a" lampText
      "\x7d)] registerComponent('b', \x7b // \x60" lampCall := by
  have spelled : Registration.SpelledAt lampText.toList lampCall :=
    (Registration.ofStart?_eq_some_iff _ _).mp (by decide)
  have closed : lampCall.IsClosed := ⟨by decide, by decide +kernel⟩
  refine ⟨spelled, closed, by decide +kernel, by decide +kernel, ?_⟩
  exact (contributions_local "lib.js" .builtin).2 _ _ _ lampCall spelled closed

end Extraction
end ApiAssembly
