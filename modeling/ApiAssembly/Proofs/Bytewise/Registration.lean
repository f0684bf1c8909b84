import ApiAssembly.Proofs.Bytewise.Literal
import ApiAssembly.Proofs.Component.Calls
/-! Registrations by position. The search for calls tells where the comma of each one ends. From there the
definition is looked for, its closing bracket is found, and the text between its brackets is cut out.
What is read of that text is read with the lists, entries and literals of any text. -/
namespace ApiAssembly.Bytewise
open Scan Text

/-- What the definition describes that stands behind a comma ending at the position. -/
def blocksFrom (cs : List Char) (position : Nat) :
    Except Fault (Except BlockFault PropertyBlocks) := do
  let behind ← slice cs position (size cs)
  if behind.all isBlank then pure (.error .noDefinition)
  else
    let opening := position + size (behind.takeWhile isBlank)
    let b ← byteAt (bytes cs) opening
    if b = '\x7b'.toUInt8 then
      match ← findMatching cs opening with
      | none => pure (.error .definitionUnbalanced)
      | some closing =>
        let inside ← slice cs (opening + 1) closing
        pure (definitionProperties inside)
    else pure (.error .definitionNotObject)

/-- Each name that is registered, with what its definition describes. -/
def registrations (cs : List Char) :
    Except Fault (List (String × Except BlockFault PropertyBlocks)) :=
  (Registration.all cs).mapM fun call => do
    let blocks ← blocksFrom cs (size cs - size call.after)
    pure (call.name, blocks)

theorem blocksFrom_eq (before : List Char) (call : Registration) :
    blocksFrom (before ++ call.after) (size before) = .ok call.blocks := by
  have parts := List.takeWhile_append_dropWhile (p := isBlank) (l := call.after)
  rw [blocksFrom, slice_behind, ok_bind, Registration.blocks]
  cases start : trimStart call.after with
  | nil =>
    rw [if_pos (List.all_eq_true.mpr ((trimStart_eq_nil_iff call.after).mp start))]
    rfl
  | cons c rest =>
    have filled : ¬ call.after.all isBlank = true := by
      intro blank
      rw [(trimStart_eq_nil_iff call.after).mpr (List.all_eq_true.mp blank)] at start
      cases start
    have place := (size_append before (call.after.takeWhile isBlank)).symm
    have whole : before ++ call.after = (before ++ call.after.takeWhile isBlank) ++ c :: rest := by
      rw [← start, List.append_assoc]
      exact congrArg (before ++ ·) parts.symm
    rw [if_neg filled]
    simp only [place, whole, byteAt_lead, ok_bind, lead_eq_iff '\x7b' (by decide), findMatching_at]
    split
    · cases found : block? (c :: rest) with
      | none => rfl
      | some block =>
        simp only [Option.map_some, slice_block _ _ _ _ found, ok_bind]
        rfl
    · rfl

theorem mapM_ok {α β : Type} (items : List α) (read : α → Except Fault β) (value : α → β)
    (each : ∀ item ∈ items, read item = .ok (value item)) :
    items.mapM read = .ok (items.map value) := by
  induction items with
  | nil => rfl
  | cons item rest ih =>
    obtain ⟨head, tail⟩ := List.forall_mem_cons.mp each
    rw [List.mapM_cons, head, ok_bind, ih tail, ok_bind]
    rfl

theorem after_suffix (cs : List Char) (call : Registration) (member : call ∈ Registration.all cs) :
    call.after <:+ cs := by
  fun_induction Registration.all cs with
  | case1 cs first starts ih =>
    obtain ⟨spelling, _, whole⟩ := Registration.spelling_of_ofStart? cs first starts
    have behind : first.after <:+ cs := ⟨spelling.text, whole.symm⟩
    rcases List.mem_cons.mp member with rfl | later
    · exact behind
    · exact (ih later).trans behind
  | case2 => cases member
  | case3 c rest _ ih => exact (ih member).trans (List.suffix_cons c rest)

theorem registrations_eq (cs : List Char) :
    registrations cs = .ok ((Registration.all cs).map fun call => (call.name, call.blocks)) := by
  refine mapM_ok _ _ _ fun call member => ?_
  obtain ⟨before, rfl⟩ := after_suffix cs call member
  rw [size_append, Nat.add_sub_cancel, blocksFrom_eq, ok_bind]
  rfl

end ApiAssembly.Bytewise
