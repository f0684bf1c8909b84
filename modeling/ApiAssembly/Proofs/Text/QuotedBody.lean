import ApiAssembly.Proofs.Text.LineEnds
/-! Escaping is undone, whichever characters are numbered and wherever they are. An escaped text
stays on its line, and the only quote that is not escaped is the one that closes it. -/
namespace ApiAssembly.Text.Quoted

/-- Whether the character behind a text is escaped: a backslash stands there, and is not escaped
itself. -/
def escapesNext (front : List Char) : Bool :=
  front.foldl (fun escaped c => !escaped && c = '\\') false

theorem escapesNext_plain (c : Char) (front : List Char) (backslash : c ≠ '\\') :
    escapesNext (c :: front) = escapesNext front := by
  simp [escapesNext, backslash]

theorem escapesNext_pair (c : Char) (front : List Char) :
    escapesNext ('\\' :: c :: front) = escapesNext front := by
  simp [escapesNext]

/-- Every quote inside is escaped. -/
theorem IsBody.quote_escaped {text : List Char} (body : IsBody text) (front back : List Char)
    (split : text = front ++ '"' :: back) : escapesNext front = true := by
  induction body generalizing front with
  | nil => simp at split
  | plain c rest quote backslash _ ih =>
    cases front with
    | nil => exact absurd (List.cons.inj split).1 quote
    | cons d more =>
      obtain ⟨rfl, tail⟩ := List.cons.inj split
      rw [escapesNext_plain c more backslash]
      exact ih more tail
  | pair c rest inLine _ ih =>
    match front with
    | [] => exact absurd (List.cons.inj split).1 (by decide)
    | [d] =>
      obtain ⟨rfl, -⟩ := List.cons.inj split
      rfl
    | d :: e :: more =>
      obtain ⟨rfl, tail⟩ := List.cons.inj split
      obtain ⟨rfl, behind⟩ := List.cons.inj tail
      rw [escapesNext_pair]
      exact ih more behind

theorem newline_not_mem_escapeAt (shown : Nat → Bool) (cs : List Char) :
    '\n' ∉ escapeAt shown cs := by
  induction cs generalizing shown with
  | nil => exact List.not_mem_nil
  | cons c rest ih =>
    rw [escapeAt, List.mem_append, not_or]
    refine ⟨?_, ih _⟩
    intro member
    cases endsLine_of_mem_escapeChar _ c '\n' member

/-- Whatever stands behind the closing quote, the escaped text is taken, in one way only, and it
stands for the text. -/
theorem escaping_undone (shown : Nat → Bool) (text : String) :
    '\n' ∉ escapeAt shown text.toList ∧
      (∀ front back, escapeAt shown text.toList = front ++ '"' :: back → escapesNext front = true) ∧
      (∀ rest, body? (escapeAt shown text.toList ++ '"' :: rest) =
        some (escapeAt shown text.toList, rest)) ∧
      (∀ rest taken behind,
        IsBody taken ∧ escapeAt shown text.toList ++ '"' :: rest = taken ++ '"' :: behind ↔
          taken = escapeAt shown text.toList ∧ behind = rest) ∧
      String.ofList (unescape (escapeAt shown text.toList)) = text := by
  have body := IsBody.escapeAt shown text.toList
  refine ⟨newline_not_mem_escapeAt shown text.toList, body.quote_escaped, body.read, ?_, ?_⟩
  · intro rest taken behind
    rw [← body?_eq_some_iff, body.read rest]
    simp [eq_comm]
  · rw [unescape_escapeAt, String.ofList_toList]

end ApiAssembly.Text.Quoted
