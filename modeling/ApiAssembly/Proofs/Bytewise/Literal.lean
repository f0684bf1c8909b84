import ApiAssembly.Proofs.Bytewise.Bracket
import ApiAssembly.Proofs.Scan.Reading
/-! Literals by position. Keys, quoted texts and blocks are cut out of the text between the positions that
the loops have found, one byte behind the opening mark and one in front of the closing one. -/
namespace ApiAssembly.Bytewise
open Scan Text

/-- The key of an entry as written, without its quotes, and what stands behind it. -/
def entryKey (entry : List Char) : Except Fault (Option (List Char × List Char)) :=
  match (bytes entry).head? with
  | none => .ok none
  | some b =>
    if isQuoteByte b then do
      match ← skipTrivia (bytes entry) 0 with
      | .past stop =>
        let last ← below stop
        let key ← slice entry 1 last
        let rest ← slice entry stop (size entry)
        pure (some (key, rest))
      | _ => pure none
    else
      let stop := size (entry.takeWhile isKeyChar)
      if stop = 0 then .ok none
      else do
        let key ← slice entry 0 stop
        let rest ← slice entry stop (size entry)
        pure (some (key, rest))

def splitEntry (entry : List Char) : Except Fault (Option (List Char × List Char)) := do
  match ← entryKey (trim entry) with
  | none => pure none
  | some (key, rest) =>
    pure <| match trimStart rest with
      | ':' :: value => some (key, trim value)
      | _ => none

def unquote (text : List Char) : Except Fault (Option (List Char)) :=
  match text.head? with
  | none => .ok none
  | some quote =>
    if isQuote quote && 2 ≤ size text && text.getLast? = some quote then do
      let last ← below (size text)
      let inside ← slice text 1 last
      pure (unescape? inside)
    else .ok none

def scalar (text : List Char) : Except Fault (Option Json) :=
  if text = [] then .ok none
  else if text = "true".toList then .ok (some (.bool true))
  else if text = "false".toList then .ok (some (.bool false))
  else if text = "null".toList ∨ text = "undefined".toList then .ok (some .null)
  else do
    match ← unquote text with
    | some inside => pure (some (.str (String.ofList inside)))
    | none => pure ((number? text).map .num)

/-- The pieces inside a block that takes up the whole text. -/
def blockParts (text : List Char) : Except Fault (Option (List (List Char))) := do
  match ← findMatching text 0 with
  | none => pure none
  | some close =>
    let last ← below (size text)
    if close = last then
      let inside ← slice text 1 last
      splitTopLevel inside
    else pure none

/-- Nothing is read behind the first item that is none. -/
def readAll {α β : Type} (read : α → Except Fault (Option β)) :
    List α → Except Fault (Option (List β))
  | [] => .ok (some [])
  | item :: rest => do
    match ← read item with
    | none => pure none
    | some value =>
      let later ← readAll read rest
      pure (later.map (value :: ·))

/-! Each of them finds what the readers of characters find. -/

theorem size_eq_zero_iff (cs : List Char) : size cs = 0 ↔ cs = [] := by
  cases cs with
  | nil => simp [size_nil]
  | cons c rest =>
    have := c.utf8Size_pos
    rw [size_cons]
    simp
    omega

theorem below_concat (before : List Char) (c : Char) (ascii : c.toNat < 128) :
    below (size (before ++ [c])) = .ok (size before) := by
  rw [size_concat_ascii before c ascii]
  rfl

theorem entryKey_quote (quote : Char) (rest : List Char) (quotes : isQuote quote = true) :
    entryKey (quote :: rest) =
      .ok ((quoteEnd? quote rest).map fun found => (found.1.dropLast, found.2)) := by
  have ascii := isQuote_ascii quote quotes
  have skip := skipTrivia_eq [] quote rest
  rw [List.nil_append, size_nil, trivia_quote quote rest quotes] at skip
  rw [entryKey, head?_bytes, List.head?_cons, Option.map_some]
  simp only [isQuoteByte_lead, quotes, if_true, skip, ok_bind]
  cases found : quoteEnd? quote rest with
  | none => rfl
  | some parts =>
    obtain ⟨text, behind⟩ := parts
    obtain ⟨inside, rfl⟩ := List.getLast?_eq_some_iff.mp (quoteEnd?_getLast? _ _ _ _ found)
    have whole := quoteEnd?_append _ _ _ _ found
    have last := below_concat (quote :: inside) quote ascii
    have key := slice_inside quote ascii inside ([quote] ++ behind)
    have after := slice_behind (quote :: (inside ++ [quote])) behind
    rw [← List.append_assoc, ← whole] at key
    rw [List.cons_append, ← whole] at after
    simp only [Skip.ofTrivia, Trivia.ofFound, List.nil_append, List.singleton_append]
    rw [List.cons_append] at last
    rw [last, ok_bind, key, ok_bind, after, ok_bind, Option.map_some, List.dropLast_concat]
    rfl

theorem entryKey_eq (entry : List Char) : entryKey entry = .ok (entryKey? entry) := by
  cases entry with
  | nil => rfl
  | cons c rest =>
    by_cases quotes : isQuote c = true
    · rw [entryKey_quote c rest quotes, entryKey?, if_pos quotes]
    · have parts := List.takeWhile_append_dropWhile (p := isKeyChar) (l := c :: rest)
      have front := slice_front ((c :: rest).takeWhile isKeyChar) ((c :: rest).dropWhile isKeyChar)
      have behind := slice_behind ((c :: rest).takeWhile isKeyChar) ((c :: rest).dropWhile isKeyChar)
      rw [parts] at front behind
      rw [entryKey, head?_bytes, List.head?_cons, Option.map_some, entryKey?, if_neg quotes]
      simp only [isQuoteByte_lead, quotes, if_false, size_eq_zero_iff, front, behind, ok_bind,
        List.isEmpty_iff, Bool.false_eq_true]
      split <;> rfl

theorem splitEntry_eq (entry : List Char) : splitEntry entry = .ok (keyValue? entry) := by
  rw [splitEntry, entryKey_eq, ok_bind, keyValue?]
  cases entryKey? (trim entry) <;> rfl

theorem unquote_eq (text : List Char) : unquote text = .ok (unquote? text) := by
  cases text with
  | nil => rfl
  | cons c rest =>
    rw [unquote, unquote?]
    by_cases quotes : isQuote c = true
    swap
    · simp [quotes]
    have ascii := isQuote_ascii c quotes
    rcases List.eq_nil_or_concat' rest with rfl | ⟨inside, last, rfl⟩
    · have one : size [c] = 1 := size_concat_ascii [] c ascii
      simp [one]
    have ends : (c :: (inside ++ [last])).getLast? = some last := by
      rw [← List.cons_append, List.getLast?_concat]
    by_cases same : last = c
    swap
    · simp [ends, same]
    subst last
    have room : 2 ≤ size (c :: (inside ++ [c])) := by
      rw [← List.cons_append, size_concat_ascii _ c ascii, size_cons]
      have := c.utf8Size_pos
      omega
    have final := below_concat (c :: inside) c ascii
    have part := slice_inside c ascii inside [c]
    rw [List.cons_append] at final
    simp [quotes, room, ends, final, part, ok_bind]

theorem scalar_eq (text : List Char) : scalar text = .ok (scalar? text) := by
  rw [scalar, scalar?, unquote_eq, ok_bind]
  split
  · rfl
  split
  · rfl
  split
  · rfl
  split
  · rfl
  · cases unquote? text <;> rfl

theorem below_size (c : Char) (rest : List Char) (ascii : c.toNat < 128) :
    below (size (c :: rest)) = .ok (size rest) := by
  have front := size_append [c] rest
  have one : size [c] = 1 := size_concat_ascii [] c ascii
  rw [one, Nat.add_comm] at front
  rw [← List.singleton_append, front]
  rfl

theorem blockParts_eq (text : List Char) : blockParts text = .ok (parts? text) := by
  have matching := findMatching_at [] text
  simp only [List.nil_append, size_nil, Nat.zero_add] at matching
  rw [blockParts, matching, ok_bind, parts?]
  cases found : block? text with
  | none => rfl
  | some block =>
    obtain ⟨inside, rest⟩ := block
    have part := slice_block [] text inside rest found
    obtain ⟨opening, closing, opens, rfl⟩ := block?_parts _ _ _ found
    obtain ⟨openingAscii, closingAscii⟩ := closer?_ascii _ _ opens
    have last := below_size opening (inside ++ closing :: rest) openingAscii
    have behind := size_append (inside ++ [closing]) rest
    rw [size_concat_ascii inside closing closingAscii, List.append_assoc, List.singleton_append,
      Nat.add_comm (size inside)] at behind
    simp only [List.nil_append, size_nil, Nat.zero_add] at part
    simp only [Option.map_some, last, ok_bind, behind]
    cases rest with
    | nil =>
      simp only [size_nil, Nat.add_zero, if_true]
      rw [part, ok_bind, splitTopLevel_eq]
    | cons c more =>
      have longer := mt (size_eq_zero_iff (c :: more)).mp (List.cons_ne_nil c more)
      rw [if_neg (by omega)]
      rfl

theorem readAll_eq {α β : Type} (read : α → Except Fault (Option β)) (plain : α → Option β)
    (items : List α) (each : ∀ item ∈ items, read item = .ok (plain item)) :
    readAll read items = .ok (items.mapM plain) := by
  induction items with
  | nil => rfl
  | cons item rest ih =>
    obtain ⟨head, tail⟩ := List.forall_mem_cons.mp each
    rw [readAll, head, ok_bind, List.mapM_cons]
    cases plain item with
    | none => rfl
    | some value =>
      simp only [ih tail, ok_bind]
      cases rest.mapM plain <;> rfl

theorem blockParts_shorter (cs : List Char) (parts : List (List Char))
    (found : blockParts (bare cs) = .ok (some parts)) : ∀ part ∈ parts, part.length < cs.length := by
  intro part member
  rw [blockParts_eq] at found
  have shorter := parts?_length _ parts (Except.ok.inj found) part member
  have whole := bare_length cs
  omega

theorem splitEntry_shorter (entry key value : List Char)
    (found : splitEntry entry = .ok (some (key, value))) : value.length < entry.length := by
  rw [splitEntry_eq] at found
  exact keyValue?_length entry key value (Except.ok.inj found)

def literal (cs : List Char) : Except Fault (Option Json) :=
  if (bare cs).head? = some '[' then
    match _parts : blockParts (bare cs) with
    | .error fault => .error fault
    | .ok none => .ok none
    | .ok (some items) => do
      let values ← readAll (fun item => literal item.1) items.attach
      pure (values.map .arr)
  else if (bare cs).head? = some '\x7b' then
    match _parts : blockParts (bare cs) with
    | .error fault => .error fault
    | .ok none => .ok none
    | .ok (some entries) => do
      let members ← readAll
        (fun entry =>
          match _entry : splitEntry entry.1 with
          | .error fault => .error fault
          | .ok none => .ok none
          | .ok (some (key, value)) => do
            let read ← literal value
            pure (read.map fun value => (String.ofList key, value)))
        entries.attach
      pure (members.map Json.ofFields)
  else scalar (bare cs)
termination_by cs.length
decreasing_by
  · exact blockParts_shorter cs items _parts item.1 item.2
  · have shorter := splitEntry_shorter entry.1 key value _entry
    have := blockParts_shorter cs entries _parts entry.1 entry.2
    omega

theorem mapM_bind {α β γ : Type} (items : List α) (first : α → Option β) (second : β → Option γ) :
    (items.mapM fun item => (first item).bind second) =
      (items.mapM first).bind fun found => found.mapM second := by
  induction items with
  | nil => rfl
  | cons item rest ih =>
    rw [List.mapM_cons, List.mapM_cons, ih]
    cases first item with
    | none => rfl
    | some value =>
      simp only [Option.bind_eq_bind, Option.bind_some, Option.pure_def]
      cases rest.mapM first with
      | none => cases second value <;> rfl
      | some found =>
        rw [Option.bind_some, Option.bind_some, Option.bind_some, List.mapM_cons]
        rfl

theorem literal_eq (cs : List Char) : literal cs = .ok (literal? cs) := by
  fun_induction literal cs with
  | case1 cs list fault parts =>
    rw [blockParts_eq] at parts
    cases parts
  | case2 cs list parts =>
    rw [blockParts_eq] at parts
    rw [literal?_list cs rfl list, Except.ok.inj parts]
    rfl
  | case3 cs list items parts ih =>
    rw [blockParts_eq] at parts
    rw [readAll_eq _ (fun item => literal? item.1) _ fun item _ => ih item, ok_bind,
      literal?_list cs rfl list, Except.ok.inj parts, mapM_attach items literal?]
    rfl
  | case4 cs _ object fault parts =>
    rw [blockParts_eq] at parts
    cases parts
  | case5 cs _ object parts =>
    rw [blockParts_eq] at parts
    rw [literal?_object cs rfl object, Except.ok.inj parts]
    rfl
  | case6 cs _ object entries parts ih =>
    rw [blockParts_eq] at parts
    rw [readAll_eq _ (fun entry => (keyValue? entry.1).bind member?), ok_bind,
      literal?_object cs rfl object, Except.ok.inj parts, Option.bind_some,
      mapM_attach entries fun entry => (keyValue? entry).bind member?, mapM_bind]
    · cases entries.mapM keyValue? <;> rfl
    intro entry _
    have read := splitEntry_eq entry.1
    split
    · rename_i fault same
      rw [read] at same
      cases same
    · rename_i same
      rw [read] at same
      rw [Except.ok.inj same]
      rfl
    · rename_i key value same
      rw [ih entry key value same]
      rw [read] at same
      rw [Except.ok.inj same]
      rfl
  | case7 cs list object => rw [scalar_eq, literal?_scalar cs rfl list object]

end ApiAssembly.Bytewise
