import ApiAssembly.Json.Reader
import ApiAssembly.Text.Printable
/-! Quoted texts of the generated router and command line. Quotes and backslashes, and the controls
that have a letter of their own, are written behind a backslash; a character that would not be
seen is written by its number between braces. Reading undoes this, whichever characters the
writer chose to number. -/
namespace ApiAssembly.Text.Quoted

def numbered (c : Char) : List Char :=
  ['\\', 'u', '\x7b'] ++ Nat.toDigits 16 c.toNat ++ ['\x7d']

def escapeChar (shown : Char → Bool) (c : Char) : List Char :=
  if c = '"' then ['\\', '"']
  else if c = '\\' then ['\\', '\\']
  else if c = '\n' then ['\\', 'n']
  else if c = '\t' then ['\\', 't']
  else if c = '\r' then ['\\', 'r']
  else if c = '\x00' then ['\\', '0']
  else if shown c then [c]
  else numbered c

def escapeWith (shown : Char → Bool) (cs : List Char) : List Char := cs.flatMap (escapeChar shown)

def quote (text : String) : String :=
  String.ofList ('"' :: escapeWith isPrintable text.toList ++ ['"'])

/-- The number between braces. A plus sign may stand before it, and text that is no number, or not
the number of a character, stands for nothing. -/
def hexNumber? (digits : List Char) : Option Nat :=
  let digits := match digits with
    | '+' :: rest => rest
    | _ => digits
  if digits.isEmpty then none
  else digits.foldl (fun total c => do
    pure ((← total) * 16 + (← Json.Reader.hexValue? c))) (some 0)

def characterOf? (number : Nat) : Option Char :=
  if number.isValidChar then some (Char.ofNat number) else none

def skipBraces (cs : List Char) : List Char := cs.dropWhile (· = '\x7b')

def numberText (cs : List Char) : List Char := (skipBraces cs).takeWhile (· ≠ '\x7d')

def afterNumber (cs : List Char) : List Char :=
  ((skipBraces cs).dropWhile (· ≠ '\x7d')).drop 1

theorem afterNumber_length (cs : List Char) : (afterNumber cs).length ≤ cs.length := by
  have first := (List.dropWhile_suffix (fun c => decide (c = '\x7b')) (l := cs)).length_le
  have second := (List.dropWhile_suffix (fun c => decide (c ≠ '\x7d')) (l := skipBraces cs)).length_le
  unfold afterNumber skipBraces at *
  rw [List.length_drop]
  omega

def unescape (cs : List Char) : List Char :=
  match cs with
  | [] => []
  | '\\' :: 'n' :: rest => '\n' :: unescape rest
  | '\\' :: 't' :: rest => '\t' :: unescape rest
  | '\\' :: 'r' :: rest => '\r' :: unescape rest
  | '\\' :: '0' :: rest => '\x00' :: unescape rest
  | '\\' :: 'u' :: rest =>
    ((hexNumber? (numberText rest)).bind characterOf?).toList ++ unescape (afterNumber rest)
  | '\\' :: c :: rest => c :: unescape rest
  | ['\\'] => []
  | c :: rest => c :: unescape rest
termination_by cs.length
decreasing_by
  all_goals simp only [List.length_cons]
  all_goals first
    | omega
    | (have shorter := afterNumber_length rest; omega)

/-- What stands before the closing quote, and what follows it. A backslash takes the character
behind it along, but never the end of a line. -/
def body? : List Char → Option (List Char × List Char)
  | [] => none
  | '"' :: rest => some ([], rest)
  | '\\' :: c :: rest =>
    if c = '\n' then none else (body? rest).map fun found => ('\\' :: c :: found.1, found.2)
  | ['\\'] => none
  | c :: rest => (body? rest).map fun found => (c :: found.1, found.2)

theorem body?_length (cs text rest : List Char) (found : body? cs = some (text, rest)) :
    rest.length < cs.length := by
  fun_induction body? cs generalizing text rest with
  | case1 => simp at found
  | case2 tail => simp_all
  | case3 => simp at found
  | case4 c tail _ ih =>
    obtain ⟨pair, inner, same⟩ := Option.map_eq_some_iff.mp found
    have := ih pair.1 pair.2 inner
    cases same
    simp
    omega
  | case5 => simp at found
  | case6 c tail _ _ _ ih =>
    obtain ⟨pair, inner, same⟩ := Option.map_eq_some_iff.mp found
    have := ih pair.1 pair.2 inner
    cases same
    simp
    omega

end ApiAssembly.Text.Quoted
