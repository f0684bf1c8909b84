import ApiAssembly.PathTemplate
import ApiAssembly.Proofs.Identifier.AsciiWords
import ApiAssembly.Proofs.Identifier.Reserved
import ApiAssembly.Text.Basic
import ApiAssembly.Text.Whitespace
/-! Which generated names are identifiers of a Rust program. The marks that a name gets keep it clear
of digits in front and of the keywords in use. They do not keep it clear of the keywords that are
reserved for later, and a name without any letter or digit is left as a single underscore. -/
namespace ApiAssembly.Identifier
open Text

def strictKeywords : List String := [
  "as", "async", "await", "break", "const", "continue", "crate", "dyn", "else", "enum", "extern",
  "false", "fn", "for", "if", "impl", "in", "let", "loop", "match", "mod", "move", "mut", "pub",
  "ref", "return", "self", "Self", "static", "struct", "super", "trait", "true", "type", "unsafe",
  "use", "where", "while"]

/-- Keywords without a use so far. A program cannot take them as names either. -/
def reservedKeywords : List String := [
  "abstract", "become", "box", "do", "final", "macro", "override", "priv", "try", "typeof",
  "unsized", "virtual", "yield"]

/-- Keywords that stay keywords when they are written raw. -/
def pathKeywords : List String := ["crate", "self", "Self", "super"]

def startsName (c : Char) : Bool := c.isAlpha || c = '_'

def continuesName (c : Char) : Bool := c.isAlphanum || c = '_'

/-- The spelling of a name. A single underscore is none. -/
def isName : List Char → Bool
  | [] => false
  | first :: rest => startsName first && rest.all continuesName && !(first = '_' && rest.isEmpty)

def isIdentifier (name : String) : Bool :=
  match afterStart? "r#" name with
  | some raw => isName raw.toList && !pathKeywords.contains raw
  | none => isName name.toList && !(strictKeywords ++ reservedKeywords).contains name

theorem isIdentifier_iff (name : String) (plain : '#' ∉ name.toList) :
    isIdentifier name = true ↔
      isName name.toList = true ∧ name ∉ strictKeywords ∧ name ∉ reservedKeywords := by
  have cooked : afterStart? "r#" name = none := by
    rw [afterStart?, if_neg]
    intro raw
    exact plain ((List.isPrefixOf_iff_prefix.mp raw).subset (by decide))
  simp [isIdentifier, cooked]

theorem hash_not_mem (cs : List Char) (spelled : cs.all continuesName = true) : '#' ∉ cs := by
  intro member
  have continued := List.all_eq_true.mp spelled '#' member
  revert continued
  decide

theorem toList_ne_of_head (words : List String) (name : String) (mark : Char) (rest : List Char)
    (shape : name.toList = mark :: rest)
    (table : ∀ word ∈ words, word.toList.head? ≠ some mark) : name ∉ words := by
  intro member
  apply table name member
  rw [shape, List.head?_cons]

/-- A name that starts with a digit is one behind an underscore. -/
theorem isIdentifier_digit (name : String) (c : Char) (rest : List Char)
    (shape : name.toList = c :: rest) (spelled : name.toList.all continuesName = true) :
    isIdentifier ("_" ++ name) = true := by
  have marked : ("_" ++ name).toList = '_' :: c :: rest := by
    rw [String.toList_append, shape]
    rfl
  have continued : ('_' :: c :: rest).all continuesName = true := by
    rw [List.all_cons, ← shape, spelled]
    rfl
  rw [isIdentifier_iff _ (marked ▸ hash_not_mem _ continued), marked]
  refine ⟨?_, toList_ne_of_head _ _ '_' _ marked (by decide),
    toList_ne_of_head _ _ '_' _ marked (by decide)⟩
  rw [shape] at spelled
  rw [isName, spelled]
  rfl

/-- A name that needs no mark is an identifier but for the keywords that the marks pass over. -/
theorem isIdentifier_unmarked_iff (name : String) (spelled : name.toList.all continuesName = true)
    (headed : lacksHead name = false) (path : name ∉ rustPathWords) (free : name ∉ rustKeywords) :
    isIdentifier name = true ↔ name ∉ reservedKeywords := by
  have known : ∀ word ∈ strictKeywords, word ∈ rustKeywords ∨ word ∈ rustPathWords := by decide
  have unused : name ∉ strictKeywords := fun member =>
    (known name member).elim free path
  have named : isName name.toList = true := by
    unfold lacksHead at headed
    cases shape : name.toList with
    | nil =>
      rw [shape] at headed
      cases headed
    | cons c rest =>
      rw [shape, List.head?_cons] at headed
      rw [shape, List.all_cons, Bool.and_eq_true] at spelled
      have starts : startsName c = true := by
        simpa [startsName, continuesName, Char.isAlphanum, headed] using spelled.1
      -- A single underscore is among the names that get a mark.
      have more : (c = '_' && rest.isEmpty) = false := by
        rw [Bool.eq_false_iff]
        intro lone
        rw [Bool.and_eq_true, decide_eq_true_eq, List.isEmpty_iff] at lone
        have single : name = "_" := by
          rw [← String.toList_inj, shape, lone.1, lone.2]
          rfl
        exact path (single ▸ by decide)
      rw [isName, starts, spelled.2, more]
      rfl
  rw [isIdentifier_iff name (hash_not_mem _ spelled)]
  exact ⟨fun parts => parts.2.2, fun kept => ⟨named, unused, kept⟩⟩

/-- A name of letters, digits and underscores is made an identifier, unless it is empty or a keyword
that the marks pass over. -/
theorem rust_isIdentifier_iff (name : String) (spelled : name.toList.all continuesName = true) :
    isIdentifier (rust name) = true ↔ name ≠ "" ∧ name ∉ reservedKeywords := by
  rcases rust_cases name with
    ⟨headless, same⟩ | ⟨path, same⟩ | ⟨keyword, same⟩ | ⟨⟨headed, path, free⟩, same⟩
  · rw [same]
    cases shape : name.toList with
    | nil =>
      have empty : name = "" := String.toList_inj.mp shape
      subst empty
      decide
    | cons c rest =>
      have headed : ∀ word ∈ reservedKeywords, lacksHead word = false := by decide
      refine iff_of_true (isIdentifier_digit name c rest shape spelled) ⟨?_, ?_⟩
      · rintro rfl
        cases shape
      · intro member
        rw [headed name member] at headless
        cases headless
  · have table : ∀ word ∈ rustPathWords,
        isIdentifier (word ++ "_") = true ∧ word ≠ "" ∧ word ∉ reservedKeywords := by decide
    obtain ⟨marked, kept⟩ := table name path
    rw [same]
    exact iff_of_true marked kept
  · have table : ∀ word ∈ rustKeywords,
        isIdentifier ("r#" ++ word) = true ∧ word ≠ "" ∧ word ∉ reservedKeywords := by decide
    obtain ⟨raw, kept⟩ := table name keyword
    rw [same]
    exact iff_of_true raw kept
  · have filled : name ≠ "" := by
      rintro rfl
      cases headed
    rw [same, isIdentifier_unmarked_iff name spelled headed path free]
    exact (and_iff_right filled).symm

theorem commandField_isIdentifier (parameter : String) :
    isIdentifier (commandField parameter) = isIdentifier (rust (snake parameter)) := by
  unfold commandField
  by_cases help : rust (snake parameter) = "help"
  · simp only [help, if_true]
    decide
  · simp only [help, if_false]

section Ascii
variable {text : String} (ascii : IsAscii text)
include ascii

theorem snake_spelled : (snake text).toList.all continuesName = true := by
  rw [List.all_eq_true]
  intro c member
  rcases mem_snake ascii c member with small | rfl
  · rw [continuesName, isAlphanum_of_small c small, Bool.true_or]
  · rfl

theorem pascal_spelled : (pascal text).toList.all continuesName = true := by
  rw [List.all_eq_true]
  intro c member
  rcases mem_pascal ascii c member with small | capital
  · rw [continuesName, isAlphanum_of_small c small, Bool.true_or]
  · rw [continuesName, isAlphanum_of_letter c (Or.inl capital), Bool.true_or]

theorem pascal_not_reserved : pascal text ∉ reservedKeywords :=
  pascal_not_mem ascii reservedKeywords (by decide)

theorem stub_isIdentifier : isIdentifier ("stub_" ++ snake text) = true := by
  have marked : ("stub_" ++ snake text).toList = 's' :: ("tub_".toList ++ (snake text).toList) := by
    rw [String.toList_append]
    rfl
  have continued : ("stub_" ++ snake text).toList.all continuesName = true := by
    rw [String.toList_append, List.all_append, snake_spelled ascii]
    rfl
  have parted : '_' ∈ ("stub_" ++ snake text).toList := by
    rw [String.toList_append]
    exact List.mem_append_left _ (by decide)
  have solid : ∀ word ∈ strictKeywords ++ reservedKeywords, '_' ∉ word.toList := by decide
  rw [isIdentifier_iff _ (hash_not_mem _ continued)]
  refine ⟨?_, ?_, ?_⟩
  · rw [marked] at continued ⊢
    rw [isName, (Bool.and_eq_true_iff.mp continued).2]
    rfl
  · exact fun member => solid _ (List.mem_append_left _ member) parted
  · exact fun member => solid _ (List.mem_append_right _ member) parted

end Ascii

/-- The placeholder of a router is always usable. The variant of a command is usable exactly when its
text has a letter or a digit. A field also has to stay clear of the keywords reserved for later. -/
theorem rust_names_usable_iff (text : String) (ascii : IsAscii text) :
    isIdentifier (Names.ofOperation text).routerStub = true ∧
    (isIdentifier (Names.ofOperation text).variant = true ↔
      ∃ c ∈ text.toList, c.isAlphanum = true) ∧
    (isIdentifier (commandField text) = true ↔
      (∃ c ∈ text.toList, c.isAlphanum = true) ∧ snake text ∉ reservedKeywords) := by
  refine ⟨stub_isIdentifier ascii, ?_, ?_⟩
  · rw [Names.ofOperation, rust_isIdentifier_iff _ (pascal_spelled ascii), ne_eq,
      pascal_eq_empty_iff, ← words_nonempty_iff ascii]
    exact and_iff_left (pascal_not_reserved ascii)
  · rw [commandField_isIdentifier, rust_isIdentifier_iff _ (snake_spelled ascii), ne_eq,
      snake_eq_empty_iff, ← words_nonempty_iff ascii]

/-- A keyword in use is written raw. -/
theorem rust_names_usable_keyword :
    IsAscii "type" ∧ isIdentifier (Names.ofOperation "type").routerStub = true ∧
      isIdentifier (Names.ofOperation "type").variant = true ∧
      isIdentifier (commandField "type") = true := by
  have ascii : IsAscii "type" := by decide
  obtain ⟨stub, variant, field⟩ := rust_names_usable_iff "type" ascii
  have letter : ∃ c ∈ "type".toList, c.isAlphanum = true := ⟨'t', by decide, rfl⟩
  exact ⟨ascii, stub, variant.mpr letter, field.mpr ⟨letter, by decide⟩⟩

/-- An identifier and a parameter without a letter, and a parameter that is a reserved keyword. -/
theorem rust_names_unusable :
    (IsAscii "-" ∧ isBlankText "-" = false ∧
      isIdentifier (Names.ofOperation "-").variant = false) ∧
    PathTemplate.placeholders "/{-}/{abstract}" = ["-", "abstract"] ∧
      isIdentifier (commandField "-") = false ∧
      isIdentifier (commandField "abstract") = false := by
  decide

end ApiAssembly.Identifier
