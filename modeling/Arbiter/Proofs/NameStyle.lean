import Mathlib.Computability.Language
import Arbiter.Text.Similar
/-!
# Names in one style

A name is looked through once, with a single flag: whether a word has to begin.  Leading, trailing and doubled
hyphens are all refused by that flag.  Here the names are given without a scan, as the language
`[a-z0-9]+(-[a-z0-9]+)*`, and the scan is shown to accept exactly these.

1. **Two states, two languages** (`Kebab.names`, `Kebab.endings`): where a word has to begin, a name has to follow,
   and elsewhere something that a name can end in.  The laws of the star give each of the two in terms of both, one
   character ahead (`Kebab.names_eq`, `Kebab.endings_eq`).
2. **The scan goes by these equations** (`kebabFrom_iff`): each character takes it from the language of the flag
   before to the language of the flag after.
3. **Words between hyphens** (`Kebab.mem_names_iff_intercalate`): the names are the rows of words, one at least,
   with a hyphen between each two.

The main statement is `kebab_names_are_words_between_hyphens`.
-/

open scoped Computability

namespace Arbiter.Text

namespace Kebab

/-! ## The language -/

/-- A small letter or a digit, `[a-z0-9]`. -/
def IsWordChar (c : Char) : Prop := ('a' ≤ c ∧ c ≤ 'z') ∨ ('0' ≤ c ∧ c ≤ '9')

/-- The texts of a single character with a property. -/
def single (p : Char → Prop) : Language Char := {cs | ∃ c, p c ∧ cs = [c]}

/-- A single letter or digit. -/
def letter : Language Char := single IsWordChar

/-- A single hyphen. -/
def hyphen : Language Char := single (· = '-')

/-- Letters and digits, one at least. -/
def word : Language Char := letter * letter∗

/-- Words with single hyphens between, `[a-z0-9]+(-[a-z0-9]+)*`. -/
def names : Language Char := word * (hyphen * word)∗

/-- What a name can end in after a letter: the rest of a word, and more words. -/
def endings : Language Char := letter∗ * (hyphen * word)∗

/-- After a word there is nothing more, or a hyphen and a name. -/
theorem kstar_hyphen_mul_word : (hyphen * word)∗ = 1 + hyphen * names := by
  rw [names, ← mul_assoc, Language.one_add_self_mul_kstar_eq_kstar]

/-- A name is a letter and an ending. -/
theorem names_eq : names = letter * endings := by
  rw [names, endings, ← mul_assoc, ← word]

/-- An ending is nothing, a letter and an ending, or a hyphen and a name. -/
theorem endings_eq : endings = 1 + letter * endings + hyphen * names := by
  calc endings
      = (1 + letter * letter∗) * (hyphen * word)∗ := by
        rw [endings, Language.one_add_self_mul_kstar_eq_kstar]
    _ = (hyphen * word)∗ + letter * endings := by rw [add_mul, one_mul, mul_assoc, ← endings]
    _ = 1 + letter * endings + hyphen * names := by rw [kstar_hyphen_mul_word, add_right_comm]

/-! ## One character ahead -/

section

variable {p : Char → Prop} {l : Language Char} {c : Char} {cs : List Char}

/-- What starts with a character is not nothing. -/
theorem nil_notMem_single_mul : [] ∉ single p * l := by
  rw [Language.mem_mul]
  rintro ⟨_, ⟨c, -, rfl⟩, rest, -, h⟩
  cases h

/-- A character in front is told apart from what follows it. -/
theorem cons_mem_single_mul : c :: cs ∈ single p * l ↔ p c ∧ cs ∈ l := by
  rw [Language.mem_mul]
  constructor
  · rintro ⟨_, ⟨d, hd, rfl⟩, rest, hrest, h⟩
    obtain ⟨rfl, rfl⟩ := List.cons_eq_cons.1 h
    exact ⟨hd, hrest⟩
  · rintro ⟨hc, hcs⟩
    exact ⟨[c], ⟨c, hc, rfl⟩, cs, hcs, rfl⟩

/-- Any number of characters with a property. -/
theorem mem_kstar_single : cs ∈ (single p)∗ ↔ ∀ c ∈ cs, p c := by
  induction cs with
  | nil => exact iff_of_true (Language.nil_mem_kstar _) (List.forall_mem_nil p)
  | cons c cs ih =>
    rw [← Language.one_add_self_mul_kstar_eq_kstar, Language.mem_add, cons_mem_single_mul, ih, Language.mem_one,
      List.forall_mem_cons, or_iff_right (List.cons_ne_nil c cs)]

theorem nil_notMem_names : [] ∉ names := by
  rw [names_eq]
  exact nil_notMem_single_mul

theorem nil_mem_endings : [] ∈ endings := by
  rw [endings_eq]
  exact .inl (.inl rfl)

/-- A name is a letter of a word and an ending. -/
theorem cons_mem_names : c :: cs ∈ names ↔ IsWordChar c ∧ cs ∈ endings := by
  rw [names_eq]
  exact cons_mem_single_mul

/-- An ending with something in it is a letter and an ending, or a hyphen and a name. -/
theorem cons_mem_endings : c :: cs ∈ endings ↔ (IsWordChar c ∧ cs ∈ endings) ∨ (c = '-' ∧ cs ∈ names) := by
  conv_lhs => rw [endings_eq, letter, hyphen, Language.mem_add, Language.mem_add, Language.mem_one,
    cons_mem_single_mul, cons_mem_single_mul]
  rw [or_iff_right (List.cons_ne_nil c cs)]

end

/-! ## Words between hyphens -/

/-- A word is not empty, and has letters of words only. -/
theorem mem_word_iff {w : List Char} : w ∈ word ↔ w ≠ [] ∧ ∀ c ∈ w, IsWordChar c := by
  rw [word, letter]
  cases w with
  | nil => exact iff_of_false nil_notMem_single_mul fun h => h.1 rfl
  | cons c cs =>
    rw [cons_mem_single_mul, mem_kstar_single, List.forall_mem_cons, and_iff_right (List.cons_ne_nil c cs)]

/-- A name is a word, or a word and a hyphen before a name. -/
theorem mem_names_iff {cs : List Char} :
    cs ∈ names ↔ cs ∈ word ∨ ∃ w ∈ word, ∃ rest ∈ names, cs = w ++ '-' :: rest := by
  conv_lhs => rw [names, kstar_hyphen_mul_word, mul_add, mul_one, Language.mem_add, Language.mem_mul]
  refine or_congr_right ⟨?_, ?_⟩
  · rintro ⟨w, hw, more, hmore, rfl⟩
    cases more with
    | nil => exact absurd hmore nil_notMem_single_mul
    | cons c rest =>
      obtain ⟨rfl, hrest⟩ := cons_mem_single_mul.1 hmore
      exact ⟨w, hw, rest, hrest, rfl⟩
  · rintro ⟨w, hw, rest, hrest, rfl⟩
    exact ⟨w, hw, '-' :: rest, cons_mem_single_mul.2 ⟨rfl, hrest⟩, rfl⟩

/-- A first word that is joined to others has a hyphen behind it. -/
theorem toList_intercalate_cons {words : List String} (w : String) (hne : words ≠ []) :
    ("-".intercalate (w :: words)).toList = w.toList ++ '-' :: ("-".intercalate words).toList := by
  rw [String.intercalate_cons_of_ne_nil hne, String.toList_append, String.toList_append, List.append_assoc]
  rfl

/-- **Names are rows of words with a hyphen between each two.** -/
theorem mem_names_iff_intercalate {cs : List Char} : cs ∈ names ↔ ∃ words : List String,
    words ≠ [] ∧ (∀ w ∈ words, w.toList ∈ word) ∧ cs = ("-".intercalate words).toList := by
  constructor
  · intro hcs
    -- what stands after the first hyphen is a shorter name
    induction hn : cs.length using Nat.strong_induction_on generalizing cs with
    | _ n ih =>
      obtain hword | ⟨w, hw, rest, hrest, rfl⟩ := mem_names_iff.1 hcs
      · refine ⟨[String.ofList cs], List.cons_ne_nil _ _, List.forall_mem_singleton.2 ?_, ?_⟩
        · rwa [String.toList_ofList]
        · rw [String.intercalate_singleton, String.toList_ofList]
      · have hshorter : rest.length < n := by
          rw [← hn, List.length_append, List.length_cons]
          omega
        obtain ⟨words, hne, hwords, rfl⟩ := ih _ hshorter hrest rfl
        refine ⟨String.ofList w :: words, List.cons_ne_nil _ _, List.forall_mem_cons.2 ⟨?_, hwords⟩, ?_⟩
        · rwa [String.toList_ofList]
        · rw [toList_intercalate_cons _ hne, String.toList_ofList]
  · rintro ⟨words, hne, hwords, rfl⟩
    induction words with
    | nil => exact absurd rfl hne
    | cons w rest ih =>
      obtain ⟨hw, hrest⟩ := List.forall_mem_cons.1 hwords
      by_cases hmore : rest = []
      · rw [hmore, String.intercalate_singleton]
        exact mem_names_iff.2 (.inl hw)
      · rw [toList_intercalate_cons w hmore]
        exact mem_names_iff.2 (.inr ⟨_, hw, _, ih hmore hrest, rfl⟩)

end Kebab

/-! ## The scan -/

open Kebab

/-- The scan tells the letters of words by their ranges. -/
theorem isWordChar_iff {c : Char} : (c.isLower || c.isDigit) = true ↔ IsWordChar c := by
  have hrange : ∀ first last : Char,
      (decide (first.val ≤ c.val) && decide (c.val ≤ last.val)) = true ↔ first ≤ c ∧ c ≤ last := by
    intro first last
    rw [Bool.and_eq_true, decide_eq_true_iff, decide_eq_true_iff, Char.le_def, Char.le_def]
  rw [Bool.or_eq_true]
  exact or_congr (hrange 'a' 'z') (hrange '0' '9')

/-- **The scan accepts a name where a word has to begin, and the ending of a name elsewhere.** -/
theorem kebabFrom_iff (cs : List Char) :
    (kebabFrom true cs = true ↔ cs ∈ names) ∧ (kebabFrom false cs = true ↔ cs ∈ endings) := by
  induction cs with
  | nil => exact ⟨iff_of_false (by decide) nil_notMem_names, iff_of_true rfl nil_mem_endings⟩
  | cons c cs ih =>
    obtain ⟨hnames, hendings⟩ := ih
    rw [kebabFrom, kebabFrom, cons_mem_names, cons_mem_endings, ← hnames, ← hendings]
    by_cases hc : c = '-'
    · have hword : ¬ IsWordChar '-' := by
        rw [IsWordChar]
        decide
      subst hc
      simp [hword]
    · rw [if_neg hc, if_neg hc, Bool.and_eq_true, isWordChar_iff]
      exact ⟨Iff.rfl, (or_iff_left fun h => hc h.1).symm⟩

/-- **A name is in style exactly if it is words of small letters and digits with single hyphens between.**  These
names are the language `[a-z0-9]+(-[a-z0-9]+)*`: a row of words, not empty, of which none is empty, joined by
hyphens. -/
theorem kebab_names_are_words_between_hyphens (s : String) :
    (isKebab s = true ↔ s.toList ∈ names)
      ∧ (isKebab s = true ↔ ∃ words : List String, words ≠ []
          ∧ (∀ w ∈ words, w ≠ "" ∧ ∀ c ∈ w.toList, IsWordChar c) ∧ s = "-".intercalate words) := by
  have hname : isKebab s = true ↔ s.toList ∈ names := (kebabFrom_iff s.toList).1
  have hword : ∀ w : String, w.toList ∈ word ↔ w ≠ "" ∧ ∀ c ∈ w.toList, IsWordChar c := by
    intro w
    rw [mem_word_iff, ne_eq, String.toList_eq_nil_iff]
  refine ⟨hname, ?_⟩
  rw [hname, mem_names_iff_intercalate]
  simp only [hword, String.toList_inj]

-- small letters that are not among the twenty-six make no word
example : isKebab "größe-2" = false := by decide

end Arbiter.Text
