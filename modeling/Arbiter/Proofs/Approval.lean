import Arbiter.Proofs.Legality
/-!
# What is approved and what is loaded

A text is read twice in two places: validation reads it to say what is wrong with it, and an engine reads it
to put its rules into force.  The engine looks first whether the text is blank, and validation does not.

1. **The rules** are judged alike.  Validation by itself has no handlers and an engine has its own, but the
   handlers only matter for warnings (`Validation.isValid_ofRuleSet_iff`).
2. **Texts that are not blank** are therefore approved exactly if they are loaded.
3. **Blank texts** are never loaded, but a text of spaces and line breaks is an empty document, and that is
   an empty rule set (`Yaml.read?_of_empty`).

The main statement is `approval_means_loading_unless_blank`.
-/

namespace Arbiter

namespace Yaml

/-- A text without anything to read: spaces and line breaks. -/
def IsEmpty (cs : List Char) : Prop := ∀ c ∈ cs, c = ' ' ∨ isBreak c = true

theorem IsEmpty.drop {cs : List Char} (h : IsEmpty cs) (n : Nat) : IsEmpty (cs.drop n) :=
  fun c hc => h c (List.mem_of_mem_drop hc)

/-- Passing a line break passes one or two characters. -/
theorem skipLine_rest {c : Cursor} (h : c.peek.any isBreak = true) :
    ∃ n, 0 < n ∧ c.skipLine.rest = c.rest.drop n := by
  rw [Cursor.skipLine]
  split
  · next rest hrest => exact ⟨2, by omega, by rw [hrest]; rfl⟩
  · next x rest _ hrest =>
    have hx : isBreak x = true := by simpa [Cursor.peek, hrest] using h
    rw [if_pos hx]
    exact ⟨1, by omega, by rw [hrest]; rfl⟩
  · next hrest => simp [Cursor.peek, hrest] at h

/-- A line break is a blank. -/
theorem isBlank_of_isBreak {c : Char} (h : isBreak c = true) : Text.isBlank c = true := by
  simp only [isBreak, Bool.or_eq_true, beq_iff_eq] at h
  rcases h with (((rfl | rfl) | hc) | hc) | hc
  · rfl
  · rfl
  all_goals rw [Text.isBlank, hc]; rfl

theorem skipWhile_rest (c : Cursor) (p : Char → Bool) : (c.skipWhile p).rest = c.rest.dropWhile p := by
  have hparts := List.takeWhile_append_dropWhile (p := p) (l := c.rest)
  calc (c.skipWhile p).rest
      = (c.rest.takeWhile p ++ c.rest.dropWhile p).drop (c.rest.takeWhile p).length := by rw [hparts]; rfl
    _ = c.rest.dropWhile p := List.drop_left

/-- A text without anything to read is passed to its end, and the scanner learns nothing from it. -/
theorem skipToToken_of_empty {fuel : Nat} {s : Scanner} (h : IsEmpty s.cursor.rest)
    (hfuel : s.cursor.rest.length < fuel) :
    ∃ cursor keyAllowed, s.skipToToken fuel = { s with cursor, keyAllowed } ∧ cursor.rest = [] := by
  induction fuel generalizing s with
  | zero => omega
  | succ fuel ih =>
    have hmark : s.cursor.peek ≠ some (Char.ofNat 0xFEFF) := by
      intro hpeek
      rcases h _ (List.mem_of_head? hpeek) with hc | hc
      · exact absurd hc (by decide)
      · exact absurd hc (by decide)
    -- what is left behind the blanks is a line break, or nothing
    obtain ⟨p, hp, hblank⟩ : ∃ p : Char → Bool, p ' ' = true ∧
        (fun x => x == ' ' || ((s.inFlow || !s.keyAllowed) && x == '\t')) = p := ⟨_, by simp, rfl⟩
    have hrest : IsEmpty (s.cursor.skipWhile p).rest := h.drop _
    have hcomment : (s.cursor.skipWhile p).sees '#' = false := by
      rw [Cursor.sees, beq_eq_false_iff_ne]
      intro hpeek
      rcases hrest _ (List.mem_of_head? hpeek) with hc | hc
      · exact absurd hc (by decide)
      · exact absurd hc (by decide)
    rw [Scanner.skipToToken]
    simp only [hmark, and_false, if_false, hblank, hcomment, Bool.false_eq_true]
    by_cases hbreak : (s.cursor.skipWhile p).peek.any isBreak = true
    · obtain ⟨n, hn, hline⟩ := skipLine_rest hbreak
      have hshort : (s.cursor.skipWhile p).skipLine.rest.length < fuel := by
        have hne : (s.cursor.skipWhile p).rest ≠ [] := by
          intro hnil
          simp [Cursor.peek, hnil] at hbreak
        have hpos := List.length_pos_iff.2 hne
        have hle : (s.cursor.skipWhile p).rest.length ≤ s.cursor.rest.length := by
          rw [skipWhile_rest]
          exact (List.dropWhile_sublist p).length_le
        rw [hline, List.length_drop]
        omega
      rw [if_pos hbreak]
      obtain ⟨cursor, keyAllowed, hskip, hdone⟩ :=
        ih (s := { s with cursor := (s.cursor.skipWhile p).skipLine, keyAllowed := s.keyAllowed || !s.inFlow })
          (hline ▸ hrest.drop n) hshort
      exact ⟨cursor, keyAllowed, hskip, hdone⟩
    · rw [if_neg hbreak]
      refine ⟨_, s.keyAllowed, rfl, ?_⟩
      cases hend : (s.cursor.skipWhile p).rest with
      | nil => rfl
      | cons c cs =>
        have hnext := List.head?_dropWhile_not p s.cursor.rest
        rw [← skipWhile_rest, hend] at hnext
        rcases hrest c (hend ▸ List.mem_cons_self) with rfl | hc
        · have hstop : p ' ' = false := hnext
          rw [hp] at hstop
          cases hstop
        · rw [Cursor.peek, hend] at hbreak
          exact absurd hc hbreak

/-- **A text without anything to read is an empty document.** -/
theorem read?_of_empty {text : String} (h : IsEmpty text.toList) : read? text = some .void := by
  have hallowed : text.toList.all isAllowed = true := by
    rw [List.all_eq_true]
    intro c hc
    rcases h c hc with rfl | hbreak
    · rfl
    · simp only [isBreak, Bool.or_eq_true, beq_iff_eq] at hbreak
      rcases hbreak with (((rfl | rfl) | hc) | hc) | hc
      · rfl
      · rfl
      all_goals rw [isAllowed, hc]; rfl
  have htokens : tokens? text = some [] := by
    rw [tokens?, if_pos hallowed, Scanner.run?]
    obtain ⟨cursor, keyAllowed, hskip, hdone⟩ :=
      skipToToken_of_empty (s := { cursor := .ofText text.toList }) h (Nat.lt_succ_self _)
    have hpeek : cursor.peek = none := by rw [Cursor.peek, hdone]; rfl
    simp only [Cursor.ofText] at hskip ⊢
    rw [hskip]
    -- no block was opened, so none is closed
    have hunroll : ({ cursor, keyAllowed } : Scanner).unroll cursor.column = { cursor, keyAllowed } := rfl
    simp only [Scanner.dropStale?, Option.map_some, Option.bind_eq_bind, Option.bind_some, hunroll, hpeek]
    rfl
  rw [read?, htokens]
  rfl

end Yaml

/-- **An empty document is an empty rule set**, and there is nothing to say against it. -/
theorem Validation.isValid_ofYaml_of_empty {text : String} (handlers : Option Handlers)
    (h : Yaml.IsEmpty text.toList) : (Validation.ofYaml text handlers).isValid = true := by
  have hset : RuleSet.ofYaml text = .ok {} := by
    rw [RuleSet.ofYaml, Yaml.read?_of_empty h]
    rfl
  rw [ofYaml, hset]
  rfl

/-! ## The main statement -/

/-- **What is approved is loaded, unless it is blank.**  An engine, whatever its handlers, loads exactly the
texts that are not blank and that validation approves, whatever handlers that is given, or none.  Blank texts
it refuses in words of its own; among them are the texts of spaces and line breaks, and these are
approved. -/
theorem approval_means_loading_unless_blank (e : Engine) (text : String) (handlers : Option Handlers) :
    ((∃ count, (e.loadText text).1 = .ok count)
      ↔ Text.isBlankText text = false ∧ (Validation.ofYaml text handlers).isValid = true)
    ∧ (Text.isBlankText text = true → (e.loadText text).1 = .error (.load "rule file is empty"))
    ∧ ((∀ c ∈ text.toList, c = ' ' ∨ Yaml.isBreak c = true) →
      Text.isBlankText text = true ∧ (Validation.ofYaml text handlers).isValid = true) := by
  have hblank : Text.isBlankText text = true →
      (e.loadText text).1 = .error (.load "rule file is empty") := by
    intro h
    rw [Engine.loadText, RuleSet.ofFile, if_pos h]
    rfl
  refine ⟨?loads, hblank, ?empty⟩
  case loads =>
    cases h : Text.isBlankText text with
    | true =>
      rw [hblank h]
      simp
    | false =>
      have hfile : RuleSet.ofFile text = RuleSet.ofYaml text := by
        rw [RuleSet.ofFile, h]
        rfl
      rw [Engine.loadText, hfile, Validation.ofYaml]
      cases RuleSet.ofYaml text with
      | error err => simp [Engine.refuse, Validation.isValid, Validation.error]
      | ok set =>
        show (∃ count, (e.load set).1 = .ok count)
          ↔ false = false ∧ (Validation.ofRuleSet set handlers).isValid = true
        rw [Validation.isValid_ofRuleSet_iff, e.load_eq]
        by_cases hlegal : set.Legal
        · rw [if_pos (Validation.isValid_ofRuleSet_iff.2 hlegal)]
          simp [hlegal]
        · rw [if_neg (fun hvalid => hlegal (Validation.isValid_ofRuleSet_iff.1 hvalid))]
          simp [hlegal, Engine.refuse]
  case empty =>
    intro h
    refine ⟨?_, Validation.isValid_ofYaml_of_empty handlers h⟩
    rw [Text.isBlankText, List.all_eq_true]
    intro c hc
    rcases h c hc with rfl | hbreak
    · rfl
    · exact Yaml.isBlank_of_isBreak hbreak

/-- **An empty text is approved, and no engine loads it.** -/
theorem empty_text_is_approved_and_refused : (Validation.ofYaml "" none).isValid = true
    ∧ ((Engine.ofSettings {}).loadText "").1 = .error (.load "rule file is empty") :=
  ⟨by decide +kernel, rfl⟩

end Arbiter
