import Mathlib.Algebra.BigOperators.Group.List.Lemmas
import Mathlib.Algebra.Group.Action.Defs
import Mathlib.Algebra.Order.BigOperators.Group.List
import Mathlib.Algebra.Order.Ring.Nat
import Arbiter.Proofs.Tables
import Arbiter.Tuning
/-!
# What a history says about a rule

The tallies of a history grow result by result, and the results of all rules come in any order.  What they
come to can be said rule by rule, without the others: the tally of a rule is that of its own results.

1. **One tally** (`Tally.ofResults`) counts and adds up some results at once; to add one more result is to
   tally one more (`Tally.ofResults_concat`).
2. **All tallies** (`Tally.ofHistory_eq`): one for each name that occurs, in the order of first occurrence.  A
   result touches the tally of its own rule only, so by induction on the history each tally is that of the
   results of its rule so far (`Tally.lookup_ofHistory`).
3. **Rows.**  Each row is made from one tally, so it is known from the results of its rule
   (`TrackRecord.ofHistory_eq`).  From this all else follows by counting: the order of the results plays no part
   but in the order of the rows (`TrackRecord.ofHistory_perm`).

The main statement is `track_records_are_exact`.
-/

namespace Arbiter

/-- The results of a rule, in their order. -/
def resultsOf (id : String) (history : List Verdict) : List Verdict := history.filter (·.ruleId == id)

/-- A new result is the last one of its rule. -/
theorem resultsOf_concat_self (history : List Verdict) (r : Verdict) :
    resultsOf r.ruleId (history ++ [r]) = resultsOf r.ruleId history ++ [r] := by
  simp [resultsOf]

/-- It is none of another rule. -/
theorem resultsOf_concat_of_ne {id : String} (history : List Verdict) {r : Verdict} (h : r.ruleId ≠ id) :
    resultsOf id (history ++ [r]) = resultsOf id history := by
  simp [resultsOf, h]

/-- A rule has as many results as its name occurs. -/
theorem length_resultsOf (id : String) (history : List Verdict) :
    (resultsOf id history).length = (history.map (·.ruleId)).count id := by
  rw [resultsOf, ← List.countP_eq_length_filter, List.count_eq_countP, List.countP_map]
  rfl

theorem length_resultsOf_pos {id : String} {history : List Verdict} (h : id ∈ history.map (·.ruleId)) :
    0 < (resultsOf id history).length := by
  rw [length_resultsOf]
  exact List.count_pos_iff.2 h

/-! ## Tallies -/

namespace Tally

/-- Some results, counted and added up. -/
def ofResults (results : List Verdict) : Tally where
  evaluations := results.length
  matched := results.countP (·.matched)
  total := (results.map (·.processingTime)).sum

/-- One more result is added to the tally. -/
theorem ofResults_concat (results : List Verdict) (r : Verdict) :
    ofResults (results ++ [r]) = (ofResults results).add r := by
  cases h : r.matched <;> simp [ofResults, add, h]

/-- The order of the results does not matter to the tally. -/
theorem ofResults_perm {xs ys : List Verdict} (h : xs.Perm ys) : ofResults xs = ofResults ys := by
  rw [ofResults, ofResults, h.length_eq, h.countP_eq, (h.map _).sum_eq]

/-- The last result of a history is added to the tally of its rule. -/
theorem ofHistory_concat (history : List Verdict) (r : Verdict) : ofHistory (history ++ [r]) =
    (ofHistory history).set r.ruleId ((((ofHistory history).lookup r.ruleId).getD {}).add r) := by
  rw [ofHistory, List.foldl_append]
  rfl

/-- There is a tally for each rule that occurs, in the order of first occurrence. -/
theorem names_ofHistory (history : List Verdict) :
    (ofHistory history).map (·.1) = (history.map (·.ruleId)).eraseDups := by
  induction history using List.reverseRecOn with
  | nil => rfl
  | append_singleton history r ih =>
    rw [ofHistory_concat, List.map_append]
    exact Table.names_set_eq ih _

/-- **The tally of a rule is that of its own results.** -/
theorem lookup_ofHistory (history : List Verdict) (id : String) :
    ((ofHistory history).lookup id).getD {} = ofResults (resultsOf id history) := by
  induction history using List.reverseRecOn with
  | nil => rfl
  | append_singleton history r ih =>
    rw [ofHistory_concat]
    by_cases hid : r.ruleId = id
    · subst hid
      rw [Table.lookup_set_self, Option.getD_some, ih, resultsOf_concat_self, ofResults_concat]
    · rw [Table.lookup_set_of_ne _ _ (Ne.symm hid), ih, resultsOf_concat_of_ne history hid]

/-- All tallies, each from the results of its rule. -/
theorem ofHistory_eq (history : List Verdict) : ofHistory history =
    (history.map (·.ruleId)).eraseDups.map fun id => (id, ofResults (resultsOf id history)) := by
  have hnames := names_ofHistory history
  have hnodup : ((ofHistory history).map (·.1)).Nodup := hnames ▸ nodup_eraseDups _
  rw [Table.eq_map_lookup hnodup {}, hnames]
  simp only [lookup_ofHistory]

end Tally

/-! ## Rows -/

namespace TrackRecord

/-- What the results of a rule say about it. -/
def about (history : List Verdict) (id : String) : TrackRecord :=
  (Tally.ofResults (resultsOf id history)).stats id

/-- The row about a rule has its name. -/
@[simp] theorem ruleId_about (history : List Verdict) (id : String) : (about history id).ruleId = id := rfl

/-- The rules that occur in a history, in the order of first occurrence. -/
def names (history : List Verdict) : List String := (history.map (·.ruleId)).eraseDups

theorem nodup_names (history : List Verdict) : (names history).Nodup := nodup_eraseDups _

/-- **There is one row for each rule that occurs**, and it is about the results of that rule. -/
theorem ofHistory_eq (history : List Verdict) : ofHistory history = (names history).map (about history) := by
  rw [ofHistory, Tally.ofHistory_eq, List.map_map]
  rfl

/-- The order of the history does not matter to what is said about a rule. -/
theorem about_perm {history other : List Verdict} (h : history.Perm other) (id : String) :
    about history id = about other id := by
  have hresults : (resultsOf id history).Perm (resultsOf id other) := h.filter _
  rw [about, about, Tally.ofResults_perm hresults]

/-- **The rows of a history do not depend on its order**, but for their own order. -/
theorem ofHistory_perm {history other : List Verdict} (h : history.Perm other) :
    (ofHistory history).Perm (ofHistory other) := by
  rw [ofHistory_eq, ofHistory_eq, List.map_congr_left fun id _ => about_perm h id]
  exact (eraseDups_perm (h.map _)).map _

/-- All results are counted, each in one row. -/
theorem sum_evaluations (history : List Verdict) :
    ((ofHistory history).map (·.evaluations)).sum = history.length := by
  have hcounts : (names history).map (fun id => (about history id).evaluations)
      = (names history).map fun id => (history.map (·.ruleId)).count id :=
    List.map_congr_left fun id _ => length_resultsOf id history
  have hnames : (names history).Perm (history.map (·.ruleId)).dedup := eraseDups_perm_dedup _
  rw [ofHistory_eq, List.map_map]
  show ((names history).map fun id => (about history id).evaluations).sum = _
  rw [hcounts, (hnames.map _).sum_eq, List.sum_map_count_dedup_eq_length, List.length_map]

/-- Times that fit into a word have a sum that does not grow faster than their number. -/
theorem sum_times_le {results : List Verdict} (htimes : ∀ r ∈ results, r.processingTime ≤ Numeral.maxWord) :
    (results.map (·.processingTime)).sum ≤ results.length * Numeral.maxWord := by
  have hsum := List.sum_le_card_nsmul (results.map (·.processingTime)) Numeral.maxWord
    (by simpa using htimes)
  rwa [List.length_map, smul_eq_mul] at hsum

/-- The average of times that fit into a word fits into one, too: it is not cut off. -/
theorem averageProcessingTime_about {history : List Verdict} {id : String}
    (htimes : ∀ r ∈ resultsOf id history, r.processingTime ≤ Numeral.maxWord) :
    (about history id).averageProcessingTime
      = ((resultsOf id history).map (·.processingTime)).sum / (resultsOf id history).length :=
  Nat.min_eq_left (Nat.div_le_of_le_mul (sum_times_le htimes))

end TrackRecord

/-! ## The main statement -/

/-- **The statistics of a history are an exact grouping.**  There is one row for each rule that occurs, in the
order of first occurrence.  A row counts the results of its rule, at least one, and those of them that matched;
the average is the sum of their times divided by their number, rounded down and never cut off, and the sum has
fewer than `2 ^ 64` seconds unless there are more than `10 ^ 9` results.  Every result is counted in one row.
The same results in another order give the same rows, though perhaps in another order. -/
theorem track_records_are_exact (history : List Verdict)
    (htimes : ∀ r ∈ history, r.processingTime ≤ Numeral.maxWord) :
    let rows := TrackRecord.ofHistory history
    (rows.map (·.ruleId) = (history.map (·.ruleId)).eraseDups ∧ (rows.map (·.ruleId)).Nodup)
    ∧ (∀ row ∈ rows,
        let own := history.filter (·.ruleId == row.ruleId)
        let time := (own.map (·.processingTime)).sum
        0 < row.evaluations
        ∧ row.evaluations = own.length
        ∧ row.matched = own.countP (·.matched)
        ∧ row.averageProcessingTime = time / row.evaluations
        ∧ (history.length ≤ 10 ^ 9 → time < 2 ^ 64 * Duration.second))
    ∧ (rows.map (·.evaluations)).sum = history.length
    ∧ ∀ other, history.Perm other → rows.Perm (TrackRecord.ofHistory other) := by
  intro rows
  have hrows : rows = (TrackRecord.names history).map (TrackRecord.about history) :=
    TrackRecord.ofHistory_eq history
  have hids : rows.map (·.ruleId) = TrackRecord.names history := by
    rw [hrows, List.map_map]
    exact List.map_id _
  refine ⟨⟨hids, hids ▸ TrackRecord.nodup_names history⟩, ?_, TrackRecord.sum_evaluations history,
    fun other h => TrackRecord.ofHistory_perm h⟩
  rw [hrows, List.forall_mem_map]
  intro id hid own time
  have hown : ∀ r ∈ resultsOf id history, r.processingTime ≤ Numeral.maxWord :=
    fun r hr => htimes r (List.mem_of_mem_filter hr)
  refine ⟨length_resultsOf_pos (List.mem_eraseDups.1 hid), rfl, rfl,
    TrackRecord.averageProcessingTime_about hown, fun hlength => ?_⟩
  have hsum : time ≤ own.length * Numeral.maxWord := TrackRecord.sum_times_le hown
  have hfew : own.length ≤ history.length := List.length_filter_le _ _
  have hmost : own.length * Numeral.maxWord ≤ 10 ^ 9 * Numeral.maxWord :=
    Nat.mul_le_mul_right _ (Nat.le_trans hfew hlength)
  have hword : 10 ^ 9 * Numeral.maxWord < 2 ^ 64 * Duration.second := by decide
  omega

theorem track_records_are_exact_mixed :
    let result (id : String) (matched : Bool) (time : Nat) : Verdict :=
      { ruleId := id, matched, score := 0, confidence := 0, processingTime := time }
    let history := [result "late" true 100, result "early" false 300, result "late" false 301]
    (∀ r ∈ history, r.processingTime ≤ Numeral.maxWord)
    ∧ (TrackRecord.ofHistory history).map (·.ruleId) = ["late", "early"]
    ∧ ∀ row ∈ TrackRecord.ofHistory history, row.ruleId = "late" →
        row.evaluations = 2 ∧ row.matched = 1 ∧ row.averageProcessingTime = 200 := by
  intro result history
  have htimes : ∀ r ∈ history, r.processingTime ≤ Numeral.maxWord := by
    intro r hr
    have hmem : r.processingTime ∈ history.map (·.processingTime) := List.mem_map_of_mem hr
    have hall : ∀ t ∈ history.map (·.processingTime), t ≤ Numeral.maxWord := by decide
    exact hall _ hmem
  obtain ⟨⟨hids, -⟩, hrows, -⟩ := track_records_are_exact history htimes
  refine ⟨htimes, hids.trans (by decide), fun row hrow hlate => ?_⟩
  obtain ⟨-, hevaluations, hmatched, haverage, -⟩ := hrows row hrow
  rw [hlate] at hevaluations hmatched haverage
  have htwo : row.evaluations = 2 := hevaluations
  have htime : ((resultsOf "late" history).map (·.processingTime)).sum = 401 := by decide
  rw [htwo] at haverage
  exact ⟨htwo, hmatched, haverage.trans (by rw [← resultsOf, htime])⟩

end Arbiter
