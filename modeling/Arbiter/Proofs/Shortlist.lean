import Arbiter.Proofs.InStep
import Arbiter.Proofs.Tables
/-!
# The best five

A prediction is put together in four steps: every rule with a pattern is rated, those that are not above the
threshold are left out, the rest is sorted, and the first five are taken.  `Learner.Shortlist` says what comes out
with no word about these steps: who is on it, in which order, and who is not.

1. **Rated rules** (`mem_ratings_iff`).  The names of the patterns are different, so a rule has one rating, and its
   rating is there if it has one.
2. **Turns** (`pairwise_place`).  Ratings come in the order of first training, and leaving some out changes
   nothing about that.  The sort is stable, so in the sorted list each is ahead of all behind it, by its rank or
   by its place (`pairwise_sortBy`).
3. **The cut** (`Learner.shortlist_predict`).  Whoever is cut off stands behind all that are not.

A learner is what lessons have made of a new one (`Learner.taught`): its names are different because a rule that
is trained on again keeps its place (`Learner.names_taught`).  The main statement is
`predictions_are_the_best_five`.
-/

namespace Arbiter

/-! ## Lessons -/

/-- Something a learner goes through. -/
inductive Lesson where
  /-- It is trained on a rule, with a target. -/
  | train (rule : Rule) (target : Float)
  /-- A rule has matched. -/
  | use (id : String)

/-- The rule a lesson trains on. -/
def Lesson.trained? : Lesson → Option String
  | .train rule _ => some rule.id
  | .use _ => none

namespace Learner

/-- A learner after one more lesson. -/
def learn (m : Learner) : Lesson → Learner
  | .train rule target => m.train rule target
  | .use id => m.countMatch id

/-- A learner after some lessons. -/
def taught (m : Learner) (lessons : List Lesson) : Learner := lessons.foldl learn m

theorem taught_concat (m : Learner) (lessons : List Lesson) (lesson : Lesson) :
    m.taught (lessons ++ [lesson]) = (m.taught lessons).learn lesson := by
  rw [taught, List.foldl_append]
  rfl

/-- No lesson turns learning on or off. -/
theorem learns_learn (m : Learner) (lesson : Lesson) : (m.learn lesson).learns = m.learns := by
  cases lesson with
  | use id => rfl
  | train rule target =>
    cases hlearns : m.learns with
    | true =>
      obtain ⟨weights, bias, h⟩ := train_eq hlearns rule target
      rw [learn, h]
      exact hlearns
    | false =>
      rw [learn, train_of_idle hlearns]
      exact hlearns

theorem learns_taught (m : Learner) (lessons : List Lesson) : (m.taught lessons).learns = m.learns := by
  induction lessons using List.reverseRecOn with
  | nil => rfl
  | append_singleton lessons lesson ih => rw [taught_concat, learns_learn, ih]

/-- The names of the patterns, in order. -/
def trainedNames (m : Learner) : List String := m.patterns.map (·.1)

/-- The names of the rules it would have been trained on, each at its first training. -/
def namesAfter (c : Learning) (lessons : List Lesson) : List String :=
  if c.learns then (lessons.filterMap Lesson.trained?).eraseDups else []

/-- **A rule keeps the place of its first training.** -/
theorem names_taught (c : Learning) (lessons : List Lesson) :
    ((Learner.ofSettings c).taught lessons).trainedNames = namesAfter c lessons := by
  unfold namesAfter
  induction lessons using List.reverseRecOn with
  | nil => cases c.learns <;> rfl
  | append_singleton lessons lesson ih =>
    have hlearns := learns_taught (Learner.ofSettings c) lessons
    rw [taught_concat]
    cases lesson with
    | use id =>
      rw [List.filterMap_append, show [Lesson.use id].filterMap Lesson.trained? = [] from rfl, List.append_nil]
      exact ih
    | train rule target =>
      cases hc : c.learns with
      | false =>
        rw [hc] at ih
        rw [learn, train_of_idle (hlearns.trans hc)]
        exact ih
      | true =>
        rw [hc] at ih
        obtain ⟨weights, bias, h⟩ := train_eq (hlearns.trans hc) rule target
        rw [learn, h, List.filterMap_append]
        exact Table.names_set_eq ih _

theorem nodup_namesAfter (c : Learning) (lessons : List Lesson) : (namesAfter c lessons).Nodup := by
  unfold namesAfter
  split
  · exact nodup_eraseDups _
  · exact List.nodup_nil

/-! ## Ratings -/

/-- The highest count of matches. -/
def highestUsage (m : Learner) : Nat := (m.usage.map (·.2)).foldl max 0

/-- What a learner makes of a rule after a pass, if it was trained on it. -/
def rating? (m : Learner) (context : Context) (results : List Verdict) (id : String) : Option Prediction :=
  (m.patterns.lookup id).map (m.rate (Signal.featuresOfPass context results) m.highestUsage id)

/-- The place of a rule in the order of first training. -/
def place (m : Learner) (id : String) : Nat := m.trainedNames.idxOf id

/-- Whether a prediction comes ahead of another: by its rank, or by its place if the ranks are equal. -/
def Outranks (m : Learner) : Prediction → Prediction → Prop :=
  Ahead (fun p => Decimal.orderKey p.rank) fun p q => m.place p.ruleId < m.place q.ruleId

/-- The best five, in order. -/
structure Shortlist (m : Learner) (context : Context) (results : List Verdict) (threshold : Float)
    (found : List Prediction) : Prop where
  /-- No rule is there twice. -/
  distinct : (found.map (·.ruleId)).Nodup
  /-- There are at most five. -/
  length_le : found.length ≤ 5
  /-- Each is what the learner makes of its rule. -/
  rated : ∀ p ∈ found, m.rating? context results p.ruleId = some p
  /-- Each is ranked above the threshold. -/
  above : ∀ p ∈ found, p.rank > threshold
  /-- Each comes ahead of all behind it. -/
  ranked : found.Pairwise m.Outranks
  /-- Nobody who is ranked above the threshold is left out, unless there are five who come ahead. -/
  complete : ∀ id p, m.rating? context results id = some p → p.rank > threshold → p ∉ found →
    found.length = 5 ∧ ∀ q ∈ found, m.Outranks q p

section

variable {m : Learner} {context : Context} {results : List Verdict} {threshold : Float}

/-- The ratings of all rules with a pattern, in the order of first training. -/
def ratings (m : Learner) (context : Context) (results : List Verdict) : List Prediction :=
  m.patterns.map fun (id, pattern) =>
    m.rate (Signal.featuresOfPass context results) m.highestUsage id pattern

/-- There is one rating for each name, in order. -/
theorem map_ruleId_ratings : (m.ratings context results).map (·.ruleId) = m.trainedNames := by
  rw [ratings, List.map_map]
  rfl

/-- A rating has the name of its rule. -/
theorem ruleId_of_rating? {id : String} {p : Prediction} (h : m.rating? context results id = some p) :
    p.ruleId = id := by
  obtain ⟨pattern, -, rfl⟩ := Option.map_eq_some_iff.1 h
  rfl

/-- What is rated is what a rule is rated. -/
theorem mem_ratings_iff (hnames : m.trainedNames.Nodup) {p : Prediction} :
    p ∈ m.ratings context results ↔ m.rating? context results p.ruleId = some p := by
  constructor
  · intro hp
    obtain ⟨⟨id, pattern⟩, hmem, rfl⟩ := List.mem_map.1 hp
    have hlookup := Table.lookup_of_mem hnames hmem
    show (m.patterns.lookup id).map _ = _
    rw [hlookup]
    rfl
  · intro hp
    obtain ⟨pattern, hlookup, heq⟩ := Option.map_eq_some_iff.1 hp
    exact List.mem_map.2 ⟨(p.ruleId, pattern), Table.mem_of_lookup hlookup, heq⟩

/-- Names that are different stand at their places. -/
theorem pairwise_idxOf {names : List String} (h : names.Nodup) :
    names.Pairwise fun a b => names.idxOf a < names.idxOf b := by
  rw [List.pairwise_iff_getElem]
  intro i j hi hj hij
  rwa [h.idxOf_getElem i hi, h.idxOf_getElem j hj]

/-- The ratings are in the order of their places. -/
theorem pairwise_place (hnames : m.trainedNames.Nodup) :
    (m.ratings context results).Pairwise fun p q => m.place p.ruleId < m.place q.ruleId := by
  have hplaces : m.trainedNames.Pairwise fun a b => m.place a < m.place b := pairwise_idxOf hnames
  rw [← @map_ruleId_ratings m context results, List.pairwise_map] at hplaces
  exact hplaces

/-- **The predictions are the best five**, if the names of the patterns are different. -/
theorem shortlist_predict (hnames : m.trainedNames.Nodup) :
    m.Shortlist context results threshold (predict m context results threshold) := by
  let eligible := (m.ratings context results).filter (·.rank > threshold)
  let sorted := sortBy (fun p q => Decimal.orderKey q.rank ≤ Decimal.orderKey p.rank) eligible
  have hfound : predict m context results threshold = sorted.take 5 := rfl
  have hmem : ∀ p, p ∈ sorted ↔ m.rating? context results p.ruleId = some p ∧ p.rank > threshold := by
    intro p
    rw [mem_sortBy, List.mem_filter, mem_ratings_iff hnames, decide_eq_true_eq]
  have hsorted : sorted.Pairwise m.Outranks := pairwise_sortBy ((pairwise_place hnames).filter _)
  have hdistinct : (sorted.map (·.ruleId)).Nodup := by
    have hperm : (sorted.map (·.ruleId)).Perm (eligible.map (·.ruleId)) := (sortBy_perm _ _).map _
    have hkept : (eligible.map (·.ruleId)).Sublist m.trainedNames :=
      map_ruleId_ratings ▸ List.filter_sublist.map _
    exact hperm.nodup_iff.2 (hkept.nodup hnames)
  rw [hfound]
  refine ⟨?distinct, List.length_take_le 5 _, ?rated, ?above, hsorted.take, ?complete⟩
  case distinct =>
    rw [List.map_take]
    exact hdistinct.sublist (List.take_sublist 5 _)
  case rated => exact fun p hp => ((hmem p).1 (List.mem_of_mem_take hp)).1
  case above => exact fun p hp => ((hmem p).1 (List.mem_of_mem_take hp)).2
  case complete =>
    intro id p hp habove hcut
    obtain rfl := ruleId_of_rating? hp
    -- it was sorted with the others, and so it stands behind the cut
    rw [← List.take_append_drop 5 sorted] at hsorted
    have hdropped : p ∈ sorted.drop 5 := by
      have hin : p ∈ sorted.take 5 ++ sorted.drop 5 := by
        rw [List.take_append_drop]
        exact (hmem p).2 ⟨hp, habove⟩
      exact (List.mem_append.1 hin).resolve_left hcut
    have hlong : 5 < sorted.length := by
      have hpos := List.length_pos_of_mem hdropped
      rw [List.length_drop] at hpos
      omega
    refine ⟨?_, fun q hq => (List.pairwise_append.1 hsorted).2.2 q hq p hdropped⟩
    rw [List.length_take]
    omega

/-- What a prediction says of its rule: its matches, and how near the pass is to its pattern. -/
theorem told_of_rating? {id : String} {p : Prediction} (h : m.rating? context results id = some p) :
    p.usage = m.usageOf id ∧ ∃ pattern, m.patterns.lookup id = some pattern ∧
      p.similarity = Signal.cosine (Signal.featuresOfPass context results) pattern := by
  obtain ⟨pattern, hlookup, rfl⟩ := Option.map_eq_some_iff.1 h
  exact ⟨rfl, pattern, hlookup, rfl⟩

end

end Learner

/-- **The predictions are the best five.**  A learner that has gone through any lessons knows the rules it was
trained on, each at the place of its first training.  Its predictions are rules it knows, with their own matches
and similarity, and they are its shortlist: at most five different ones above the threshold, best first, and of
equal ones first the one that was trained first; nobody else above the threshold comes ahead of one of them. -/
theorem predictions_are_the_best_five (c : Learning) (lessons : List Lesson) (context : Context)
    (results : List Verdict) (threshold : Float) :
    let m := (Learner.ofSettings c).taught lessons
    let found := predict m context results threshold
    m.trainedNames = (if c.learns then (lessons.filterMap Lesson.trained?).eraseDups else []) ∧
    m.Shortlist context results threshold found ∧
    ∀ p ∈ found, p.ruleId ∈ m.trainedNames ∧ p.usage = m.usageOf p.ruleId ∧
      ∃ pattern, m.patterns.lookup p.ruleId = some pattern ∧
        p.similarity = Signal.cosine (Signal.featuresOfPass context results) pattern := by
  intro m found
  have hnames : m.trainedNames = Learner.namesAfter c lessons := Learner.names_taught c lessons
  have hshort : m.Shortlist context results threshold found :=
    Learner.shortlist_predict (hnames ▸ Learner.nodup_namesAfter c lessons)
  refine ⟨hnames, hshort, fun p hp => ?_⟩
  obtain ⟨husage, pattern, hlookup, hsimilarity⟩ := Learner.told_of_rating? (hshort.rated p hp)
  exact ⟨List.mem_map_of_mem (Table.mem_of_lookup hlookup), husage, pattern, hlookup, hsimilarity⟩

end Arbiter
