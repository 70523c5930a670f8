import Arbiter.Proofs.Editions
import Arbiter.Proofs.InStep
/-!
# Updates that overlap

An update has two steps: the rulebook changes a rule, and the learned signal is trained on the rule that the
rulebook gave back.  Nothing keeps other updates from having their turns in between.  The rules come out as if
the updates had been made in the order of their first steps; the patterns follow the order of their second
steps, and the two need not be the same.

1. **Moves** (`Overlap.move`).  A row of moves interleaves calls if every call has its two moves in order
   (`Interleaves`).  A call that nobody interrupts is `Engine.update` (`Overlap.run_alone`), and for the
   rulebook nobody ever does (`Overlap.rulebook_run`).
2. **What many calls leave** (`Overlap.Follows`).  Under every name, the rulebook holds what the last call to
   store was given, and the signal the features of what the last call to train was given.  One move keeps that
   (`Follows.store`, `Follows.train`), and so it holds after all of them (`Overlap.follows_run`).
3. **When they differ.**  After the four moves of `overtaken_training_is_stale` the signal has the features of
   a rule that is not there any more.

The main statement is `patterns_follow_the_last_training`.
-/

namespace Arbiter

/-! ## Moves -/

/-- An update that is asked for, with the moment at which it will be stored. -/
structure Call where
  /-- The name of the rule. -/
  id : String
  /-- The change. -/
  patch : Patch
  /-- When the rulebook makes it. -/
  now : Timestamp

/-- A step of a call, which goes by its number. -/
inductive Move where
  /-- The rulebook changes the rule. -/
  | store (call : Nat)
  /-- The signal is trained on the rule that the rulebook gave back. -/
  | train (call : Nat)
deriving DecidableEq

/-- The call that a move belongs to. -/
def Move.call : Move → Nat
  | .store i => i
  | .train i => i

/-- Every one of so many calls has its two moves, in order, and there are no others. -/
structure Interleaves (calls : Nat) (moves : List Move) : Prop where
  /-- There are no moves but those of the calls. -/
  known : ∀ m ∈ moves, m.call < calls
  /-- A call stores, and trains when it has stored. -/
  order : ∀ i, i < calls → moves.filter (fun m => m.call = i) = [.store i, .train i]

/-- What calls that overlap share, and what each of them was given by the rulebook. -/
structure Overlap where
  /-- The rules. -/
  rulebook : Rulebook
  /-- The learned signal. -/
  learner : Learner
  /-- The rule that a call was given, once it has stored. -/
  given : Nat → Option Rule := fun _ => none

/-- An engine before any of the calls has begun. -/
def Engine.overlap (e : Engine) : Overlap where
  rulebook := e.rulebook
  learner := e.learner

namespace Overlap

/-- One step of a call.  A call that the rulebook refuses is over. -/
def move (calls : List Call) (s : Overlap) : Move → Overlap
  | .store i =>
    match calls[i]? with
    | none => s
    | some c =>
      match s.rulebook.update c.id c.patch c.now with
      | .error _ => s
      | .ok (r, rulebook) => { s with rulebook, given := fun j => if j = i then some r else s.given j }
  | .train i =>
    match s.given i with
    | none => s
    | some r => { s with learner := s.learner.trainOn r }

/-- A row of moves. -/
def run (calls : List Call) (s : Overlap) (moves : List Move) : Overlap := moves.foldl (move calls) s

/-- **A call that nobody interrupts is an update.** -/
theorem run_alone (e : Engine) (c : Call) :
    let s := run [c] e.overlap [.store 0, .train 0]
    let (answer, after) := e.update c.id c.patch c.now
    s.rulebook = after.rulebook ∧ s.learner = after.learner ∧ s.given 0 = answer.toOption := by
  simp only [run, List.foldl_cons, List.foldl_nil, Engine.update]
  cases h : e.rulebook.update c.id c.patch c.now with
  | error err => simp [move, Engine.overlap, h, Except.toOption]
  | ok answer => simp [move, Engine.overlap, h, Except.toOption, Engine.emit]

/-- The change that a move makes to the rulebook. -/
def change? (calls : List Call) : Move → Option Change
  | .store i => (calls[i]?).map fun c => .update c.id c.patch c.now
  | .train _ => none

/-- A move does to the rulebook what its change does. -/
theorem rulebook_move (calls : List Call) (s : Overlap) (m : Move) :
    (s.move calls m).rulebook = s.rulebook.after (change? calls m).toList := by
  cases m with
  | train i =>
    rw [move]
    cases s.given i <;> rfl
  | store i =>
    rw [move, change?]
    cases calls[i]? with
    | none => rfl
    | some c =>
      show _ = s.rulebook.changed (.update c.id c.patch c.now)
      rw [Rulebook.changed]
      dsimp only
      cases s.rulebook.update c.id c.patch c.now <;> rfl

/-- **The rules are those of updates made one after the other**, in the order in which the calls store. -/
theorem rulebook_run (calls : List Call) (s : Overlap) (moves : List Move) :
    (run calls s moves).rulebook = s.rulebook.after (moves.filterMap (change? calls)) := by
  induction moves generalizing s with
  | nil => rfl
  | cons m rest ih =>
    have hrest : run calls s (m :: rest) = run calls (s.move calls m) rest := rfl
    rw [hrest, ih, rulebook_move]
    cases h : change? calls m with
    | none => rw [List.filterMap_cons_none h]; rfl
    | some change => rw [List.filterMap_cons_some h]; rfl

end Overlap

/-! ## The last to store and the last to train -/

/-- The number of a call, if the call is about the rule of a given name. -/
def numberFor? (calls : List Call) (id : String) (i : Nat) : Option Nat :=
  if (calls[i]?).any (·.id = id) then some i else none

/-- The last call that stores under a name. -/
def lastToStore (calls : List Call) (id : String) (moves : List Move) : Option Nat :=
  lastSaid (fun | .store i => numberFor? calls id i | .train _ => none) moves

/-- The last call that trains on the rule of a name. -/
def lastToTrain (calls : List Call) (id : String) (moves : List Move) : Option Nat :=
  lastSaid (fun | .store _ => none | .train i => numberFor? calls id i) moves

section Last

variable {calls : List Call} {id : String} {moves : List Move} {i : Nat} {c : Call}

theorem numberFor?_of_eq (hi : calls[i]? = some c) (hc : c.id = id) : numberFor? calls id i = some i := by
  simp [numberFor?, hi, hc]

theorem numberFor?_of_ne (hi : calls[i]? = some c) (hc : c.id ≠ id) : numberFor? calls id i = none := by
  simp [numberFor?, hi, hc]

theorem numberFor?_eq_some {j : Nat} (h : numberFor? calls id i = some j) : i = j := by
  rw [numberFor?] at h
  split at h
  · exact Option.some.inj h
  · cases h

/-- If a call about the rule stores last, it is the last to store. -/
theorem lastToStore_store : lastToStore calls id (moves ++ [.store i])
    = (numberFor? calls id i <|> lastToStore calls id moves) := lastSaid_concat _ _ _

theorem lastToStore_train : lastToStore calls id (moves ++ [.train i]) = lastToStore calls id moves :=
  lastSaid_concat _ _ _

theorem lastToTrain_store : lastToTrain calls id (moves ++ [.store i]) = lastToTrain calls id moves :=
  lastSaid_concat _ _ _

/-- If a call about the rule trains last, it is the last to train. -/
theorem lastToTrain_train : lastToTrain calls id (moves ++ [.train i])
    = (numberFor? calls id i <|> lastToTrain calls id moves) := lastSaid_concat _ _ _

/-- The last call to store has stored. -/
theorem store_mem_of_lastToStore (h : lastToStore calls id moves = some i) : .store i ∈ moves := by
  obtain ⟨m, hm, hi⟩ := exists_of_lastSaid h
  cases m with
  | store j => exact numberFor?_eq_some hi ▸ hm
  | train j => cases hi

/-- The last call to train has trained. -/
theorem train_mem_of_lastToTrain (h : lastToTrain calls id moves = some i) : .train i ∈ moves := by
  obtain ⟨m, hm, hi⟩ := exists_of_lastSaid h
  cases m with
  | store j => cases hi
  | train j => exact numberFor?_eq_some hi ▸ hm

end Last

/-! ## One move -/

namespace Overlap

/-- What calls leave behind: under every name, the rule of the last call to store, and the features of the
rule of the last call to train; where there was no call, it is as it was at the beginning. -/
structure Follows (start : Overlap) (calls : List Call) (moves : List Move) (s : Overlap) : Prop where
  /-- The rules have the names they had. -/
  names : s.rulebook.active.rules.map (·.id) = start.rulebook.active.rules.map (·.id)
  /-- The signal learns. -/
  learns : s.learner.learns = true
  /-- Every call that has stored was given a rule of the name it is about. -/
  given : ∀ i c, calls[i]? = some c → .store i ∈ moves → ∃ r, s.given i = some r ∧ r.id = c.id
  /-- The rules. -/
  rules : ∀ id, s.rulebook.find? id
    = (lastToStore calls id moves).elim (start.rulebook.find? id) s.given
  /-- The patterns. -/
  patterns : ∀ id, s.learner.patterns.lookup id
    = ((lastToTrain calls id moves).elim (start.rulebook.find? id) s.given).map Signal.featuresOfRule

variable {start s : Overlap} {calls : List Call} {moves : List Move} {i : Nat} {c : Call}

/-- What was given to other calls is all that matters if no other was the last. -/
theorem elim_given {last : Option Nat} {r r' : Option Rule} {given : Nat → Option Rule} (h : last ≠ some i) :
    last.elim r (fun j => if j = i then r' else given j) = last.elim r given := by
  cases last with
  | none => rfl
  | some j => exact if_neg fun hj => h (congrArg some hj)

/-- What a call does that stores: the rule of its name is amended, and the call is given it. -/
theorem Follows.move_store (h : Follows start calls moves s)
    (hdistinct : start.rulebook.active.Distinct) (hi : calls[i]? = some c)
    (hknown : c.id ∈ start.rulebook.active.rules.map (·.id)) :
    ∃ r, r.id = c.id ∧ s.rulebook.find? c.id = some r ∧ s.move calls (.store i) =
      { s with
        rulebook := ⟨s.rulebook.active.amended [.update c.id c.patch c.now]⟩
        given := fun j => if j = i then some (r.amended [(c.patch, c.now)]) else s.given j } := by
  have hdistinct' : s.rulebook.active.Distinct := by
    rw [RuleSet.Distinct, h.names]
    exact hdistinct
  obtain ⟨r, hr, hid⟩ := List.mem_map.1 (h.names ▸ hknown)
  have hfind : s.rulebook.find? c.id = some r := (Rulebook.find?_eq_some_iff hdistinct').2 ⟨hr, hid⟩
  refine ⟨r, hid, hfind, ?_⟩
  rw [move, hi]
  simp only [Rulebook.update_eq hdistinct' c.patch c.now hfind]

/-- A call that stores is given the rule as it is from then on. -/
theorem Follows.store (h : Follows start calls moves s)
    (hdistinct : start.rulebook.active.Distinct) (hi : calls[i]? = some c)
    (hknown : c.id ∈ start.rulebook.active.rules.map (·.id))
    (hstore : .store i ∉ moves) (htrain : .train i ∉ moves) :
    Follows start calls (moves ++ [.store i]) (s.move calls (.store i)) := by
  obtain ⟨r, hid, hfind, hmove⟩ := h.move_store hdistinct hi hknown
  rw [hmove]
  refine ⟨?names, h.learns, ?given, fun id => ?rules, fun id => ?patterns⟩
  case names => exact (RuleSet.map_id_amended _ _).trans h.names
  case given =>
    intro j d hd hj
    by_cases hji : j = i
    · subst hji
      obtain rfl : c = d := Option.some.inj (hi.symm.trans hd)
      exact ⟨r.amended [(c.patch, c.now)], if_pos rfl, hid⟩
    · have hj : .store j ∈ moves := by simpa [hji] using hj
      obtain ⟨q, hq, hqd⟩ := h.given j d hd hj
      exact ⟨q, (if_neg hji).trans hq, hqd⟩
  case rules =>
    have hamended := Rulebook.find?_amended s.rulebook.active [.update c.id c.patch c.now] id
    rw [lastToStore_store]
    by_cases hc : c.id = id
    · subst hc
      rw [numberFor?_of_eq hi rfl]
      show Rulebook.find? ⟨_⟩ c.id = if i = i then _ else _
      rw [hamended]
      simp [hfind, amendments, Change.amendment?]
    · -- the rule of another name stays, and so does what the last call was given
      have hlast : lastToStore calls id moves ≠ some i := fun hlast =>
        hstore (store_mem_of_lastToStore hlast)
      rw [numberFor?_of_ne hi hc]
      show Rulebook.find? ⟨_⟩ id = (lastToStore calls id moves).elim _ _
      rw [hamended, elim_given hlast, ← h.rules]
      simp [amendments, Change.amendment?, hc]
  case patterns =>
    have hlast : lastToTrain calls id moves ≠ some i := fun hlast => htrain (train_mem_of_lastToTrain hlast)
    rw [lastToTrain_store, elim_given hlast]
    exact h.patterns id

/-- A call that trains leaves the features of the rule it was given. -/
theorem Follows.train (h : Follows start calls moves s) (hi : calls[i]? = some c)
    (hstore : .store i ∈ moves) : Follows start calls (moves ++ [.train i]) (s.move calls (.train i)) := by
  obtain ⟨r, hr, hid⟩ := h.given i c hi hstore
  have hmove : s.move calls (.train i) = { s with learner := s.learner.trainOn r } := by rw [move, hr]
  obtain ⟨weights, bias, htrain⟩ := Learner.trainOn_eq h.learns r
  have hstored : ∀ {j}, .store j ∈ moves ++ [.train i] → .store j ∈ moves := by simp
  rw [hmove, htrain]
  refine ⟨h.names, h.learns, fun j d hd hj => h.given j d hd (hstored hj), fun id => ?rules,
    fun id => ?patterns⟩
  case rules =>
    rw [lastToStore_train]
    exact h.rules id
  case patterns =>
    show (s.learner.patterns.set r.id (Signal.featuresOfRule r)).lookup id = _
    rw [lastToTrain_train]
    by_cases hc : c.id = id
    · rw [numberFor?_of_eq hi hc, ← hc, ← hid, Table.lookup_set_self]
      show some _ = (s.given i).map Signal.featuresOfRule
      rw [hr, Option.map_some]
    · have hne : id ≠ r.id := by rw [hid]; exact Ne.symm hc
      rw [numberFor?_of_ne hi hc, Table.lookup_set_of_ne _ _ hne]
      exact h.patterns id

end Overlap

/-! ## All moves -/

namespace Interleaves

variable {calls : Nat} {moves done rest : List Move} {i : Nat}

/-- Before a call stores, it has done nothing. -/
theorem before_store (h : Interleaves calls moves) (hi : i < calls)
    (hmoves : moves = done ++ .store i :: rest) :
    ∀ m ∈ done, m.call ≠ i := by
  have horder := h.order i hi
  rw [hmoves, List.filter_append, List.filter_cons_of_pos (by simp [Move.call])] at horder
  intro m hm hcall
  have hmem : m ∈ done.filter (·.call = i) := List.mem_filter.2 ⟨hm, by simpa using hcall⟩
  -- two moves are all there are, and the first of them would be before this one
  rcases hdone : done.filter (·.call = i) with _ | ⟨x, _ | ⟨y, l⟩⟩
  · rw [hdone] at hmem
    cases hmem
  · rw [hdone] at horder
    simp at horder
  · rw [hdone] at horder
    simp at horder

/-- Before a call trains, it has stored. -/
theorem before_train (h : Interleaves calls moves) (hi : i < calls)
    (hmoves : moves = done ++ .train i :: rest) :
    .store i ∈ done := by
  have horder := h.order i hi
  rw [hmoves, List.filter_append, List.filter_cons_of_pos (by simp [Move.call])] at horder
  rcases hdone : done.filter (·.call = i) with _ | ⟨x, l⟩
  · rw [hdone] at horder
    simp at horder
  · rw [hdone] at horder
    obtain rfl : x = .store i := (List.cons.inj horder).1
    exact List.mem_of_mem_filter (hdone ▸ List.mem_cons_self)

/-- At the end, every call has stored. -/
theorem stores (h : Interleaves calls moves) (hi : i < calls) : .store i ∈ moves :=
  List.mem_of_mem_filter (h.order i hi ▸ List.mem_cons_self)

end Interleaves

namespace Overlap

variable {start : Overlap} {calls : List Call} {moves : List Move}

/-- What one move keeps, all of them do. -/
theorem follows_run (h : Interleaves calls.length moves) (hdistinct : start.rulebook.active.Distinct)
    (hknown : ∀ c ∈ calls, c.id ∈ start.rulebook.active.rules.map (·.id))
    (hstart : Follows start calls [] start) : Follows start calls moves (run calls start moves) := by
  suffices ∀ done rest, moves = done ++ rest → Follows start calls done (run calls start done) from
    this moves [] (List.append_nil moves).symm
  intro done
  induction done using List.reverseRecOn with
  | nil => intro _ _; exact hstart
  | append_singleton done m ih =>
    intro rest hmoves
    rw [List.append_assoc, List.singleton_append] at hmoves
    have hbefore := ih (m :: rest) hmoves
    have hcall : m.call < calls.length := h.known m (by simp [hmoves])
    rw [run, List.foldl_append]
    cases m with
    | store i =>
      have hnone := h.before_store hcall hmoves
      exact hbefore.store hdistinct (List.getElem?_eq_getElem hcall) (hknown _ (List.getElem_mem hcall))
        (fun hm => hnone _ hm rfl) (fun hm => hnone _ hm rfl)
    | train i =>
      exact hbefore.train (List.getElem?_eq_getElem hcall) (h.before_train hcall hmoves)

end Overlap

/-! ## Before the first move -/

/-- A table with an entry for every rule is read as the rules are. -/
theorem lookup_map_id (f : Rule → α) (rules : List Rule) (id : String) :
    (rules.map fun r => (r.id, f r)).lookup id = (rules.find? (·.id == id)).map f := by
  induction rules with
  | nil => rfl
  | cons r rest ih =>
    by_cases h : r.id = id
    · simp [h]
    · have h' : (id == r.id) = false := by simpa using Ne.symm h
      simp [List.lookup_cons, h, h', ih]

/-- Before any of the calls, rules and patterns go together. -/
theorem Engine.InStep.follows {e : Engine} (h : e.InStep) (hlearns : e.snapshot.learningInForce.learns = true)
    (calls : List Call) : Overlap.Follows e.overlap calls [] e.overlap where
  names := rfl
  learns := h.learner.learns.trans hlearns
  given := by rintro i c - ⟨⟩
  rules := fun _ => rfl
  patterns := fun id => by
    show e.learner.patterns.lookup id = (e.rulebook.find? id).map Signal.featuresOfRule
    rw [h.learner.patterns hlearns, lookup_map_id]
    rfl

/-! ## The main statement -/

/-- **The signal follows the order in which calls train, and the rules the order in which they store.**
Let calls to update rules overlap in any way, on an engine that learns and was brought about by any
operations.  At the end, the rulebook is that of the updates made one after the other, in the order in which
the calls stored.  Every rule is as the last call to store was given it, or as it was at the beginning if no
call stored.  Its pattern has the features of the rule that the last call to train was given, or of the rule
at the beginning if no call trained.  So the pattern has the features of the rule as it is now if the last
call to store is also the last to train. -/
theorem patterns_follow_the_last_training (settings : Settings) (capabilities : Capabilities)
    (handlers : Handlers) (available : Nat) (ops : List Operation) (calls : List Call) (moves : List Move) :
    let e := (Engine.ofSettings settings capabilities handlers available).after ops
    let s := Overlap.run calls e.overlap moves
    e.snapshot.learningInForce.learns = true →
    (∀ c ∈ calls, c.id ∈ e.snapshot.rules.map (·.id)) →
    Interleaves calls.length moves →
    s.rulebook = e.rulebook.after (moves.filterMap (Overlap.change? calls))
    ∧ ∀ r ∈ s.rulebook.snapshot.rules,
      (lastToStore calls r.id moves).elim (e.rulebook.find? r.id) s.given = some r
      ∧ (∃ trained, (lastToTrain calls r.id moves).elim (e.rulebook.find? r.id) s.given = some trained
        ∧ s.learner.patterns.lookup r.id = some (Signal.featuresOfRule trained))
      ∧ (lastToStore calls r.id moves = lastToTrain calls r.id moves →
        s.learner.patterns.lookup r.id = some (Signal.featuresOfRule r)) := by
  intro e s hlearns hknown hmoves
  refine ⟨Overlap.rulebook_run calls e.overlap moves, fun r hr => ?_⟩
  have hin : e.InStep := (Engine.inStep_after settings capabilities handlers available ops).1
  have hfollows : Overlap.Follows e.overlap calls moves s :=
    Overlap.follows_run hmoves hin.distinct hknown (hin.follows hlearns calls)
  have hdistinct : s.rulebook.active.Distinct := by
    rw [RuleSet.Distinct, hfollows.names]
    exact hin.distinct
  have hstored : (lastToStore calls r.id moves).elim (e.rulebook.find? r.id) s.given = some r := by
    have hfind := (Rulebook.find?_eq_some_iff hdistinct).2 ⟨hr, rfl⟩
    rw [hfollows.rules] at hfind
    exact hfind
  have hpattern : s.learner.patterns.lookup r.id =
      ((lastToTrain calls r.id moves).elim (e.rulebook.find? r.id) s.given).map Signal.featuresOfRule :=
    hfollows.patterns r.id
  refine ⟨hstored, ?trained, fun hsame => by rw [hpattern, ← hsame, hstored, Option.map_some]⟩
  case trained =>
    suffices ∃ trained, (lastToTrain calls r.id moves).elim (e.rulebook.find? r.id) s.given = some trained by
      obtain ⟨trained, htrained⟩ := this
      exact ⟨trained, htrained, by rw [hpattern, htrained, Option.map_some]⟩
    cases hlast : lastToTrain calls r.id moves with
    | none =>
      -- no call has changed the names, so there was a rule of this one
      have hname : r.id ∈ e.snapshot.rules.map (·.id) := hfollows.names ▸ List.mem_map_of_mem hr
      obtain ⟨r', hr', hid⟩ := List.mem_map.1 hname
      exact ⟨r', (Rulebook.find?_eq_some_iff hin.distinct).2 ⟨hr', hid⟩⟩
    | some i =>
      have hi : i < calls.length := hmoves.known _ (train_mem_of_lastToTrain hlast)
      obtain ⟨trained, htrained, -⟩ :=
        hfollows.given i _ (List.getElem?_eq_getElem hi) (hmoves.stores hi)
      exact ⟨trained, htrained⟩

/-- What is loaded into an engine that is to learn, though not to move its weights. -/
def apprenticeship : RuleSet where
  rules := [{ id := "greet" }]
  learning := some { learns := true, trainingSteps := 0 }

/-- Two calls that give the same rule different priorities. -/
def promotions : List Call :=
  [⟨"greet", { priority := some 50 }, ⟨0, 0, 0⟩⟩, ⟨"greet", { priority := some 100 }, ⟨0, 0, 0⟩⟩]

/-- The second call stores after the first, and trains before it. -/
def overtaking : List Move := [.store 0, .store 1, .train 1, .train 0]

theorem interleaves_overtaking : Interleaves promotions.length overtaking where
  known := by decide
  order := by decide

/-- The rule of the second call is stored, and the pattern is that of the first. -/
theorem patterns_follow_the_last_training_overtaken :
    let e := (Engine.ofSettings {}).after [.load apprenticeship]
    let s := Overlap.run promotions e.overlap overtaking
    let r : Rule := { id := "greet", priority := 100, metadata := { updatedAt := some ⟨0, 0, 0⟩ } }
    r ∈ s.rulebook.snapshot.rules ∧ s.given 1 = some r
    ∧ ∃ trained, s.given 0 = some trained
      ∧ s.learner.patterns.lookup "greet" = some (Signal.featuresOfRule trained) := by
  intro e s r
  have hr : r ∈ s.rulebook.snapshot.rules := List.mem_singleton.2 rfl
  obtain ⟨-, hrules⟩ := patterns_follow_the_last_training {} .alone .builtin 1
    [.load apprenticeship] promotions overtaking rfl (by decide) interleaves_overtaking
  obtain ⟨hstored, htrained, -⟩ := hrules r hr
  exact ⟨hr, hstored, htrained⟩

/-- **A training that was overtaken leaves what is not there any more.**  The rule has the priority that the
second call gave it, and its pattern is that of the first. -/
theorem overtaken_training_is_stale :
    let e := (Engine.ofSettings {}).after [.load apprenticeship]
    let s := Overlap.run promotions e.overlap overtaking
    e.snapshot.learningInForce.learns = true
    ∧ (∀ c ∈ promotions, c.id ∈ e.snapshot.rules.map (·.id))
    ∧ Interleaves promotions.length overtaking
    ∧ ∃ r ∈ s.rulebook.snapshot.rules, s.learner.patterns.lookup r.id ≠ some (Signal.featuresOfRule r) := by
  intro e s
  refine ⟨rfl, by decide, interleaves_overtaking,
    { id := "greet", priority := 100, metadata := { updatedAt := some ⟨0, 0, 0⟩ } },
    List.mem_singleton.2 rfl, fun hsame => ?_⟩
  have hpattern : s.learner.patterns.lookup "greet"
      = some (Signal.featuresOfRule { id := "greet", priority := 50 }) := rfl
  have hfeatures : Signal.featuresOfRule { id := "greet", priority := 50 }
      = Signal.featuresOfRule { id := "greet", priority := 100 } := Option.some.inj (hpattern.symm.trans hsame)
  have hfirst := (List.cons.inj hfeatures).1
  exact absurd hfirst (by decide +kernel)

end Arbiter
