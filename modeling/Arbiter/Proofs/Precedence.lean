import Arbiter.Proofs.Turns
/-!
# What a rule wrote stays

Under the policy that the rule of higher priority wins, a walk keeps a table of claims, and what a rule
wrote is safe from all rules after it.  That does not follow from the table alone: a write turns whatever
is in its way into a record, so a write *beside* a claimed path could still destroy the list or the single
value that the claimed path leads through.  It cannot, because of an invariant that ties the table to the
shape of the context (`Guarded`): over every claimed path stands a claim of the same rule, at the path or
above it, that is reached through records only.

The main statement is `claimed_targets_stay`.
-/

namespace Arbiter

open Context

/-! ## Paths that are reached through records -/

/-- Whether the way to a place leads through records only. -/
def RecordsAbove (c : Context) (p : List String) : Prop :=
  ∀ r s, p = r ++ s → r ≠ [] → s ≠ [] → ∃ fs, getAlong? c r = some (.obj fs)

/-- A place that was just written is reached through records. -/
theorem recordsAbove_setAlong (c : Context) (p : List String) (v : Value) :
    RecordsAbove (setAlong c p v) p := by
  rintro r s rfl hr hs
  exact getAlong?_setAlong_above c v hr hs

/-- Such a way is not lost by a write that is neither at its end nor above it. -/
theorem RecordsAbove.setAlong {c : Context} {p u : List String} (v : Value)
    (h : RecordsAbove c p) (hu : ¬ u <+: p) : RecordsAbove (setAlong c u v) p := by
  rintro r s rfl hr hs
  by_cases hru : r <+: u
  · -- the write goes through `r`, and leaves a record there
    obtain ⟨t, rfl⟩ := hru
    have ht : t ≠ [] := by
      rintro rfl
      rw [List.append_nil] at hu
      exact hu (List.prefix_append r s)
    exact getAlong?_setAlong_above c v hr ht
  · have hapart : ¬ Comparable u r := by
      rintro (hur | hru')
      · exact hu (hur.trans (List.prefix_append r s))
      · exact hru hru'
    rw [getAlong?_setAlong_of_apart c v hapart]
    · exact h r s rfl hr hs
    · rintro q hq - ⟨t, rfl⟩ items hitems
      obtain ⟨fs, hfs⟩ := h q (t ++ s) (by simp) hq (by simp [hs])
      rw [hfs] at hitems
      cases hitems

/-- Nothing at or below such a place changes by a write that is not comparable to it. -/
theorem RecordsAbove.getAlong?_setAlong {c : Context} {p q u : List String} (v : Value)
    (h : RecordsAbove c p) (hpq : p <+: q) (hapart : ¬ Comparable p u) :
    getAlong? (Context.setAlong c u v) q = getAlong? c q := by
  apply getAlong?_setAlong_of_apart c v
  · exact fun hcomp => hapart (Comparable.of_prefix hpq hcomp.symm)
  · intro r hr hru hrq items hitems
    rcases List.prefix_or_prefix_of_prefix hrq hpq with ⟨s, rfl⟩ | hpr
    · have hs : s ≠ [] := by
        rintro rfl
        rw [List.append_nil] at hapart
        exact hapart (Or.inl hru)
      obtain ⟨fs, hfs⟩ := h r s rfl hr hs
      rw [hfs] at hitems
      cases hitems
    · exact hapart (Or.inl (hpr.trans hru))

/-! ## The invariant of the table of claims -/

/-- Over every claimed path stands a claim of the same rule, at the path or above it, that is reached
through records only. -/
def Guarded (c : Context) (cs : Claims) : Prop :=
  ∀ x ∈ cs, ∃ y ∈ cs, y.2 = x.2 ∧ segments y.1 <+: segments x.1 ∧ RecordsAbove c (segments y.1)

section Guarded

variable {c : Context} {cs : Claims} {target ruleId : String} (v : Value) (h : Guarded c cs)
  (hfree : ∀ x ∈ cs, x.2 ≠ ruleId → ¬ Comparable (segments x.1) (segments target))
include h hfree

/-- A write of a rule that is free to write, and claims its target, keeps the invariant. -/
theorem Guarded.write : Guarded (Context.write c target v) (cs.claim target ruleId) := by
  intro x hx
  rcases Claims.mem_claim.1 hx with hx | rfl
  · obtain ⟨y, hy, hid, hyx, habove⟩ := h x hx
    by_cases htarget : segments target <+: segments y.1
    · -- the rule writes over its own claim: the new one stands in for it
      have hown : y.2 = ruleId := by
        apply Decidable.byContradiction
        intro hne
        exact hfree y hy hne (Or.inr htarget)
      exact ⟨(target, ruleId), Claims.mem_claim.2 (Or.inr rfl), hown.symm.trans hid,
        htarget.trans hyx, recordsAbove_setAlong c _ v⟩
    · exact ⟨y, Claims.mem_claim.2 (Or.inl hy), hid, hyx, habove.setAlong v htarget⟩
  · exact ⟨_, hx, rfl, List.prefix_rfl, recordsAbove_setAlong c _ v⟩

/-- It leaves what the other rules claimed as it is. -/
theorem Guarded.read?_write {x : String × String} (hx : x ∈ cs) (hother : x.2 ≠ ruleId) :
    read? (Context.write c target v) x.1 = read? c x.1 := by
  obtain ⟨y, hy, hid, hyx, habove⟩ := h x hx
  exact habove.getAlong?_setAlong v hyx (hfree y hy (hid ▸ hother))

end Guarded

/-! ## One turn -/

theorem Progress.isSuppressed_iff {p : Progress} {cs : Claims} (hclaims : p.claims = some cs)
    {ruleId : String} {a : Action} :
    p.isSuppressed ruleId a = true ↔ ∃ target, a.target? = some target
      ∧ ∃ x ∈ cs, x.2 ≠ ruleId ∧ Comparable (segments x.1) (segments target) := by
  rw [isSuppressed, hclaims]
  cases a.target? with
  | none => simp
  | some target => simp [Claims.rival?_isSome_iff]

/-- What holds all along the turn of a rule that found the claims `cs` in the context `before`: nothing
that was claimed is lost, neither its claim nor what can be read there. -/
structure Along (before : Context) (cs : Claims) (c : Context) (now : Claims) : Prop where
  guarded : Guarded c now
  kept : ∀ x ∈ cs, x ∈ now
  reads : ∀ x ∈ cs, read? c x.1 = read? before x.1

theorem Along.step {env : Env} {ruleId : String} {before : Context} {cs now : Claims} {a : Action}
    {p p' : Progress} {v v' : World} {f : Fate} (hfree : ∀ x ∈ cs, x.2 ≠ ruleId)
    (hpass : Passes env ruleId a p v f p' v') (hclaims : p.claims = some now)
    (h : Along before cs p.context now) :
    ∃ now', p'.claims = some now' ∧ Along before cs p'.context now' := by
  obtain ⟨hcontext', hclaims'⟩ | ⟨target, value, htarget, hsup, hcontext', hclaims'⟩ :=
    hpass.context_claims
  · rw [hcontext', hclaims']
    exact ⟨now, hclaims, h⟩
  · -- the action wrote, so it was not suppressed, so no other rule's claim is in its way
    have hrivals : ∀ x ∈ now, x.2 ≠ ruleId → ¬ Comparable (segments x.1) (segments target) := by
      intro x hx hother hcomp
      have := (Progress.isSuppressed_iff hclaims).2 ⟨target, htarget, x, hx, hother, hcomp⟩
      rw [hsup] at this
      cases this
    rw [hcontext', hclaims', hclaims]
    refine ⟨_, rfl, h.guarded.write value hrivals, ?_, ?_⟩
    · intro x hx
      exact Claims.mem_claim.2 (Or.inl (h.kept x hx))
    · intro x hx
      rw [h.guarded.read?_write value hrivals (h.kept x hx) (hfree x hx)]
      exact h.reads x hx

section Turn

variable {env : Env} {stopwatch : Stopwatch} {rule : Rule} {signal : Signal} {context : Context}
  {cs : Claims} {w : World}

/-- **The turn of a rule that holds no claim yet.**  Afterwards the table has the claims it had, and what
the rule wrote unless it was abandoned; the invariant holds again, and at every path that was claimed
before the same is read. -/
theorem turnOf_claims (h : Guarded context cs) (hfree : ∀ x ∈ cs, x.2 ≠ rule.id) {t : Turn}
    (ht : t = turnOf env stopwatch rule signal context (some cs) w) :
    ∃ now, t.after.claims = some now ∧ Guarded t.after.context now
      ∧ (∀ x, x ∈ now ↔ x ∈ cs ∨ t.abandoned = false ∧ x.2 = rule.id ∧ t.Wrote x.1)
      ∧ ∀ x ∈ cs, read? t.after.context x.1 = read? context x.1 := by
  obtain ⟨w', hend⟩ := turnOf_ending env stopwatch rule signal context (some cs) w
  rw [← ht] at hend
  have hfs : t.fates = rule.fates env signal context (some cs) w := by rw [ht]; rfl
  generalize hfates : t.fates = fs at hend
  cases hend with
  | idle _ hcontext hclaims _ _ _ =>
    rw [hcontext]
    refine ⟨cs, hclaims, h, ?_, fun _ _ => rfl⟩
    simp [Turn.Wrote, hfates]
  | completed _ hkept _ hclaims _ _ _ _ =>
    -- the shape of the context is followed action by action, the table is known from the fates
    have halong : ∃ now, t.after.claims = some now ∧ Along context cs t.after.context now := by
      rw [ht]
      refine judge_induction (P := fun c claims => ∃ now, claims = some now ∧ Along context cs c now)
        ?_ ?_ ⟨cs, rfl, h, fun _ hx => hx, fun _ _ => rfl⟩
      · rintro a p v f p' v' hpass ⟨now, hnow, h⟩
        exact h.step hfree hpass hnow
      · rw [← hfs, hfates]
        exact hkept
    obtain ⟨now, hnow, halong⟩ := halong
    refine ⟨now, hnow, halong.guarded, ?_, halong.reads⟩
    have habandoned : t.abandoned = false := by
      rw [Turn.abandoned, hfates]
      simpa using hkept
    obtain rfl : cs.claimAll rule.id (t.fates.flatMap Fate.written) = now := by
      rw [hnow] at hclaims
      rw [hfates]
      exact (Option.some.inj hclaims).symm
    intro x
    rw [Claims.mem_claimAll, Turn.mem_written]
    simp only [habandoned, true_and]
    exact or_congr_right And.comm
  | abandoned _ hfailed hcontext hclaims _ _ _ _ =>
    have habandoned : t.abandoned = true := by
      rw [Turn.abandoned, hfates]
      simpa using hfailed
    -- releasing takes no claim of another rule, and the rule had none when it began
    rw [hcontext]
    refine ⟨cs, ?_, h, ?_, fun _ _ => rfl⟩
    · rw [hclaims]
      exact congrArg some (Claims.release_eq_self hfree)
    · simp [habandoned]

/-- An action is suppressed exactly if a claim that the rule found stands in its way. -/
theorem turnOf_isSuppressed_iff (hfree : ∀ x ∈ cs, x.2 ≠ rule.id) {t : Turn}
    (ht : t = turnOf env stopwatch rule signal context (some cs) w) {j : Nat} {a : Action} {f : Fate}
    (ha : t.rule.actions[j]? = some a) (hf : t.fates[j]? = some f) :
    f.isSuppressed = true ↔ ∃ target, a.target? = some target
      ∧ ∃ x ∈ cs, Comparable (segments x.1) (segments target) := by
  have ha : rule.actions[j]? = some a := by rw [ht] at ha; exact ha
  have hf : (rule.fates env signal context (some cs) w)[j]? = some f := by rw [ht] at hf; exact hf
  obtain ⟨q, v, -, hclaims, hfate⟩ := Rule.reached_of_fate ha hf
  have hsup : f.isSuppressed = true ↔ q.isSuppressed rule.id a = true := by
    obtain ⟨p', w', hpass⟩ | ⟨hfailed, hnot⟩ := hfate
    · exact hpass.isSuppressed_iff
    · rw [hnot]
      cases f with
      | failed e => exact Iff.rfl
      | _ => cases hfailed
  rw [hsup, Progress.isSuppressed_iff hclaims]
  constructor
  · rintro ⟨target, htarget, x, hx, hother, hcomp⟩
    rcases Claims.mem_claimAll.1 hx with hx | ⟨-, hown⟩
    · exact ⟨target, htarget, x, hx, hcomp⟩
    · exact absurd hown hother
  · rintro ⟨target, htarget, x, hx, hcomp⟩
    exact ⟨target, htarget, x, Claims.mem_claimAll.2 (Or.inl hx), hfree x hx, hcomp⟩

end Turn

/-! ## A whole walk -/

/-- How a walk stands between two turns: the table has what the rules before wrote and did not take back,
it guards the context, and no rule to come holds a claim. -/
structure Underway (past : List Turn) (ranked : List (Rule × Signal)) (context : Context)
    (cs : Claims) : Prop where
  guarded : Guarded context cs
  booked : ∀ x, x ∈ cs ↔ ∃ t ∈ past, t.abandoned = false ∧ x.2 = t.rule.id ∧ t.Wrote x.1
  free : ∀ x ∈ cs, ∀ r ∈ ranked, x.2 ≠ r.1.id
  distinct : (ranked.map (·.1.id)).Nodup

namespace Underway

/-- It stands so at the beginning. -/
theorem start {ranked : List (Rule × Signal)} (context : Context)
    (hids : (ranked.map (·.1.id)).Nodup) : Underway [] ranked context [] where
  guarded := by simp [Guarded]
  booked := by simp
  free := by simp
  distinct := hids

variable {env : Env} {stopwatch : Stopwatch} {past : List Turn} {context : Context} {cs : Claims}
  {w : World}

/-- **It stands so after the next turn**, and what was claimed is read as before. -/
theorem step {rule : Rule} {signal : Signal} {rest : List (Rule × Signal)}
    (h : Underway past ((rule, signal) :: rest) context cs) {t : Turn}
    (ht : t = turnOf env stopwatch rule signal context (some cs) w) :
    ∃ now, t.after.claims = some now ∧ Underway (past ++ [t]) rest t.after.context now
      ∧ (∀ x ∈ cs, x ∈ now) ∧ ∀ x ∈ cs, read? t.after.context x.1 = read? context x.1 := by
  have hrule : t.rule = rule := by rw [ht]; rfl
  obtain ⟨hnew, hrest⟩ := List.nodup_cons.1 h.distinct
  obtain ⟨now, hclaims, hguarded, hmem, hreads⟩ :=
    turnOf_claims h.guarded (fun x hx => h.free x hx _ List.mem_cons_self) ht
  refine ⟨now, hclaims, ⟨hguarded, ?_, ?_, hrest⟩, fun x hx => (hmem x).2 (Or.inl hx), hreads⟩
  · intro x
    rw [hmem, h.booked]
    simp only [List.mem_append, List.mem_singleton, or_and_right, exists_or, exists_eq_left, hrule]
  · intro x hx r hr
    rcases (hmem x).1 hx with hx | ⟨-, hown, -⟩
    · exact h.free x hx r (List.mem_cons_of_mem _ hr)
    · rw [hown]
      intro heq
      exact hnew (List.mem_map.2 ⟨r, hr, heq.symm⟩)

variable {ranked : List (Rule × Signal)}

/-- What is claimed is read at the end of the walk as it is now. -/
theorem reads (h : Underway past ranked context cs) : ∀ x ∈ cs,
    read? (contextAfter context ((turns env stopwatch ranked context (some cs) w).map Turn.after)) x.1
      = read? context x.1 := by
  induction ranked generalizing past context cs w with
  | nil => exact fun _ _ => rfl
  | cons r rest ih =>
    obtain ⟨rule, signal⟩ := r
    intro x hx
    obtain ⟨now, hclaims, hnext, hkept, hreads⟩ :=
      h.step (t := turnOf env stopwatch rule signal context (some cs) w) rfl
    rw [turns, List.map_cons, contextAfter_cons, hclaims, ih hnext x (hkept x hx), hreads x hx]

/-- At every target that a rule of the walk wrote and did not take back, the same is read at the end as
after its turn. -/
theorem stays (h : Underway past ranked context cs) {t : Turn}
    (ht : t ∈ turns env stopwatch ranked context (some cs) w) (hdone : t.abandoned = false)
    {target : String} (hwrote : t.Wrote target) :
    read? (contextAfter context ((turns env stopwatch ranked context (some cs) w).map Turn.after)) target
      = read? t.after.context target := by
  induction ranked generalizing past context cs w with
  | nil => cases ht
  | cons r rest ih =>
    obtain ⟨rule, signal⟩ := r
    obtain ⟨now, hclaims, hnext, -, -⟩ := h.step rfl
    rw [turns, hclaims] at ht
    rw [turns, List.map_cons, contextAfter_cons, hclaims]
    rcases List.mem_cons.1 ht with rfl | ht
    · exact hnext.reads (target, _)
        ((hnext.booked _).2 ⟨_, List.mem_append_right _ List.mem_cons_self, hdone, rfl, hwrote⟩)
    · exact ih hnext ht

/-- An action is suppressed exactly if a rule before wrote at a comparable path and did not take it
back. -/
theorem isSuppressed_iff (h : Underway past ranked context cs) {i : Nat} {t : Turn}
    (ht : (turns env stopwatch ranked context (some cs) w)[i]? = some t) {j : Nat} {a : Action}
    {f : Fate} (ha : t.rule.actions[j]? = some a) (hf : t.fates[j]? = some f) :
    f.isSuppressed = true ↔ ∃ target, a.target? = some target
      ∧ ∃ earlier ∈ past ++ (turns env stopwatch ranked context (some cs) w).take i,
        earlier.abandoned = false
        ∧ ∃ written, earlier.Wrote written ∧ Comparable (segments written) (segments target) := by
  induction ranked generalizing past context cs w i with
  | nil => simp [turns] at ht
  | cons r rest ih =>
    obtain ⟨rule, signal⟩ := r
    cases i with
    | zero =>
      -- the next turn: what stands in the table now are the writes of the turns before
      rw [turns, List.getElem?_cons_zero, Option.some_inj] at ht
      have hfree : ∀ x ∈ cs, x.2 ≠ rule.id := fun x hx => h.free x hx _ List.mem_cons_self
      rw [turnOf_isSuppressed_iff hfree ht.symm ha hf, List.take_zero, List.append_nil]
      refine exists_congr fun target => and_congr_right fun _ => ?_
      constructor
      · rintro ⟨x, hx, hcomp⟩
        obtain ⟨earlier, hearlier, hdone, -, hwrote⟩ := (h.booked x).1 hx
        exact ⟨earlier, hearlier, hdone, x.1, hwrote, hcomp⟩
      · rintro ⟨earlier, hearlier, hdone, written, hwrote, hcomp⟩
        exact ⟨(written, earlier.rule.id), (h.booked _).2 ⟨earlier, hearlier, hdone, rfl, hwrote⟩, hcomp⟩
    | succ i =>
      obtain ⟨now, hclaims, hnext, -, -⟩ := h.step rfl
      rw [turns, List.getElem?_cons_succ, hclaims] at ht
      rw [ih hnext ht, turns, hclaims, List.take_succ_cons, List.append_assoc]
      rfl

end Underway

/-! ## The main statement -/

/-- **Under the policy of priority, what a rule wrote stays.**  The turns are those of a walk over rules
with different identifiers that begins with an empty table, and the results say what became of the actions
in them.  An action that is reached is suppressed exactly if its target is equal to, above or below a
target that an earlier rule wrote, and that rule was not abandoned.  And at every target that such a rule
wrote, the same is read at the end of the walk as right after its turn. -/
theorem claimed_targets_stay (env : Env) (stopwatch : Stopwatch) (ranked : List (Rule × Signal))
    (context : Context) (w : World) (hids : (ranked.map (·.1.id)).Nodup) :
    let steps := ((walk env stopwatch ranked context (some [])).run w).1
    let ts := turns env stopwatch ranked context (some []) w
    (ts.map Turn.after = steps ∧ ts.map Turn.rule = ranked.map (·.1))
    ∧ (∀ t ∈ ts,
        t.after.result.suppressedActions = pick Fate.isSuppressed t.rule.actions t.fates
        ∧ t.after.result.executedActions
          = (if t.abandoned then [] else pick Fate.isDone t.rule.actions t.fates)
        ∧ (t.after.result.fires = true → t.fates.length = t.rule.actions.length))
    ∧ (∀ i t, ts[i]? = some t → ∀ (j : Nat) (a : Action) (f : Fate),
        t.rule.actions[j]? = some a → t.fates[j]? = some f →
        (f.isSuppressed = true ↔ ∃ target, a.target? = some target
          ∧ ∃ earlier ∈ ts.take i, earlier.abandoned = false
            ∧ ∃ written, earlier.Wrote written ∧ Comparable (segments written) (segments target)))
    ∧ ∀ t ∈ ts, t.abandoned = false → ∀ target, t.Wrote target →
        read? (contextAfter context steps) target = read? t.after.context target := by
  intro steps ts
  have hsteps : ts.map Turn.after = steps := map_after_turns ..
  have h : Underway [] ranked context [] := Underway.start context hids
  refine ⟨⟨hsteps, map_rule_turns ..⟩, ?_, ?_, ?_⟩
  · intro t ht
    obtain ⟨rule, signal, c, claims, v, rfl⟩ := exists_turnOf_of_mem ht
    exact turnOf_result rfl
  · intro i t ht j a f ha hf
    exact h.isSuppressed_iff ht ha hf
  · intro t ht hdone target hwrote
    rw [← hsteps]
    exact h.stays ht hdone hwrote

/-- A rule that comes before the welcome and writes above and below its targets. -/
def Rule.vip : Rule where
  id := "vip"
  actions := [.set "user" (.obj [("tags", .arr [.str "gold"])]), .set "cart.note" .null]

theorem claimed_targets_stay_vip :
    let ranked : List (Rule × Signal) := [(.vip, {}), (.welcome, {})]
    let steps := ((walk .alone {} ranked [] (some [])).run {}).1
    let t := turnOf .alone {} .vip {} [] (some []) {}
    (ranked.map (·.1.id)).Nodup
    ∧ t ∈ turns .alone {} ranked [] (some []) {} ∧ t.abandoned = false ∧ t.Wrote "user"
    ∧ read? (contextAfter [] steps) "user" = read? t.after.context "user" := by
  intro ranked steps t
  have hids : (ranked.map (·.1.id)).Nodup := by decide
  obtain ⟨-, -, -, hstay⟩ := claimed_targets_stay .alone {} ranked [] {} hids
  have ht : t ∈ turns .alone {} ranked [] (some []) {} := List.mem_cons_self
  have hwrote : t.Wrote "user" := List.mem_cons_self
  exact ⟨hids, ht, rfl, hwrote, hstay t ht rfl "user" hwrote⟩

example : ((walk .alone {} [(.vip, {}), (.welcome, {})] [] (some [])).run {}).1.map
    (·.result.suppressedActions.length) = [0, 2] := by rfl

end Arbiter
