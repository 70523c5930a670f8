import Mathlib.Data.List.Induction
import Mathlib.Tactic.SplitIfs
import Arbiter.Proofs.Claims
/-!
# Rivals

Who keeps a rule from a path, in terms of what was done with the table of claims since the start of the pass.

1. **On bytes** (`bytesInConflict_eq`): conflicts of paths can be found out on the bytes of their texts, with one
   look at the byte behind the shorter one.  A character of several bytes is never taken for a dot, and no text
   begins another in the middle of a character.
2. **Claims that stand** (`Claims.standing`): a claim stands until its rule releases it.  The table leaves out
   claims that are made again while they stand, but what is looked for is found where the first of them was made
   (`Claims.find?_after`).
3. **The earliest claim** (`Claims.find?_standing`): of the claims that stand, the first in the row of
   everything that was done is found.
-/

namespace Arbiter

/-! ## On bytes -/

/-- Whether one path leads on from another, found out on their bytes: the byte behind the shorter one is looked
at only if it is there. -/
def bytesLeadOn (path longer : ByteArray) : Bool :=
  if h : path.size < longer.size then
    (longer.extract 0 path.size).data = path.data && longer[path.size] == '.'.toUInt8
  else false

/-- Whether two paths are equal or one leads on from the other, found out on their bytes. -/
def bytesInConflict (a b : String) : Bool :=
  a == b || bytesLeadOn a.toByteArray b.toByteArray || bytesLeadOn b.toByteArray a.toByteArray

/-- No character but the dot begins with its byte. -/
theorem head_utf8EncodeChar (c : Char) : (String.utf8EncodeChar c).head? = some '.'.toUInt8 ↔ c = '.' := by
  constructor
  · intro h
    have hcode : c.val.toNat = 46 := by
      unfold String.utf8EncodeChar at h
      dsimp only at h
      split_ifs at h
      -- beyond the first 128 characters the first byte is 192 at least
      all_goals
        have hbyte := congrArg UInt8.toNat (Option.some.inj h)
        rw [UInt8.toNat_ofNat'] at hbyte
        change _ = 46 at hbyte
        omega
    exact Char.ext (UInt32.toNat_inj.1 hcode)
  · rintro rfl
    rfl

/-- The first byte of a text is a dot exactly if its first character is one. -/
theorem utf8Encode_zero_iff {cs : List Char} (h : 0 < cs.utf8Encode.size) :
    cs.utf8Encode[0] = '.'.toUInt8 ↔ ∃ rest, cs = '.' :: rest := by
  cases cs with
  | nil => exact absurd h (Nat.lt_irrefl 0)
  | cons c cs =>
    have hfirst : 0 < (String.utf8EncodeChar c).length := by
      rw [String.length_utf8EncodeChar]
      exact c.utf8Size_pos
    have hbyte : (c :: cs).utf8Encode[0] = (String.utf8EncodeChar c)[0] := by
      simp only [List.utf8Encode_cons (l := cs), List.utf8Encode_singleton]
      rw [ByteArray.getElem_append_left (by rwa [List.size_toByteArray]), List.getElem_toByteArray]
    rw [hbyte, ← Option.some_inj, ← List.getElem?_eq_getElem, ← List.head?_eq_getElem?,
      head_utf8EncodeChar]
    constructor
    · rintro rfl
      exact ⟨cs, rfl⟩
    · rintro ⟨rest, heq⟩
      exact (List.cons.inj heq).1

/-- The byte behind the beginning of a text is a dot exactly if the character there is one. -/
theorem utf8Encode_behind_iff {a rest : List Char}
    (h : a.utf8Encode.size < (a ++ rest).utf8Encode.size) :
    (a ++ rest).utf8Encode[a.utf8Encode.size] = '.'.toUInt8 ↔ ∃ tail, rest = '.' :: tail := by
  have hrest : 0 < rest.utf8Encode.size := by
    rw [List.utf8Encode_append, ByteArray.size_append] at h
    omega
  have hbyte : (a ++ rest).utf8Encode[a.utf8Encode.size] = rest.utf8Encode[0] := by
    simp only [List.utf8Encode_append]
    rw [ByteArray.getElem_append_right (Nat.le_refl _)]
    simp only [Nat.sub_self]
  rw [hbyte, utf8Encode_zero_iff hrest]

/-- Bytes lead on from others exactly if the characters do. -/
theorem bytesLeadOn_iff {a b : List Char} :
    bytesLeadOn a.utf8Encode b.utf8Encode = true ↔ ∃ rest, b = a ++ '.' :: rest := by
  rw [bytesLeadOn]
  constructor
  · intro h
    split at h
    · next hsize =>
      obtain ⟨hbegins, hdot⟩ := Bool.and_eq_true_iff.1 h
      have hcut := ByteArray.extract_eq_extract_append_extract (a := b.utf8Encode) a.utf8Encode.size
        (Nat.zero_le _) (Nat.le_of_lt hsize)
      rw [ByteArray.extract_zero_size, ByteArray.ext (of_decide_eq_true hbegins)] at hcut
      -- bytes that begin a text are characters that begin it
      obtain ⟨rest, rfl⟩ := List.isPrefix_of_utf8Encode_append_eq_utf8Encode _ hcut.symm
      obtain ⟨tail, rfl⟩ := (utf8Encode_behind_iff hsize).1 (eq_of_beq hdot)
      exact ⟨tail, rfl⟩
    · cases h
  · rintro ⟨tail, rfl⟩
    have hdot : 0 < ('.' :: tail).utf8Encode.size := by
      rw [List.utf8Encode_cons, ByteArray.size_append]
      exact Nat.add_pos_left (by decide) _
    have hsize : a.utf8Encode.size < (a ++ '.' :: tail).utf8Encode.size := by
      rw [List.utf8Encode_append, ByteArray.size_append]
      omega
    rw [dif_pos hsize, Bool.and_eq_true_iff]
    constructor
    · apply decide_eq_true
      rw [List.utf8Encode_append, ByteArray.extract_append_eq_left rfl]
    · exact beq_iff_eq.2 ((utf8Encode_behind_iff hsize).2 ⟨tail, rfl⟩)

/-- **Conflicts found out on bytes are those found out on characters.** -/
theorem bytesInConflict_eq (a b : String) : bytesInConflict a b = inConflict a b := by
  have hlead : ∀ p q : String, bytesLeadOn p.toByteArray q.toByteArray = leadsOn p.toList q.toList := by
    intro p q
    rw [← String.utf8Encode_toList, ← String.utf8Encode_toList, Bool.eq_iff_iff, bytesLeadOn_iff,
      leadsOn_iff]
  rw [bytesInConflict, inConflict, hlead, hlead]

/-! ## Claims that stand -/

namespace Claims

/-- What can be done with a table of claims. -/
inductive Step where
  /-- A rule claims a path. -/
  | claim (target ruleId : String)
  /-- A rule releases all that it has claimed. -/
  | release (ruleId : String)
deriving DecidableEq

/-- One step. -/
def step (cs : Claims) : Step → Claims
  | .claim target ruleId => cs.claim target ruleId
  | .release ruleId => cs.release ruleId

/-- The table after a row of steps. -/
def after (log : List Step) : Claims := log.foldl step []

/-- The claims that were made and not released since, in the order in which they were made. -/
def standing : List Step → List (String × String)
  | [] => []
  | .claim target ruleId :: later =>
    if .release ruleId ∈ later then standing later else (target, ruleId) :: standing later
  | .release _ :: later => standing later

/-- A new claim stands last. -/
theorem standing_concat_claim (log : List Step) (target ruleId : String) :
    standing (log ++ [.claim target ruleId]) = standing log ++ [(target, ruleId)] := by
  induction log with
  | nil => rfl
  | cons s log ih =>
    cases s with
    | claim target' ruleId' =>
      rw [List.cons_append, standing, standing, ih]
      by_cases h : .release ruleId' ∈ log
      · rw [if_pos h, if_pos (List.mem_append_left _ h)]
      · rw [if_neg h, if_neg (by simpa using h), List.cons_append]
    | release ruleId' => exact ih

/-- A release takes away the claims of its rule. -/
theorem standing_concat_release (log : List Step) (ruleId : String) :
    standing (log ++ [.release ruleId]) = (standing log).filter (·.2 != ruleId) := by
  induction log with
  | nil => rfl
  | cons s log ih =>
    cases s with
    | claim target' ruleId' =>
      rw [List.cons_append, standing, standing, ih]
      by_cases h : .release ruleId' ∈ log
      · rw [if_pos h, if_pos (List.mem_append_left _ h)]
      · rw [if_neg h]
        by_cases hself : ruleId' = ruleId
        · subst hself
          rw [if_pos (by simp), List.filter_cons_of_neg (by simp)]
        · rw [if_neg (by simpa using ⟨h, hself⟩), List.filter_cons_of_pos (by simpa using hself)]
    | release ruleId' => exact ih

/-- A claim that is there already changes nothing in what is found. -/
theorem find?_claim (cs : Claims) (target ruleId : String) (p : String × String → Bool) :
    (cs.claim target ruleId).find? p = (cs.find? p).or ([(target, ruleId)].find? p) := by
  rw [claim]
  split
  · next h =>
    cases hfind : cs.find? p with
    | some c => rfl
    | none =>
      have hnot := List.find?_eq_none.1 hfind _ (any_eq_true_iff_mem.1 h)
      rw [List.find?_cons_of_neg hnot]
      rfl
  · exact List.find?_append

/-- **What is found in the table is found among the claims that stand.** -/
theorem find?_after (log : List Step) (p : String × String → Bool) :
    (after log).find? p = (standing log).find? p := by
  induction log using List.reverseRecOn generalizing p with
  | nil => rfl
  | append_singleton log s ih =>
    rw [after, List.foldl_append, ← after]
    cases s with
    | claim target ruleId =>
      show ((after log).claim target ruleId).find? p = _
      rw [find?_claim, ih, standing_concat_claim, List.find?_append]
    | release ruleId =>
      show ((after log).release ruleId).find? p = _
      rw [release, List.find?_filter, ih, standing_concat_release, List.find?_filter]

/-! ## The earliest claim -/

/-- The `i`-th step is a claim, and it has not been released since. -/
structure StandsAt (log : List Step) (i : Nat) (claim : String × String) : Prop where
  /-- It was made then. -/
  made : log[i]? = some (.claim claim.1 claim.2)
  /-- It has not been released. -/
  kept : ∀ j, i < j → log[j]? ≠ some (.release claim.2)

/-- The first step stands if it is a claim that no later step releases. -/
theorem standsAt_zero {s : Step} {log : List Step} {c : String × String} :
    StandsAt (s :: log) 0 c ↔ s = .claim c.1 c.2 ∧ .release c.2 ∉ log := by
  constructor
  · rintro ⟨hmade, hkept⟩
    refine ⟨Option.some.inj hmade, ?_⟩
    intro hmem
    obtain ⟨j, hj⟩ := List.mem_iff_getElem?.1 hmem
    exact hkept (j + 1) (Nat.succ_pos j) hj
  · rintro ⟨rfl, hmem⟩
    refine ⟨rfl, ?_⟩
    intro j hj hrelease
    obtain ⟨k, rfl⟩ := Nat.exists_eq_succ_of_ne_zero (Nat.ne_of_gt hj)
    exact hmem (List.mem_of_getElem? hrelease)

/-- Whether a later step stands does not depend on the first one. -/
theorem standsAt_succ {s : Step} {log : List Step} {i : Nat} {c : String × String} :
    StandsAt (s :: log) (i + 1) c ↔ StandsAt log i c := by
  constructor
  · rintro ⟨hmade, hkept⟩
    exact ⟨hmade, fun j hj => hkept (j + 1) (Nat.succ_lt_succ hj)⟩
  · rintro ⟨hmade, hkept⟩
    refine ⟨hmade, ?_⟩
    intro j hj
    obtain ⟨k, rfl⟩ := Nat.exists_eq_succ_of_ne_zero (Nat.ne_of_gt (Nat.zero_lt_of_lt hj))
    exact hkept k (Nat.lt_of_succ_lt_succ hj)

/-- A claim that stands at some step stands. -/
theorem StandsAt.mem {log : List Step} {i : Nat} {c : String × String} (h : StandsAt log i c) :
    c ∈ standing log := by
  induction log generalizing i with
  | nil => cases h.made
  | cons s log ih =>
    cases i with
    | zero =>
      obtain ⟨rfl, hkept⟩ := standsAt_zero.1 h
      rw [standing, if_neg hkept]
      exact List.mem_cons_self
    | succ i =>
      have hlater := ih (standsAt_succ.1 h)
      cases s with
      | claim target ruleId =>
        rw [standing]
        split
        · exact hlater
        · exact List.mem_cons_of_mem _ hlater
      | release ruleId => exact hlater

/-- The first of the claims that stand and have a property, and when it was made. -/
structure Earliest (log : List Step) (p : String × String → Prop) (i : Nat) (c : String × String) :
    Prop where
  /-- It stands. -/
  stands : StandsAt log i c
  /-- It has the property. -/
  holds : p c
  /-- None before it does. -/
  first : ∀ j < i, ∀ d, StandsAt log j d → ¬ p d

namespace Earliest

variable {log : List Step} {p : String × String → Prop} {i k : Nat} {c d : String × String}

/-- A step before all others puts the first claim off, unless it is one itself. -/
theorem later {s : Step} (h : Earliest log p i c) (hnone : ∀ d, StandsAt (s :: log) 0 d → ¬ p d) :
    Earliest (s :: log) p (i + 1) c where
  stands := standsAt_succ.2 h.stands
  holds := h.holds
  first := by
    intro j hj d hd
    cases j with
    | zero => exact hnone d hd
    | succ j => exact h.first j (Nat.lt_of_succ_lt_succ hj) d (standsAt_succ.1 hd)

/-- There is only one earliest claim. -/
theorem unique (h : Earliest log p i c) (h' : Earliest log p k d) : c = d := by
  rcases Nat.lt_trichotomy i k with hlt | rfl | hgt
  · exact absurd h.holds (h'.first i hlt c h.stands)
  · have hmade := h.stands.made.symm.trans h'.stands.made
    obtain ⟨htarget, howner⟩ := Step.claim.inj (Option.some.inj hmade)
    exact Prod.ext htarget howner
  · exact absurd h'.holds (h.first k hgt d h'.stands)

end Earliest

/-- What is found first among the claims that stand is an earliest one. -/
theorem exists_earliest {log : List Step} {p : String × String → Bool} {c : String × String}
    (h : (standing log).find? p = some c) : ∃ i, Earliest log (p ·) i c := by
  induction log with
  | nil => cases h
  | cons s log ih =>
    cases s with
    | claim target ruleId =>
      rw [standing] at h
      split at h
      · next hreleased =>
        obtain ⟨i, hi⟩ := ih h
        refine ⟨i + 1, hi.later ?_⟩
        intro d hd
        obtain ⟨heq, hkept⟩ := standsAt_zero.1 hd
        cases heq
        exact absurd hreleased hkept
      · next hkept =>
        by_cases hp : p (target, ruleId) = true
        · rw [List.find?_cons_of_pos hp] at h
          cases h
          exact ⟨0, standsAt_zero.2 ⟨rfl, hkept⟩, hp, fun j hj => absurd hj (Nat.not_lt_zero j)⟩
        · rw [List.find?_cons_of_neg hp] at h
          obtain ⟨i, hi⟩ := ih h
          refine ⟨i + 1, hi.later ?_⟩
          intro d hd
          obtain ⟨heq, -⟩ := standsAt_zero.1 hd
          cases heq
          exact hp
    | release ruleId =>
      obtain ⟨i, hi⟩ := ih h
      refine ⟨i + 1, hi.later ?_⟩
      intro d hd
      cases (standsAt_zero.1 hd).1

/-- **What is found is the earliest of the claims that stand.** -/
theorem find?_after_eq_some_iff {log : List Step} {p : String × String → Bool} {c : String × String} :
    (after log).find? p = some c ↔ ∃ i, Earliest log (p ·) i c := by
  rw [find?_after]
  constructor
  · exact exists_earliest
  · rintro ⟨i, hi⟩
    cases hfind : (standing log).find? p with
    | none => exact absurd hi.holds (List.find?_eq_none.1 hfind c hi.stands.mem)
    | some d =>
      obtain ⟨k, hk⟩ := exists_earliest hfind
      rw [hk.unique hi]

/-- Nothing is found exactly if no claim that stands has the property. -/
theorem find?_after_eq_none_iff {log : List Step} {p : String × String → Bool} :
    (after log).find? p = none ↔ ¬ ∃ i c, StandsAt log i c ∧ p c = true := by
  rw [find?_after]
  constructor
  · rintro hnone ⟨i, c, hc, hp⟩
    exact List.find?_eq_none.1 hnone c hc.mem hp
  · intro hnot
    cases hfind : (standing log).find? p with
    | none => rfl
    | some c =>
      obtain ⟨i, hi⟩ := exists_earliest hfind
      exact absurd ⟨i, c, hi.stands, hi.holds⟩ hnot

/-- A claim keeps a rule from a path if it is that of another rule, on a path with comparable steps. -/
def KeepsFrom (target ruleId : String) (c : String × String) : Prop :=
  c.2 ≠ ruleId ∧ Comparable (segments c.1) (segments target)

/-- **Claims are answered for by whoever made the earliest one.**  Two paths are in conflict exactly if the steps
of the one begin the steps of the other, and it makes no difference whether this is found out on characters or on
bytes.  After any row of steps, the rival of a rule at a path is the owner of the earliest claim that stands and
keeps it from there, and there is none exactly if there is no such claim. -/
theorem rivals_made_the_earliest_claim :
    (∀ a b : String, (inConflict a b = true ↔ segments a <+: segments b ∨ segments b <+: segments a)
      ∧ bytesInConflict a b = inConflict a b)
    ∧ ∀ (log : List Step) (target ruleId : String),
      (∀ owner, (after log).rival? target ruleId = some owner
        ↔ ∃ i path, Earliest log (KeepsFrom target ruleId) i (path, owner))
      ∧ ((after log).rival? target ruleId = none
        ↔ ¬ ∃ i c, StandsAt log i c ∧ KeepsFrom target ruleId c) := by
  refine ⟨fun a b => ⟨inConflict_iff, bytesInConflict_eq a b⟩, ?_⟩
  intro log target ruleId
  have hkeeps : ∀ c : String × String,
      (c.2 != ruleId && inConflict c.1 target) = true ↔ KeepsFrom target ruleId c := by
    intro c
    rw [Bool.and_eq_true, bne_iff_ne, inConflict_iff, KeepsFrom]
  refine ⟨?_, ?_⟩
  · intro owner
    rw [rival?, Option.map_eq_some_iff]
    simp only [find?_after_eq_some_iff, hkeeps]
    constructor
    · rintro ⟨⟨path, owner⟩, ⟨i, hi⟩, rfl⟩
      exact ⟨i, path, hi⟩
    · rintro ⟨i, path, hi⟩
      exact ⟨(path, owner), ⟨i, hi⟩, rfl⟩
  · rw [rival?, Option.map_eq_none_iff, find?_after_eq_none_iff]
    simp only [hkeeps]

end Claims

end Arbiter
