import Arbiter.Pattern.Basic
/-!
# Matching

A pattern becomes a program of small steps, and a text is run through all steps at once: at every
place of the text there is a set of steps that could be next.  The time is bounded by the product
of the sizes of program and text, whatever the pattern is.
-/

namespace Arbiter.Pattern

/-- A step of a program; steps are named by their place in it. -/
inductive Step where
  /-- Takes a character and goes on. -/
  | take (c : Chars) (next : Nat)
  /-- Goes on at either of two steps. -/
  | fork (a b : Nat)
  /-- Goes on if the place is right. -/
  | check (l : Look) (next : Nat)
  /-- The text matches. -/
  | accept

/-- A program. -/
abbrev Program := Array Step

/-- Adds a step at the end. -/
def Program.add (prog : Program) (s : Step) : Nat × Program := (prog.size, prog.push s)

/-- Adds the steps of a pattern that is followed by step `next`; the answer has its first step. -/
def emit : Pattern → Nat → Program → Nat × Program
  | .empty, next, prog => (next, prog)
  | .chars c, next, prog => prog.add (.take c next)
  | .look l, next, prog => prog.add (.check l next)
  | .seq a b, next, prog =>
    let (second, prog) := emit b next prog
    emit a second prog
  | .alt a b, next, prog =>
    let (first, prog) := emit a next prog
    let (second, prog) := emit b next prog
    prog.add (.fork first second)
  | .repeated p least most, next, prog =>
    let tail : Nat × Program :=
      match most with
      | none =>
        let (loop, prog) := prog.add (.fork next next)
        let (body, prog) := emit p loop prog
        (loop, prog.setIfInBounds loop (.fork body next))
      | some most =>
        (List.range (most - least)).foldl
          (fun (st : Nat × Program) _ =>
            let (body, prog) := emit p st.1 st.2
            prog.add (.fork body next))
          (next, prog)
    (List.range least).foldl (fun (st : Nat × Program) _ => emit p st.1 st.2) tail

/-- A compiled pattern. -/
structure Machine where
  /-- The steps. -/
  program : Program
  /-- The first step. -/
  start : Nat

/-- Compiles a pattern. -/
def machine (p : Pattern) : Machine :=
  let (start, program) := emit p 0 #[.accept]
  ⟨program, start⟩

/-- What is known of a place in the text. -/
structure Marks where
  /-- The steps that were looked at. -/
  seen : Array Bool
  /-- The steps that wait for a character. -/
  waiting : List Nat
  /-- Whether the text matches. -/
  accepted : Bool

/-- Follows steps that take no character. -/
def follow (prog : Program) (before after : Option Char) : Nat → List Nat → Marks → Marks
  | 0, _, m => m
  | _, [], m => m
  | fuel + 1, s :: work, m =>
    if m.seen.getD s true then follow prog before after fuel work m
    else
      let m := { m with seen := m.seen.setIfInBounds s true }
      match prog[s]? with
      | some (.take ..) => follow prog before after fuel work { m with waiting := s :: m.waiting }
      | some (.fork a b) => follow prog before after fuel (a :: b :: work) m
      | some (.check l next) =>
        follow prog before after fuel (if l.holds before after then next :: work else work) m
      | some .accept => follow prog before after fuel work { m with accepted := true }
      | none => follow prog before after fuel work m

/-- The steps that can be next at a place, when some are known to be. -/
def reach (prog : Program) (before after : Option Char) (work : List Nat) : Marks :=
  follow prog before after (work.length + 2 * prog.size + 1) work
    ⟨Array.replicate prog.size false, [], false⟩

/-- The steps after those that take a character. -/
def advance (prog : Program) (c : Char) (waiting : List Nat) : List Nat :=
  waiting.filterMap fun (s : Nat) =>
    match (prog[s]? : Option Step) with
    | some (.take cls next) => if cls.has c.toNat then some next else none
    | _ => none

/-- Runs the rest of a text; a match may start anywhere in it. -/
def Machine.run (m : Machine) (before : Option Char) (work : List Nat) : List Char → Bool
  | [] => (reach m.program before none (m.start :: work)).accepted
  | c :: cs =>
    let marks := reach m.program before (some c) (m.start :: work)
    marks.accepted || m.run (some c) (advance m.program c marks.waiting) cs

/-- Whether some part of a text matches. -/
def Machine.matches (m : Machine) (text : String) : Bool := m.run none [] text.toList

end Arbiter.Pattern
