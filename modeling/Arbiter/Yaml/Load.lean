import Arbiter.Yaml.Node
import Arbiter.Yaml.Scanner
/-!
# Documents from YAML

References are replaced by what they refer to.  A reference may be inside what it refers to, and
references to references multiply, so there are two limits: collections nest at most 128 deep, and
a document of so many parts may follow a hundred times as many references.  What is beyond a limit
becomes a part that cannot be read; it does no harm as long as nothing asks for it.
-/

namespace Arbiter.Yaml

/-- How deep collections may nest. -/
def depthLimit : Nat := 128

/-- How many references may be followed for each part of a document. -/
def referencesPerPart : Nat := 100

mutual

/-- A node with its references replaced.  `depth` bounds the collections inside, `fuel` the
references followed one after the other, and `jumps` all that are followed. -/
def expand (targets : List (Nat × Node)) (fuel depth jumps : Nat) (n : Node) : Document × Nat :=
  match fuel with
  | 0 => (.unreadable, jumps)
  | fuel + 1 =>
    match n, depth with
    | .scalar s, _ => (.written s, jumps)
    | .list .., 0 => (.unreadable, jumps)
    | .record .., 0 => (.unreadable, jumps)
    | .list tag items, depth + 1 =>
      let (items, jumps) := expandItems targets fuel depth jumps items
      (.list tag false items, jumps)
    | .record tag entries, depth + 1 =>
      let (entries, jumps) := expandEntries targets fuel depth jumps entries
      (.record tag entries, jumps)
    | .reference k, depth =>
      match jumps with
      | 0 => (.unreadable, 0)
      | jumps + 1 =>
        match targets.lookup k with
        | some target => expand targets fuel depth jumps target
        | none => (.unreadable, jumps)

/-- The items of a list with their references replaced. -/
def expandItems (targets : List (Nat × Node)) (fuel depth jumps : Nat) (items : List Node) :
    List Document × Nat :=
  match fuel, items with
  | 0, _ => ([.unreadable], jumps)
  | _, [] => ([], jumps)
  | fuel + 1, n :: ns =>
    let (d, jumps) := expand targets fuel depth jumps n
    let (ds, jumps) := expandItems targets fuel depth jumps ns
    (d :: ds, jumps)

/-- The entries of a record with their references replaced. -/
def expandEntries (targets : List (Nat × Node)) (fuel depth jumps : Nat)
    (entries : List (Node × Node)) : List (Document × Document) × Nat :=
  match fuel, entries with
  | 0, _ => ([(.unreadable, .unreadable)], jumps)
  | _, [] => ([], jumps)
  | fuel + 1, (k, v) :: rest =>
    let (k, jumps) := expand targets fuel depth jumps k
    let (v, jumps) := expand targets fuel depth jumps v
    let (rest, jumps) := expandEntries targets fuel depth jumps rest
    ((k, v) :: rest, jumps)

end

/-- A fuel that no expansion within the limits uses up: on every level of nesting there are at most
as many steps as parts, and one for the reference that led there. -/
def Tree.fuel (t : Tree) : Nat := (depthLimit + 2) * (t.size + 3)

/-- The document of a tree. -/
def Tree.document (t : Tree) : Document :=
  match t.root with
  | none => .void
  | some n => (expand t.targets t.fuel depthLimit (referencesPerPart * t.size) n).1

/-- The document of a YAML text; `none` if the text is wrong. -/
def read? (text : String) : Option Document := do
  return (← tree? (← tokens? text)).document

end Arbiter.Yaml
