import Arbiter.Yaml.Token
/-!
# The tree of a YAML document

The tokens of a text are read as one tree.  Every anchor gets a number, and a reference keeps the
number its name stood for where it was met.  What is behind a number is known only when the whole
document has been read, because a later anchor may get the number of an earlier one.
-/

namespace Arbiter.Yaml

/-- A node of the tree. -/
inductive Node where
  /-- A scalar. -/
  | scalar (s : Scalar)
  /-- A list. -/
  | list (tag : Option String) (items : List Node)
  /-- A record, with its entries in order. -/
  | record (tag : Option String) (entries : List (Node × Node))
  /-- A reference, by the number of the anchor. -/
  | reference (n : Nat)

instance : Inhabited Node := ⟨.scalar ⟨"", none, .plain⟩⟩

/-- The state of the reader. -/
structure Reader where
  /-- The tokens still to be read. -/
  tokens : List Token
  /-- What the handles of tags stand for. -/
  handles : List (String × String) := []
  /-- The numbers of anchor names, latest first. -/
  names : List (String × Nat) := []
  /-- For each number the node that got it, by the order in which nodes start; latest first. -/
  anchored : List (Nat × Nat) := []
  /-- How many nodes with an anchor have started. -/
  started : Nat := 0
  /-- The nodes with an anchor, by the order in which they started. -/
  nodes : List (Nat × Node) := []
  /-- How many nodes, ends of collections included, were read. -/
  events : Nat := 0

/-- A reader's step: a result and the state after it, or nothing if the text is wrong. -/
abbrev Read := StateT Reader Option

namespace Read

/-- The next token. -/
def peek : Read (Option Token) := do return (← get).tokens.head?

/-- Passes a token. -/
def skip : Read Unit := modify fun s => { s with tokens := s.tokens.tail }

/-- Counts one more part of the document. -/
def count : Read Unit := modify fun s => { s with events := s.events + 1 }

/-- A scalar that is not there. -/
def empty : Read Node := do
  count
  return .scalar ⟨"", none, .plain⟩

/-- What a tag stands for, with its handle looked up. -/
def resolveTag (handle suffix : String) : Read String := do
  if handle.isEmpty then return suffix
  else match (← get).handles.lookup handle with
    | some lead => return lead ++ suffix
    | none => failure

/-- The anchor and the tag before a node, in either order. -/
def properties : Read (Option String × Option String) := do
  match ← peek with
  | some (.anchor a) =>
    skip
    match ← peek with
    | some (.tag handle suffix) =>
      skip
      return (some a, some (← resolveTag handle suffix))
    | _ => return (some a, none)
  | some (.tag handle suffix) =>
    skip
    match ← peek with
    | some (.anchor a) =>
      skip
      return (some a, some (← resolveTag handle suffix))
    | _ => return (none, some (← resolveTag handle suffix))
  | _ => return (none, none)

/-- Gives an anchor its number: how many names there are so far.  The answer is the place of the
node in the order of starts. -/
def begin (anchor : Option String) : Read (Option Nat) := do
  match anchor with
  | none => return none
  | some name =>
    let s ← get
    let n := s.names.length
    set { s with
      names := (name, n) :: s.names.filter (·.1 != name)
      anchored := (n, s.started) :: s.anchored
      started := s.started + 1 }
    return some s.started

/-- Keeps a node for the references to it. -/
def finish (place : Option Nat) (node : Node) : Read Node := do
  match place with
  | none => return node
  | some n =>
    modify fun s => { s with nodes := (n, node) :: s.nodes }
    return node

/-- Whether a token ends an entry of a block collection. -/
def endsBlockValue : Option Token → Bool
  | some .key => true
  | some .value => true
  | some .blockEnd => true
  | _ => false

/-- Whether a token ends an item of a list at the indentation of the record around it. -/
def endsFlatItem (t : Option Token) : Bool :=
  match t with
  | some .blockEntry => true
  | t => endsBlockValue t

/-- The tag of a scalar that is kept: a lone exclamation mark says nothing. -/
def scalarTag (tag : Option String) : Option String :=
  if tag == some "!" then none else tag

/-- A node that is nothing but an anchor or a tag. -/
def bare (anchor tag : Option String) : Read Node := do
  if anchor.isNone && tag.isNone then failure
  else
    count
    let place ← begin anchor
    finish place (.scalar ⟨"", tag, .plain⟩)

mutual

/-- A node.  `block` allows block collections, and `flat` a list at the indentation of the record
around it. -/
def node (fuel : Nat) (block flat : Bool) : Read Node := do
  match fuel with
  | 0 => failure
  | fuel + 1 =>
    match ← peek with
    | some (.reference name) =>
      skip
      count
      match (← get).names.lookup name with
      | some n => return .reference n
      | none => failure
    | _ =>
      let (anchor, tag) ← properties
      match ← peek with
      | some .blockEntry =>
        if flat then
          let place ← begin anchor
          count
          let items ← flatItems fuel
          count
          finish place (.list tag items)
        else bare anchor tag
      | some (.scalar text style) =>
        skip
        count
        let place ← begin anchor
        finish place (.scalar ⟨text, scalarTag tag, style⟩)
      | some .flowListStart =>
        skip
        let place ← begin anchor
        count
        let items ← flowItems fuel true
        count
        finish place (.list tag items)
      | some .flowRecordStart =>
        skip
        let place ← begin anchor
        count
        let entries ← flowEntries fuel true
        count
        finish place (.record tag entries)
      | some .blockListStart =>
        if block then
          skip
          let place ← begin anchor
          count
          let items ← blockItems fuel
          count
          finish place (.list tag items)
        else bare anchor tag
      | some .blockRecordStart =>
        if block then
          skip
          let place ← begin anchor
          count
          let entries ← blockEntries fuel
          count
          finish place (.record tag entries)
        else bare anchor tag
      | _ => bare anchor tag

/-- The items of a block list. -/
def blockItems (fuel : Nat) : Read (List Node) := do
  match fuel with
  | 0 => failure
  | fuel + 1 =>
    match ← peek with
    | some .blockEntry =>
      skip
      let item ← match ← peek with
        | some .blockEntry => empty
        | some .blockEnd => empty
        | _ => node fuel true false
      return item :: (← blockItems fuel)
    | some .blockEnd =>
      skip
      return []
    | _ => failure

/-- The items of a list at the indentation of the record around it. -/
def flatItems (fuel : Nat) : Read (List Node) := do
  match fuel with
  | 0 => failure
  | fuel + 1 =>
    match ← peek with
    | some .blockEntry =>
      skip
      let item ← if endsFlatItem (← peek) then empty else node fuel true false
      return item :: (← flatItems fuel)
    | _ => return []

/-- The entries of a block record. -/
def blockEntries (fuel : Nat) : Read (List (Node × Node)) := do
  match fuel with
  | 0 => failure
  | fuel + 1 =>
    match ← peek with
    | some .key =>
      skip
      let k ← if endsBlockValue (← peek) then empty else node fuel true true
      let v ← match ← peek with
        | some .value =>
          skip
          if endsBlockValue (← peek) then empty else node fuel true true
        | _ => empty
      return (k, v) :: (← blockEntries fuel)
    | some .blockEnd =>
      skip
      return []
    | _ => failure

/-- The items of a flow list, after the bracket or after an item. -/
def flowItems (fuel : Nat) (first : Bool) : Read (List Node) := do
  match fuel with
  | 0 => failure
  | fuel + 1 =>
    match ← peek with
    | some .flowListEnd =>
      skip
      return []
    | t =>
      if !first then
        if t matches some .flowEntry then skip else failure
      match ← peek with
      | some .key =>
        skip
        count
        let entry ← flowPair fuel
        count
        return .record none [entry] :: (← flowItems fuel false)
      | some .flowListEnd =>
        skip
        return []
      | _ =>
        let item ← node fuel false false
        return item :: (← flowItems fuel false)

/-- A record of one entry without braces inside a flow list.  A key that is left out takes the token
after it along. -/
def flowPair (fuel : Nat) : Read (Node × Node) := do
  match fuel with
  | 0 => failure
  | fuel + 1 =>
    let k ← match ← peek with
      | some .value => skip; empty
      | some .flowEntry => skip; empty
      | some .flowListEnd => skip; empty
      | _ => node fuel false false
    match ← peek with
    | some .value =>
      skip
      match ← peek with
      | some .flowEntry => return (k, ← empty)
      | some .flowListEnd => return (k, ← empty)
      | _ => return (k, ← node fuel false false)
    | _ => return (k, ← empty)

/-- The entries of a flow record, after the brace or after an entry. -/
def flowEntries (fuel : Nat) (first : Bool) : Read (List (Node × Node)) := do
  match fuel with
  | 0 => failure
  | fuel + 1 =>
    match ← peek with
    | some .flowRecordEnd =>
      skip
      return []
    | t =>
      if !first then
        if t matches some .flowEntry then skip else failure
      match ← peek with
      | some .flowRecordEnd =>
        skip
        return []
      | some .key =>
        skip
        let k ← match ← peek with
          | some .value => empty
          | some .flowEntry => empty
          | some .flowRecordEnd => empty
          | _ => node fuel false false
        let v ← flowValue fuel
        return (k, v) :: (← flowEntries fuel false)
      | _ =>
        let k ← node fuel false false
        let v ← empty
        return (k, v) :: (← flowEntries fuel false)

/-- The value of an entry of a flow record, if there is one. -/
def flowValue (fuel : Nat) : Read Node := do
  match fuel with
  | 0 => failure
  | fuel + 1 =>
    match ← peek with
    | some .value =>
      skip
      match ← peek with
      | some .flowEntry => empty
      | some .flowRecordEnd => empty
      | _ => node fuel false false
    | _ => empty

end

/-! ## Documents -/

/-- The directives before a document: at most one version, and each handle at most once. -/
def directives (fuel : Nat) (version : Bool) : Read Bool := do
  match fuel with
  | 0 => failure
  | fuel + 1 =>
    match ← peek with
    | some (.version major minor) =>
      if version || major != 1 || !(minor == 1 || minor == 2) then failure
      skip
      let _ ← directives fuel true
      return true
    | some (.tagAlias handle lead) =>
      let s ← get
      if (s.handles.lookup handle).isSome then failure
      set { s with handles := s.handles ++ [(handle, lead)] }
      skip
      let _ ← directives fuel version
      return true
    | _ => return false

/-- The handles every document knows, unless it says otherwise. -/
def usualHandles : List (String × String) := [("!", "!"), ("!!", "tag:yaml.org,2002:")]

/-- Whether a token cannot start the content of a document. -/
def endsDocument : Option Token → Bool
  | some (.version ..) => true
  | some (.tagAlias ..) => true
  | some .documentStart => true
  | some .documentEnd => true
  | none => true
  | _ => false

/-- The only document of a text; `none` if there is no document.  A text with more is wrong. -/
def document (fuel : Nat) : Read (Option Node) := do
  match ← peek with
  | none => return none
  | some _ =>
    let directed ← directives fuel false
    modify fun s => { s with handles := s.handles ++ usualHandles }
    let root ← match ← peek with
      | some .documentStart =>
        skip
        if endsDocument (← peek) then empty else node fuel true false
      | t => if directed || endsDocument t then failure else node fuel true false
    modify fun s => { s with tokens := s.tokens.dropWhile fun t => t matches .documentEnd }
    if (← get).tokens.isEmpty then return some root else failure

end Read

/-- A document that was read, with what its references mean. -/
structure Tree where
  /-- The tree, if there is a document at all. -/
  root : Option Node
  /-- What the numbers of references stand for. -/
  targets : List (Nat × Node)
  /-- How many parts the document has. -/
  size : Nat

/-- The tree of a list of tokens. -/
def tree? (tokens : List Token) : Option Tree := do
  let (root, s) ← (Read.document (4 * tokens.length + 8)).run { tokens }
  let targets := s.anchored.filterMap fun (n, place) => (s.nodes.lookup place).map fun d => (n, d)
  return ⟨root, targets, s.events⟩

end Arbiter.Yaml
