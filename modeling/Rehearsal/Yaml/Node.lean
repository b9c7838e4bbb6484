import Rehearsal.Assoc
import Rehearsal.Yaml.Token

/-!
# The nodes of a YAML document

`Document.ofTokens` makes the tree of a document from its tokens. An alias stays a node of its own,
which points to a slot. Slots are numbered: an anchor gets as its number how many names of anchors
there are so far, and of several anchors with one number the last one owns the slot. An alias points
to the slot of its name as it was at the place of the alias.
-/

namespace Rehearsal.Yaml

/-- A node of a document. -/
inductive Node
  | scalar (tag : Option Tag) (style : Style) (text : String)
  | sequence (tag : Option Tag) (items : List Node)
  | mapping (tag : Option Tag) (entries : List (Node × Node))
  | alias (slot : Nat)
  deriving Inhabited

namespace Node

/-- The node that stands where there is nothing. -/
def nothing : Node := .scalar none .plain ""

mutual
/-- How many steps it takes to walk over a node: two for a collection, one for all else. -/
def steps : Node → Nat
  | .sequence _ items => stepsOfItems items + 2
  | .mapping _ entries => stepsOfEntries entries + 2
  | _ => 1

def stepsOfItems : List Node → Nat
  | [] => 0
  | n :: ns => steps n + stepsOfItems ns

def stepsOfEntries : List (Node × Node) → Nat
  | [] => 0
  | (k, v) :: es => steps k + steps v + stepsOfEntries es
end

end Node

/-- A document. -/
structure Document where
  /-- The outermost node; nothing, if the text holds nothing. -/
  root : Node
  /-- The nodes that aliases point to, under the numbers of their slots. -/
  slots : List (Nat × Node) := []

/-- How far tokens have been made into nodes. -/
structure Assembly where
  tokens : List Token
  /-- What handles of tags stand for. -/
  handles : List (String × Bytes) := []
  /-- The slots of the names of anchors. -/
  names : Assoc Nat := .empty
  /-- The slots with the numbers of the anchored nodes that own them, the last one first. -/
  owners : List (Nat × Nat) := []
  /-- The anchored nodes under their numbers. -/
  anchored : List (Nat × Node) := []
  /-- How many anchored nodes have begun. -/
  count : Nat := 0

/-- What makes nodes from tokens. -/
abbrev Assembler := StateT Assembly (Except Fault)

namespace Assembler

/-- The next token; none is left at the end of the text. -/
def peek? : Assembler (Option Token) := return (← get).tokens.head?

/-- Leave the next token behind. -/
def drop : Assembler Unit := modify fun s => { s with tokens := s.tokens.drop 1 }

def misplaced {α : Type} (reason : String) : Assembler α := throw (.misplaced reason)

/-! ### Anchors and tags -/

/-- The handles that are always there. -/
def standardHandles : List (String × Bytes) :=
  [("!", (Tag.ofText "!").bytes), ("!!", (Tag.standard "").bytes)]

/-- The full form of a tag. -/
def expandTag (handle : String) (suffix : Bytes) : Assembler Tag := do
  if handle = "" then return ⟨suffix⟩
  match ((← get).handles ++ standardHandles).find? (·.1 = handle) with
  | some (_, expansion) => return ⟨expansion ++ suffix⟩
  | none => misplaced "found undefined tag handle"

/-- Begin an anchored node: the number that it gets. -/
def beginAnchored (name : String) : Assembler Nat :=
  modifyGet fun s =>
    let slot := s.names.size
    (s.count, { s with
      names := s.names.insert name slot
      owners := (slot, s.count) :: s.owners
      count := s.count + 1 })

/-- The anchor and the tag in front of a node, in either order. -/
def properties : Assembler (Option String × Option Tag) := do
  match ← peek? with
  | some (.anchor name) =>
    drop
    match ← peek? with
    | some (.tag handle suffix) =>
      drop
      return (some name, some (← expandTag handle suffix))
    | _ => return (some name, none)
  | some (.tag handle suffix) =>
    drop
    match ← peek? with
    | some (.anchor name) =>
      drop
      return (some name, some (← expandTag handle suffix))
    | _ => return (none, some (← expandTag handle suffix))
  | _ => return (none, none)

/-- The slot that an alias points to. -/
def slotOf (name : String) : Assembler Nat := do
  match (← get).names.get? name with
  | some slot => return slot
  | none => throw (.unknownAnchor name)

/-- A node, unless there is none because the next token already ends its place. -/
def orNothing (ends : Token → Bool) (node : Assembler Node) : Assembler Node := do
  if (← peek?).any ends then return .nothing else node

def endsEntry (t : Token) : Bool := t = .blockEntry || t = .blockEnd

def endsBlockPlace (t : Token) : Bool := t = .key || t = .value || t = .blockEnd

def endsFlowPlace (b : Bracket) (t : Token) : Bool := t = .flowEntry || t = .flowEnd b

def endsFlowKey (b : Bracket) (t : Token) : Bool := t = .value || endsFlowPlace b t

/-- Leave the comma in front of the next part of a collection behind; the first token of that
part, or none at the end of the collection. -/
def nextInFlow (b : Bracket) (first : Bool) : Assembler (Option Token) := do
  match ← peek? with
  | none => misplaced "did not find the end of a collection"
  | some t =>
    if t = .flowEnd b then
      drop
      return none
    else if first then return some t
    else if t = .flowEntry then
      drop
      match ← peek? with
      | none => misplaced "did not find expected node content"
      | some t =>
        if t = .flowEnd b then
          drop
          return none
        else return some t
    else misplaced "did not find expected ','"

/-! ### Nodes -/

mutual
/-- A node. Inside brackets there are no blocks; as a key or value of a block a sequence need not
be indented. -/
def node (inBlock unindented : Bool) : (fuel : Nat) → Assembler Node
  | 0 => misplaced "did not find expected node content"
  | fuel + 1 => do
    match ← peek? with
    | some (.alias name) =>
      drop
      return .alias (← slotOf name)
    | _ =>
      let (anchor, tag) ← properties
      match anchor with
      | none => content inBlock unindented tag false fuel
      | some name =>
        let number ← beginAnchored name
        let n ← content inBlock unindented tag true fuel
        modify fun s => { s with anchored := (number, n) :: s.anchored }
        return n

/-- The content of a node behind its anchor and tag. -/
def content (inBlock unindented : Bool) (tag : Option Tag) (isAnchored : Bool) :
    (fuel : Nat) → Assembler Node
  | 0 => misplaced "did not find expected node content"
  | fuel + 1 => do
    match ← peek? with
    | some (.scalar style text) =>
      drop
      return .scalar tag style text
    | some (.flowStart .square) =>
      drop
      return .sequence tag (← flowItems true fuel)
    | some (.flowStart .curly) =>
      drop
      return .mapping tag (← flowEntries true fuel)
    | t =>
      if unindented && t = some .blockEntry then
        return .sequence tag (← unindentedItems fuel)
      else if inBlock && t = some .blockSequence then
        drop
        return .sequence tag (← blockItems fuel)
      else if inBlock && t = some .blockMapping then
        drop
        return .mapping tag (← blockEntries fuel)
      else if isAnchored || tag.isSome then return .scalar tag .plain ""
      else misplaced "did not find expected node content"

def blockItems : (fuel : Nat) → Assembler (List Node)
  | 0 => misplaced "did not find expected '-' indicator"
  | fuel + 1 => do
    match ← peek? with
    | some .blockEntry =>
      drop
      let n ← orNothing endsEntry (node true false fuel)
      return n :: (← blockItems fuel)
    | some .blockEnd =>
      drop
      return []
    | _ => misplaced "did not find expected '-' indicator"

def unindentedItems : (fuel : Nat) → Assembler (List Node)
  | 0 => return []
  | fuel + 1 => do
    match ← peek? with
    | some .blockEntry =>
      drop
      let n ← orNothing (fun t => t = .blockEntry || endsBlockPlace t) (node true false fuel)
      return n :: (← unindentedItems fuel)
    | _ => return []

def blockEntries : (fuel : Nat) → Assembler (List (Node × Node))
  | 0 => misplaced "did not find expected key"
  | fuel + 1 => do
    match ← peek? with
    | some .key =>
      drop
      let k ← orNothing endsBlockPlace (node true true fuel)
      let v ← valueOf endsBlockPlace true fuel
      return (k, v) :: (← blockEntries fuel)
    | some .blockEnd =>
      drop
      return []
    | _ => misplaced "did not find expected key"

/-- What stands behind a colon, if there is one. -/
def valueOf (ends : Token → Bool) (inBlock : Bool) : (fuel : Nat) → Assembler Node
  | 0 => return .nothing
  | fuel + 1 => do
    match ← peek? with
    | some .value =>
      drop
      orNothing ends (node inBlock inBlock fuel)
    | _ => return .nothing

/-- The items of a sequence in brackets. A key with its value is a mapping of one entry. -/
def flowItems (first : Bool) : (fuel : Nat) → Assembler (List Node)
  | 0 => misplaced "did not find expected ',' or ']'"
  | fuel + 1 => do
    match ← nextInFlow .square first with
    | none => return []
    | some .key =>
      drop
      let k ← pairKey fuel
      let v ← valueOf (endsFlowPlace .square) false fuel
      return .mapping none [(k, v)] :: (← flowItems false fuel)
    | some _ =>
      let n ← node false false fuel
      return n :: (← flowItems false fuel)

/-- The key of a pair in square brackets. Where there is none the token in its place goes. -/
def pairKey : (fuel : Nat) → Assembler Node
  | 0 => return .nothing
  | fuel + 1 => do
    if (← peek?).any (endsFlowKey .square) then
      drop
      return .nothing
    else node false false fuel

/-- The entries of a mapping in brackets. A node without a colon is a key. -/
def flowEntries (first : Bool) : (fuel : Nat) → Assembler (List (Node × Node))
  | 0 => misplaced "did not find expected ',' or '\x7d'"
  | fuel + 1 => do
    match ← nextInFlow .curly first with
    | none => return []
    | some .key =>
      drop
      let k ← orNothing (endsFlowKey .curly) (node false false fuel)
      let v ← valueOf (endsFlowPlace .curly) false fuel
      return (k, v) :: (← flowEntries false fuel)
    | some _ =>
      let k ← node false false fuel
      return (k, .nothing) :: (← flowEntries false fuel)
end

/-! ### Documents -/

/-- The directives in front of a document. -/
def directives (seenVersion : Bool) : (fuel : Nat) → Assembler Unit
  | 0 => return
  | fuel + 1 => do
    match ← peek? with
    | some (.version major minor) =>
      if seenVersion then misplaced "found duplicate %YAML directive"
      else if major ≠ 1 ∨ (minor ≠ 1 ∧ minor ≠ 2) then
        misplaced "found incompatible YAML document"
      else
        drop
        directives true fuel
    | some (.tagHandle handle expansion) =>
      if (← get).handles.any (·.1 = handle) then misplaced "found duplicate %TAG directive"
      else
        drop
        modify fun s => { s with handles := (handle, expansion) :: s.handles }
        directives seenVersion fuel
    | _ => return

/-- Does the token begin a document that is marked as one? -/
def beginsDocument : Token → Bool
  | .version .. | .tagHandle .. | .documentStart => true
  | _ => false

def isDocumentMark (t : Token) : Bool := t = .documentEnd || beginsDocument t

/-- The outermost node of the only document; nothing, if there is no document. -/
def document (fuel : Nat) : Assembler Node := do
  match ← peek? with
  | none => return .nothing
  | some t =>
    let root ←
      if beginsDocument t then
        directives false fuel
        if (← peek?) = some .documentStart then
          drop
          if (← peek?).all isDocumentMark then pure Node.nothing else node true false fuel
        else misplaced "did not find expected <document start>"
      else node true false fuel
    modify fun s => { s with tokens := s.tokens.dropWhile (· = .documentEnd) }
    if (← peek?).isNone then return root else throw .severalDocuments

end Assembler

/-- The nodes that own slots. -/
def Assembly.slots (s : Assembly) : List (Nat × Node) :=
  s.owners.filterMap fun (slot, number) =>
    (s.anchored.find? (·.1 = number)).map fun (_, n) => (slot, n)

/-- The document that tokens make. -/
def Document.ofTokens (tokens : List Token) : Except Fault Document := do
  let (root, s) ← (Assembler.document (4 * tokens.length + 8)).run { tokens }
  return { root, slots := s.slots }

end Rehearsal.Yaml
