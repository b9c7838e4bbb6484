import Rehearsal.Yaml.Node

/-!
# Reading a document

A reader takes a value out of a node of a document. It follows an alias only where it needs what the
alias points to. As an alias may stand inside of what it points to, collections are read 128 levels
deep, and as many times a hundred aliases are followed as the document has steps; what lies beyond
cannot be read.
-/

namespace Rehearsal.Yaml

/-- What a reader sees around a node. -/
structure Place where
  /-- The nodes that aliases point to, under the numbers of their slots. -/
  slots : List (Nat × Node)
  /-- How many levels may still be opened. -/
  depth : Nat

/-- What takes a value out of a document; the state is how many aliases may still be followed. -/
abbrev Reader (α : Type) := ReaderT Place (StateT Nat (Except Fault)) α

/-- How deep a value may be nested. -/
def maxDepth : Nat := 128

namespace Reader

/-- The value is not what is needed. -/
def wrong {α : Type} (needed : String) : Reader α := throw (.form needed)

/-- Read inside of a collection, one level deeper. -/
def inside {α : Type} (r : Reader α) : Reader α := fun place =>
  match place.depth with
  | 0 => throw .tooDeep
  | depth + 1 => r { place with depth }

/-- The node in the place of an alias. -/
def follow (n : Node) : Reader Node := do
  match n with
  | .alias slot =>
    match ← get with
    | 0 => throw .tooDeep
    | left + 1 =>
      set left
      match (← read).slots.find? (·.1 = slot) with
      | some (_, n) => return n
      | none => throw .tooDeep
  | n => return n

end Reader

/-- Read the outermost node of a document. -/
def Document.read {α : Type} (d : Document) (r : Node → Reader α) : Except Fault α :=
  ((r d.root).run { slots := d.slots, depth := maxDepth }).run (100 * d.root.steps) |>.map (·.1)

/-- Read a text that holds no more than one document. -/
def Document.parse (s : String) : Except Fault Document := do
  Document.ofTokens (← Token.ofText s.toList)

end Rehearsal.Yaml
