import Rehearsal.Text.Whole
import Rehearsal.Json.Parser

/-!
# Paths into JSON documents

A path is a list of segments, each the name of a field or the index of an item. `parse` reads its
written form `$.user.items[1].name`: blanks around it, a leading `$` and empty parts between dots
do not count; what stands in brackets is an index if it is a natural number, and a field name if
not. `get?` follows a path, `set?` puts another value where it leads, and `leafPaths` gives the
written form of the path to each leaf of a document: each scalar and each empty container.
-/

namespace Rehearsal

/-- One step of a path. -/
inductive Path.Segment
  | field (name : String)
  | index (i : Nat)
  deriving DecidableEq, Repr

namespace Path

/-! ### Reading -/

/-- The segments of a run of brackets. What follows a closing bracket without opening another one
is left out, and a bracket that is never closed is a field name together with all that follows. -/
def bracketSegments (cs : List Char) : List Segment :=
  match cs with
  | '[' :: r =>
    match h : Text.cut? [']'] r with
    | some (inside, rest) =>
      have : rest.length < r.length + 1 := by
        have := Text.length_of_cut? h
        omega
      (match Text.readNatural? inside with
        | some i => .index i
        | none => .field (String.ofList inside)) :: bracketSegments rest
    -- a bracket that is never closed
    | none => [.field (String.ofList ('[' :: r))]
  | _ => []
termination_by cs.length

/-- The segments of one part between dots: a field name up to the first bracket, then brackets. -/
def partSegments (part : List Char) : List Segment :=
  let name := part.takeWhile (· ≠ '[')
  (if name.isEmpty then [] else [.field (String.ofList name)])
    ++ bracketSegments (part.dropWhile (· ≠ '['))

/-- The text of a path without blanks around it and without its leading `$` or `$.`. -/
def body (cs : List Char) : List Char :=
  match Text.trim cs with
  | '$' :: '.' :: r => r
  -- the `$` need not be parted from what follows
  | '$' :: r => r
  | r => r

/-- Read the written form of a path. -/
def parseChars (cs : List Char) : List Segment :=
  ((Text.splitOn '.' (body cs)).filter (!·.isEmpty)).flatMap partSegments

def parse (s : String) : List Segment := parseChars s.toList

/-! ### Following -/

/-- The value one step away: a field of an object or an item of an array. -/
def step? : Segment → Json → Option Json
  | .field name, .object fs => Json.field? name fs
  | .index i, .array vs => vs[i]?
  | _, _ => none

/-- The value that a path leads to. -/
def get? : List Segment → Json → Option Json
  | [], v => some v
  | s :: ss, v => (step? s v).bind (get? ss)

/-- Replace the value of a field that is there. -/
def replaceField (name : String) (new : Json) : List (String × Json) → List (String × Json)
  | [] => []
  | (k, v) :: fs => if k = name then (k, new) :: fs else (k, v) :: replaceField name new fs

/-- The value with the one that a step leads to replaced. -/
def replaceStep : Segment → Json → Json → Json
  | .field name, new, .object fs => .object (replaceField name new fs)
  | .index i, new, .array vs => .array (vs.set i new)
  | _, _, v => v

/-- Put a value where a path leads; nothing if it leads nowhere. -/
def set? : List Segment → Json → Json → Option Json
  | [], new, _ => some new
  | s :: ss, new, v =>
    (step? s v).bind fun w => (set? ss new w).map fun w' => replaceStep s w' v

/-! ### Leaves -/

/-- The written path of a field behind a written path; an empty path is not marked off. -/
def fieldText (path : List Char) (key : List Char) : List Char :=
  if path.isEmpty then key else path ++ '.' :: key

/-- The written path of an item behind a written path. -/
def itemText (path : List Char) (i : Nat) : List Char :=
  path ++ '[' :: Decimal.digitsOf i ++ [']']

mutual
/-- The written path of each leaf below `path`, in document order. A leaf with an empty path has
none. -/
def leafPathsAt (path : List Char) : Json → List (List Char)
  | .array (v :: vs) => itemLeaves path 0 (v :: vs)
  | .object (f :: fs) => fieldLeaves path (f :: fs)
  | _ => if path.isEmpty then [] else [path]

def itemLeaves (path : List Char) (i : Nat) : List Json → List (List Char)
  | [] => []
  | v :: vs => leafPathsAt (itemText path i) v ++ itemLeaves path (i + 1) vs

def fieldLeaves (path : List Char) : List (String × Json) → List (List Char)
  | [] => []
  | (k, v) :: fs => leafPathsAt (fieldText path k.toList) v ++ fieldLeaves path fs
end

/-- The written path of each leaf of a document, in document order. -/
def leafPaths (document : Json) : List String := (leafPathsAt [] document).map String.ofList

end Path
end Rehearsal
