import Rehearsal.Text.Whole
import Rehearsal.Yaml.Reader

/-!
# YAML values by the shape that is needed

Readers that know what they want: the same plain scalar is a text for `text`, a number for `natural`
and nothing for `optional`. An empty plain scalar is an empty collection. A record is a mapping
whose known fields stand once at most; other fields do not count, and nobody reads them.
-/

namespace Rehearsal.Yaml

/-! ### What plain scalars are written like -/

def isNullWord (t : String) : Bool := t = "null" || t = "Null" || t = "NULL" || t = "~"

/-- The truth value that a word stands for. -/
def truth? (t : String) : Option Bool :=
  if t = "true" || t = "True" || t = "TRUE" then some true
  else if t = "false" || t = "False" || t = "FALSE" then some false
  else none

/-- Is this a zero in front of further digits? Such a text is no number. -/
def isPaddedNumber (cs : List Char) : Bool :=
  let digits := match cs with
    | '-' :: r => r
    | '+' :: r => r
    | r => r
  match digits with
  | '0' :: d :: ds => (d :: ds).all Char.isDigit
  | _ => false

/-- The value of at least one digit in a base of at most 16. -/
def digits? (base : Nat) (cs : List Char) : Option Nat :=
  if cs.isEmpty then none
  else cs.foldlM (fun n c => ((Text.hexValue? c).filter (· < base)).map (base * n + ·)) 0

/-- The digits of a number with the base that stands in front of them. -/
def basedDigits? : List Char → Option Nat
  | '0' :: 'x' :: r => digits? 16 r
  | '0' :: 'o' :: r => digits? 8 r
  | '0' :: 'b' :: r => digits? 2 r
  | r => if isPaddedNumber r then none else digits? 10 r

/-- A number without a minus sign. -/
def magnitude? : List Char → Option Nat
  | '+' :: r => basedDigits? r
  | r => basedDigits? r

/-- A natural number of 64 bits. -/
def natural? (t : String) : Option Nat := (magnitude? t.toList).filter (· < 1 <<< 64)

/-! ### Fields -/

/-- The one field with this name, if there is one. -/
def uniqueField? {α : Type} (name : String) (fields : List (String × α)) :
    Except Fault (Option α) :=
  match fields.filter (·.1 = name) with
  | [] => .ok none
  | [(_, v)] => .ok (some v)
  | _ => .error (.duplicateField name)

section

variable {m : Type → Type} [Monad m] [MonadExceptOf Fault m] {α β : Type}

/-- A field that has to be there. -/
def required (name : String) (read : α → m β) : Option α → m β
  | some v => read v
  | none => throw (.missingField name)

/-- A field that may be missing. -/
def defaulting (default : β) (read : α → m β) : Option α → m β
  | some v => read v
  | none => pure default

end

/-! ### Readers -/

namespace Node

/-- The text of a scalar, however it is written. -/
def text (n : Node) : Reader String := do
  match ← Reader.follow n with
  | .scalar _ _ t => return t
  | _ => Reader.wrong "a string"

/-- Does a scalar of this style have a value of its own form? A literal one does under its tag. -/
def isTyped (tag : Option Tag) (style : Style) (type : String) : Bool :=
  style = .plain || (style = .literal && tag = some (Tag.standard type))

def flag (n : Node) : Reader Bool := do
  match ← Reader.follow n with
  | .scalar tag style t =>
    match if isTyped tag style "bool" then truth? t else none with
    | some b => return b
    | none => Reader.wrong "a boolean"
  | _ => Reader.wrong "a boolean"

def natural (n : Node) : Reader Nat := do
  match ← Reader.follow n with
  | .scalar tag style t =>
    match if isTyped tag style "int" then natural? t else none with
    | some n => return n
    | none => Reader.wrong "u64"
  | _ => Reader.wrong "u64"

/-- A value that may be absent: nothing or a null word in its place. -/
def optional {α : Type} (read : Node → Reader α) (n : Node) : Reader (Option α) := do
  let n ← Reader.follow n
  match n with
  | .scalar tag .plain t =>
    if tag = none then
      if t = "" || isNullWord t then return none else return some (← read n)
    else if tag = some (Tag.standard "null") then
      if isNullWord t then return none else Reader.wrong "null"
    else return some (← read n)
  | _ => return some (← read n)

/-- Is this nothing, in the place of a collection? -/
def isNothing : Node → Bool
  | .scalar _ style t => style = .plain && t = ""
  | _ => false

def list {α : Type} (read : Node → Reader α) (n : Node) : Reader (List α) := do
  match ← Reader.follow n with
  | .sequence _ items => Reader.inside (items.mapM read)
  | n => if n.isNothing then return [] else Reader.wrong "a sequence"

/-- Read the entries of a mapping. -/
def entries {α : Type} (read : List (Node × Node) → Reader α) (n : Node) : Reader α := do
  match ← Reader.follow n with
  | .mapping _ es => Reader.inside (read es)
  | n => if n.isNothing then read [] else Reader.wrong "a map"

/-- A mapping from texts; a key that comes again replaces the value in its first place. -/
def assoc {α : Type} (read : Node → Reader α) : Node → Reader (Assoc α) :=
  entries fun es => do
    return .ofList (← es.mapM fun (k, v) => return (← k.text, ← read v))

/-- The fields of a record with these names, in this order, are read together. -/
def record {α : Type} (names : List String) (read : List (Option Node) → Reader α) :
    Node → Reader α :=
  entries fun es => do
    let fields ← es.mapM fun (k, v) => return (← k.text, v)
    read (← names.mapM fun name => uniqueField? name fields)

/-- One of several names. A local tag on nothing stands for its own name. -/
def choice (n : Node) : Reader String := do
  match ← Reader.follow n with
  | .scalar tag style t =>
    match tag.bind Tag.localName? with
    | none => return t
    | some name =>
      if style = .plain && (t = "" || isNullWord t) then return name else Reader.wrong "unit"
  | _ => Reader.wrong "a name"

/-- The value that a name stands for. -/
def named {α : Type} (ofName? : String → Option α) (n : Node) : Reader α := do
  let name ← n.choice
  match ofName? name with
  | some a => return a
  | none => throw (.unknownName name)

end Node
end Rehearsal.Yaml
