import Rehearsal.Double.Decimal
import Rehearsal.Yaml.Shape

/-!
# YAML values by their own form

Where it is not known in advance what is needed, a scalar has the form that it is written in: a
plain one is nothing, a truth value, a number or a text, and any other one is a text unless its tag
says otherwise. The readers of a `Yaml.Value` take nothing but the form that they need. A record may
also be a sequence of the values of its fields in their order.
-/

namespace Rehearsal.Yaml

/-- A value with a form of its own. -/
inductive Value
  | unit
  | bool (b : Bool)
  /-- A whole number below `2 ^ 64`. -/
  | whole (n : Nat)
  /-- The negation of a number up to `2 ^ 63`, which may be zero. -/
  | negative (n : Nat)
  | double (d : Double)
  | text (s : String)
  | sequence (items : List Value)
  | mapping (entries : List (Value × Value))

/-! ### Forms of scalars -/

/-- The number that a plain scalar is written as, if its digits make one of 128 bits; one of more
than 64 bits is refused. -/
def wholeValue? (t : String) : Option (Except Fault Value) :=
  let tooWide : Except Fault Value := .error (.form "a number of 64 bits")
  match t.toList with
  | '-' :: r =>
    (basedDigits? r).bind fun n =>
      if n ≤ 1 <<< 63 then some (.ok (.negative n))
      else if n ≤ 1 <<< 127 then some tooWide
      else none
  | cs =>
    (magnitude? cs).bind fun n =>
      if n < 1 <<< 64 then some (.ok (.whole n))
      else if n < 1 <<< 128 then some tooWide
      else none

/-- The double that a plain scalar is written as. -/
def doubleValue? (t : String) : Option Double :=
  let unsigned : Option (List Char) := match t.toList with
    | '+' :: '+' :: _ => none
    | '+' :: '-' :: _ => none
    | '+' :: r => some r
    | r => some r
  unsigned.bind fun cs =>
    let u := String.ofList cs
    if u = ".inf" || u = ".Inf" || u = ".INF" then some (.infinity false)
    else if t = "-.inf" || t = "-.Inf" || t = "-.INF" then some (.infinity true)
    else if t = ".nan" || t = ".NaN" || t = ".NAN" then some .nan
    else (Double.read? u).filter (·.isFinite)

/-- The form that a plain scalar is written in. -/
def plainValue (t : String) : Except Fault Value :=
  if t = "" || isNullWord t then .ok .unit
  else
    match truth? t, wholeValue? t with
    | some b, _ => .ok (.bool b)
    | none, some v => v
    | none, none =>
      if isPaddedNumber t.toList then .ok (.text t)
      else .ok ((doubleValue? t).elim (.text t) .double)

/-- The form of a scalar under a tag. -/
def taggedValue (tag : Tag) (style : Style) (t : String) : Except Fault Value :=
  if tag = Tag.standard "bool" then
    (truth? t).elim (.error (.form "a boolean")) fun b => .ok (.bool b)
  else if tag = Tag.standard "int" then (wholeValue? t).getD (.error (.form "an integer"))
  else if tag = Tag.standard "float" then
    (doubleValue? t).elim (.error (.form "a float")) fun d => .ok (.double d)
  else if tag = Tag.standard "null" then
    if isNullWord t then .ok .unit else .error (.form "null")
  else if tag.hasMark && style = .plain then plainValue t
  else .ok (.text t)

/-- The form of a scalar. -/
def scalarValue (tag : Option Tag) (style : Style) (t : String) : Except Fault Value :=
  match tag with
  | some tag => taggedValue tag style t
  | none => if style = .plain then plainValue t else .ok (.text t)

namespace Node

/-- A local tag says of a value that it has a form that nobody knows. -/
def refuseLocal (tag : Option Tag) : Except Fault Unit :=
  if (tag.bind Tag.localName?).isSome then .error (.form "a value without a local tag") else .ok ()

/-- The form of a value with collections up to a depth. -/
def valueWithin : (depth : Nat) → Node → Reader Value
  | depth, n => do
    match depth, ← Reader.follow n with
    | _, .scalar tag style t =>
      refuseLocal tag
      scalarValue tag style t
    | depth + 1, .sequence tag items =>
      refuseLocal tag
      return .sequence (← items.mapM (valueWithin depth))
    | depth + 1, .mapping tag entries =>
      refuseLocal tag
      return .mapping (← entries.mapM fun (k, v) => do
        let k ← valueWithin depth k
        return (k, ← valueWithin depth v))
    | _, _ => throw .tooDeep

/-- The form of a value. -/
def value (n : Node) : Reader Value := do n.valueWithin (← read).depth

end Node

namespace Value

/-! ### Readers -/

def toText : Value → Except Fault String
  | .text s => .ok s
  | _ => .error (.form "a string")

def toNatural : Value → Except Fault Nat
  | .whole n => .ok n
  | .negative 0 => .ok 0
  | _ => .error (.form "u64")

def toOption {α : Type} (read : Value → Except Fault α) : Value → Except Fault (Option α)
  | .unit => .ok none
  | v => (read v).map some

def toList {α : Type} (read : Value → Except Fault α) : Value → Except Fault (List α)
  | .sequence items => items.mapM read
  | _ => .error (.form "a sequence")

/-- A mapping from texts; a key that comes again replaces the value in its first place. -/
def toAssoc {α : Type} (read : Value → Except Fault α) : Value → Except Fault (Assoc α)
  | .mapping es => do
    let es ← es.mapM fun (k, v) => do
      let k ← k.toText
      return (k, ← read v)
    return .ofList es
  | _ => .error (.form "a map")

/-- Which of several names this is: a text, or the number of the name. -/
def toName (names : List String) : Value → Except Fault String
  | .text s => .ok s
  | .whole n => (names[n]?).elim (.error (.form "the number of a name")) .ok
  | _ => .error (.form "a name")

/-- One of several names, which may stand as the only key over nothing. -/
def toNamed {α : Type} (names : List String) (ofName? : String → Option α) (v : Value) :
    Except Fault α := do
  let name ←
    match v with
    | .mapping [(k, .unit)] | .mapping [(k, .mapping [])] => k.toName names
    | v => v.toText
  match ofName? name with
  | some a => return a
  | none => throw (.unknownName name)

/-- The name of a field as a key: a text, or the number of the field; other numbers name none. -/
def fieldName (names : List String) : Value → Except Fault String
  | .text s => .ok s
  | .whole n => .ok ((names[n]?).getD "")
  | _ => .error (.form "the name of a field")

/-- The fields of a record with these names, in this order. -/
def toRecord (names : List String) : Value → Except Fault (List (Option Value))
  | .mapping es => do
    let fields ← es.mapM fun (k, v) => return (← k.fieldName names, v)
    names.mapM fun name => uniqueField? name fields
  | .sequence items =>
    if items.length ≤ names.length then
      .ok (items.map some ++ List.replicate (names.length - items.length) none)
    else .error (.form "fewer elements")
  | _ => .error (.form "a record")

mutual
/-- The JSON value of this form; what JSON has no number for is null. -/
def toJson : Value → Except Fault Json
  | .unit => .ok .null
  | .bool b => .ok (.bool b)
  | .whole n => .ok (Json.ofNat n)
  | .negative n => .ok (if n = 0 then Json.ofNat 0 else Json.ofMagnitude true n)
  | .double d => .ok (Json.ofDouble d)
  | .text s => .ok (.text s)
  | .sequence items => (itemsToJson items).map .array
  | .mapping es => (entriesToJson es).map Json.ofFields

def itemsToJson : List Value → Except Fault (List Json)
  | [] => .ok []
  | v :: vs => do
    let v ← toJson v
    return v :: (← itemsToJson vs)

def entriesToJson : List (Value × Value) → Except Fault (List (String × Json))
  | [] => .ok []
  | (k, v) :: es => do
    let k ← k.toText
    let v ← toJson v
    return (k, v) :: (← entriesToJson es)
end

end Value
end Rehearsal.Yaml
