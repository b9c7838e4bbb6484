import Rehearsal.Double.Shortest

/-!
# JSON values

Numbers come in three classes, which are never mixed up: whole numbers and negative whole numbers
of 64 bits, and finite doubles. An object is a list of fields. `normalize` brings every object of a
value into its normal form, in which the keys stand in strictly increasing order and of fields with
one key the last has won; `same` is equality of normal values, and tells the two zeros not apart.
-/

namespace Rehearsal

/-- A JSON number: a whole number below `2 ^ 64`, the negation of a positive one up to `2 ^ 63`,
or a finite double. -/
inductive Json.Number
  | whole (n : Nat) (fits : n < 1 <<< 64)
  | negative (n : Nat) (fits : 0 < n ∧ n ≤ 1 <<< 63)
  | double (d : Double) (finite : d.isFinite = true)
  deriving DecidableEq

inductive Json
  | null
  | bool (b : Bool)
  | number (n : Json.Number)
  | text (s : String)
  | array (items : List Json)
  | object (fields : List (String × Json))

namespace Json

instance : Inhabited Json := ⟨null⟩

/-- Equality of numbers: the class counts, the sign of a zero does not. -/
def Number.same : Number → Number → Bool
  | .whole m _, .whole n _ => m == n
  | .negative m _, .negative n _ => m == n
  | .double a _, .double b _ => a.same b
  | _, _ => false

mutual
/-- Equality of values in normal form. -/
def same : Json → Json → Bool
  | .null, .null => true
  | .bool a, .bool b => a == b
  | .number a, .number b => a.same b
  | .text a, .text b => a == b
  | .array as, .array bs => sameItems as bs
  | .object as, .object bs => sameFields as bs
  | _, _ => false

def sameItems : List Json → List Json → Bool
  | [], [] => true
  | a :: as, b :: bs => same a b && sameItems as bs
  | _, _ => false

def sameFields : List (String × Json) → List (String × Json) → Bool
  | [], [] => true
  | (k, a) :: as, (l, b) :: bs => k == l && same a b && sameFields as bs
  | _, _ => false
end

/-! ### Fields -/

/-- The value under a key. -/
def field? (key : String) : List (String × Json) → Option Json
  | [] => none
  | (k, v) :: fs => if k = key then some v else field? key fs

/-- Put a field into a list sorted by key; a field with this key gives way. -/
def insertField (key : String) (value : Json) : List (String × Json) → List (String × Json)
  | [] => [(key, value)]
  | (k, v) :: fs =>
    if key < k then (key, value) :: (k, v) :: fs
    else if key = k then (key, value) :: fs
    else (k, v) :: insertField key value fs

/-- The normal form of a list of fields: sorted by key, the last field with a key kept. -/
def sortFields (fs : List (String × Json)) : List (String × Json) :=
  fs.foldl (fun acc (k, v) => insertField k v acc) []

mutual
/-- The value with every object in normal form. -/
def normalize : Json → Json
  | .array items => .array (normalizeItems items)
  | .object fields => .object (sortFields (normalizeFields fields))
  | v => v

def normalizeItems : List Json → List Json
  | [] => []
  | v :: vs => normalize v :: normalizeItems vs

def normalizeFields : List (String × Json) → List (String × Json)
  | [] => []
  | (k, v) :: fs => (k, normalize v) :: normalizeFields fs
end

mutual
/-- Every object in the value has its keys in strictly increasing order. -/
def IsNormal : Json → Prop
  | .array items => ItemsNormal items
  | .object fields => (fields.map (·.1)).Pairwise (· < ·) ∧ FieldsNormal fields
  | _ => True

def ItemsNormal : List Json → Prop
  | [] => True
  | v :: vs => IsNormal v ∧ ItemsNormal vs

def FieldsNormal : List (String × Json) → Prop
  | [] => True
  | (_, v) :: fs => IsNormal v ∧ FieldsNormal fs
end

/-! ### Numbers -/

/-- The value of a natural number: a whole number where it fits 64 bits, else a double. -/
def ofNat (n : Nat) : Json :=
  if h : n < 1 <<< 64 then .number (.whole n h)
  else
    let d := Double.ofRatio false n 1
    if hd : d.isFinite = true then .number (.double d hd) else .null

/-- The value of a double; what is not finite has none and is null. -/
def ofDouble (d : Double) : Json :=
  if h : d.isFinite = true then .number (.double d h) else .null

/-- The value of a whole number with a sign. Zero with a minus sign is a double. -/
def ofMagnitude (negative : Bool) (n : Nat) : Json :=
  if negative then
    if h : 0 < n ∧ n ≤ 1 <<< 63 then .number (.negative n h)
    else ofDouble (Double.ofRatio true n 1)
  else ofNat n

/-- An object of these fields, in normal form as far as the fields' values are. -/
def ofFields (fs : List (String × Json)) : Json := .object (sortFields fs)

/-! ### Looking inside -/

def text? : Json → Option String
  | .text s => some s
  | _ => none

def items? : Json → Option (List Json)
  | .array vs => some vs
  | _ => none

/-- The field of an object; other values have none. -/
def get? (key : String) : Json → Option Json
  | .object fs => field? key fs
  | _ => none

end Json
end Rehearsal
