/-!
# Maps that keep their order

An `Assoc` is a finite map from texts whose entries keep the order in which their keys came in.
`insert` replaces the value of a key that is there and keeps its place, and puts a new key at the
end. No key stands twice. Main statements: a key that is inserted has its value, and the others have
theirs (`get?_insert`); a key has no value exactly if it is none of the map (`get?_eq_none`).
-/

namespace Rehearsal

namespace Assoc.Entries

/-- The value under a key in a list of entries. -/
def find? {α : Type} (key : String) : List (String × α) → Option α
  | [] => none
  | (k, v) :: es => if k = key then some v else find? key es

/-- Replace the value of a key in its place, or put the key at the end. -/
def put {α : Type} (key : String) (value : α) : List (String × α) → List (String × α)
  | [] => [(key, value)]
  | (k, v) :: es => if k = key then (key, value) :: es else (k, v) :: put key value es

theorem keys_put {α : Type} (key : String) (value : α) (es : List (String × α)) :
    (put key value es).map (·.1)
      = if key ∈ es.map (·.1) then es.map (·.1) else es.map (·.1) ++ [key] := by
  induction es with
  | nil => simp [put]
  | cons e es ih =>
    obtain ⟨k, v⟩ := e
    by_cases h : k = key
    · simp [put, h]
    · simp only [put, h, if_false, List.map_cons, ih, List.mem_cons, Ne.symm h, false_or]
      split <;> rfl

theorem find?_put {α : Type} (key : String) (value : α) (es : List (String × α)) (k : String) :
    find? k (put key value es) = if key = k then some value else find? k es := by
  induction es with
  | nil => simp [put, find?]
  | cons e es ih =>
    obtain ⟨l, v⟩ := e
    by_cases h : l = key
    · subst h
      by_cases hk : l = k <;> simp [put, find?, hk]
    · by_cases hk : l = k
      · subst hk
        simp [put, find?, h, Ne.symm h]
      · simp [put, find?, h, hk, ih]

theorem find?_eq_none {α : Type} {key : String} {es : List (String × α)} :
    find? key es = none ↔ key ∉ es.map (·.1) := by
  induction es with
  | nil => simp [find?]
  | cons e es ih =>
    obtain ⟨k, v⟩ := e
    by_cases h : k = key
    · simp [find?, h]
    · simp only [find?, h, if_false, List.map_cons, List.mem_cons, ih, Ne.symm h, false_or]

end Assoc.Entries

/-- A finite map from texts that keeps the order of its keys. -/
structure Assoc (α : Type) where
  entries : List (String × α) := []
  nodup : (entries.map (·.1)).Nodup := by simp

namespace Assoc

variable {α β : Type}

/-- The map without entries. -/
def empty : Assoc α := {}

instance : Inhabited (Assoc α) := ⟨empty⟩

instance [DecidableEq α] : DecidableEq (Assoc α) := fun a b =>
  if h : a.entries = b.entries then
    isTrue (by cases a; cases b; simp_all)
  else isFalse (fun e => h (congrArg _ e))

theorem ext {a b : Assoc α} (h : a.entries = b.entries) : a = b := by
  cases a; cases b; simp_all

def get? (m : Assoc α) (key : String) : Option α := Entries.find? key m.entries

def contains (m : Assoc α) (key : String) : Bool := (m.get? key).isSome

/-- Replace the value of a key in its place, or put the key at the end. -/
def insert (m : Assoc α) (key : String) (value : α) : Assoc α where
  entries := Entries.put key value m.entries
  nodup := by
    rw [Entries.keys_put]
    split
    · exact m.nodup
    · next h =>
      rw [List.nodup_append]
      refine ⟨m.nodup, by simp, ?_⟩
      intro a ha b hb
      rw [List.mem_singleton] at hb
      exact fun e => h (hb ▸ e ▸ ha)

/-- Take a key out, together with its value. -/
def erase (m : Assoc α) (key : String) : Assoc α where
  entries := m.entries.filter fun e => e.1 ≠ key
  nodup := by
    have : ((m.entries.filter fun e => e.1 ≠ key).map (·.1)).Sublist (m.entries.map (·.1)) :=
      List.filter_sublist.map _
    exact this.nodup m.nodup

def keys (m : Assoc α) : List String := m.entries.map (·.1)

def values (m : Assoc α) : List α := m.entries.map (·.2)

def size (m : Assoc α) : Nat := m.entries.length

def isEmpty (m : Assoc α) : Bool := m.entries.isEmpty

/-- The map after these entries, one after the other. -/
def insertAll (m : Assoc α) (es : List (String × α)) : Assoc α :=
  es.foldl (fun m (k, v) => m.insert k v) m

/-- The map of these entries; a key that comes again replaces the value in its first place. -/
def ofList (es : List (String × α)) : Assoc α := empty.insertAll es

/-- The map with every value changed. -/
def mapValues (f : α → β) (m : Assoc α) : Assoc β where
  entries := m.entries.map fun (k, v) => (k, f v)
  nodup := by simpa [Function.comp_def] using m.nodup

@[simp] theorem get?_empty (key : String) : (empty : Assoc α).get? key = none := rfl

theorem get?_insert (m : Assoc α) (key k : String) (value : α) :
    (m.insert key value).get? k = if key = k then some value else m.get? k :=
  Entries.find?_put key value m.entries k

theorem get?_eq_none {m : Assoc α} {key : String} : m.get? key = none ↔ key ∉ m.keys :=
  Entries.find?_eq_none

end Assoc
end Rehearsal
