import Rehearsal.Path

/-!
# Reading and writing at a path

`get?` and `set?` with the same path are a lens on documents, which is there exactly if the path
leads somewhere. Each law is that of one step, field or item, carried along the path. Main
statement: the laws, and that a write is seen by no path that parts from its own (`set?_lens`).
-/

namespace Rehearsal.Path

/-! ## Fields -/

section
variable {name : String} {new : Json} {fs : List (String × Json)}

/-- A field that is there is read as it was written. -/
theorem field?_replaceField_self (h : (Json.field? name fs).isSome) :
    Json.field? name (replaceField name new fs) = some new := by
  induction fs with
  | nil => simp [Json.field?] at h
  | cons f fs ih =>
    obtain ⟨k, v⟩ := f
    by_cases hk : k = name
    · simp [replaceField, Json.field?, hk]
    · rw [Json.field?, if_neg hk] at h
      rw [replaceField, if_neg hk, Json.field?, if_neg hk, ih h]

/-- A field that is not written stays. -/
theorem field?_replaceField_of_ne {other : String} (h : name ≠ other) :
    Json.field? other (replaceField name new fs) = Json.field? other fs := by
  induction fs with
  | nil => rfl
  | cons f fs ih =>
    obtain ⟨k, v⟩ := f
    by_cases hk : k = name
    · have hother : k ≠ other := hk ▸ h
      rw [replaceField, if_pos hk, Json.field?, if_neg hother, Json.field?, if_neg hother]
    · rw [replaceField, if_neg hk, Json.field?, Json.field?, ih]

/-- Writing what is there changes no field. -/
theorem replaceField_of_field? (h : Json.field? name fs = some new) :
    replaceField name new fs = fs := by
  induction fs with
  | nil => rfl
  | cons f fs ih =>
    obtain ⟨k, v⟩ := f
    by_cases hk : k = name
    · rw [Json.field?, if_pos hk] at h
      cases h
      rw [replaceField, if_pos hk]
    · rw [Json.field?, if_neg hk] at h
      rw [replaceField, if_neg hk, ih h]

/-- Of two writes to one field the second one counts. -/
theorem replaceField_replaceField (later : Json) :
    replaceField name later (replaceField name new fs) = replaceField name later fs := by
  induction fs with
  | nil => rfl
  | cons f fs ih =>
    obtain ⟨k, v⟩ := f
    by_cases hk : k = name
    · simp [replaceField, hk]
    · simp [replaceField, hk, ih]

end

/-! ## One step -/

section
variable {s : Segment} {v w new : Json}

/-- The laws of a field and of an item are those of a step. -/
theorem step?_replaceStep_self (h : (step? s v).isSome) :
    step? s (replaceStep s new v) = some new := by
  cases s with
  | field name =>
    cases v with
    | object fs => exact field?_replaceField_self h
    | _ => cases h
  | index i =>
    cases v with
    | array vs =>
      have hi : i < vs.length := by simpa [step?] using h
      simp [step?, replaceStep, hi]
    | _ => cases h

theorem step?_replaceStep_of_ne {t : Segment} (h : s ≠ t) :
    step? t (replaceStep s new v) = step? t v := by
  cases s with
  | field name =>
    cases v with
    | object fs =>
      cases t with
      | field other => exact field?_replaceField_of_ne fun he => h (congrArg _ he)
      | index j => rfl
    | _ => rfl
  | index i =>
    cases v with
    | array vs =>
      cases t with
      | field other => rfl
      | index j => exact List.getElem?_set_ne fun he => h (congrArg _ he)
    | _ => rfl

theorem replaceStep_of_step? (h : step? s v = some w) : replaceStep s w v = v := by
  cases s with
  | field name =>
    cases v with
    | object fs => exact congrArg Json.object (replaceField_of_field? h)
    | _ => rfl
  | index i =>
    cases v with
    | array vs =>
      obtain ⟨hi, rfl⟩ := List.getElem?_eq_some_iff.1 h
      exact congrArg Json.array (List.set_getElem_self hi)
    | _ => rfl

theorem replaceStep_replaceStep (later : Json) :
    replaceStep s later (replaceStep s new v) = replaceStep s later v := by
  cases s with
  | field name =>
    cases v with
    | object fs => exact congrArg Json.object (replaceField_replaceField later)
    | _ => rfl
  | index i =>
    cases v with
    | array vs => exact congrArg Json.array (List.set_set _)
    | _ => rfl

end

/-! ## Whole paths -/

/-- A write goes one step down, and puts the changed value back. -/
theorem set?_cons_eq_some {s : Segment} {p : List Segment} {new v v' : Json} :
    set? (s :: p) new v = some v'
      ↔ ∃ w w', step? s v = some w ∧ set? p new w = some w' ∧ v' = replaceStep s w' v := by
  simp only [set?, Option.bind_eq_some_iff, Option.map_eq_some_iff]
  constructor
  · rintro ⟨w, hw, w', hw', rfl⟩
    exact ⟨w, w', hw, hw', rfl⟩
  · rintro ⟨w, w', hw, hw', rfl⟩
    exact ⟨w, hw, w', hw', rfl⟩

/-- A place to write to is found where a value is found. -/
theorem isSome_set? (p : List Segment) (new v : Json) :
    (set? p new v).isSome = (get? p v).isSome := by
  induction p generalizing v with
  | nil => rfl
  | cons s p ih =>
    rw [set?, get?]
    cases step? s v with
    | none => rfl
    | some w => simpa using ih w

/-- What was written is read. -/
theorem get?_of_set? {p : List Segment} {new v v' : Json} (h : set? p new v = some v') :
    get? p v' = some new := by
  induction p generalizing v v' with
  | nil => exact h.symm
  | cons s p ih =>
    obtain ⟨w, w', hstep, hset, rfl⟩ := set?_cons_eq_some.1 h
    rw [get?, step?_replaceStep_self (by rw [hstep]; rfl)]
    exact ih hset

/-- Writing what is there changes nothing. -/
theorem set?_of_get? {p : List Segment} {v w : Json} (h : get? p v = some w) :
    set? p w v = some v := by
  induction p generalizing v with
  | nil => exact h.symm
  | cons s p ih =>
    obtain ⟨u, hstep, hget⟩ := Option.bind_eq_some_iff.1 h
    exact set?_cons_eq_some.2 ⟨u, u, hstep, ih hget, (replaceStep_of_step? hstep).symm⟩

/-- Of two writes at one path the second one counts. -/
theorem set?_set? {p : List Segment} {new v v' : Json} (h : set? p new v = some v')
    (later : Json) : set? p later v' = set? p later v := by
  induction p generalizing v v' with
  | nil => rfl
  | cons s p ih =>
    obtain ⟨w, w', hstep, hset, rfl⟩ := set?_cons_eq_some.1 h
    rw [set?, set?, step?_replaceStep_self (by rw [hstep]; rfl), hstep, Option.bind_some,
      Option.bind_some, ih hset]
    exact congrArg (Option.map · _) (funext fun u => replaceStep_replaceStep u)

/-- A path that parts from the one that was written at leads where it led before. -/
theorem get?_set?_of_parted {p q : List Segment} {new v v' : Json} (h : set? p new v = some v')
    (hp : ¬p <+: q) (hq : ¬q <+: p) : get? q v' = get? q v := by
  induction p generalizing q v v' with
  | nil => exact absurd (List.nil_prefix) hp
  | cons s p ih =>
    cases q with
    | nil => exact absurd (List.nil_prefix) hq
    | cons t q =>
      obtain ⟨w, w', hstep, hset, rfl⟩ := set?_cons_eq_some.1 h
      by_cases hst : s = t
      · -- the paths part further on
        subst hst
        simp only [List.cons_prefix_cons, true_and] at hp hq
        rw [get?, get?, step?_replaceStep_self (by rw [hstep]; rfl), hstep]
        exact ih hset hp hq
      · rw [get?, get?, step?_replaceStep_of_ne hst]

/-- Reading and writing at a path are a lens: there is a place to write to exactly if there is a
value to read, what was written is read, writing what is there changes nothing, and of two writes
the second one counts. Paths that part from the one that was written at, none being the beginning of
the other, lead where they led before, or nowhere as before. -/
theorem set?_lens (p : List Segment) (document : Json) :
    (∀ new, (set? p new document).isSome = (get? p document).isSome)
      ∧ (∀ value, get? p document = some value → set? p value document = some document)
      ∧ ∀ new written, set? p new document = some written →
        get? p written = some new
        ∧ (∀ later, set? p later written = set? p later document)
        ∧ ∀ q, ¬p <+: q → ¬q <+: p → get? q written = get? q document := by
  refine ⟨fun new => isSome_set? p new document, fun value => set?_of_get?, ?_⟩
  intro new written h
  exact ⟨get?_of_set? h, set?_set? h, fun q => get?_set?_of_parted h⟩

/-- A document with a field next to an array. -/
def mixed (inner : Json) : Json :=
  .object [("a", .array [.bool true, .object [("b", inner)]]), ("c", .text "x")]

/-- A field of an item is written, and neither the item beside it nor a path that leads nowhere sees
it. -/
theorem set?_lens_mixed :
    set? [.field "a", .index 1, .field "b"] (.text "y") (mixed .null) = some (mixed (.text "y"))
      ∧ get? [.field "a", .index 1, .field "b"] (mixed (.text "y")) = some (.text "y")
      ∧ set? [.field "a", .index 1, .field "b"] .null (mixed (.text "y")) = some (mixed .null)
      ∧ get? [.field "a", .index 0] (mixed (.text "y")) = get? [.field "a", .index 0] (mixed .null)
      ∧ get? [.field "a", .field "b"] (mixed (.text "y"))
        = get? [.field "a", .field "b"] (mixed .null) := by
  have hset : ∀ new, set? [.field "a", .index 1, .field "b"] new (mixed .null)
      = some (mixed new) := by
    intro new
    simp [mixed, set?, step?, Json.field?, replaceStep, replaceField]
  obtain ⟨-, hkeep, hwrite⟩ := set?_lens [.field "a", .index 1, .field "b"] (mixed .null)
  obtain ⟨hget, hagain, hparted⟩ := hwrite (.text "y") _ (hset (.text "y"))
  refine ⟨hset (.text "y"), hget, ?_, hparted _ (by decide) (by decide),
    hparted _ (by decide) (by decide)⟩
  rw [hagain]
  exact hset .null

end Rehearsal.Path
