import Rehearsal.Proofs.Draw
import Rehearsal.Proofs.Json.Equality
import Rehearsal.Proofs.Json.Normal
import Rehearsal.Validation

/-!
# Conformance of documents

A received document conforms to an expected one if both have the same shape and the same values,
where a text of the expected document that is a matcher expression stands for every value that its
matcher accepts. The arguments of a matcher are templates and may take random numbers, so that
conformance says which ones are left. Main statements: holding a document against another one
succeeds exactly if it conforms (`checkJson_eq_ok_iff`), and where no text of the expected document
is a matcher expression, exactly if the two are equal (`conforms_iff_same`).
-/

namespace Rehearsal

namespace Json

/-! ## Fields -/

/-- A key is among those of the fields exactly if a value is found under it. -/
theorem mem_keys_iff {key : String} {fs : List (String × Json)} :
    key ∈ fs.map (·.1) ↔ ∃ v, field? key fs = some v := by
  induction fs with
  | nil => simp [field?]
  | cons f fs ih =>
    obtain ⟨k, v⟩ := f
    by_cases hk : k = key
    · simp [field?, hk]
    · simp only [field?, hk, if_false, List.map_cons, List.mem_cons, Ne.symm hk, false_or, ih]

/-- Two lists of fields have the same set of keys. -/
def SameKeys (es fs : List (String × Json)) : Prop := ∀ k, k ∈ es.map (·.1) ↔ k ∈ fs.map (·.1)

/-- A field more on one side is a key more. -/
theorem not_sameKeys_nil_cons {f : String × Json} {fs : List (String × Json)} :
    ¬SameKeys [] (f :: fs) := fun h => List.not_mem_nil ((h f.1).2 List.mem_cons_self)

theorem not_sameKeys_cons_nil {e : String × Json} {es : List (String × Json)} :
    ¬SameKeys (e :: es) [] := fun h => List.not_mem_nil ((h e.1).1 List.mem_cons_self)

/-- Two sorted lists with the same keys begin with the same key. -/
theorem SameKeys.head_eq {k l : String} {e v : Json} {es fs : List (String × Json)}
    (h : SameKeys ((k, e) :: es) ((l, v) :: fs)) (he : KeysSorted ((k, e) :: es))
    (hf : KeysSorted ((l, v) :: fs)) : k = l := by
  have hk : k = l ∨ k ∈ fs.map (·.1) := List.mem_cons.1 ((h k).1 List.mem_cons_self)
  have hl : l = k ∨ l ∈ es.map (·.1) := List.mem_cons.1 ((h l).2 List.mem_cons_self)
  rcases hk with hk | hk
  · exact hk
  · rcases hl with hl | hl
    · exact hl.symm
    · -- each of the two keys would be smaller than the other one
      have hlk : l < k := (List.pairwise_cons.1 hf).1 k hk
      exact absurd hlk (String.lt_asymm ((List.pairwise_cons.1 he).1 l hl))

/-- With sorted keys, equal sets of keys are compared from the front. -/
theorem sameKeys_cons_iff {k l : String} {e v : Json} {es fs : List (String × Json)}
    (he : KeysSorted ((k, e) :: es)) (hf : KeysSorted ((l, v) :: fs)) :
    SameKeys ((k, e) :: es) ((l, v) :: fs) ↔ k = l ∧ SameKeys es fs := by
  constructor
  · intro h
    obtain rfl := h.head_eq he hf
    refine ⟨rfl, fun x => ⟨fun hx => ?_, fun hx => ?_⟩⟩
    · rcases List.mem_cons.1 ((h x).1 (List.mem_cons_of_mem k hx)) with rfl | hx'
      · exact absurd hx he.not_mem
      · exact hx'
    · rcases List.mem_cons.1 ((h x).2 (List.mem_cons_of_mem k hx)) with rfl | hx'
      · exact absurd hx hf.not_mem
      · exact hx'
  · rintro ⟨rfl, h⟩ x
    rw [List.map_cons, List.map_cons, List.mem_cons, List.mem_cons, h x]

/-- A text is equal to itself only, also where numbers are compared by value. -/
theorem same_text_iff {t : String} {v : Json} : (text t).same v = true ↔ v = text t := by
  cases v with
  | text u =>
    rw [same, beq_iff_eq, text.injEq]
    exact eq_comm
  | _ => simp [same]

mutual
/-- No text in the value is a matcher expression. -/
def IsLiteral : Json → Prop
  | .text t => Matcher.isExpression t = false
  | .array items => ItemsLiteral items
  | .object fields => FieldsLiteral fields
  | _ => True

def ItemsLiteral : List Json → Prop
  | [] => True
  | v :: vs => IsLiteral v ∧ ItemsLiteral vs

def FieldsLiteral : List (String × Json) → Prop
  | [] => True
  | (_, v) :: fs => IsLiteral v ∧ FieldsLiteral fs
end

end Json

namespace Scope

/-! ## Conformance -/

/-- The matcher that an expression names accepts the value of a field, with the texts that the
arguments of the expression stand for. -/
def Accepts (s : Scope) (field value expression : String) (fresh fresh' : Fresh) : Prop :=
  ∃ call matcher control, Matcher.parse expression = .ok call
    ∧ s.matchers.lookup? call.qualifier call.name = some matcher
    ∧ (s.resolveAll (call.args.map String.ofList)).run fresh = .ok (control, fresh')
    ∧ matcher field value control = .ok ()

mutual
/-- A value that was received, at a path, conforms to an expected one. The matchers in the expected
value take their random numbers in the order of the document. -/
inductive Conforms (s : Scope) : String → Json → Json → Fresh → Fresh → Prop
  /-- A matcher expression stands for every value whose text its matcher accepts. -/
  | matcher {path e : String} {actual : Json} {fresh fresh' : Fresh}
      (he : Matcher.isExpression e = true) (h : s.Accepts path actual.plain e fresh fresh') :
      Conforms s path (.text e) actual fresh fresh'
  | text {path t : String} {fresh : Fresh} (ht : Matcher.isExpression t = false) :
      Conforms s path (.text t) (.text t) fresh fresh
  | null {path : String} {fresh : Fresh} : Conforms s path .null .null fresh fresh
  | bool {path : String} {b : Bool} {fresh : Fresh} :
      Conforms s path (.bool b) (.bool b) fresh fresh
  /-- As numbers the two zeros are equal. -/
  | number {path : String} {m n : Json.Number} {fresh : Fresh} (h : m.unsigned = n.unsigned) :
      Conforms s path (.number m) (.number n) fresh fresh
  /-- Objects have the same set of keys, and conform key by key. -/
  | object {path : String} {es fs : List (String × Json)} {fresh fresh' : Fresh}
      (hkeys : Json.SameKeys es fs)
      (h : FieldsConform s path es fs fresh fresh') :
      Conforms s path (.object es) (.object fs) fresh fresh'
  /-- Arrays have the same length, and conform item by item. -/
  | array {path : String} {es vs : List Json} {fresh fresh' : Fresh}
      (hlength : es.length = vs.length) (h : ItemsConform s path 0 es vs fresh fresh') :
      Conforms s path (.array es) (.array vs) fresh fresh'

/-- What is received under the key of each of some expected fields conforms to it. -/
inductive FieldsConform (s : Scope) : String → List (String × Json) → List (String × Json) →
    Fresh → Fresh → Prop
  | nil {path : String} {fs : List (String × Json)} {fresh : Fresh} :
      FieldsConform s path [] fs fresh fresh
  | cons {path k : String} {e v : Json} {es fs : List (String × Json)}
      {fresh fresh' fresh'' : Fresh} (hk : Json.field? k fs = some v)
      (hv : Conforms s (fieldPath path k) e v fresh fresh')
      (hrest : FieldsConform s path es fs fresh' fresh'') :
      FieldsConform s path ((k, e) :: es) fs fresh fresh''

/-- Items that are received, from a place of an array on, conform to expected ones. -/
inductive ItemsConform (s : Scope) : String → Nat → List Json → List Json → Fresh → Fresh → Prop
  | nil {path : String} {i : Nat} {fresh : Fresh} : ItemsConform s path i [] [] fresh fresh
  | cons {path : String} {i : Nat} {e v : Json} {es vs : List Json}
      {fresh fresh' fresh'' : Fresh} (hv : Conforms s (itemPath path i) e v fresh fresh')
      (hrest : ItemsConform s path (i + 1) es vs fresh' fresh'') :
      ItemsConform s path i (e :: es) (v :: vs) fresh fresh''
end

variable {s : Scope} {path : String} {fresh fresh' : Fresh}

/-! ## The checks of one value -/

theorem run_mismatch_ne_ok {α : Type} {m : Mismatch} {r : α × Fresh} :
    (mismatch m : Draw α).run fresh ≠ .ok r := nofun

/-- A matcher is found if a library has it. -/
theorem matcher?_eq_ok {qualifier name : String} {m : Matcher} :
    s.matcher? qualifier name = .ok m ↔ s.matchers.lookup? qualifier name = some m := by
  unfold matcher?
  cases s.matchers.lookup? qualifier name <;> simp

/-- A matcher expression is judged to hold exactly if its matcher accepts. -/
theorem judge_eq_ok_iff {field value expression : String} :
    (s.judge field value expression).run fresh = .ok ((), fresh')
      ↔ s.Accepts field value expression fresh fresh' := by
  simp only [judge, Accepts, Draw.run_bind_eq_ok, Draw.run_liftM_eq_ok, matcher?_eq_ok]
  constructor
  · rintro ⟨call, _, ⟨hcall, rfl⟩, matcher, _, ⟨hm, rfl⟩, control, fresh₁, hcontrol, hv, rfl⟩
    exact ⟨call, matcher, control, hcall, hm, hcontrol, hv⟩
  · rintro ⟨call, matcher, control, hcall, hm, hcontrol, hv⟩
    exact ⟨call, fresh, ⟨hcall, rfl⟩, matcher, fresh, ⟨hm, rfl⟩, control, fresh', hcontrol, hv, rfl⟩

/-- Comparing two values takes no random numbers. -/
theorem checkEqual_eq_ok_iff {expected actual : Json} :
    (checkEqual path expected actual).run fresh = .ok ((), fresh')
      ↔ expected.same actual = true ∧ fresh' = fresh := by
  unfold checkEqual
  split
  · next h =>
    show Except.ok ((), fresh) = Except.ok ((), fresh') ↔ _
    simp [h, eq_comm]
  · next h => simp [h, run_mismatch_ne_ok]

/-- No received field is one too many exactly if all keys that are received are expected. -/
theorem extraKey?_eq_none {es fs : List (String × Json)} :
    extraKey? es fs = none ↔ ∀ k ∈ fs.map (·.1), k ∈ es.map (·.1) := by
  rw [extraKey?, Option.map_eq_none_iff, List.find?_eq_none, List.forall_mem_map]
  refine forall₂_congr fun f _ => ?_
  rw [Json.mem_keys_iff, Bool.not_eq_true, Option.isNone_eq_false_iff, Option.isSome_iff_exists]

/-- A value that is neither a text nor a container that is met by one of its kind conforms exactly
to an equal one. -/
theorem conforms_iff_of_apart {expected actual : Json} (ht : ∀ e, expected ≠ .text e)
    (ho : ∀ es fs, expected = .object es → actual ≠ .object fs)
    (ha : ∀ es vs, expected = .array es → actual ≠ .array vs) :
    s.Conforms path expected actual fresh fresh'
      ↔ expected.same actual = true ∧ fresh' = fresh := by
  constructor
  · intro h
    -- the remaining constructors are about texts and containers
    cases h with
    | matcher => exact absurd rfl (ht _)
    | text => exact absurd rfl (ht _)
    | null => exact ⟨rfl, rfl⟩
    | bool => exact ⟨by simp [Json.same], rfl⟩
    | number h => exact ⟨Json.Number.same_iff_unsigned_eq.2 h, rfl⟩
    | object => exact absurd rfl (ho _ _ rfl)
    | array => exact absurd rfl (ha _ _ rfl)
  · rintro ⟨h, rfl⟩
    -- only values of one kind are equal, and of those no containers are left
    cases expected <;> cases actual <;> simp only [Json.same, Bool.false_eq_true] at h
    · exact .null
    · rw [beq_iff_eq] at h
      exact h ▸ .bool
    · exact .number (Json.Number.same_iff_unsigned_eq.1 h)
    · exact absurd rfl (ht _)
    · exact absurd rfl (ha _ _ rfl)
    · exact absurd rfl (ho _ _ rfl)

/-- An expected text stands for itself, unless it is a matcher expression. -/
theorem conforms_text_iff {e : String} {actual : Json} :
    s.Conforms path (.text e) actual fresh fresh'
      ↔ if Matcher.isExpression e then s.Accepts path actual.plain e fresh fresh'
        else actual = .text e ∧ fresh' = fresh := by
  constructor
  · intro h
    cases h with
    | matcher he h => rwa [if_pos he]
    | text ht => simp [ht]
  · intro h
    split at h
    · next he => exact .matcher he h
    · next he =>
      obtain ⟨rfl, rfl⟩ := h
      exact .text (by simpa using he)

/-- Objects conform by their keys and then by their fields. -/
theorem conforms_object_iff {es fs : List (String × Json)} :
    s.Conforms path (.object es) (.object fs) fresh fresh'
      ↔ Json.SameKeys es fs ∧ s.FieldsConform path es fs fresh fresh' := by
  constructor
  · intro h
    cases h with
    | object hkeys h => exact ⟨hkeys, h⟩
  · rintro ⟨hkeys, h⟩
    exact .object hkeys h

/-- Arrays conform by their lengths and then by their items. -/
theorem conforms_array_iff {es vs : List Json} :
    s.Conforms path (.array es) (.array vs) fresh fresh'
      ↔ es.length = vs.length ∧ s.ItemsConform path 0 es vs fresh fresh' := by
  constructor
  · intro h
    cases h with
    | array hlength h => exact ⟨hlength, h⟩
  · rintro ⟨hlength, h⟩
    exact .array hlength h

theorem fieldsConform_nil_iff {fs : List (String × Json)} :
    s.FieldsConform path [] fs fresh fresh' ↔ fresh' = fresh := by
  constructor
  · intro h
    cases h
    rfl
  · rintro rfl
    exact .nil

/-- The first expected field conforms to what is found under its key, and the others after it. -/
theorem fieldsConform_cons_iff {k : String} {e : Json} {es fs : List (String × Json)} :
    s.FieldsConform path ((k, e) :: es) fs fresh fresh'
      ↔ ∃ v, Json.field? k fs = some v ∧ ∃ fresh₁, s.Conforms (fieldPath path k) e v fresh fresh₁
        ∧ s.FieldsConform path es fs fresh₁ fresh' := by
  constructor
  · intro h
    cases h with
    | cons hk hv hrest => exact ⟨_, hk, _, hv, hrest⟩
  · rintro ⟨v, hk, fresh₁, hv, hrest⟩
    exact .cons hk hv hrest

theorem itemsConform_nil_iff {i : Nat} :
    s.ItemsConform path i [] [] fresh fresh' ↔ fresh' = fresh := by
  constructor
  · intro h
    cases h
    rfl
  · rintro rfl
    exact .nil

/-- The first items conform, and the others after them. -/
theorem itemsConform_cons_iff {i : Nat} {e v : Json} {es vs : List Json} :
    s.ItemsConform path i (e :: es) (v :: vs) fresh fresh'
      ↔ ∃ fresh₁, s.Conforms (itemPath path i) e v fresh fresh₁
        ∧ s.ItemsConform path (i + 1) es vs fresh₁ fresh' := by
  constructor
  · intro h
    cases h with
    | cons hv hrest => exact ⟨_, hv, hrest⟩
  · rintro ⟨fresh₁, hv, hrest⟩
    exact .cons hv hrest

/-- Fields that conform have all been received. -/
theorem mem_keys_of_fieldsConform {es fs : List (String × Json)} {fresh fresh' : Fresh}
    (h : s.FieldsConform path es fs fresh fresh') :
    ∀ k ∈ es.map (·.1), k ∈ fs.map (·.1) := by
  induction es generalizing fresh with
  | nil => simp
  | cons e es ih =>
    obtain ⟨v, hk, fresh₁, -, hrest⟩ := fieldsConform_cons_iff.1 h
    intro k hmem
    rcases List.mem_cons.1 hmem with rfl | hmem
    · exact Json.mem_keys_iff.2 ⟨v, hk⟩
    · exact ih hrest k hmem

/-! ## The checks of documents -/

/-- Where neither of the first three ways to check a value applies, the values are compared. -/
theorem checkJson_eq_ok_iff_of_apart {expected actual : Json} (ht : ∀ e, expected ≠ .text e)
    (ho : ∀ es fs, expected = .object es → actual ≠ .object fs)
    (ha : ∀ es vs, expected = .array es → actual ≠ .array vs) :
    (s.checkJson path expected actual).run fresh = .ok ((), fresh')
      ↔ s.Conforms path expected actual fresh fresh' := by
  rw [conforms_iff_of_apart ht ho ha, checkJson.eq_4 s path expected actual ht ho ha,
    checkEqual_eq_ok_iff]

mutual
/-- Holding a document against an expected one succeeds exactly if it conforms. -/
theorem checkJson_eq_ok_iff (s : Scope) : ∀ (path : String) (expected actual : Json)
    (fresh fresh' : Fresh), (s.checkJson path expected actual).run fresh = .ok ((), fresh')
      ↔ s.Conforms path expected actual fresh fresh'
  | path, .text e, actual, fresh, fresh' => by
    rw [checkJson, conforms_text_iff]
    split
    · exact judge_eq_ok_iff
    · rw [checkEqual_eq_ok_iff]
      exact and_congr_left fun _ => Json.same_text_iff
  | path, .object es, .object fs, fresh, fresh' => by
    rw [checkJson, conforms_object_iff]
    split
    · next key hkey =>
      -- a key that is not expected keeps the two sets of keys apart
      have hextra : ¬∀ k ∈ fs.map (·.1), k ∈ es.map (·.1) := by
        rw [← extraKey?_eq_none, hkey]
        exact Option.some_ne_none key
      exact iff_of_false run_mismatch_ne_ok fun h => hextra fun k hk => (h.1 k).2 hk
    · next hnone =>
      rw [checkFields_eq_ok_iff]
      refine ⟨fun h => ⟨fun k => ⟨?_, ?_⟩, h⟩, And.right⟩
      · exact mem_keys_of_fieldsConform h k
      · exact extraKey?_eq_none.1 hnone k
  | path, .array es, .array vs, fresh, fresh' => by
    rw [checkJson, conforms_array_iff]
    split
    · next hlen => exact iff_of_false run_mismatch_ne_ok fun h => hlen h.1
    · next hlen =>
      have hlen : es.length = vs.length := Decidable.not_not.1 hlen
      rw [checkItems_eq_ok_iff s path 0 es vs fresh fresh' hlen, and_iff_right hlen]
  | path, .object es, .null, fresh, fresh' | path, .object es, .bool _, fresh, fresh'
  | path, .object es, .number _, fresh, fresh' | path, .object es, .text _, fresh, fresh'
  | path, .object es, .array _, fresh, fresh' | path, .array es, .null, fresh, fresh'
  | path, .array es, .bool _, fresh, fresh' | path, .array es, .number _, fresh, fresh'
  | path, .array es, .text _, fresh, fresh' | path, .array es, .object _, fresh, fresh'
  | path, .null, actual, fresh, fresh' | path, .bool _, actual, fresh, fresh'
  | path, .number _, actual, fresh, fresh' => by
    exact checkJson_eq_ok_iff_of_apart (by simp) (by simp) (by simp)

theorem checkFields_eq_ok_iff (s : Scope) : ∀ (path : String) (es fs : List (String × Json))
    (fresh fresh' : Fresh), (s.checkFields path es fs).run fresh = .ok ((), fresh')
      ↔ s.FieldsConform path es fs fresh fresh'
  | path, [], fs, fresh, fresh' => by
    show Except.ok ((), fresh) = Except.ok ((), fresh') ↔ _
    simp [fieldsConform_nil_iff, eq_comm]
  | path, (k, e) :: es, fs, fresh, fresh' => by
    rw [checkFields, fieldsConform_cons_iff]
    split
    · next hk =>
      refine iff_of_false run_mismatch_ne_ok ?_
      simp [hk]
    · next v hk =>
      simp only [Draw.run_bind_eq_ok, checkJson_eq_ok_iff s _ e, checkFields_eq_ok_iff s path es,
        hk, Option.some.injEq, exists_eq_left']
      exact ⟨fun ⟨_, fresh₁, hv, hrest⟩ => ⟨fresh₁, hv, hrest⟩,
        fun ⟨fresh₁, hv, hrest⟩ => ⟨(), fresh₁, hv, hrest⟩⟩

theorem checkItems_eq_ok_iff (s : Scope) : ∀ (path : String) (i : Nat) (es vs : List Json)
    (fresh fresh' : Fresh), es.length = vs.length →
      ((s.checkItems path i es vs).run fresh = .ok ((), fresh')
        ↔ s.ItemsConform path i es vs fresh fresh')
  | path, i, [], vs, fresh, fresh', h => by
    obtain rfl : vs = [] := List.length_eq_zero_iff.1 h.symm
    rw [checkItems.eq_2 s path i [] [] (by simp), itemsConform_nil_iff]
    show Except.ok ((), fresh) = Except.ok ((), fresh') ↔ _
    simp [eq_comm]
  | path, i, e :: es, v :: vs, fresh, fresh', h => by
    have h : es.length = vs.length := Nat.succ.inj h
    rw [checkItems, itemsConform_cons_iff, Draw.run_bind_eq_ok]
    simp only [checkJson_eq_ok_iff s _ e]
    constructor
    · rintro ⟨_, fresh₁, hv, hrest⟩
      exact ⟨fresh₁, hv, (checkItems_eq_ok_iff s path (i + 1) es vs _ _ h).1 hrest⟩
    · rintro ⟨fresh₁, hv, hrest⟩
      exact ⟨(), fresh₁, hv, (checkItems_eq_ok_iff s path (i + 1) es vs _ _ h).2 hrest⟩
end

/-! ## Documents without matchers -/

/-- A field that is received under a key that is not expected makes no difference to the others. -/
theorem fieldsConform_cons_of_not_mem {k : String} {v : Json} {es fs : List (String × Json)}
    (hk : k ∉ es.map (·.1)) : s.FieldsConform path es ((k, v) :: fs) fresh fresh'
      ↔ s.FieldsConform path es fs fresh fresh' := by
  induction es generalizing fresh with
  | nil => rw [fieldsConform_nil_iff, fieldsConform_nil_iff]
  | cons e es ih =>
    obtain ⟨l, e⟩ := e
    simp only [List.map_cons, List.mem_cons, not_or] at hk
    simp only [fieldsConform_cons_iff, Json.field?, hk.1, if_false, ih hk.2]

/-- First fields under one key meet each other, and the others never meet them. -/
theorem fieldsConform_cons_cons_iff {k : String} {e v : Json} {es fs : List (String × Json)}
    (hk : k ∉ es.map (·.1)) : s.FieldsConform path ((k, e) :: es) ((k, v) :: fs) fresh fresh'
      ↔ ∃ fresh₁, s.Conforms (fieldPath path k) e v fresh fresh₁
        ∧ s.FieldsConform path es fs fresh₁ fresh' := by
  simp only [fieldsConform_cons_iff, Json.field?, if_true, Option.some.injEq, exists_eq_left',
    fieldsConform_cons_of_not_mem hk]

mutual
/-- A document that is expected without matcher expressions is conformed to by equal ones only. -/
theorem conforms_iff_same (s : Scope) : ∀ (path : String) (expected actual : Json)
    (fresh fresh' : Fresh), expected.IsNormal → actual.IsNormal → expected.IsLiteral →
      (s.Conforms path expected actual fresh fresh'
        ↔ expected.same actual = true ∧ fresh' = fresh)
  | path, .text e, actual, fresh, fresh', _, _, h => by
    have h : Matcher.isExpression e = false := h
    rw [conforms_text_iff, h, Json.same_text_iff, if_neg Bool.false_ne_true]
  | path, .object es, .object fs, fresh, fresh', he, ha, h => by
    rw [conforms_object_iff, Json.same]
    exact fieldsConform_iff_sameFields s path es fs fresh fresh' he.1 ha.1 he.2 ha.2 h
  | path, .array es, .array vs, fresh, fresh', he, ha, h => by
    rw [conforms_array_iff, Json.same]
    exact itemsConform_iff_sameItems s path 0 es vs fresh fresh' he ha h
  | path, .object es, .null, fresh, fresh', _, _, _
  | path, .object es, .bool _, fresh, fresh', _, _, _
  | path, .object es, .number _, fresh, fresh', _, _, _
  | path, .object es, .text _, fresh, fresh', _, _, _
  | path, .object es, .array _, fresh, fresh', _, _, _
  | path, .array es, .null, fresh, fresh', _, _, _
  | path, .array es, .bool _, fresh, fresh', _, _, _
  | path, .array es, .number _, fresh, fresh', _, _, _
  | path, .array es, .text _, fresh, fresh', _, _, _
  | path, .array es, .object _, fresh, fresh', _, _, _
  | path, .null, actual, fresh, fresh', _, _, _
  | path, .bool _, actual, fresh, fresh', _, _, _
  | path, .number _, actual, fresh, fresh', _, _, _ =>
    conforms_iff_of_apart (by simp) (by simp) (by simp)

/-- Fields with sorted keys conform under the same keys exactly if they are equal one by one. -/
theorem fieldsConform_iff_sameFields (s : Scope) : ∀ (path : String)
    (es fs : List (String × Json)) (fresh fresh' : Fresh), Json.KeysSorted es →
      Json.KeysSorted fs → Json.FieldsNormal es → Json.FieldsNormal fs → Json.FieldsLiteral es →
        (Json.SameKeys es fs ∧ s.FieldsConform path es fs fresh fresh'
          ↔ Json.sameFields es fs = true ∧ fresh' = fresh)
  | path, [], [], fresh, fresh', _, _, _, _, _ => by
    simp [fieldsConform_nil_iff, Json.sameFields, Json.SameKeys]
  | path, [], f :: fs, fresh, fresh', _, _, _, _, _ => by
    simp [Json.not_sameKeys_nil_cons, Json.sameFields]
  | path, e :: es, [], fresh, fresh', _, _, _, _, _ => by
    simp [Json.not_sameKeys_cons_nil, Json.sameFields]
  | path, (k, e) :: es, (l, v) :: fs, fresh, fresh', hes, hfs, hne, hnf, hl => by
    rw [Json.sameKeys_cons_iff hes hfs, Json.sameFields]
    -- as the keys are sorted, lists of fields with other first keys have other keys
    by_cases hk : k = l
    · subst hk
      have ih : ∀ fresh, Json.SameKeys es fs ∧ s.FieldsConform path es fs fresh fresh'
          ↔ Json.sameFields es fs = true ∧ fresh' = fresh := fun fresh =>
        fieldsConform_iff_sameFields s path es fs fresh fresh' hes.tail hfs.tail hne.2 hnf.2 hl.2
      simp only [beq_self_eq_true, Bool.true_and, true_and, Bool.and_eq_true]
      rw [fieldsConform_cons_cons_iff hes.not_mem]
      constructor
      · rintro ⟨hkeys, fresh₁, hv, hrest⟩
        obtain ⟨hsame, rfl⟩ := (conforms_iff_same s _ e v _ _ hne.1 hnf.1 hl.1).1 hv
        obtain ⟨hsames, rfl⟩ := (ih fresh₁).1 ⟨hkeys, hrest⟩
        exact ⟨⟨hsame, hsames⟩, rfl⟩
      · rintro ⟨⟨hv, hrest⟩, rfl⟩
        obtain ⟨hkeys, hrest⟩ := (ih fresh').2 ⟨hrest, rfl⟩
        have hv := (conforms_iff_same s (fieldPath path k) e v fresh' fresh' hne.1 hnf.1 hl.1).2
          ⟨hv, rfl⟩
        exact ⟨hkeys, fresh', hv, hrest⟩
    · simp [hk]

/-- Items conform exactly if they are equal one by one. -/
theorem itemsConform_iff_sameItems (s : Scope) : ∀ (path : String) (i : Nat) (es vs : List Json)
    (fresh fresh' : Fresh), Json.ItemsNormal es → Json.ItemsNormal vs → Json.ItemsLiteral es →
      (es.length = vs.length ∧ s.ItemsConform path i es vs fresh fresh'
        ↔ Json.sameItems es vs = true ∧ fresh' = fresh)
  | path, i, [], [], fresh, fresh', _, _, _ => by
    rw [itemsConform_nil_iff]
    simp [Json.sameItems]
  | path, i, [], v :: vs, fresh, fresh', _, _, _ => by simp [Json.sameItems]
  | path, i, e :: es, [], fresh, fresh', _, _, _ => by simp [Json.sameItems]
  | path, i, e :: es, v :: vs, fresh, fresh', hne, hnv, hl => by
    have ih : ∀ fresh, es.length = vs.length ∧ s.ItemsConform path (i + 1) es vs fresh fresh'
        ↔ Json.sameItems es vs = true ∧ fresh' = fresh := fun fresh =>
      itemsConform_iff_sameItems s path (i + 1) es vs fresh fresh' hne.2 hnv.2 hl.2
    rw [itemsConform_cons_iff, Json.sameItems, List.length_cons, List.length_cons,
      Nat.add_right_cancel_iff, Bool.and_eq_true]
    constructor
    · rintro ⟨hlength, fresh₁, hv, hrest⟩
      obtain ⟨hsame, rfl⟩ := (conforms_iff_same s _ e v _ _ hne.1 hnv.1 hl.1).1 hv
      obtain ⟨hsames, rfl⟩ := (ih fresh₁).1 ⟨hlength, hrest⟩
      exact ⟨⟨hsame, hsames⟩, rfl⟩
    · rintro ⟨⟨hv, hrest⟩, rfl⟩
      obtain ⟨hlength, hrest⟩ := (ih fresh').2 ⟨hrest, rfl⟩
      have hv := (conforms_iff_same s (itemPath path i) e v fresh' fresh' hne.1 hnv.1 hl.1).2
        ⟨hv, rfl⟩
      exact ⟨hlength, fresh', hv, hrest⟩
end

/-! ## The main statement -/

/-- Holding a document against an expected one succeeds exactly if it conforms; and where no text in
the expected document is a matcher expression, exactly if the two are equal. -/
theorem checkJson_conformance (s : Scope) (path : String) (expected actual : Json)
    (fresh : Fresh) :
    (∀ fresh', (s.checkJson path expected actual).run fresh = .ok ((), fresh')
      ↔ s.Conforms path expected actual fresh fresh')
    ∧ (expected.IsNormal → actual.IsNormal → expected.IsLiteral →
      ((∃ fresh', (s.checkJson path expected actual).run fresh = .ok ((), fresh'))
        ↔ expected.unsigned = actual.unsigned)) := by
  refine ⟨checkJson_eq_ok_iff s path expected actual fresh, fun he ha hl => ?_⟩
  simp only [checkJson_eq_ok_iff, conforms_iff_same s path _ _ _ _ he ha hl, exists_and_left,
    exists_eq, and_true, Json.same_iff_unsigned_eq]

/-- An object with an array that holds a zero of this sign. -/
def balance (negative : Bool) : Json :=
  .object [("amounts", .array [.number (.double (.zero negative) rfl), .text "@"]),
    ("owner", .null)]

/-- The sign of a zero makes no difference. -/
theorem checkJson_conformance_balance : (balance true).IsNormal ∧ (balance false).IsNormal
    ∧ (balance true).IsLiteral
    ∧ ∃ fresh', (({} : Scope).checkJson "$" (balance true) (balance false)).run {}
      = .ok ((), fresh') := by
  have hnormal : ∀ negative, (balance negative).IsNormal := by
    intro negative
    have hkeys : ["amounts", "owner"].Pairwise (· < ·) := by decide
    exact ⟨hkeys, ⟨trivial, trivial, trivial⟩, trivial, trivial⟩
  have hliteral : (balance true).IsLiteral := by
    have ht : Matcher.isExpression "@" = false := by decide
    exact ⟨⟨trivial, ht, trivial⟩, trivial, trivial⟩
  refine ⟨hnormal true, hnormal false, hliteral, ?_⟩
  rw [(checkJson_conformance {} "$" _ _ {}).2 (hnormal true) (hnormal false) hliteral]
  rfl

end Scope
end Rehearsal
