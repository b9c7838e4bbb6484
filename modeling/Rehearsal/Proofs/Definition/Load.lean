import Rehearsal.Definition.Load
import Rehearsal.Proofs.Assoc
import Rehearsal.Proofs.Check

/-!
# What a definition declares

Of two declarations under one name the later one counts: `IsLast` says where it stands. Every check
of the loader settles a condition (`Settles`): it gives its value where the condition holds and an
error of the definition where it does not, and so do checks one after the other. Main statements: a
map of declarations holds the last one under each name (`IsLast.find?`), the last definition of a
dictionary gives the last dictionary (`isLast_of_dictionaries`), and a case that is loaded is made
of the endpoints, the dictionaries and the actions of its definition (`load_eq_ok`).
-/

namespace Rehearsal

/-- The last of the declarations under a name, and those before it. -/
def IsLast {α : Type} (nameOf : α → String) (name : String) (ds before : List α) (d : α) : Prop :=
  nameOf d = name ∧ ∃ after, ds = before ++ d :: after ∧ ∀ d' ∈ after, nameOf d' ≠ name

section
variable {α : Type} {nameOf : α → String} {name : String} {d : α} {ds before : List α}

/-- A definition in front changes nothing about the last one of a name. -/
theorem IsLast.cons (h : IsLast nameOf name ds before d) (d₀ : α) :
    IsLast nameOf name (d₀ :: ds) (d₀ :: before) d := by
  obtain ⟨hd, after, rfl, hafter⟩ := h
  exact ⟨hd, after, rfl, hafter⟩

/-- A definition is the last one of its name if the name does not come again. -/
theorem isLast_head (h : name ∉ ds.map nameOf) (hd : nameOf d = name) :
    IsLast nameOf name (d :: ds) [] d :=
  ⟨hd, ds, rfl, fun _ hd' hn => h (List.mem_map.2 ⟨_, hd', hn⟩)⟩

/-- Where there are declarations under a name, one of them is the last. -/
theorem exists_isLast (h : name ∈ ds.map nameOf) : ∃ before d, IsLast nameOf name ds before d := by
  induction ds with
  | nil => cases h
  | cons d₀ ds ih =>
    by_cases hm : name ∈ ds.map nameOf
    · obtain ⟨before, d, hd⟩ := ih hm
      exact ⟨d₀ :: before, d, hd.cons d₀⟩
    · rcases List.mem_cons.1 h with h | h
      · exact ⟨[], d₀, isLast_head hm h.symm⟩
      · exact absurd h hm

/-- The last declaration is the one that a map of them holds. -/
theorem IsLast.find? (h : IsLast nameOf name ds before d) {β : Type} (f : α → β) :
    ((ds.map fun d => (nameOf d, f d)).reverse.find? (·.1 = name)) = some (name, f d) := by
  obtain ⟨rfl, after, rfl, hafter⟩ := h
  rw [List.map_append, List.map_cons, List.reverse_append, List.reverse_cons, List.find?_append,
    List.find?_append]
  have hnone : (after.map fun d => (nameOf d, f d)).reverse.find? (·.1 = nameOf d) = none := by
    rw [List.find?_eq_none]
    intro p hp
    obtain ⟨d', hd', rfl⟩ := List.mem_map.1 (List.mem_reverse.1 hp)
    simpa using hafter d' hd'
  rw [hnone]
  simp

/-- Nothing is found under a name that no definition has. -/
theorem find?_eq_none_of_not_mem (h : name ∉ ds.map nameOf) {β : Type} (f : α → β) :
    ((ds.map fun d => (nameOf d, f d)).reverse.find? (·.1 = name)) = none := by
  rw [List.find?_eq_none]
  intro p hp
  obtain ⟨d, hd, rfl⟩ := List.mem_map.1 (List.mem_reverse.1 hp)
  have hn : nameOf d ≠ name := fun hn => h (List.mem_map.2 ⟨d, hd, hn⟩)
  simpa using hn

/-- The names in a map of declarations are those of the declarations. -/
theorem contains_ofList_map {β : Type} {f : α → β} :
    (Assoc.ofList (ds.map fun d => (nameOf d, f d))).contains name = true
      ↔ name ∈ ds.map nameOf := by
  rw [Assoc.contains, Assoc.get?_ofList]
  by_cases h : name ∈ ds.map nameOf
  · obtain ⟨before, d, hd⟩ := exists_isLast h
    rw [hd.find? f]
    exact iff_of_true rfl h
  · rw [find?_eq_none_of_not_mem h f]
    exact iff_of_false (by simp) h

end

/-! ## Checks -/

/-- The check gives this value where the condition holds, and an error of the definition where it
does not. -/
structure Settles {α : Type} (check : Except Error α) (P : Prop) (a : α) : Prop where
  accepts : P → check = .ok a
  refuses : ¬ P → ∃ fault, check = .error (.config fault)

namespace Settles

variable {α β : Type} {x : Except Error α} {P Q : Prop} {a : α} {b : β}

theorem pure (a : α) : Settles (.ok a) True a := ⟨fun _ => rfl, fun h => absurd trivial h⟩

theorem of_iff (h : Settles x P a) (hPQ : P ↔ Q) : Settles x Q a :=
  ⟨fun hQ => h.accepts (hPQ.2 hQ), fun hQ => h.refuses fun hP => hQ (hPQ.1 hP)⟩

/-- One check after the other. -/
theorem bind {f : α → Except Error β} (hx : Settles x P a) (hf : Settles (f a) Q b) :
    Settles (x >>= f) (P ∧ Q) b := by
  constructor
  · rintro ⟨hP, hQ⟩
    rw [hx.accepts hP]
    exact hf.accepts hQ
  · intro h
    rcases Classical.em P with hP | hP
    · obtain ⟨fault, he⟩ := hf.refuses fun hQ => h ⟨hP, hQ⟩
      exact ⟨fault, by rw [hx.accepts hP]; exact he⟩
    · obtain ⟨fault, he⟩ := hx.refuses hP
      exact ⟨fault, by rw [he]; rfl⟩

/-- What is made of the result does not change when there is one. -/
theorem map (hx : Settles x P a) (f : α → β) : Settles (x.map f) P (f a) := by
  constructor
  · intro hP
    rw [hx.accepts hP]
    rfl
  · intro hP
    obtain ⟨fault, he⟩ := hx.refuses hP
    exact ⟨fault, by rw [he]; rfl⟩

/-- The condition is exact: there is a result if it holds, and only then. -/
theorem exists_ok_iff (h : Settles x P a) : (∃ a, x = .ok a) ↔ P := by
  constructor
  · rintro ⟨a', hok⟩
    refine Classical.byContradiction fun hP => ?_
    obtain ⟨fault, he⟩ := h.refuses hP
    rw [he] at hok
    cases hok
  · exact fun hP => ⟨a, h.accepts hP⟩

theorem eq_of_ok (h : Settles x P a) {a' : α} (hok : x = .ok a') : a' = a :=
  Except.ok.inj (hok.symm.trans (h.accepts (h.exists_ok_iff.1 ⟨a', hok⟩)))

/-- Every error is one of the configuration. -/
theorem eq_config_of_error (h : Settles x P a) {e : Error} (he : x = .error e) :
    ∃ fault, e = .config fault := by
  have hP : ¬ P := fun hP => by rw [h.accepts hP] at he; cases he
  obtain ⟨fault, hx⟩ := h.refuses hP
  exact ⟨fault, Except.error.inj (he.symm.trans hx)⟩

end Settles

/-! ## Endpoints -/

namespace Declarations

/-- The endpoint of a definition. -/
def endpointOf (d : Declarations) (timeout : Nat) (e : EndpointDefinition) : Endpoint where
  name := e.name
  timeout := e.timeout.getD timeout
  actor := e.actor.bind d.actors.get?

/-- An actor passes exactly if none is named, or the one that is named is declared. -/
theorem settles_actor? (d : Declarations) (name : Option String) :
    Settles (d.actor? name) (∀ n ∈ name, d.actors.contains n = true) (name.bind d.actors.get?) := by
  cases name with
  | none => exact (Settles.pure _).of_iff (by simp)
  | some n =>
    rw [actor?, Option.bind_some]
    cases ha : d.actors.get? n with
    | some a => exact (Settles.pure _).of_iff (by simp [Assoc.contains, ha])
    | none => exact ⟨fun h => by simp [Assoc.contains, ha] at h, fun _ => ⟨_, rfl⟩⟩

/-- The declarations with endpoints that are put in. -/
def withEndpoints (d : Declarations) (timeout : Nat) (es : List EndpointDefinition) :
    Declarations :=
  { d with
    endpoints := d.endpoints.insertAll (es.map fun e => (e.name, d.endpointOf timeout e)) }

/-- The endpoints are added if all their actors are declared. -/
theorem settles_addEndpoints (timeout : Nat) (es : List EndpointDefinition) (d : Declarations) :
    Settles (addEndpoints timeout es d) (∀ e ∈ es, ∀ n ∈ e.actor, d.actors.contains n = true)
      (d.withEndpoints timeout es) := by
  induction es generalizing d with
  | nil => exact (Settles.pure _).of_iff (by simp)
  | cons e es ih =>
    refine ((d.settles_actor? e.actor).bind (ih _)).of_iff ?_
    rw [List.forall_mem_cons]

end Declarations

/-! ## Dictionaries -/

namespace DictionaryDefinition

variable {loader : Loader}

theorem name_addAll (d : Dictionary) (mappings : List (String × String)) :
    (d.addAll mappings).name = d.name := by
  induction mappings generalizing d with
  | nil => rfl
  | cons m ms ih => exact ih (d.addLiteral m.1 m.2)

/-- A dictionary has the name that it is declared with. -/
theorem name_of_dictionary {d : DictionaryDefinition} {id : Nat} {x : Dictionary}
    (h : d.dictionary id loader = .ok x) : x.name = d.name := by
  unfold dictionary at h
  split at h
  · cases h
    rw [name_addAll]
    rfl
  · obtain ⟨more, -, h⟩ := check_bind_eq_ok.1 h
    cases h
    rw [name_addAll, name_addAll]
    rfl

/-- A mapping is added to mappings of the same kind. -/
theorem isBuiltIn_addLiteral {d : Dictionary} (hd : d.IsBuiltIn) (key value : String) :
    (d.addLiteral key value).IsBuiltIn := by
  intro custom h
  unfold Dictionary.addLiteral at h
  cases hm : d.mappings with
  | custom key => exact hd key hm
  | _ => simp [hm] at h

theorem isBuiltIn_addAll {d : Dictionary} (hd : d.IsBuiltIn) (mappings : List (String × String)) :
    (d.addAll mappings).IsBuiltIn := by
  induction mappings generalizing d with
  | nil => exact hd
  | cons m ms ih => exact ih (isBuiltIn_addLiteral hd m.1 m.2)

/-- A dictionary that is made from a definition is built in. -/
theorem isBuiltIn_of_dictionary {d : DictionaryDefinition} {id : Nat} {x : Dictionary}
    (h : d.dictionary id loader = .ok x) : x.IsBuiltIn := by
  have hown : ((d.empty id).addAll d.mappings.entries).IsBuiltIn := by
    refine isBuiltIn_addAll (fun key h => ?_) _
    unfold empty at h
    split at h <;> cases h
  unfold dictionary at h
  split at h
  · cases h
    exact hown
  · obtain ⟨more, -, h⟩ := check_bind_eq_ok.1 h
    cases h
    exact isBuiltIn_addAll hown _

/-- All dictionaries that are declared have mappings, and are built in. -/
theorem isBuiltIn_of_dictionaries {ds : List DictionaryDefinition} {id : Nat}
    {xs : List Dictionary} (h : dictionaries loader id ds = .ok xs) : ∀ x ∈ xs, x.IsBuiltIn := by
  induction ds generalizing id xs with
  | nil =>
    cases h
    exact nofun
  | cons d ds ih =>
    obtain ⟨x, hx, h⟩ := check_bind_eq_ok.1 h
    obtain ⟨xs, hxs, h⟩ := check_bind_eq_ok.1 h
    cases h
    exact List.forall_mem_cons.2 ⟨isBuiltIn_of_dictionary hx, ih hxs⟩

/-- The names are those of the declarations, in order. -/
theorem names_of_dictionaries {ds : List DictionaryDefinition} {id : Nat} {xs : List Dictionary}
    (h : dictionaries loader id ds = .ok xs) : xs.map (·.name) = ds.map (·.name) := by
  induction ds generalizing id xs with
  | nil =>
    cases h
    rfl
  | cons d ds ih =>
    obtain ⟨x, hx, h⟩ := check_bind_eq_ok.1 h
    obtain ⟨xs, hxs, h⟩ := check_bind_eq_ok.1 h
    cases h
    rw [List.map_cons, List.map_cons, ih hxs, name_of_dictionary hx]

/-- The last definition under a name gives the last dictionary under it. -/
theorem isLast_of_dictionaries {ds before : List DictionaryDefinition} {id : Nat}
    {xs : List Dictionary} {name : String} {d : DictionaryDefinition}
    (h : dictionaries loader id ds = .ok xs) (hd : IsLast (·.name) name ds before d) :
    ∃ x earlier, d.dictionary (id + before.length) loader = .ok x
      ∧ IsLast (·.name) name xs earlier x := by
  induction before generalizing ds id xs with
  | nil =>
    obtain ⟨hn, after, rfl, hafter⟩ := hd
    obtain ⟨x, hx, h⟩ := check_bind_eq_ok.1 h
    obtain ⟨xs, hxs, h⟩ := check_bind_eq_ok.1 h
    cases h
    -- the dictionaries behind it have the names of their definitions, and so other ones
    refine ⟨x, [], hx, isLast_head ?_ ((name_of_dictionary hx).trans hn)⟩
    rw [names_of_dictionaries hxs]
    intro hm
    obtain ⟨d', hd', hn'⟩ := List.mem_map.1 hm
    exact hafter d' hd' hn'
  | cons d₀ before ih =>
    obtain ⟨hn, after, rfl, hafter⟩ := hd
    obtain ⟨x₀, -, h⟩ := check_bind_eq_ok.1 h
    obtain ⟨xs, hxs, h⟩ := check_bind_eq_ok.1 h
    cases h
    obtain ⟨x, earlier, hx, hlast⟩ := ih hxs ⟨hn, after, rfl, hafter⟩
    refine ⟨x, x₀ :: earlier, ?_, hlast.cons x₀⟩
    rw [← hx]
    congr 1
    simp only [List.length_cons]
    omega

end DictionaryDefinition

/-! ## Test cases -/

namespace TestCaseDefinition

variable {t : TestCaseDefinition} {base : Context} {timeout : Nat} {l : LoadedCase}

/-- The actors under their names. -/
def actorTable (t : TestCaseDefinition) : Assoc Actor :=
  .ofList (t.actors.map fun a => (a.name, a))

/-- The endpoint of a definition. -/
def endpointOf (t : TestCaseDefinition) (timeout : Nat) (e : EndpointDefinition) : Endpoint :=
  Declarations.endpointOf { actors := t.actorTable } timeout e

/-- What the actions of a definition may refer to. -/
def declarations (t : TestCaseDefinition) (timeout : Nat) : Declarations where
  actors := t.actorTable
  endpoints := .ofList (t.endpoints.map fun e => (e.name, t.endpointOf timeout e))
  dictionaries := t.dictionaries.map (·.name)

/-- What the names lead to in a case with these dictionaries. -/
def bindings (t : TestCaseDefinition) (timeout : Nat) (dictionaries : List Dictionary) : Bindings :=
  ((t.declarations timeout).endpoints.mapValues Binding.endpoint).insertAll
    (dictionaries.map fun dict => (dict.name, .dictionary dict))

/-- What a case is made of that is loaded. -/
theorem load_eq_ok (h : t.load base timeout = .ok l) : ∃ dictionaries,
    DictionaryDefinition.dictionaries base.loader (DictionaryDefinition.firstId base.chain)
        t.dictionaries = .ok dictionaries
      ∧ ActionDefinition.actions (t.declarations timeout) t.actions = .ok l.testCase.actions
      ∧ l.context = { base with
          chain := base.chain ++ (dictionaries.filter (·.isGlobal)).map .dictionary
          bindings := t.bindings timeout dictionaries }
      ∧ l.endpoints = (t.declarations timeout).endpoints := by
  obtain ⟨d, hd, h⟩ := check_bind_eq_ok.1 h
  obtain ⟨dictionaries, hdict, h⟩ := check_bind_eq_ok.1 h
  obtain ⟨actions, hactions, h⟩ := check_bind_eq_ok.1 h
  -- the endpoints that were put together one by one are those of the table
  obtain rfl := (Declarations.settles_addEndpoints timeout t.endpoints _).eq_of_ok hd
  cases h
  exact ⟨dictionaries, hdict, hactions, rfl, rfl⟩

end TestCaseDefinition
end Rehearsal
