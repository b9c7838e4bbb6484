import Rehearsal.Proofs.Definition.Exchanges
import Rehearsal.Proofs.Library.Standard
import Rehearsal.Proofs.TestCase

/-!
# References of a case that is loaded

What the actions of a case refer to is checked when it is loaded: the name of an endpoint against
the endpoints, and the name of a dictionary against the dictionaries. When the case is run, one
table has both. Main statement: the names of dictionaries always lead to what was declared under
them, and so do the names of endpoints that are not also names of dictionaries; an action whose
endpoint has the name of a dictionary does not find it, and a run that comes to such an action fails
for that reason, and no other run does (`references_of_load`).
-/

namespace Rehearsal

namespace TestCaseDefinition

variable {t : TestCaseDefinition} {loader : Loader} {engine : Option ScriptEngine} {timeout : Nat}
  {l : LoadedCase} {dictionaries : List Dictionary} {name : String}

/-- The names of the dictionaries that are declared. -/
def dictionaryNames (t : TestCaseDefinition) : List String := t.dictionaries.map (·.name)

/-! ## What names lead to -/

/-- Of endpoints of one name the last one is declared. -/
theorem get?_endpoints {before : List EndpointDefinition} {e : EndpointDefinition}
    (h : IsLast (·.name) name t.endpoints before e) :
    (t.declarations timeout).endpoints.get? name = some (t.endpointOf timeout e) := by
  rw [declarations, Assoc.get?_ofList, h.find?]
  rfl

/-- A declared name has a last definition. -/
theorem exists_isLast_endpoint (h : (t.declarations timeout).endpoints.contains name = true) :
    ∃ before e, IsLast (·.name) name t.endpoints before e :=
  exists_isLast (contains_ofList_map.1 h)

/-- A name that no dictionary has leads to the endpoint. -/
theorem get?_bindings_of_not_mem
    (h : DictionaryDefinition.dictionaries loader 0 t.dictionaries = .ok dictionaries)
    (hn : name ∉ t.dictionaryNames) : (t.bindings timeout dictionaries).get? name
      = ((t.declarations timeout).endpoints.get? name).map .endpoint := by
  rw [dictionaryNames, ← DictionaryDefinition.names_of_dictionaries h] at hn
  rw [bindings, Assoc.get?_insertAll, find?_eq_none_of_not_mem hn, Assoc.get?_mapValues]
  rfl

/-- A name that a dictionary has leads to the last one that has it. -/
theorem get?_bindings_of_mem
    (h : DictionaryDefinition.dictionaries loader 0 t.dictionaries = .ok dictionaries)
    (hn : name ∈ t.dictionaryNames) : ∃ before d x, IsLast (·.name) name t.dictionaries before d
      ∧ d.dictionary before.length loader = .ok x
      ∧ (t.bindings timeout dictionaries).get? name = some (.dictionary x) := by
  obtain ⟨before, d, hd⟩ := exists_isLast hn
  obtain ⟨x, earlier, hx, hlast⟩ := DictionaryDefinition.isLast_of_dictionaries h hd
  rw [Nat.zero_add] at hx
  refine ⟨before, d, x, hd, hx, ?_⟩
  rw [bindings, Assoc.get?_insertAll, hlast.find?]
  rfl

end TestCaseDefinition

/-- What the names in the definition of an action lead to. -/
structure SendDefinition.Leads (s : SendDefinition) (t : TestCaseDefinition) (loader : Loader)
    (timeout : Nat) (b : Bindings) : Prop where
  /-- The dictionary is the last one that is declared under its name. -/
  dictionary : ∀ name, s.dictionary = some name → ∃ before d x,
    IsLast (·.name) name t.dictionaries before d ∧ d.dictionary before.length loader = .ok x
      ∧ b.dictionary name = .ok x
  /-- The endpoint is the last one that is declared under its name, if no dictionary is. -/
  endpoint : ∃ before e, IsLast (·.name) s.endpoint t.endpoints before e
    ∧ b.endpoint s.endpoint = if s.endpoint ∈ t.dictionaryNames
        then .error (.referenceNotFound s.endpoint .endpoint) else .ok (t.endpointOf timeout e)

namespace TestCaseDefinition

variable {t : TestCaseDefinition} {loader : Loader} {engine : Option ScriptEngine} {timeout : Nat}
  {l : LoadedCase} {dictionaries : List Dictionary} {s : SendDefinition}

/-- Where the checks of names pass, each name leads to the last thing of its kind that is declared
under it, but for an endpoint that shares its name with a dictionary. -/
theorem leads_of_isDeclared
    (h : DictionaryDefinition.dictionaries loader 0 t.dictionaries = .ok dictionaries)
    (hs : s.IsDeclared (t.declarations timeout)) :
    s.Leads t loader timeout (t.bindings timeout dictionaries) := by
  constructor
  · intro name hname
    obtain ⟨before, d, x, hd, hx, hget⟩ := get?_bindings_of_mem h (hs.dictionary name hname)
    refine ⟨before, d, x, hd, hx, ?_⟩
    rw [Bindings.dictionary, hget]
  · obtain ⟨before, e, he⟩ := exists_isLast_endpoint hs.endpoint
    refine ⟨before, e, he, ?_⟩
    by_cases hn : s.endpoint ∈ t.dictionaryNames
    · -- the name is bound, but to a dictionary
      obtain ⟨_, _, x, -, -, hget⟩ := get?_bindings_of_mem h hn
      rw [if_pos hn, Bindings.endpoint, hget]
    · rw [if_neg hn, Bindings.endpoint, get?_bindings_of_not_mem h hn, get?_endpoints he]
      rfl

/-! ## Runs of a case -/

/-- The libraries that are built in are ordinary. -/
theorem isOrdinary_standard (loader : Loader) (engine : Option ScriptEngine) :
    { Context.standard with loader, engine }.toScope.IsOrdinary := by
  constructor
  · intro qualifier name f hf args
    obtain ⟨library, hmem, hlib⟩ := List.exists_of_findSome?_eq_some hf
    rw [List.mem_singleton.1 hmem] at hlib
    split at hlib
    · exact Function.isOrdinary_standard hlib args
    · cases hlib
  · intro qualifier name m hm field value control
    obtain ⟨library, hmem, hlib⟩ := List.exists_of_findSome?_eq_some hm
    rw [List.mem_singleton.1 hmem] at hlib
    split at hlib
    · exact Matcher.onlyOrdinary_standard hlib field value control
    · cases hlib

/-- So is the context of a case that is loaded with them: its dictionaries are built in. -/
theorem isOrdinary_of_load (h : t.load { Context.standard with loader, engine } timeout = .ok l) :
    l.context.IsOrdinary := by
  obtain ⟨dictionaries, hdict, -, hcontext, -⟩ := load_eq_ok h
  rw [hcontext]
  refine ⟨isOrdinary_standard loader engine, fun p hp => ?_⟩
  obtain ⟨d, hd, rfl⟩ := List.mem_map.1 hp
  exact DictionaryDefinition.isBuiltIn_of_dictionaries hdict d (List.mem_filter.1 hd).1

/-- The processors of a definition are built in. -/
theorem isBuiltIn_of_mem_processors {e : ExtractDefinition} {p : Processor}
    (hp : p ∈ e.processors) : p.IsBuiltIn := by
  rcases List.mem_append.1 hp with hp | hp
  · split at hp
    · cases hp
    · rw [List.mem_singleton.1 hp]
      exact trivial
  · split at hp
    · cases hp
    · rw [List.mem_singleton.1 hp]
      exact trivial

/-- An action that comes from the definitions of a case is sound. -/
theorem isSound_of_comesFrom {ss : List SendDefinition} {b : Bindings} {a : Action}
    (hss : ∀ s ∈ ss, s.Leads t loader timeout b) (ha : a.ComesFrom ss) : a.IsSound b := by
  have hsound : ∀ x, a.exchange? = some x → x.IsSound b := by
    intro x hx
    obtain ⟨s, hs, hof⟩ := ha.exchange x hx
    constructor
    · intro e he
      obtain ⟨_, e', -, hget⟩ := (hss s hs).endpoint
      rw [hof.endpoint, Reference.get, hget] at he
      split at he
      · cases he
      · cases he
        exact ⟨_, rfl⟩
    · intro r hr
      rw [hof.dictionary] at hr
      obtain ⟨name, hname, rfl⟩ := Option.map_eq_some_iff.1 hr
      obtain ⟨_, _, d, -, hmade, hd⟩ := (hss s hs).dictionary name hname
      exact ⟨d, hd, DictionaryDefinition.isBuiltIn_of_dictionary hmade⟩
    · intro p hp
      rw [hof.processors] at hp
      exact isBuiltIn_of_mem_processors hp
  cases a with
  | custom name actor body => exact absurd rfl (ha.builtIn name actor body)
  | _ => exact hsound

/-- The action, which no actor of its own switches off, asks for an endpoint under a name that a
dictionary has. -/
def Confuses (t : TestCaseDefinition) (a : Action) (name : String) : Prop :=
  ∃ x, a.exchange? = some x ∧ x.actor.any (·.disabled) = false ∧ x.endpoint = .named name
    ∧ name ∈ t.dictionaryNames

/-- An action of a case misses its endpoint if a dictionary has the name of it. -/
theorem misses_iff {ss : List SendDefinition} {b : Bindings} {a : Action} {e : Error}
    (hss : ∀ s ∈ ss, s.Leads t loader timeout b) (ha : a.ComesFrom ss) :
    a.Misses b e ↔ ∃ name, t.Confuses a name ∧ e = .referenceNotFound name .endpoint := by
  constructor
  · rintro ⟨x, hx, hd, he⟩
    obtain ⟨s, hs, hof⟩ := ha.exchange x hx
    obtain ⟨_, _, -, hget⟩ := (hss s hs).endpoint
    rw [hof.endpoint] at he
    have he : b.endpoint s.endpoint = .error e := he
    rw [hget] at he
    split at he
    · next hn =>
      cases he
      exact ⟨s.endpoint, ⟨x, hx, hd, hof.endpoint, hn⟩, rfl⟩
    · cases he
  · rintro ⟨name, ⟨x, hx, hd, hname, hn⟩, rfl⟩
    obtain ⟨s, hs, hof⟩ := ha.exchange x hx
    obtain ⟨_, _, -, hget⟩ := (hss s hs).endpoint
    rw [hof.endpoint] at hname
    cases hname
    refine ⟨x, hx, hd, ?_⟩
    rw [hof.endpoint]
    show b.endpoint s.endpoint = _
    rw [hget, if_pos hn]

/-- What the actions of a case that is loaded refer to, at any depth and in every run: dictionaries
are always found; endpoints are unless a dictionary has the same name; and a run fails because a
name refers to nothing exactly if it comes to an action that asks for such an endpoint. -/
theorem references_of_load (h : t.load { Context.standard with loader, engine } timeout = .ok l) :
    (∀ s ∈ ActionDefinition.exchangesOfAll t.actions, s.Leads t loader timeout l.context.bindings)
    ∧ ∀ (c : TestCase) (w : World), c.actions = l.testCase.actions → w.context = l.context →
      (∀ path a w', c.Reaches w path a w' → w'.context.bindings = l.context.bindings
        ∧ a.ComesFrom (ActionDefinition.exchangesOfAll t.actions))
      ∧ (∀ e, (c.run.run w).run.1.2 = .error e ∧ e.IsDangling
        ↔ c.result = .pending ∧ ∃ path a w' name, c.Reaches w path a w' ∧ t.Confuses a name
          ∧ e = (Error.referenceNotFound name .endpoint).wrap (path ++ [a.name]))
      ∧ ((∀ s ∈ ActionDefinition.exchangesOfAll t.actions, s.endpoint ∉ t.dictionaryNames) →
        ∀ e, (c.run.run w).run.1.2 = .error e → ¬ e.IsDangling) := by
  have ho : l.context.IsOrdinary := isOrdinary_of_load h
  obtain ⟨dictionaries, hdict, hactions, hcontext, -⟩ := load_eq_ok h
  have hleads : ∀ s ∈ ActionDefinition.exchangesOfAll t.actions,
      s.Leads t loader timeout l.context.bindings := by
    intro s hs
    rw [hcontext]
    exact leads_of_isDeclared hdict (ActionDefinition.isDeclared_of_actions _ hactions s hs)
  refine ⟨hleads, fun c w hc hw => ?_⟩
  have hfrom : ∀ a ∈ c.actions,
      a.Hereditarily (Action.ComesFrom (ActionDefinition.exchangesOfAll t.actions)) := by
    rw [hc]
    exact ActionDefinition.comesFrom_of_actions _ hactions fun _ hs => hs
  have hsound := fun a ha => isSound_of_comesFrom (a := a) hleads ha
  have hsame : l.context.SameSetup w.context := hw ▸ Context.SameSetup.refl _
  have hreach : ∀ path a w', c.Reaches w path a w' → w'.context.bindings = l.context.bindings
      ∧ a.ComesFrom (ActionDefinition.exchangesOfAll t.actions) := by
    intro path a w' hr
    obtain ⟨hw', ha⟩ := hr.keeps ho hsound hfrom hsame
    exact ⟨hw'.bindings, ha⟩
  have hdangling : ∀ e, (c.run.run w).run.1.2 = .error e ∧ e.IsDangling
      ↔ c.result = .pending ∧ ∃ path a w' name, c.Reaches w path a w' ∧ t.Confuses a name
        ∧ e = (Error.referenceNotFound name .endpoint).wrap (path ++ [a.name]) := by
    intro e
    rw [TestCase.run_isDangling_iff ho hsound hfrom hsame]
    refine and_congr_right fun _ => ?_
    constructor
    · rintro ⟨path, a, w', cause, hr, hm, rfl⟩
      obtain ⟨name, hname, rfl⟩ := (misses_iff hleads (hreach _ _ _ hr).2).1 hm
      exact ⟨path, a, w', name, hr, hname, rfl⟩
    · rintro ⟨path, a, w', name, hr, hname, rfl⟩
      exact ⟨path, a, w', _, hr, (misses_iff hleads (hreach _ _ _ hr).2).2 ⟨name, hname, rfl⟩, rfl⟩
  -- an action that the run comes to asks for what one of the definitions says
  refine ⟨hreach, hdangling, fun hno e he hd => ?_⟩
  obtain ⟨-, path, a, w', name, hr, ⟨x, hx, -, hname, hn⟩, -⟩ := (hdangling e).1 ⟨he, hd⟩
  obtain ⟨s, hs, hof⟩ := (hreach _ _ _ hr).2.exchange x hx
  rw [hof.endpoint] at hname
  cases hname
  exact hno s hs hn

/-- A case that sends by an endpoint and translates by a dictionary, inside a sequence. -/
def apart : TestCaseDefinition where
  name := "apart"
  endpoints := [{ name := "e" }]
  dictionaries := [{ name := "d" }]
  actions := [.sequence none none [.send { endpoint := "e", dictionary := some "d" }]]

/-- A case whose names stand for one kind each never misses any. -/
theorem references_of_load_apart : ∃ l, apart.load Context.standard 1000 = .ok l
    ∧ ∀ fresh e, (l.run fresh).1.2 = .error e → ¬ e.IsDangling := by
  obtain ⟨l, hl⟩ : ∃ l, apart.load Context.standard 1000 = .ok l := ⟨_, rfl⟩
  refine ⟨l, hl, fun fresh => ?_⟩
  have h := (references_of_load hl).2 l.testCase (l.world fresh) rfl rfl
  apply h.2.2
  intro s hs
  rw [List.mem_singleton.1 hs]
  decide

/-- A case whose only endpoint has the name of its only dictionary. -/
def alike : TestCaseDefinition where
  name := "alike"
  endpoints := [{ name := "d" }]
  dictionaries := [{ name := "d" }]
  actions := [.send { endpoint := "d", message := { payload := some "x" } }]

/-- Such a case is loaded, and every run of it fails because the name refers to nothing. -/
theorem isDangling_run_alike : ∃ l, alike.load Context.standard 1000 = .ok l
    ∧ ∀ fresh, ∃ e, (l.run fresh).1.2 = .error e ∧ e.IsDangling := by
  refine ⟨_, rfl, fun fresh => ?_⟩
  exact ⟨.execution "send" (.referenceNotFound "d" .endpoint), rfl, "d", .endpoint, rfl⟩

end TestCaseDefinition
end Rehearsal
