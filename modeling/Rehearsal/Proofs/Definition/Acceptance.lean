import Rehearsal.Proofs.Action.Visit
import Rehearsal.Proofs.Definition.Load

/-!
# Definitions that are accepted

A definition is well-formed if every name in it is declared and no message is given both a payload
and a script (`IsWellFormed`). The checks of the loader settle these conditions one after the other
over the tree of actions, and what it makes of an action is what its definition means (`made`). Main
statement: the loader accepts exactly the well-formed definitions, and makes of every declared
action, at any depth, one action in its place (`load_accepts`).
-/

namespace Rehearsal

/-! ## Messages -/

namespace MessageDefinition

variable {m : MessageDefinition}

/-- A payload is given, itself or by its resource. -/
def HasPayload (m : MessageDefinition) : Prop := m.payload.isSome ∨ m.payloadResource.isSome

/-- A script is given, itself or by its resource. -/
def HasScript (m : MessageDefinition) : Prop := m.script.isSome ∨ m.scriptResource.isSome

/-- The message comes from a payload or from a script, or from neither. -/
def IsSingle (m : MessageDefinition) : Prop := ¬ (m.HasPayload ∧ m.HasScript)

instance (m : MessageDefinition) : Decidable m.IsSingle :=
  inferInstanceAs (Decidable ¬ ((_ ∨ _) ∧ (_ ∨ _)))

/-- The builder of a message, from its script if it has one. -/
def builder (m : MessageDefinition) : Builder :=
  match m.description.script with
  | some script => .script m.name script m.headers m.description.headerData
  | none => .template m.name m.description.payload m.headers m.description.headerData

/-- The builder of a control message, if the definition says anything of one. -/
def control (m : MessageDefinition) : Option Builder :=
  if m.description.isEmpty then none else some m.builder

/-- There is a template if it is given as a text or as a path. -/
theorem isSome_source? (text path charset : Option String) :
    (source? text path charset).isSome = true ↔ text.isSome ∨ path.isSome := by
  cases text <;> cases path <;> simp [source?]

/-- A message has a builder exactly if it is made of one thing. -/
theorem settles_builder (m : MessageDefinition) :
    Settles m.description.builder m.IsSingle m.builder := by
  have hpayload : m.HasPayload ↔ m.description.payload.isSome :=
    (isSome_source? m.payload m.payloadResource m.charset).symm
  have hscript : m.HasScript ↔ m.description.script.isSome :=
    (isSome_source? m.script m.scriptResource none).symm
  rw [IsSingle, hpayload, hscript, builder, Description.builder]
  cases hs : m.description.script with
  | none => exact (Settles.pure _).of_iff (by simp)
  | some script =>
    constructor
    · intro hsingle
      have hnone : m.description.payload.isSome = false := by simpa using hsingle
      rw [hnone]
      rfl
    · intro hboth
      have hsome : m.description.payload.isSome = true :=
        (Decidable.not_not.1 hboth).1
      rw [hsome]
      exact ⟨_, rfl⟩

/-- A message of which nothing is said has neither a payload nor a script. -/
theorem settles_control (m : MessageDefinition) :
    Settles m.description.control m.IsSingle m.control := by
  rw [Description.control, control]
  split
  · next hempty =>
    refine (Settles.pure _).of_iff (iff_of_true trivial ?_)
    rintro ⟨hpayload, -⟩
    rw [HasPayload, ← isSome_source? _ _ m.charset] at hpayload
    have hnone : m.description.payload.isNone = true := by
      simp only [Description.isEmpty, Bool.and_eq_true] at hempty
      exact hempty.1.1.1.1.2
    simp [MessageDefinition.description] at hnone
    simp [hnone] at hpayload
  · exact m.settles_builder.map some

end MessageDefinition

/-! ## Names -/

/-- What the definition refers to is declared. -/
structure SendDefinition.IsDeclared (s : SendDefinition) (d : Declarations) : Prop where
  endpoint : d.endpoints.contains s.endpoint = true
  dictionary : ∀ name, s.dictionary = some name → name ∈ d.dictionaries

namespace Declarations

variable {d : Declarations}

/-- An endpoint passes exactly if its name is declared. -/
theorem settles_checkEndpoint (d : Declarations) (name : String) :
    Settles (d.checkEndpoint name) (d.endpoints.contains name = true) () := by
  rw [checkEndpoint]
  split
  · next h => exact (Settles.pure _).of_iff (by simp [h])
  · next h => exact ⟨fun h' => absurd h' h, fun _ => ⟨_, rfl⟩⟩

/-- A dictionary passes exactly if none is named, or the one that is named is declared. -/
theorem settles_checkDictionary (d : Declarations) (name : Option String) :
    Settles (d.checkDictionary name) (∀ n, name = some n → n ∈ d.dictionaries) () := by
  cases name with
  | none => exact (Settles.pure _).of_iff (by simp)
  | some n =>
    rw [checkDictionary]
    split
    · next h => exact (Settles.pure _).of_iff (by simpa using h)
    · next h => exact ⟨fun h' => absurd (by simpa using h') h, fun _ => ⟨_, rfl⟩⟩

/-- The names are those of declared actors, and what is referred to is declared and said once. -/
structure Admits (d : Declarations) (names : List String) (ss : List SendDefinition) : Prop where
  actors : ∀ name ∈ names, d.actors.contains name = true
  declared : ∀ s ∈ ss, s.IsDeclared d
  single : ∀ s ∈ ss, s.message.IsSingle

theorem admits_nil (d : Declarations) : d.Admits [] [] := ⟨by simp, by simp, by simp⟩

/-- Names and exchanges are admitted in two parts as in one. -/
theorem admits_append {names names' : List String} {ss ss' : List SendDefinition} :
    d.Admits (names ++ names') (ss ++ ss') ↔ d.Admits names ss ∧ d.Admits names' ss' := by
  constructor
  · rintro ⟨hactors, hdeclared, hsingle⟩
    rw [List.forall_mem_append] at hactors hdeclared hsingle
    exact ⟨⟨hactors.1, hdeclared.1, hsingle.1⟩, hactors.2, hdeclared.2, hsingle.2⟩
  · rintro ⟨h, h'⟩
    exact ⟨List.forall_mem_append.2 ⟨h.actors, h'.actors⟩,
      List.forall_mem_append.2 ⟨h.declared, h'.declared⟩,
      List.forall_mem_append.2 ⟨h.single, h'.single⟩⟩

theorem admits_actor {name : Option String} :
    (∀ n ∈ name, d.actors.contains n = true) ↔ d.Admits name.toList [] := by
  constructor
  · exact fun h => ⟨fun n hn => h n (Option.mem_toList.1 hn), d.admits_nil.declared,
      d.admits_nil.single⟩
  · exact fun h n hn => h.actors n (Option.mem_toList.2 hn)

end Declarations

/-! ## Actions -/

/-- An exchange passes exactly if all names in it are declared, and gives the actor that is named.
-/
theorem SendDefinition.settles_check (s : SendDefinition) (d : Declarations) :
    Settles (s.check d) (s.IsDeclared d ∧ ∀ n ∈ s.actor, d.actors.contains n = true)
      (s.actor.bind d.actors.get?) := by
  refine ((d.settles_checkEndpoint _).bind ((d.settles_checkDictionary _).bind
    (d.settles_actor? _))).of_iff ?_
  rw [← and_assoc]
  exact and_congr_left fun _ => ⟨fun h => ⟨h.1, h.2⟩, fun h => ⟨h.endpoint, h.dictionary⟩⟩

theorem SendDefinition.admits_iff {s : SendDefinition} {d : Declarations} :
    (s.IsDeclared d ∧ ∀ n ∈ s.actor, d.actors.contains n = true) ∧ s.message.IsSingle
      ↔ d.Admits s.actor.toList [s] := by
  constructor
  · rintro ⟨⟨hdeclared, hactor⟩, hsingle⟩
    exact ⟨(Declarations.admits_actor.1 hactor).actors, by simpa using hdeclared,
      by simpa using hsingle⟩
  · intro h
    exact ⟨⟨h.declared s (by simp), fun n hn => h.actors n (Option.mem_toList.2 hn)⟩,
      h.single s (by simp)⟩

namespace ActionDefinition

mutual
/-- What is said of the actions that send or receive, at any depth. -/
def exchanges : ActionDefinition → List SendDefinition
  | .send s => [s]
  | .receive r => [r.toSendDefinition]
  | .sequence _ _ as => exchangesOfAll as
  | .conditional _ _ _ as => exchangesOfAll as
  | _ => []

/-- The exchanges in a list of definitions, in order. -/
def exchangesOfAll : List ActionDefinition → List SendDefinition
  | [] => []
  | a :: as => exchanges a ++ exchangesOfAll as
end

mutual
/-- The names of actors in a definition, at any depth. -/
def actorNames : ActionDefinition → List String
  | .send s => s.actor.toList
  | .receive r => r.actor.toList
  | .sequence _ actor as => actor.toList ++ actorNamesOfAll as
  | .conditional _ actor _ as => actor.toList ++ actorNamesOfAll as
  | _ => []

/-- The names of actors in a list of definitions, in order. -/
def actorNamesOfAll : List ActionDefinition → List String
  | [] => []
  | a :: as => actorNames a ++ actorNamesOfAll as
end

mutual
/-- The action that a definition means, with these actors. -/
def made (actors : Assoc Actor) : ActionDefinition → Action
  | .echo message => .echo message
  | .fail message => .fail message
  | .sleep milliseconds => .sleep milliseconds
  | .createVariables vars => .createVariables vars
  | .send s => .send
    { name := s.name.getD "send", actor := s.actor.bind actors.get?, endpoint := .named s.endpoint
      builder := s.message.builder, type := s.message.type.getD .xml
      dictionary := s.dictionary.map .named, processors := s.extract.processors }
  | .receive r => .receive
    { name := r.name.getD "receive", actor := r.actor.bind actors.get?
      endpoint := .named r.endpoint, control := r.message.control
      type := r.message.type.getD .xml, timeout := r.timeout
      dictionary := r.dictionary.map .named, processors := r.extract.processors }
  | .sequence name actor as =>
    .sequence (name.getD Action.sequenceName) (actor.bind actors.get?) (madeAll actors as)
  | .conditional name actor condition as => .conditional (name.getD Action.conditionalName)
      (actor.bind actors.get?) condition (madeAll actors as)

/-- The actions that a list of definitions means. -/
def madeAll (actors : Assoc Actor) : List ActionDefinition → List Action
  | [] => []
  | a :: as => made actors a :: madeAll actors as
end

/-- The definitions of the actions in a container. -/
def children : ActionDefinition → List ActionDefinition
  | .sequence _ _ as => as
  | .conditional _ _ _ as => as
  | _ => []

theorem madeAll_eq_map (actors : Assoc Actor) (as : List ActionDefinition) :
    madeAll actors as = as.map (made actors) := by
  induction as with
  | nil => rfl
  | cons a as ih => rw [madeAll, ih, List.map_cons]

/-- Containers keep their children, and their order. -/
theorem children_made (actors : Assoc Actor) (a : ActionDefinition) :
    (a.made actors).children = a.children.map (made actors) := by
  cases a with
  | sequence name actor as => exact madeAll_eq_map actors as
  | conditional name actor condition as => exact madeAll_eq_map actors as
  | _ => rfl

mutual
/-- An action is made if its definition may refer to what it refers to. -/
theorem settles_action (d : Declarations) : ∀ a : ActionDefinition,
    Settles (a.action d) (d.Admits a.actorNames a.exchanges) (a.made d.actors)
  | .echo _ | .fail _ | .sleep _ | .createVariables _ =>
    (Settles.pure _).of_iff (iff_of_true trivial d.admits_nil)
  | .send s =>
    ((s.settles_check d).bind (s.message.settles_builder.map _)).of_iff SendDefinition.admits_iff
  | .receive r =>
    ((r.settles_check d).bind (r.message.settles_control.map _)).of_iff SendDefinition.admits_iff
  | .sequence _ actor as =>
    ((d.settles_actor? actor).bind ((settles_actions d as).map _)).of_iff
      ((and_congr_left fun _ => Declarations.admits_actor).trans Declarations.admits_append.symm)
  | .conditional _ actor _ as =>
    ((d.settles_actor? actor).bind ((settles_actions d as).map _)).of_iff
      ((and_congr_left fun _ => Declarations.admits_actor).trans Declarations.admits_append.symm)

/-- A list of definitions passes exactly if each of them does. -/
theorem settles_actions (d : Declarations) : ∀ as : List ActionDefinition,
    Settles (actions d as) (d.Admits (actorNamesOfAll as) (exchangesOfAll as))
      (madeAll d.actors as)
  | [] => (Settles.pure _).of_iff (iff_of_true trivial d.admits_nil)
  | a :: as =>
    ((settles_action d a).bind ((settles_actions d as).map _)).of_iff
      Declarations.admits_append.symm
end

end ActionDefinition

/-! ## Test cases -/

/-- Every name in the definition is declared, and no message is given both a payload and a
script. -/
structure TestCaseDefinition.IsWellFormed (t : TestCaseDefinition) : Prop where
  endpointActors : ∀ e ∈ t.endpoints, ∀ name ∈ e.actor, name ∈ t.actors.map (·.name)
  actionActors : ∀ name ∈ ActionDefinition.actorNamesOfAll t.actions, name ∈ t.actors.map (·.name)
  endpoints : ∀ s ∈ ActionDefinition.exchangesOfAll t.actions,
    s.endpoint ∈ t.endpoints.map (·.name)
  dictionaries : ∀ s ∈ ActionDefinition.exchangesOfAll t.actions, ∀ name ∈ s.dictionary,
    name ∈ t.dictionaries.map (·.name)
  single : ∀ s ∈ ActionDefinition.exchangesOfAll t.actions,
    ¬ (s.message.HasPayload ∧ s.message.HasScript)

/-- Dictionaries without a resource of mappings can always be put together. -/
theorem DictionaryDefinition.exists_dictionaries (loader : Loader)
    {ds : List DictionaryDefinition} (h : ∀ d ∈ ds, d.mappingsResource = none) (id : Nat) :
    ∃ xs, dictionaries loader id ds = .ok xs := by
  induction ds generalizing id with
  | nil => exact ⟨[], rfl⟩
  | cons d ds ih =>
    obtain ⟨hd, hds⟩ := List.forall_mem_cons.1 h
    obtain ⟨xs, hxs⟩ := ih hds (id + 1)
    exact ⟨(d.empty id).addAll d.mappings.entries :: xs, by
      rw [dictionaries, dictionary, hd, hxs]; rfl⟩

namespace TestCaseDefinition

variable {t : TestCaseDefinition} {base : Context} {timeout : Nat}

theorem isWellFormed_iff : t.IsWellFormed
    ↔ (∀ e ∈ t.endpoints, ∀ name ∈ e.actor, t.actorTable.contains name = true)
      ∧ (t.declarations timeout).Admits (ActionDefinition.actorNamesOfAll t.actions)
        (ActionDefinition.exchangesOfAll t.actions) := by
  have hactors {name : String} :
      t.actorTable.contains name = true ↔ name ∈ t.actors.map (·.name) := contains_ofList_map
  have hends {name : String} : (t.declarations timeout).endpoints.contains name = true
      ↔ name ∈ t.endpoints.map (·.name) := contains_ofList_map
  simp only [hactors]
  constructor
  · intro h
    exact ⟨h.endpointActors, fun name hname => hactors.2 (h.actionActors name hname),
      fun s hs => ⟨hends.2 (h.endpoints s hs), h.dictionaries s hs⟩, h.single⟩
  · rintro ⟨hendpoints, h⟩
    exact ⟨hendpoints, fun name hname => hactors.1 (h.actors name hname),
      fun s hs => hends.1 (h.declared s hs).endpoint, fun s hs => (h.declared s hs).dictionary,
      h.single⟩

instance (t : TestCaseDefinition) : Decidable t.IsWellFormed :=
  decidable_of_iff
    ((∀ e ∈ t.endpoints, ∀ name ∈ e.actor, name ∈ t.actors.map (·.name))
      ∧ (∀ name ∈ ActionDefinition.actorNamesOfAll t.actions, name ∈ t.actors.map (·.name))
      ∧ ∀ s ∈ ActionDefinition.exchangesOfAll t.actions, s.endpoint ∈ t.endpoints.map (·.name)
        ∧ (∀ name ∈ s.dictionary, name ∈ t.dictionaries.map (·.name)) ∧ s.message.IsSingle)
    ⟨fun ⟨h₁, h₂, h₃⟩ => ⟨h₁, h₂, fun s hs => (h₃ s hs).1, fun s hs => (h₃ s hs).2.1,
      fun s hs => (h₃ s hs).2.2⟩,
    fun h => ⟨h.endpointActors, h.actionActors,
      fun s hs => ⟨h.endpoints s hs, h.dictionaries s hs, h.single s hs⟩⟩⟩

/-- Loading settles whether the definition is well-formed. -/
theorem exists_settles_load (h : ∀ d ∈ t.dictionaries, d.mappingsResource = none) (base : Context)
    (timeout : Nat) : ∃ l, Settles (t.load base timeout) t.IsWellFormed l
      ∧ l.testCase.actions = ActionDefinition.madeAll t.actorTable t.actions := by
  obtain ⟨xs, hxs⟩ := DictionaryDefinition.exists_dictionaries base.loader h
    (DictionaryDefinition.firstId base.chain)
  have hdictionaries : Settles (DictionaryDefinition.dictionaries base.loader
      (DictionaryDefinition.firstId base.chain) t.dictionaries) True xs := hxs ▸ Settles.pure xs
  have hends := Declarations.settles_addEndpoints timeout t.endpoints { actors := t.actorTable }
  have hactions := ActionDefinition.settles_actions (t.declarations timeout) t.actions
  refine ⟨_, (hends.bind (hdictionaries.bind (hactions.map _))).of_iff ?_, rfl⟩
  rw [true_and]
  exact isWellFormed_iff.symm

/-- The loader accepts exactly the well-formed definitions, in every context and with every timeout,
and its errors are errors of the definition. Of a definition that is accepted every action is made,
in its place; what is made of a container has what is made of the container's actions. -/
theorem load_accepts (h : ∀ d ∈ t.dictionaries, d.mappingsResource = none) (base : Context)
    (timeout : Nat) :
    ((∃ l, t.load base timeout = .ok l) ↔ t.IsWellFormed)
      ∧ (∀ e, t.load base timeout = .error e → ∃ fault, e = .config fault)
      ∧ (∀ l, t.load base timeout = .ok l →
        l.testCase.actions = t.actions.map (ActionDefinition.made t.actorTable))
      ∧ ∀ a : ActionDefinition, (a.made t.actorTable).children
        = a.children.map (ActionDefinition.made t.actorTable) := by
  obtain ⟨l, hsettles, hactions⟩ := exists_settles_load h base timeout
  refine ⟨hsettles.exists_ok_iff, fun e => hsettles.eq_config_of_error, fun l' hl' => ?_,
    ActionDefinition.children_made t.actorTable⟩
  rw [hsettles.eq_of_ok hl', hactions, ActionDefinition.madeAll_eq_map]

/-- A clerk sends a message to the desk and says so. -/
def errand (message : MessageDefinition) : TestCaseDefinition where
  name := "errand"
  actors := [{ name := "clerk" }]
  endpoints := [{ name := "desk", actor := some "clerk" }]
  dictionaries := [{ name := "terms" }]
  actions := [.sequence none (some "clerk")
    [.send { endpoint := "desk", message, dictionary := some "terms" }, .echo "sent"]]

/-- The message has one source, or two of them. -/
theorem load_accepts_errand :
    (∃ l, (errand { payload := some "x" }).load {} 0 = .ok l
      ∧ l.testCase.actions.map (fun a => a.children.map Action.name) = [["send", "echo"]])
    ∧ ∃ fault, (errand { payload := some "x", scriptResource := some "y" }).load {} 0
      = .error (.config fault) := by
  constructor
  · obtain ⟨haccepts, -, hactions, -⟩ :=
      load_accepts (t := errand { payload := some "x" }) (by simp [errand]) {} 0
    obtain ⟨l, hl⟩ := haccepts.2 (by decide)
    exact ⟨l, hl, by rw [hactions l hl]; rfl⟩
  · obtain ⟨haccepts, herrors, -, -⟩ := load_accepts
      (t := errand { payload := some "x", scriptResource := some "y" }) (by simp [errand]) {} 0
    have hrefused :
        ¬ (errand { payload := some "x", scriptResource := some "y" }).IsWellFormed := by
      decide
    cases hl : (errand { payload := some "x", scriptResource := some "y" }).load {} 0 with
    | ok l => exact absurd (haccepts.1 ⟨l, hl⟩) hrefused
    | error e =>
      obtain ⟨fault, rfl⟩ := herrors e hl
      exact ⟨fault, rfl⟩

end TestCaseDefinition
end Rehearsal
