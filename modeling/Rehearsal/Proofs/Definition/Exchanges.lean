import Rehearsal.Proofs.Action.Setup
import Rehearsal.Proofs.Definition.Acceptance

/-!
# Where the actions of a case come from

A definition holds definitions of actions that send or receive, at any depth. Main statements: what
all of them refer to is declared if a case is loaded (`isDeclared_of_actions`), and every action in
the case that sends or receives, at any depth, refers to what one of them says
(`comesFrom_of_actions`).
-/

namespace Rehearsal

variable {d : Declarations}

/-- What is referred to is what the definition says. -/
structure Exchange.IsOf (x : Exchange) (s : SendDefinition) : Prop where
  endpoint : x.endpoint = .named s.endpoint
  dictionary : x.dictionary = s.dictionary.map .named
  processors : x.processors = s.extract.processors

/-- The action is built in, and refers to what one of the definitions says if it refers to
anything. -/
structure Action.ComesFrom (ss : List SendDefinition) (a : Action) : Prop where
  builtIn : ∀ name actor body, a ≠ .custom name actor body
  exchange : ∀ x, a.exchange? = some x → ∃ s ∈ ss, x.IsOf s

namespace Action

variable {C : Action → Prop} {ss : List SendDefinition} {a : Action}

theorem hereditarily_of_children (ha : C a) (h : ∀ b ∈ a.children, b.Hereditarily C) :
    a.Hereditarily C := by
  intro b hb
  rw [nodes_eq] at hb
  rcases List.mem_cons.1 hb with rfl | hb
  · exact ha
  · obtain ⟨c, hc, hb⟩ := mem_nodesOfAll.1 hb
    exact h c hc b hb

/-- An action that refers to nothing may come from anywhere. -/
theorem ComesFrom.of_exchange?_eq_none (h : a.exchange? = none)
    (hb : ∀ name actor body, a ≠ .custom name actor body) : a.ComesFrom ss := by
  refine ⟨hb, fun x hx => ?_⟩
  rw [h] at hx
  cases hx

theorem ComesFrom.of_exchange {x : Exchange} {s : SendDefinition} (h : a.exchange? = some x)
    (hx : x.IsOf s) (hs : s ∈ ss) : a.ComesFrom ss := by
  constructor
  · rintro name actor body rfl
    cases h
  · intro y hy
    rw [h] at hy
    cases hy
    exact ⟨s, hs, hx⟩

end Action

namespace ActionDefinition

open Rehearsal.Action

variable {ss : List SendDefinition}

mutual
/-- The action that a definition means, and every action in it, comes from one of the definitions.
-/
theorem comesFrom_made (actors : Assoc Actor) : ∀ definition : ActionDefinition,
    (∀ s ∈ definition.exchanges, s ∈ ss) → (definition.made actors).Hereditarily (ComesFrom ss)
  | .echo _, _ | .fail _, _ | .sleep _, _ | .createVariables _, _ =>
    hereditarily_of_children (.of_exchange?_eq_none rfl nofun) nofun
  | .send s, hss => by
    have hs : s ∈ ss := hss s (List.mem_singleton_self s)
    exact hereditarily_of_children (.of_exchange rfl ⟨rfl, rfl, rfl⟩ hs) nofun
  | .receive r, hss => by
    have hr : r.toSendDefinition ∈ ss := hss _ (List.mem_singleton_self _)
    exact hereditarily_of_children (.of_exchange rfl ⟨rfl, rfl, rfl⟩ hr) nofun
  | .sequence _ _ as, hss =>
    hereditarily_of_children (.of_exchange?_eq_none rfl nofun) (comesFrom_madeAll actors as hss)
  | .conditional _ _ _ as, hss =>
    hereditarily_of_children (.of_exchange?_eq_none rfl nofun) (comesFrom_madeAll actors as hss)

theorem comesFrom_madeAll (actors : Assoc Actor) : ∀ defs : List ActionDefinition,
    (∀ s ∈ exchangesOfAll defs, s ∈ ss) → ∀ a ∈ madeAll actors defs, a.Hereditarily (ComesFrom ss)
  | [], _ => nofun
  | definition :: defs, hss => by
    obtain ⟨hhead, htail⟩ := List.forall_mem_append.1 hss
    exact List.forall_mem_cons.2
      ⟨comesFrom_made actors definition hhead, comesFrom_madeAll actors defs htail⟩
end

/-- What the definitions of a case refer to is declared, if their actions can be made. -/
theorem isDeclared_of_actions (defs : List ActionDefinition) {as : List Action}
    (h : actions d defs = .ok as) : ∀ s ∈ exchangesOfAll defs, s.IsDeclared d :=
  ((settles_actions d defs).exists_ok_iff.1 ⟨as, h⟩).declared

/-- Every action that is made, and every action in it, comes from one of the definitions. -/
theorem comesFrom_of_actions (defs : List ActionDefinition) {as : List Action}
    (h : actions d defs = .ok as) (hss : ∀ s ∈ exchangesOfAll defs, s ∈ ss) :
    ∀ a ∈ as, a.Hereditarily (ComesFrom ss) := by
  obtain rfl := (settles_actions d defs).eq_of_ok h
  exact comesFrom_madeAll d.actors defs hss

end ActionDefinition
end Rehearsal
