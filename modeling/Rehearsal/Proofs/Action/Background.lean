import Rehearsal.Proofs.Action.Setup
import Rehearsal.Proofs.Processor.Effects

/-!
# The background of a run

The background of a world is all of it but the scope of the context and the random numbers: the
channels, the messages that were stored, what names refer to, the chain and the rest of the setup.
Most of what an action does leaves the background alone, also where it fails. A message on its way
may change the context, by processors that are not built in, and never its surroundings. Main
statements: what is seen of the background is changed by exchanges only, and by actions that are not
built in (`Action.leavesAt_visit`), and a run leaves alone what each of its visits does
(`Action.leavesAt_perform`).
-/

namespace Rehearsal

namespace World

variable {γ : Type}

/-- All of a world but the scope of the context and the random numbers. -/
def background (w : World) : World := { w with context := w.context.background, fresh := {} }

/-- What no message changes on its way. -/
def surroundings (w : World) : Queues × Extensions × Requests :=
  (w.queues, w.extensions, w.requests)

/-- What is seen of the background of the context, and what no message changes on its way. -/
def view (f : Context → γ) (w : World) : γ × Queues × Extensions × Requests :=
  (f w.context.background, w.surroundings)

/-- What names refer to, and what is done by what is not built in. -/
def meanings (w : World) : Bindings × Extensions := (w.context.bindings, w.extensions)

variable {f : Context → γ} {w w' : World}

theorem extensions_of_view (h : w'.view f = w.view f) : w'.extensions = w.extensions :=
  congrArg (·.2.2.1) h

/-- What is seen of the background is the same in worlds with the same background. -/
theorem eq_of_background {g : World → γ} (h : w'.background = w.background) :
    g w'.background = g w.background := congrArg g h

theorem queues_of_background (h : w'.background = w.background) : w'.queues = w.queues :=
  eq_of_background (g := queues) h

theorem chain_of_background (h : w'.background = w.background) :
    w'.context.chain = w.context.chain :=
  eq_of_background (g := fun w => w.context.chain) h

theorem extensions_of_background (h : w'.background = w.background) :
    w'.extensions = w.extensions := eq_of_background (g := extensions) h

end World

namespace Run

variable {α β γ : Type}

theorem leaves_view {x : Run α} (h : Leaves World.background x) (f : Context → γ) :
    Leaves (World.view f) x := h.map (World.view f)

/-- What comes after a computation that leaves the background alone finds it as it was before. -/
theorem leavesAt_bind_of_background {x : Run α} {k : α → Run β} {f : Context → γ} {w : World}
    (hx : Leaves World.background x)
    (hk : ∀ a w', w'.background = w.background → LeavesAt (World.view f) (k a) w') :
    LeavesAt (World.view f) (x >>= k) w :=
  leavesAt_bind (leaves_view hx f w) fun a w' h => hk a w' ((hx w).view_eq h)

theorem leavesAt_within {view : World → γ} {x : Run α} {w : World} (h : LeavesAt view x w)
    (action : String) : LeavesAt view (within action x) w := by
  rw [LeavesAt, ← h, outcome_within]
  rcases outcome x w with ⟨e | a, w'⟩ <;> rfl

theorem leaves_draw (f : Context → Draw α) : Leaves World.background (draw f) := by
  intro w
  cases h : (f w.context).run w.fresh with
  | ok r => rw [LeavesAt, outcome_draw_of_ok h]; rfl
  | error e => rw [LeavesAt, outcome_draw_of_error h]

theorem queues_of_draw {f : Context → Draw α} {w w' : World} {r : Except Error α}
    (h : outcome (draw f) w = (r, w')) : w'.queues = w.queues :=
  World.queues_of_background ((leaves_draw f w).view_eq h)

theorem leaves_resolve (template : String) : Leaves World.background (resolve template) :=
  leaves_draw _

theorem leaves_bindTemplates (templates : List (String × String)) :
    Leaves World.background (bindTemplates templates) := by
  induction templates with
  | nil => exact leaves_pure ()
  | cons t ts ih =>
    refine leaves_bind (leaves_resolve _) fun _ => ?_
    exact leaves_bind (fun _ => rfl) fun _ => ih

theorem leaves_through (step : Step Unit) (m : Message) :
    Leaves World.surroundings (through step m) := by
  intro w
  rw [LeavesAt, outcome_through]
  split <;> rfl

/-- What is seen of the background of the context is as the message on its way leaves it. -/
theorem leavesAt_through {f : Context → γ} {step : Step Unit} {m : Message} {w : World}
    (h : LeavesAt (Transit.view f) step (w.setOut m)) :
    LeavesAt (World.view f) (through step m) w := by
  have hcontext : f (outcome step (w.setOut m)).2.context.background = f w.context.background :=
    congrArg Prod.fst h
  rw [LeavesAt, outcome_through]
  split
  · next t ht =>
    rw [ht] at hcontext
    exact congrArg (·, w.surroundings) hcontext
  · next e t ht =>
    rw [ht] at hcontext
    exact congrArg (·, w.surroundings) hcontext

theorem leaves_endpoint (r : Reference Endpoint) : Leaves id (endpoint r) := by
  intro w
  rw [LeavesAt, outcome_endpoint]

theorem leaves_dictionary (r? : Option (Reference Dictionary)) :
    Leaves id (dictionary r?) := by
  cases r? with
  | none => exact leaves_pure none
  | some r => exact leaves_bind (fun w => rfl) fun c => leaves_bind (leaves_liftM _) fun d =>
      leaves_pure (some d)

end Run

namespace Action

variable {γ : Type} {view : World → γ} {C : Action → Prop}

theorem leaves_disabled (a : Action) : Leaves id a.disabled := by
  cases a with
  | send s =>
    intro w
    rw [LeavesAt, disabled, Run.outcome_isDisabled]
  | receive r =>
    intro w
    rw [LeavesAt, disabled, Run.outcome_isDisabled]
  | _ => exact leaves_pure _

/-- What is seen of the background is the same after an action, apart from the actions that it
holds, if exchanges and actions that are not built in leave it alone. -/
theorem leavesAt_visit {g : World → γ} {a : Action} {w : World}
    (hsend : ∀ s, a = .send s → LeavesAt (fun w => g w.background) s.run w)
    (hreceive : ∀ r, a = .receive r → LeavesAt (fun w => g w.background) r.run w)
    (hcustom : ∀ name actor body, a = .custom name actor body →
      LeavesAt (fun w => g w.background) body w) :
    LeavesAt (fun w => g w.background) a.visit w := by
  refine leavesAt_bind ((a.leaves_disabled w).map fun w => g w.background) fun b w' hb => ?_
  obtain rfl : w' = w := (a.leaves_disabled w).view_eq hb
  cases b with
  | true => exact leaves_pure [] _
  | false =>
    show LeavesAt (fun w => g w.background) a.enter w'
    cases a with
    | echo message =>
      exact leaves_bind ((Run.leaves_resolve message).map g) (fun _ => leaves_pure []) w'
    | fail message =>
      exact leaves_bind ((Run.leaves_resolve message).map g) (fun _ => leaves_throw _) w'
    | sleep milliseconds => exact leaves_pure [] w'
    | createVariables vars =>
      exact leaves_bind ((Run.leaves_bindTemplates _).map g) (fun _ => leaves_pure []) w'
    | send s => exact leavesAt_bind (hsend s rfl) fun _ w'' _ => leaves_pure [] w''
    | receive r => exact leavesAt_bind (hreceive r rfl) fun _ w'' _ => leaves_pure [] w''
    | sequence name actor actions => exact leaves_pure actions w'
    | conditional name actor condition actions =>
      refine leaves_bind ((Run.leaves_draw _).map g) (fun b => ?_) w'
      cases b <;> exact leaves_pure _
    | custom name actor body =>
      exact leavesAt_bind (hcustom name actor body rfl) fun _ w'' _ => leaves_pure [] w''

theorem leavesAt_perform_of_visit {a : Action} {w : World} (hvisit : LeavesAt view a.visit w)
    (hc : ∀ w', view w' = view w → LeavesAt view (performAll a.children) w') :
    LeavesAt view a.perform w := by
  rw [perform_eq]
  refine Run.leavesAt_within (leavesAt_bind hvisit fun as w' hv => ?_) _
  rcases eq_nil_or_eq_children hv with rfl | rfl
  · rw [performAll_nil]
    exact leaves_pure () w'
  · exact hc w' (hvisit.view_eq hv)

variable {P : γ → Prop}

mutual
/-- Running an action leaves alone what each visit in it does. The visits may rely on what is left
alone. -/
theorem leavesAt_perform (hvisit : ∀ a, C a → ∀ w, P (view w) → LeavesAt view a.visit w) :
    ∀ (a : Action), a.Hereditarily C → ∀ w, P (view w) → LeavesAt view a.perform w
  | .sequence _ _ actions, h, w, hw =>
    leavesAt_perform_of_visit (hvisit _ h.self w hw) fun w' hw' =>
      leavesAt_performAll hvisit actions (fun _ hb => h.child hb) w' (hw'.symm ▸ hw)
  | .conditional _ _ _ actions, h, w, hw =>
    leavesAt_perform_of_visit (hvisit _ h.self w hw) fun w' hw' =>
      leavesAt_performAll hvisit actions (fun _ hb => h.child hb) w' (hw'.symm ▸ hw)
  | .echo _, h, w, hw | .fail _, h, w, hw | .sleep _, h, w, hw | .createVariables _, h, w, hw
  | .send _, h, w, hw | .receive _, h, w, hw | .custom _ _ _, h, w, hw =>
    leavesAt_perform_of_visit (hvisit _ h.self w hw) fun w' _ => performAll_nil ▸ leaves_pure () w'

theorem leavesAt_performAll (hvisit : ∀ a, C a → ∀ w, P (view w) → LeavesAt view a.visit w) :
    ∀ (as : List Action), (∀ a ∈ as, a.Hereditarily C) → ∀ w, P (view w) →
      LeavesAt view (performAll as) w
  | [], _, w, _ => performAll_nil ▸ leaves_pure () w
  | a :: as, h, w, hw => by
    have ha := leavesAt_perform hvisit a (h a List.mem_cons_self) w hw
    rw [performAll_cons]
    refine leavesAt_bind ha fun _ w' hw' => ?_
    exact leavesAt_performAll hvisit as (fun b hb => h b (List.mem_cons_of_mem a hb)) w'
      ((ha.view_eq hw').symm ▸ hw)
end

end Action
end Rehearsal
