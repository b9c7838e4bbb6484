import Rehearsal.Endpoint

/-!
# Movements of messages

A message is put into a channel or taken out of one. The movements of a run are kept as a list, and
what it did to the channels is what the movements do one after the other. Main statements: no
message is lost, added or overtaken on the way (`Leads.balance`), and a channel does not grow past
its room (`Leads.length_le`).
-/

namespace Rehearsal

/-- A message goes into a channel or comes out of it. -/
inductive Movement
  | put (c : Channel) (m : Message)
  | take (c : Channel) (m : Message)

namespace Movement

/-- What the movement does to the channels. There has to be room for a message that is put in, and
one that is taken has to be in front. -/
inductive Changes : Movement → Queues → Queues → Prop
  | put {q q' : Queues} {c : Channel} {m : Message} (h : q.put c m = .ok q') :
      Changes (.put c m) q q'
  | take {q q' : Queues} {c : Channel} {m : Message} (h : q.take? c = some (m, q')) :
      Changes (.take c m) q q'

/-- The message that goes into a channel. -/
def put? (c : Channel) : Movement → Option Message
  | .put d m => if d = c then some m else none
  | .take .. => none

/-- The message that comes out of a channel. -/
def taken? (c : Channel) : Movement → Option Message
  | .put .. => none
  | .take d m => if d = c then some m else none

end Movement

/-- The messages that are put into a channel, in order. -/
def messagesPut (c : Channel) (xs : List Movement) : List Message := xs.filterMap (·.put? c)

/-- The messages that are taken from a channel, in order. -/
def messagesTaken (c : Channel) (xs : List Movement) : List Message := xs.filterMap (·.taken? c)

/-- Movements one after the other lead from some contents of the channels to others. -/
inductive Leads : Queues → List Movement → Queues → Prop
  | nil (q : Queues) : Leads q [] q
  | cons {x : Movement} {xs : List Movement} {q q₁ q' : Queues} (hx : x.Changes q q₁)
      (hxs : Leads q₁ xs q') : Leads q (x :: xs) q'

namespace Movement.Changes

variable {x : Movement} {q q' : Queues} {c : Channel}

/-- One movement puts one message behind the others, or takes the one in front, or leaves the
channel alone. -/
theorem balance (h : x.Changes q q') (c : Channel) :
    (x.taken? c).toList ++ q'.contents c = q.contents c ++ (x.put? c).toList := by
  cases h with
  | @put _ _ d m h =>
    by_cases hd : d = c
    · subst hd
      simp [put?, taken?, Queues.contents_put h]
    · simp [put?, taken?, hd, Queues.contents_put_of_ne h (Ne.symm hd)]
  | @take _ _ d m h =>
    by_cases hd : d = c
    · subst hd
      simp [put?, taken?, Queues.contents_of_take? h]
    · simp [put?, taken?, hd, Queues.contents_take?_of_ne h (Ne.symm hd)]

/-- One movement does not fill a channel past its room. -/
theorem length_le {n : Nat} (h : x.Changes q q') (hn : c.capacity = some n)
    (hq : (q.contents c).length ≤ n) : (q'.contents c).length ≤ n := by
  have hbalance := congrArg List.length (h.balance c)
  rw [List.length_append, List.length_append] at hbalance
  cases h with
  | @put _ _ d m h =>
    by_cases hd : d = c
    · subst hd
      exact Queues.length_put_le hn h
    · rwa [Queues.contents_put_of_ne h (Ne.symm hd)]
  | @take _ _ d m h =>
    have hput : (put? c (.take d m)).toList.length = 0 := rfl
    omega

end Movement.Changes

namespace Leads

variable {xs ys : List Movement} {q q₁ q' : Queues} {c : Channel}

theorem append (hxs : Leads q xs q₁) (hys : Leads q₁ ys q') : Leads q (xs ++ ys) q' := by
  induction hxs with
  | nil q => exact hys
  | cons hx _ ih => exact .cons hx (ih hys)

/-- A part of the movements in front leads somewhere, and the others lead on from there. -/
theorem split (h : Leads q (xs ++ ys) q') : ∃ q₁, Leads q xs q₁ ∧ Leads q₁ ys q' := by
  induction xs generalizing q with
  | nil => exact ⟨q, .nil q, h⟩
  | cons x xs ih =>
    cases h with
    | cons hx hxs =>
      obtain ⟨q₁, hfront, hback⟩ := ih hxs
      exact ⟨q₁, .cons hx hfront, hback⟩

/-- What was taken from a channel and what is in it now is what was in it before and what was put
in, all in the same order. -/
theorem balance (h : Leads q xs q') (c : Channel) :
    messagesTaken c xs ++ q'.contents c = q.contents c ++ messagesPut c xs := by
  induction h with
  | nil q => simp [messagesTaken, messagesPut]
  | @cons x xs q q₁ q' hx _ ih =>
    have htaken : messagesTaken c (x :: xs) = (x.taken? c).toList ++ messagesTaken c xs := by
      cases h : x.taken? c <;> simp [messagesTaken, h]
    have hput : messagesPut c (x :: xs) = (x.put? c).toList ++ messagesPut c xs := by
      cases h : x.put? c <;> simp [messagesPut, h]
    calc messagesTaken c (x :: xs) ++ q'.contents c
      _ = (x.taken? c).toList ++ (messagesTaken c xs ++ q'.contents c) := by
        rw [htaken, List.append_assoc]
      _ = (x.taken? c).toList ++ q₁.contents c ++ messagesPut c xs := by
        rw [ih, List.append_assoc]
      _ = q.contents c ++ messagesPut c (x :: xs) := by
        rw [hx.balance c, hput, List.append_assoc]

/-- A channel never grows past its room. -/
theorem length_le {n : Nat} (h : Leads q xs q') (hn : c.capacity = some n)
    (hq : (q.contents c).length ≤ n) : (q'.contents c).length ≤ n := by
  induction h with
  | nil q => exact hq
  | cons hx _ ih => exact ih (hx.length_le hn hq)

end Leads
end Rehearsal
