import Rehearsal.Message.Basic

/-!
# Endpoints

An endpoint is a place that messages are sent to and received from. It is a channel, which is a
queue with room for so many messages or for any number, or it carries messages in a way of its own.
An actor is somebody who takes part in a test case and can be switched off. What is in the channels
is kept apart from the endpoints, in `Queues`. Main statements: a message that is put into a channel
comes behind those that are there, and one that is taken was in front of them (`contents_put`,
`contents_of_take?`), other channels stay as they are, and none grows past its room
(`length_put_le`).
-/

namespace Rehearsal

/-- Somebody who takes part in a test case. -/
structure Actor where
  name : String
  disabled : Bool := false
  deriving DecidableEq, Repr

/-- How an endpoint carries messages. -/
inductive Transport
  /-- By a channel. The number tells it apart from channels that were made alike. -/
  | channel (id : Nat)
  /-- In a way that is not built in. What it does is kept elsewhere, under this number. -/
  | custom (key : Nat)
  deriving DecidableEq, Repr

/-- A place that messages are sent to and received from. -/
structure Endpoint where
  name : String
  /-- How many milliseconds a message is waited for. -/
  timeout : Nat
  /-- How many messages there is room for, if the room is limited. -/
  capacity : Option Nat := none
  actor : Option Actor := none
  transport : Transport := .channel 0
  deriving DecidableEq, Repr

/-- A channel, with the name and the room that it was made with. Endpoints that differ in their
actor or in the time that they wait may share a channel. -/
structure Channel where
  id : Nat
  name : String
  capacity : Option Nat
  deriving DecidableEq, Repr

/-- The channel of an endpoint, if it has one. -/
def Endpoint.channel? (e : Endpoint) : Option Channel :=
  match e.transport with
  | .channel id => some { id, name := e.name, capacity := e.capacity }
  | .custom _ => none

/-- The messages in the channels. -/
structure Queues where
  /-- What is in a channel, the message that came first in front. -/
  contents : Channel → List Message

namespace Queues

/-- Nothing is in any channel. -/
def empty : Queues := ⟨fun _ => []⟩

/-- Put these messages in the place of what is in a channel. -/
def set (q : Queues) (c : Channel) (ms : List Message) : Queues :=
  ⟨fun d => if d = c then ms else q.contents d⟩

/-- Is there room for one more message in a channel? -/
def hasRoomIn (q : Queues) (c : Channel) : Bool :=
  c.capacity.all fun n => (q.contents c).length < n

/-- Put a message behind those in a channel, if there is room. -/
def put (q : Queues) (c : Channel) (m : Message) : Except Error Queues :=
  if q.hasRoomIn c then .ok (q.set c (q.contents c ++ [m]))
  else .error (.channelFull c.name (c.capacity.getD 0))

/-- Take the message that has been in a channel for longest. -/
def take? (q : Queues) (c : Channel) : Option (Message × Queues) :=
  match q.contents c with
  | [] => none
  | m :: ms => some (m, q.set c ms)

/-- The messages that wait in the channel of an endpoint. -/
def waiting (q : Queues) (e : Endpoint) : List Message := (e.channel?.map q.contents).getD []

/-- Has the endpoint a channel with room for one more message? -/
def hasRoom (q : Queues) (e : Endpoint) : Bool := e.channel?.any q.hasRoomIn

/-- Take away all messages that wait in the channel of an endpoint. -/
def clear (q : Queues) (e : Endpoint) : Queues :=
  match e.channel? with
  | some c => q.set c []
  | none => q

section
variable {q q' : Queues} {c d : Channel} {m : Message}

@[simp] theorem contents_set_self (q : Queues) (c : Channel) (ms : List Message) :
    (q.set c ms).contents c = ms := if_pos rfl

theorem contents_set_of_ne (q : Queues) (ms : List Message) (h : d ≠ c) :
    (q.set c ms).contents d = q.contents d := if_neg h

theorem waiting_of_channel? {e : Endpoint} (h : e.channel? = some c) :
    q.waiting e = q.contents c := by
  rw [waiting, h]
  rfl

theorem put_eq_ok : q.put c m = .ok q'
    ↔ q.hasRoomIn c = true ∧ q' = q.set c (q.contents c ++ [m]) := by
  unfold put
  split
  · next h => simp [h, eq_comm]
  · next h => simp [h]

theorem put_eq_error {e : Error} : q.put c m = .error e
    ↔ q.hasRoomIn c = false ∧ e = .channelFull c.name (c.capacity.getD 0) := by
  unfold put
  split
  · next h => simp [h]
  · next h => simp [h, eq_comm]

theorem take?_eq_some : q.take? c = some (m, q')
    ↔ ∃ ms, q.contents c = m :: ms ∧ q' = q.set c ms := by
  unfold take?
  split
  · next h => simp [h]
  · next m' ms h =>
    rw [h]
    constructor
    · intro he
      cases he
      exact ⟨ms, rfl, rfl⟩
    · rintro ⟨ms', he, rfl⟩
      cases he
      rfl

/-- A message that is put into a channel comes behind those that are there. -/
theorem contents_put (h : q.put c m = .ok q') : q'.contents c = q.contents c ++ [m] := by
  obtain ⟨-, rfl⟩ := put_eq_ok.1 h
  exact contents_set_self _ _ _

theorem contents_put_of_ne (h : q.put c m = .ok q') (hne : d ≠ c) :
    q'.contents d = q.contents d := by
  obtain ⟨-, rfl⟩ := put_eq_ok.1 h
  exact contents_set_of_ne _ _ hne

/-- A channel never grows past its room. -/
theorem length_put_le {n : Nat} (hn : c.capacity = some n) (h : q.put c m = .ok q') :
    (q'.contents c).length ≤ n := by
  have hroom := (put_eq_ok.1 h).1
  rw [hasRoomIn, hn, Option.all_some, decide_eq_true_eq] at hroom
  rw [contents_put h, List.length_append, List.length_singleton]
  exact hroom

/-- A message that is taken was in front. -/
theorem contents_of_take? (h : q.take? c = some (m, q')) :
    q.contents c = m :: q'.contents c := by
  obtain ⟨ms, hms, rfl⟩ := take?_eq_some.1 h
  rw [hms, contents_set_self]

theorem contents_take?_of_ne (h : q.take? c = some (m, q')) (hne : d ≠ c) :
    q'.contents d = q.contents d := by
  obtain ⟨ms, -, rfl⟩ := take?_eq_some.1 h
  exact contents_set_of_ne _ _ hne

end

end Queues
end Rehearsal
