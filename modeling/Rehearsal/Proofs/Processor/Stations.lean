import Mathlib.Data.List.Induction
import Mathlib.Data.List.Sort
import Rehearsal.Proofs.Processor.Effects

/-!
# The stations of a message

On its way through the dictionaries and processors of a context a message stops at stations: the
dictionary that is attached to it, and entries of the chain. Which ones it stops at is said entry by
entry (`Station.IsCalled`), and their order by the phase they belong to and the place in the chain
(`Station.Before`); the same object may stand at several places. Main statement: these two say all,
there is just one such list of stations (`Station.existsUnique_isWay`), and the passes through
dictionaries and processors run what is there in this order up to the first that fails
(`Processor.outcome_passes_of_isWay`).
-/

namespace Rehearsal

/-- A place that a message stops at. -/
inductive Station
  /-- The dictionary that is attached to the message itself. -/
  | attached
  /-- The entry at this place in the chain. -/
  | entry (i : Nat)
  deriving DecidableEq

namespace Station

/-- What is run at the station. -/
def processor? (chain : List Processor) (attached : Option Dictionary) :
    Station → Option Processor
  | .attached => attached.map .dictionary
  | .entry i => chain[i]?

/-- A message that goes this way stops at the attached dictionary if that goes its way; at a
dictionary of the chain if it is a global one, goes its way and is not the attached one itself; and
at any other entry of the chain that goes its way. -/
def IsCalled (chain : List Processor) (towards : Direction) (attached : Option Dictionary) :
    Station → Prop
  | .attached => ∃ d, attached = some d ∧ d.direction.appliesTo towards
  | .entry i => ∃ p, chain[i]? = some p ∧ p.direction.appliesTo towards
      ∧ ∀ d, p = .dictionary d → d.isGlobal ∧ ∀ a, attached = some a → a.id ≠ d.id

/-- The attached dictionary comes first, then those of the chain, and then its other entries. -/
def phase (chain : List Processor) : Station → Nat
  | .attached => 0
  | .entry i => if (chain[i]?.bind Processor.dictionary?).isSome then 1 else 2

/-- The place in the chain. -/
def place : Station → Nat
  | .attached => 0
  | .entry i => i

/-- Earlier phases come first, and within a phase earlier places. -/
def Before (chain : List Processor) (x y : Station) : Prop :=
  x.phase chain < y.phase chain ∨ x.phase chain = y.phase chain ∧ x.place < y.place

end Station

namespace Processor

/-- What comes out of running processors one after the other, up to the first that fails. -/
def follow : List Processor → Transit → Except Error Unit × Transit
  | [], t => (.ok (), t)
  | p :: ps, t =>
    match outcome p.run t with
    | (.ok (), t) => follow ps t
    | (.error e, t) => (.error e, t)

theorem outcome_runAll (ps : List Processor) (t : Transit) :
    outcome (runAll ps) t = follow ps t := by
  induction ps generalizing t with
  | nil => rfl
  | cons p ps ih =>
    rw [runAll, follow, outcome_bind]
    rcases outcome p.run t with ⟨e | ⟨⟩, t'⟩
    · rfl
    · exact ih t'

theorem follow_append (ps qs : List Processor) (t : Transit) :
    follow (ps ++ qs) t = match follow ps t with
      | (.ok (), t) => follow qs t
      | (.error e, t) => (.error e, t) := by
  induction ps generalizing t with
  | nil => rfl
  | cons p ps ih =>
    rw [List.cons_append, follow, follow]
    rcases outcome p.run t with ⟨e | ⟨⟩, t'⟩
    · rfl
    · exact ih t'

end Processor

/-! ## The stations in order -/

namespace Station

section
variable (chain : List Processor) (towards : Direction) (attached : Option Dictionary)

/-- Does a message stop at this dictionary of the chain? -/
def callsDictionary (p : Processor) : Bool :=
  p.dictionary?.any fun d =>
    d.isGlobal && d.direction.appliesTo towards && !attached.any (·.id = d.id)

/-- Does a message stop at this entry of the chain, which is no dictionary? -/
def callsOther (p : Processor) : Bool := p.dictionary?.isNone && p.direction.appliesTo towards

/-- The places of the chain with an entry of this kind. -/
def places (calls : Processor → Bool) : List Nat :=
  (List.range chain.length).filter fun i => chain[i]?.any calls

/-- The stations of a message, one after the other. -/
def way : List Station :=
  (if attached.any (·.direction.appliesTo towards) then [.attached] else [])
    ++ ((places chain (callsDictionary towards attached)).map .entry
      ++ (places chain (callsOther towards)).map .entry)

end

section
variable {chain : List Processor} {towards : Direction} {attached : Option Dictionary}

theorem mem_places {calls : Processor → Bool} {i : Nat} :
    i ∈ places chain calls ↔ ∃ p, chain[i]? = some p ∧ calls p = true := by
  rw [places, List.mem_filter, List.mem_range, Option.any_eq_true]
  refine and_iff_right_of_imp fun ⟨p, hp, _⟩ => ?_
  exact (List.getElem?_eq_some_iff.1 hp).1

theorem filterMap_places (chain : List Processor) (calls : Processor → Bool) :
    (places chain calls).filterMap (chain[·]?) = chain.filter calls := by
  induction chain using List.reverseRecOn with
  | nil => rfl
  | append_singleton ps p ih =>
    have hold : ∀ i ∈ List.range ps.length, (ps ++ [p])[i]? = ps[i]? := fun i hi =>
      List.getElem?_append_left (List.mem_range.1 hi)
    have hplaces : (List.range ps.length).filter (fun i => (ps ++ [p])[i]?.any calls)
        = places ps calls :=
      List.filter_congr fun i hi => by rw [hold i hi]
    have hlast : (ps ++ [p])[ps.length]? = some p := List.getElem?_concat_length
    rw [places, List.length_append, List.length_singleton, List.range_succ, List.filter_append,
      hplaces, List.filterMap_append, List.filter_append, ← ih]
    congr 1
    · refine List.filterMap_congr fun i hi => hold i ?_
      exact (List.mem_filter.1 hi).1
    · by_cases hp : calls p = true <;> simp [hp]

theorem map_dictionary_filter (chain : List Processor) (calls : Dictionary → Bool) :
    ((chain.filterMap Processor.dictionary?).filter calls).map .dictionary
      = chain.filter fun p => p.dictionary?.any calls := by
  induction chain with
  | nil => rfl
  | cons p ps ih =>
    cases hp : p.dictionary? with
    | none => simpa [hp] using ih
    | some d =>
      obtain rfl := Processor.dictionary?_eq_some.1 hp
      by_cases hd : calls d = true <;> simpa [hp, hd] using ih

/-- At the stations of the way are the dictionaries and the processors for the message. -/
theorem filterMap_way (chain : List Processor) (towards : Direction)
    (attached : Option Dictionary) :
    (way chain towards attached).filterMap (processor? chain attached)
      = (Processor.dictionariesFor chain towards attached).map .dictionary
        ++ Processor.othersFor chain towards := by
  have hentries (calls : Processor → Bool) :
      ((places chain calls).map .entry).filterMap (processor? chain attached)
        = chain.filter calls := by
    rw [List.filterMap_map, ← filterMap_places]
    rfl
  have hattached : (if attached.any (·.direction.appliesTo towards) then [Station.attached]
        else []).filterMap (processor? chain attached)
      = ((attached.filter fun d => d.direction.appliesTo towards).toList).map .dictionary := by
    cases attached with
    | none => rfl
    | some d =>
      by_cases h : d.direction.appliesTo towards = true <;> simp [h, processor?, Option.filter]
  rw [way, List.filterMap_append, List.filterMap_append, hentries, hentries, hattached,
    Processor.dictionariesFor, List.map_append, map_dictionary_filter, List.append_assoc]
  rfl

theorem isCalled_entry {i : Nat} : (Station.entry i).IsCalled chain towards attached
    ↔ ∃ p, chain[i]? = some p
      ∧ (callsDictionary towards attached p = true ∨ callsOther towards p = true) := by
  refine exists_congr fun p => and_congr_right fun _ => ?_
  cases p with
  | dictionary d =>
    cases attached with
    | none =>
      simp [callsDictionary, callsOther, Processor.dictionary?, Processor.direction, and_comm]
    | some a =>
      by_cases h : a.id = d.id <;>
        simp [callsDictionary, callsOther, Processor.dictionary?, Processor.direction, and_comm, h]
  | _ => simp [callsDictionary, callsOther, Processor.dictionary?]

/-- A message stops at just the stations of its way. -/
theorem mem_way {x : Station} :
    x ∈ way chain towards attached ↔ x.IsCalled chain towards attached := by
  cases x with
  | attached =>
    cases attached with
    | none => simp [way, IsCalled]
    | some d =>
      by_cases h : d.direction.appliesTo towards = true <;> simp [way, IsCalled, h]
  | entry i =>
    have hattached : Station.entry i ∉ (if attached.any (·.direction.appliesTo towards)
        then [Station.attached] else []) := by
      split <;> simp
    rw [way, List.mem_append, or_iff_right hattached, List.mem_append, isCalled_entry]
    simp only [List.mem_map, Station.entry.injEq, exists_eq_right, mem_places]
    rw [← exists_or]
    exact exists_congr fun p => and_or_left.symm

theorem phase_of_mem_places {calls : Processor → Bool} (isDictionary : Bool)
    (h : ∀ p, calls p = true → p.dictionary?.isSome = isDictionary) {i : Nat}
    (hi : i ∈ places chain calls) :
    (Station.entry i).phase chain = if isDictionary then 1 else 2 := by
  obtain ⟨p, hp, hc⟩ := mem_places.1 hi
  rw [phase, hp, Option.bind_some, h p hc]

/-- The stations of the way are in order. -/
theorem pairwise_way (chain : List Processor) (towards : Direction)
    (attached : Option Dictionary) : (way chain towards attached).Pairwise (Before chain) := by
  have hdictionary {i : Nat} (hi : i ∈ places chain (callsDictionary towards attached)) :
      (Station.entry i).phase chain = 1 :=
    phase_of_mem_places true (fun p hp => by
      cases p <;> first | rfl | simp [callsDictionary, Processor.dictionary?] at hp) hi
  have hother {i : Nat} (hi : i ∈ places chain (callsOther towards)) :
      (Station.entry i).phase chain = 2 :=
    phase_of_mem_places false
      (fun p hp => by
        rw [callsOther, Bool.and_eq_true, Option.isNone_iff_eq_none] at hp
        rw [hp.1]
        rfl) hi
  have hentries {calls : Processor → Bool} {n : Nat}
      (h : ∀ i ∈ places chain calls, (Station.entry i).phase chain = n) :
      ((places chain calls).map Station.entry).Pairwise (Before chain) := by
    have hlt : (places chain calls).Pairwise (· < ·) := List.pairwise_lt_range.filter _
    rw [List.pairwise_map]
    exact hlt.imp_of_mem fun hi hj hij => .inr ⟨(h _ hi).trans (h _ hj).symm, hij⟩
  have hall : ((places chain (callsDictionary towards attached)).map Station.entry
      ++ (places chain (callsOther towards)).map Station.entry).Pairwise (Before chain) := by
    refine List.pairwise_append.2 ⟨hentries fun _ => hdictionary, hentries fun _ => hother, ?_⟩
    simp only [List.mem_map]
    rintro _ ⟨i, hi, rfl⟩ _ ⟨j, hj, rfl⟩
    exact .inl (by rw [hdictionary hi, hother hj]; decide)
  rw [way]
  split
  · rw [List.singleton_append]
    refine List.pairwise_cons.2 ⟨?_, hall⟩
    intro x hx
    refine .inl ?_
    rcases List.mem_append.1 hx with hx | hx
    all_goals obtain ⟨i, hi, rfl⟩ := List.mem_map.1 hx
    · rw [hdictionary hi]
      exact Nat.one_pos
    · rw [hother hi]
      exact Nat.two_pos
  · exact hall

instance : Std.Irrefl (Before chain) :=
  ⟨fun x h => by rcases h with h | ⟨-, h⟩ <;> exact Nat.lt_irrefl _ h⟩

instance : Std.Antisymm (Before chain) := ⟨by
  intro x y hxy hyx
  unfold Before at hxy hyx
  omega⟩

/-- The stations that a message stops at, each one once and in their order. -/
def IsWay (chain : List Processor) (towards : Direction) (attached : Option Dictionary)
    (ws : List Station) : Prop :=
  ws.Pairwise (Before chain) ∧ ∀ x, x ∈ ws ↔ x.IsCalled chain towards attached

theorem isWay_iff {ws : List Station} :
    IsWay chain towards attached ws ↔ ws = way chain towards attached := by
  have hway := pairwise_way chain towards attached
  constructor
  · rintro ⟨hws, hmem⟩
    exact hws.eq_of_mem_iff hway fun x => (hmem x).trans mem_way.symm
  · rintro rfl
    exact ⟨hway, fun x => mem_way⟩

/-- There is just one way. -/
theorem existsUnique_isWay (chain : List Processor) (towards : Direction)
    (attached : Option Dictionary) : ∃! ws, IsWay chain towards attached ws :=
  ⟨_, isWay_iff.2 rfl, fun _ => isWay_iff.1⟩

/-- An extractor, an attached dictionary that is in the chain twice, one that is not global and one
that is. -/
example :
    let d : Dictionary := { id := 0, name := "d", isGlobal := true, mappings := .simple [] }
    way [.extractHeaders .empty, .dictionary d, .dictionary { d with id := 1, isGlobal := false },
      .dictionary { d with id := 2 }, .dictionary d] .outbound (some d)
      = [.attached, .entry 3, .entry 0] := by decide

/-- What is run at the stations, in order. -/
def processors (chain : List Processor) (attached : Option Dictionary) (ws : List Station) :
    List Processor :=
  ws.filterMap (processor? chain attached)

theorem IsWay.processors_eq {ws : List Station} (h : IsWay chain towards attached ws) :
    processors chain attached ws = (Processor.dictionariesFor chain towards attached).map
      .dictionary ++ Processor.othersFor chain towards := by
  rw [isWay_iff.1 h]
  exact filterMap_way chain towards attached

/-- The attached dictionary is run once if it goes the message's way, wherever else it stands in the
chain, and else never. -/
theorem IsWay.countP_attached {ws : List Station} {d : Dictionary}
    (h : IsWay chain towards (some d) ws) :
    (processors chain (some d) ws).countP (fun p => p.dictionary?.any (·.id = d.id))
      = if d.direction.appliesTo towards then 1 else 0 := by
  have hothers : (Processor.othersFor chain towards).countP
      (fun p => p.dictionary?.any (·.id = d.id)) = 0 := by
    refine List.countP_eq_zero.2 fun p hp => ?_
    have hnone := (List.mem_filter.1 hp).2
    rw [Bool.and_eq_true, Option.isNone_iff_eq_none] at hnone
    rw [hnone.1]
    exact Bool.false_ne_true
  have hchain : ((chain.filterMap Processor.dictionary?).filter fun x =>
      x.isGlobal && x.direction.appliesTo towards && !(some d).any (·.id = x.id)).countP
        (fun x => x.id = d.id) = 0 := by
    refine List.countP_eq_zero.2 fun x hx => ?_
    have hne := (List.mem_filter.1 hx).2
    simp only [Option.any_some, Bool.and_eq_true, Bool.not_eq_true', decide_eq_false_iff_not] at hne
    simpa using Ne.symm hne.2
  have hdictionaries (ds : List Dictionary) : (ds.map Processor.dictionary).countP
      (fun p => p.dictionary?.any (·.id = d.id)) = ds.countP (fun x => x.id = d.id) := by
    rw [List.countP_map]
    rfl
  rw [h.processors_eq, List.countP_append, hothers, hdictionaries, Processor.dictionariesFor,
    List.countP_append, hchain]
  by_cases hd : d.direction.appliesTo towards = true <;> simp [hd, Option.filter]

end

end Station

namespace Processor

/-- Both passes through the chain run what is at the stations of the way, one after the other, up to
the first that fails. -/
theorem outcome_passes_of_isWay {towards : Direction} {attached : Option Dictionary}
    {ws : List Station} {t : Transit} (h : Station.IsWay t.context.chain towards attached ws) :
    outcome (passes towards attached) t
      = follow (Station.processors t.context.chain attached ws) t := by
  rw [outcome_passes, h.processors_eq, outcome_runAll]

end Processor
end Rehearsal
