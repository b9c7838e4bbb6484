import Rehearsal.Scope

/-!
# Precedence of libraries

Libraries are registered one after the other, behind the others or in front of them. What counts in
the end is their order of precedence: the overriding ones from the latest to the earliest, then the
added ones from the earliest to the latest. Main statement: a function is that of the first library
in this order that contains its name, so that a registration changes nothing but the names that it
is the first to contain (`function?_precedence`).
-/

namespace Rehearsal

/-- A library that is put behind the others, or in front of them. -/
inductive Registration (α : Type)
  | add (l : Library α)
  | override (l : Library α)

/-- The library has the qualifier and an entry for the name. -/
def Library.Contains {α : Type} (l : Library α) (qualifier name : String) : Prop :=
  l.qualifier = qualifier ∧ name ∈ l.entries.keys

variable {α : Type}

def Registration.library : Registration α → Library α
  | .add l => l
  | .override l => l

namespace Libraries

def register (libs : Libraries α) : Registration α → Libraries α
  | .add l => libs.add l
  | .override l => libs.override l

/-- The libraries after these registrations, one after the other. -/
def ofHistory (history : List (Registration α)) : Libraries α := history.foldl register []

/-- The libraries that were added, from the earliest to the latest. -/
def added : List (Registration α) → List (Library α)
  | [] => []
  | .add l :: history => l :: added history
  | .override _ :: history => added history

/-- The libraries that override others, from the earliest to the latest. -/
def overriding : List (Registration α) → List (Library α)
  | [] => []
  | .add _ :: history => overriding history
  | .override l :: history => l :: overriding history

/-- The overriding libraries from the latest to the earliest, then the added ones from the earliest
to the latest. -/
def precedence (history : List (Registration α)) : List (Library α) :=
  (overriding history).reverse ++ added history

/-! ## The order of the list -/

/-- Registrations put libraries around those that are there already. -/
theorem foldl_register (libs : Libraries α) (history : List (Registration α)) :
    history.foldl register libs = (overriding history).reverse ++ libs ++ added history := by
  induction history generalizing libs with
  | nil => simp [overriding, added]
  | cons r history ih =>
    rw [List.foldl_cons, ih]
    cases r with
    | add l => simp [register, add, overriding, added]
    | override l => simp [register, override, overriding, added]

theorem ofHistory_eq (history : List (Registration α)) :
    ofHistory history = precedence history := by
  rw [ofHistory, foldl_register, List.append_nil, precedence]

theorem mem_precedence {history : List (Registration α)} {l : Library α} :
    l ∈ precedence history ↔ ∃ r ∈ history, r.library = l := by
  simp only [precedence, List.mem_append, List.mem_reverse]
  induction history with
  | nil => simp [overriding, added]
  | cons r history ih =>
    simp only [List.mem_cons, exists_eq_or_imp, ← ih]
    cases r with
    | add m =>
      rw [overriding, added, List.mem_cons, or_left_comm]
      exact or_congr_left eq_comm
    | override m =>
      rw [overriding, added, List.mem_cons, or_assoc]
      exact or_congr_left eq_comm

/-! ## Looking up -/

section
variable {qualifier name : String}

theorem entry_eq_none_iff {l : Library α} :
    (if l.qualifier = qualifier then l.entries.get? name else none) = none
      ↔ ¬l.Contains qualifier name := by
  rw [Library.Contains]
  split
  · next h => simp [h, Assoc.get?_eq_none]
  · next h => simp [h]

theorem lookup?_append (libs more : Libraries α) :
    lookup? (libs ++ more) qualifier name
      = (libs.lookup? qualifier name).or (more.lookup? qualifier name) := List.findSome?_append

/-- A library that does not contain the name is passed over. -/
theorem lookup?_of_not_contains {l : Library α} (h : ¬l.Contains qualifier name) :
    lookup? [l] qualifier name = none := by
  simpa [lookup?] using entry_eq_none_iff.2 h

theorem lookup?_eq_some_iff {libs : Libraries α} {a : α} :
    libs.lookup? qualifier name = some a ↔ ∃ before l after, libs = before ++ l :: after
      ∧ l.qualifier = qualifier ∧ l.entries.get? name = some a
      ∧ ∀ m ∈ before, ¬m.Contains qualifier name := by
  have hentry : ∀ l : Library α,
      (if l.qualifier = qualifier then l.entries.get? name else none) = some a
        ↔ l.qualifier = qualifier ∧ l.entries.get? name = some a := by
    intro l
    split <;> simp [*]
  simp only [lookup?, List.findSome?_eq_some_iff, hentry, entry_eq_none_iff, and_assoc]

theorem lookup?_eq_none_iff {libs : Libraries α} :
    libs.lookup? qualifier name = none ↔ ∀ l ∈ libs, ¬l.Contains qualifier name := by
  simp only [lookup?, List.findSome?_eq_none_iff, entry_eq_none_iff]

/-! ## One registration in a history -/

/-- What a history does to the libraries that a former one has left. -/
theorem lookup?_ofHistory_append (history later : List (Registration α)) :
    (ofHistory (history ++ later)).lookup? qualifier name
      = ((lookup? (overriding later).reverse qualifier name).or
          ((ofHistory history).lookup? qualifier name)).or
          (lookup? (added later) qualifier name) := by
  rw [ofHistory, List.foldl_append, foldl_register, lookup?_append, lookup?_append]
  rfl

/-- Adding a library changes nothing for a name that is known already. -/
theorem lookup?_added {history : List (Registration α)}
    (h : ((ofHistory history).lookup? qualifier name).isSome) (l : Library α)
    (later : List (Registration α)) :
    (ofHistory (history ++ .add l :: later)).lookup? qualifier name
      = (ofHistory (history ++ later)).lookup? qualifier name := by
  obtain ⟨a, ha⟩ := Option.isSome_iff_exists.1 h
  have hknown : ∀ front back : Option α, (front.or (some a)).or back = front.or (some a) := by
    intro front back
    cases front <;> rfl
  simp only [lookup?_ofHistory_append, ha, hknown, overriding]

/-- Registering a library changes nothing for a name that it does not contain. -/
theorem lookup?_registered {r : Registration α} (h : ¬r.library.Contains qualifier name)
    (history later : List (Registration α)) :
    (ofHistory (history ++ r :: later)).lookup? qualifier name
      = (ofHistory (history ++ later)).lookup? qualifier name := by
  rw [lookup?_ofHistory_append, lookup?_ofHistory_append]
  cases r with
  | add l =>
    have hnone : lookup? [l] qualifier name = none := lookup?_of_not_contains h
    rw [added, overriding, ← List.singleton_append, lookup?_append, hnone, Option.none_or]
  | override l =>
    have hnone : lookup? [l] qualifier name = none := lookup?_of_not_contains h
    rw [added, overriding, List.reverse_cons, lookup?_append, hnone, Option.or_none]

end

end Libraries

/-! ## Functions -/

namespace Scope

open Libraries

/-- The scope with the functions of the libraries that are registered one after the other. -/
def registering (s : Scope) (history : List (Registration Function)) : Scope :=
  { s with functions := ofHistory history }

theorem function?_eq_ok_iff {s : Scope} {qualifier name : String} {f : Function} :
    s.function? qualifier name = .ok f ↔ s.functions.lookup? qualifier name = some f := by
  rw [function?]
  split <;> simp [*]

theorem function?_eq_error_iff {s : Scope} {qualifier name : String} {e : Error} :
    s.function? qualifier name = .error e
      ↔ e = .unknownFunction (qualifier ++ name) ∧ s.functions.lookup? qualifier name = none := by
  rw [function?]
  split <;> simp [*, eq_comm]

theorem function?_congr {s s' : Scope} {qualifier name : String}
    (h : s.functions.lookup? qualifier name = s'.functions.lookup? qualifier name) :
    s.function? qualifier name = s'.function? qualifier name := by
  rw [function?, function?, h]

/-- Whatever libraries are registered, in whatever order and with whatever names in common: a name
means the function of the first library that contains it, in the order of precedence, and is unknown
exactly if no library contains it. Adding a library changes no name that is known already, and
registering one, behind the others or in front of them, changes no name that it does not contain,
then or after more registrations. -/
theorem function?_precedence (s : Scope) (history : List (Registration Function))
    (qualifier name : String) :
    (∀ f, (s.registering history).function? qualifier name = .ok f
        ↔ ∃ before l after, precedence history = before ++ l :: after
          ∧ l.qualifier = qualifier ∧ l.entries.get? name = some f
          ∧ ∀ m ∈ before, ¬m.Contains qualifier name)
      ∧ (∀ e, (s.registering history).function? qualifier name = .error e
        ↔ e = .unknownFunction (qualifier ++ name)
          ∧ ∀ r ∈ history, ¬r.library.Contains qualifier name)
      ∧ (∀ f, (s.registering history).function? qualifier name = .ok f → ∀ l later,
        (s.registering (history ++ .add l :: later)).function? qualifier name
          = (s.registering (history ++ later)).function? qualifier name)
      ∧ ∀ r : Registration Function, ¬r.library.Contains qualifier name → ∀ later,
        (s.registering (history ++ r :: later)).function? qualifier name
          = (s.registering (history ++ later)).function? qualifier name := by
  refine ⟨fun f => ?_, fun e => ?_, fun f h l later => ?_, fun r h later => ?_⟩
  · rw [function?_eq_ok_iff, registering, lookup?_eq_some_iff, ofHistory_eq]
  · have hmem : (∀ l ∈ precedence history, ¬l.Contains qualifier name)
        ↔ ∀ r ∈ history, ¬r.library.Contains qualifier name := by
      simp [mem_precedence]
    rw [function?_eq_error_iff, registering, lookup?_eq_none_iff, ofHistory_eq, hmem]
  · have hknown : ((ofHistory history).lookup? qualifier name).isSome :=
      Option.isSome_iff_exists.2 ⟨f, function?_eq_ok_iff.1 h⟩
    exact function?_congr (lookup?_added hknown l later)
  · exact function?_congr (lookup?_registered h history later)

/-- A library of functions that give a text each. All have one qualifier. -/
def sharing (texts : List (String × String)) : Library Function :=
  ⟨"sharing", "my:", .ofList (texts.map fun (name, text) => (name, fun _ => pure text))⟩

/-- A library that overrides one name of another one. -/
def overlapping : List (Registration Function) :=
  [.add (sharing [("f", "1"), ("g", "2")]), .override (sharing [("g", "3")])]

/-- A library behind them does not change what `f` means, nor does one in front that lacks it. -/
theorem function?_precedence_overlapping :
    (registering {} overlapping).function? "my:" "f" = .ok (fun _ => pure "1")
      ∧ (registering {} (overlapping ++ [.add (sharing [("f", "4")]),
        .override (sharing [("h", "5")])])).function? "my:" "f" = .ok (fun _ => pure "1")
      ∧ (registering {} (overlapping ++ [.add (sharing [("f", "4")])])).function? "my:" "g"
        = .ok (fun _ => pure "3")
      ∧ (registering {} overlapping).function? "my:" "h" = .error (.unknownFunction "my:h") := by
  have hf : (registering {} overlapping).function? "my:" "f" = .ok (fun _ => pure "1") := rfl
  have hg : (registering {} overlapping).function? "my:" "g" = .ok (fun _ => pure "3") := rfl
  have hlacks : ¬(sharing [("h", "5")]).Contains "my:" "f" := fun h => absurd h.2 (by decide)
  obtain ⟨-, -, haddf, hpassf⟩ := function?_precedence {} overlapping "my:" "f"
  obtain ⟨-, -, haddg, -⟩ := function?_precedence {} overlapping "my:" "g"
  obtain ⟨-, herror, -, -⟩ := function?_precedence {} overlapping "my:" "h"
  refine ⟨hf, ?_, ?_, (herror _).2 ⟨rfl, ?_⟩⟩
  · rw [haddf _ hf, hpassf (.override (sharing [("h", "5")])) hlacks, List.append_nil, hf]
  · rw [haddg _ hg, List.append_nil, hg]
  · simp only [overlapping, List.forall_mem_cons, Library.Contains]
    exact ⟨fun h => absurd h.2 (by decide), fun h => absurd h.2 (by decide), by simp⟩

end Scope
end Rehearsal
