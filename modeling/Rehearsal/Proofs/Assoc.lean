import Rehearsal.Assoc

/-!
# Maps from lists

What a map holds after many entries were put in: under each key the last value that came in, and
nothing that did not come in. A map is that of its own entries (`ofList_entries`), and the entries
of another one come in at the places of their keys (`entries_insertAll_eq_overlay`).
-/

namespace Rehearsal.Assoc

variable {α β : Type}

/-- A new key comes last. -/
theorem Entries.put_of_not_mem {key : String} {value : α} {es : List (String × α)}
    (h : key ∉ es.map (·.1)) : Entries.put key value es = es ++ [(key, value)] := by
  induction es with
  | nil => rfl
  | cons e es ih =>
    obtain ⟨k, v⟩ := e
    have hk : k ≠ key := fun he => h (by simp [he])
    rw [Entries.put, if_neg hk, ih fun hmem => h (by simp [hmem])]
    rfl

theorem get?_insertAll_cons (m : Assoc α) (key : String) (value : α) (es : List (String × α)) :
    m.insertAll ((key, value) :: es) = (m.insert key value).insertAll es := rfl

/-- The last entry under a key counts, and else what was there before. -/
theorem get?_insertAll (m : Assoc α) (es : List (String × α)) (key : String) :
    (m.insertAll es).get? key
      = ((es.reverse.find? (·.1 = key)).map (·.2)).or (m.get? key) := by
  induction es generalizing m with
  | nil => simp [insertAll]
  | cons e es ih =>
    obtain ⟨k, v⟩ := e
    rw [get?_insertAll_cons, ih, get?_insert, List.reverse_cons, List.find?_append,
      List.find?_singleton]
    by_cases h : k = key
    · cases es.reverse.find? (·.1 = key) <;> simp [h]
    · cases es.reverse.find? (·.1 = key) <;> simp [h]

/-- Of entries with one key the last one counts. -/
theorem get?_ofList (es : List (String × α)) (key : String) :
    (ofList es).get? key = (es.reverse.find? (·.1 = key)).map (·.2) := by
  rw [ofList, get?_insertAll, get?_empty, Option.or_none]

/-- What holds of all entries of a list holds of what is found. -/
theorem of_get?_ofList {C : α → Prop} {es : List (String × α)} (h : ∀ e ∈ es, C e.2)
    {key : String} {value : α} (hv : (ofList es).get? key = some value) : C value := by
  rw [get?_ofList] at hv
  obtain ⟨e, he, rfl⟩ := Option.map_eq_some_iff.1 hv
  exact h e (List.mem_reverse.1 (List.mem_of_find?_eq_some he))

/-- An entry is found under its key, as no other has this key. -/
theorem get?_of_mem {m : Assoc α} {e : String × α} (h : e ∈ m.entries) :
    m.get? e.1 = some e.2 := by
  obtain ⟨entries, nodup⟩ := m
  simp only [get?]
  induction entries with
  | nil => cases h
  | cons d ds ih =>
    obtain ⟨hd, hds⟩ := List.nodup_cons.1 nodup
    rcases List.mem_cons.1 h with rfl | h
    · rw [Entries.find?, if_pos rfl]
    · have hne : d.1 ≠ e.1 := fun hk => hd (List.mem_map.2 ⟨e, h, hk.symm⟩)
      rw [Entries.find?, if_neg hne]
      exact ih hds h

/-- A changed value is found where the value was. -/
theorem get?_mapValues (f : α → β) (m : Assoc α) (key : String) :
    (m.mapValues f).get? key = (m.get? key).map f := by
  simp only [get?, mapValues]
  induction m.entries with
  | nil => rfl
  | cons e es ih =>
    obtain ⟨k, v⟩ := e
    rw [List.map_cons, Entries.find?, Entries.find?]
    split
    · rfl
    · exact ih

/-- New keys come in behind the others, in their order. -/
theorem entries_insertAll {m : Assoc α} {es : List (String × α)}
    (h : ((m.entries ++ es).map (·.1)).Nodup) : (m.insertAll es).entries = m.entries ++ es := by
  induction es generalizing m with
  | nil => exact (List.append_nil _).symm
  | cons e es ih =>
    obtain ⟨k, v⟩ := e
    have hk : k ∉ m.entries.map (·.1) := by
      rw [List.map_append, List.nodup_append] at h
      exact fun hk => h.2.2 k hk k (by simp) rfl
    have hput : (m.insert k v).entries = m.entries ++ [(k, v)] := Entries.put_of_not_mem hk
    rw [get?_insertAll_cons, ih, hput, List.append_assoc]
    · rfl
    · rwa [hput, List.append_assoc]

/-- Entries among which others have come in: in the place of the one with the same key, and behind
all if there is none. -/
def Entries.overlay (own extra : List (String × α)) : List (String × α) :=
  own.map (fun e => (e.1, (find? e.1 extra).getD e.2))
    ++ extra.filter fun e => e.1 ∉ own.map (·.1)

theorem Entries.map_put_of_mem {key : String} {value : α} {own extra : List (String × α)}
    (hown : (own.map (·.1)).Nodup) (hkey : key ∈ own.map (·.1))
    (hextra : key ∉ extra.map (·.1)) :
    (put key value own).map (fun e => (e.1, (find? e.1 extra).getD e.2))
      = own.map fun e => (e.1, (find? e.1 ((key, value) :: extra)).getD e.2) := by
  induction own with
  | nil => cases hkey
  | cons e own ih =>
    obtain ⟨k, v⟩ := e
    obtain ⟨hk, hown⟩ := List.nodup_cons.1 hown
    by_cases h : k = key
    · subst h
      have hrest : ∀ e ∈ own, e.1 ≠ k := fun e he hek => hk (List.mem_map.2 ⟨e, he, hek⟩)
      rw [put, if_pos rfl, List.map_cons, List.map_cons, find?_eq_none.2 hextra, find?, if_pos rfl]
      refine congrArg _ (List.map_congr_left fun e he => ?_)
      rw [find?, if_neg (hrest e he).symm]
    · have hkey' : key ∈ own.map (·.1) := (List.mem_cons.1 hkey).resolve_left (Ne.symm h)
      rw [put, if_neg h, List.map_cons, List.map_cons, ih hown hkey', find?, if_neg (Ne.symm h)]

/-- An entry that is put in before is one more that is laid over. -/
theorem Entries.overlay_put {key : String} {value : α} {own extra : List (String × α)}
    (hown : (own.map (·.1)).Nodup) (hextra : key ∉ extra.map (·.1)) :
    overlay (put key value own) extra = overlay own ((key, value) :: extra) := by
  by_cases hkey : key ∈ own.map (·.1)
  · rw [overlay, overlay, map_put_of_mem hown hkey hextra, keys_put, if_pos hkey]
    simp [hkey]
  · -- the key goes behind the own ones, in front of what comes behind them anyway
    have hown' : ∀ e ∈ own, key ≠ e.1 := fun e he hek => hkey (List.mem_map.2 ⟨e, he, hek.symm⟩)
    have hextra' : ∀ e ∈ extra, e.1 ≠ key := fun e he hek =>
      hextra (List.mem_map.2 ⟨e, he, hek⟩)
    have hmap : own.map (fun e => (e.1, (find? e.1 extra).getD e.2))
        = own.map fun e => (e.1, (find? e.1 ((key, value) :: extra)).getD e.2) :=
      List.map_congr_left fun e he => by rw [find?, if_neg (hown' e he)]
    have hfilter : extra.filter (fun e => e.1 ∉ (own ++ [(key, value)]).map (·.1))
        = extra.filter fun e => e.1 ∉ own.map (·.1) :=
      List.filter_congr fun e he => by simp [hextra' e he]
    rw [overlay, overlay, put_of_not_mem hkey, List.map_append, hmap, hfilter, List.map_singleton,
      find?_eq_none.2 hextra, List.filter_cons_of_pos (by simpa using hkey), List.append_assoc]
    rfl

/-- Entries that come into a map one after the other. -/
theorem entries_insertAll_eq_overlay (m : Assoc α) {es : List (String × α)}
    (h : (es.map (·.1)).Nodup) : (m.insertAll es).entries = Entries.overlay m.entries es := by
  induction es generalizing m with
  | nil => simp [insertAll, Entries.overlay, Entries.find?]
  | cons e es ih =>
    obtain ⟨k, v⟩ := e
    obtain ⟨hk, hes⟩ := List.nodup_cons.1 h
    rw [get?_insertAll_cons, ih _ hes]
    exact Entries.overlay_put m.nodup hk

example : Entries.overlay [("a", 1), ("b", 2)] [("c", 3), ("b", 4)]
    = [("a", 1), ("b", 4), ("c", 3)] := by decide

/-- A map is that of its entries. -/
theorem ofList_entries (m : Assoc α) : ofList m.entries = m :=
  ext (entries_insertAll (m := empty) m.nodup)

end Rehearsal.Assoc
