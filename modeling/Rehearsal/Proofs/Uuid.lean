import Rehearsal.Uuid

/-!
# Reading identifiers back

The hexadecimal digits of a number give its lowest bits back (`foldlM_hexDigits`). Main statement:
every identifier is read from its written form as itself (`read?_render`).
-/

namespace Rehearsal.Uuid

theorem digit?_digitChar : ∀ d < 16, digit? d.digitChar = some d := by decide

theorem length_hexDigits (count n : Nat) : (hexDigits count n).length = count := by
  induction count with
  | zero => rfl
  | succ count ih => rw [hexDigits, List.length_cons, ih]

/-- So many digits put that many lowest bits of the number, by fours, behind what is there. -/
theorem foldlM_hexDigits (count n acc : Nat) :
    (hexDigits count n).foldlM (fun n c => (digit? c).map (16 * n + ·)) acc
      = some (acc <<< (4 * count) + n % 1 <<< (4 * count)) := by
  induction count generalizing acc with
  | zero => simp [hexDigits, Nat.mod_one]
  | succ count ih =>
    rw [hexDigits, List.foldlM_cons, digit?_digitChar _ (Nat.mod_lt _ (by decide))]
    show (hexDigits count n).foldlM _ (16 * acc + n >>> (4 * count) % 16) = _
    rw [ih, Option.some.injEq]
    have hpow : 1 <<< (4 * (count + 1)) = 1 <<< (4 * count) * 16 := by
      rw [Nat.mul_add, Nat.shiftLeft_add, Nat.shiftLeft_eq (1 <<< (4 * count))]
    have hacc : acc <<< (4 * (count + 1)) = 16 * acc * 1 <<< (4 * count) := by
      rw [Nat.shiftLeft_eq, ← Nat.one_shiftLeft, hpow]
      ac_rfl
    rw [hacc, hpow, Nat.mod_mul, Nat.shiftLeft_eq, ← Nat.one_shiftLeft, Nat.add_mul,
      Nat.shiftRight_eq_div_pow, ← Nat.one_shiftLeft]
    ac_rfl

theorem ofNat_value (u : Uuid) : ofNat u.value = u := by
  cases u with
  | mk value fits => rw [ofNat, Uuid.mk.injEq, Nat.mod_eq_of_lt fits]

theorem ofDigits?_hexDigits (u : Uuid) : ofDigits? (hexDigits 32 u.value) = some u := by
  have hvalue : 0 <<< (4 * 32) + u.value % 1 <<< (4 * 32) = u.value := by
    rw [Nat.zero_shiftLeft, Nat.zero_add, Nat.mod_eq_of_lt u.fits]
  rw [ofDigits?, if_pos (length_hexDigits 32 _), foldlM_hexDigits, Option.map_some, hvalue,
    ofNat_value]

theorem dropHyphens?_render (u : Uuid) :
    dropHyphens? u.render.toList = some (hexDigits 32 u.value) := by
  rw [render, String.toList_ofList]
  rfl

theorem head_render (u : Uuid) :
    ∃ d t, d < 16 ∧ u.render.toList = d.digitChar :: t ∧ t.length = 35 := by
  refine ⟨u.value >>> 124 % 16, u.render.toList.tail, Nat.mod_lt _ (by decide), ?_, ?_⟩ <;>
    rw [render, String.toList_ofList] <;> rfl

/-- No written form begins with the mark of a name or with a brace. -/
theorem not_marked : ∀ d < 16, d.digitChar.toLower ≠ 'u' ∧ d.digitChar ≠ '{' := by decide

/-- An identifier is read from its written form. -/
theorem read?_render (u : Uuid) : read? u.render = some u := by
  have hread := dropHyphens?_render u
  obtain ⟨d, t, hd, hcs, hlength⟩ := head_render u
  obtain ⟨hlower, hbrace⟩ := not_marked d hd
  rw [read?]
  rw [hcs] at hread ⊢
  have hname : ((d.digitChar :: t).take nameMark.length).map Char.toLower ≠ nameMark := fun h =>
    hlower (List.cons.inj h).1
  unfold readChars?
  rw [if_neg hname]
  split
  · next heq => exact absurd (List.cons.inj heq).1 hbrace
  · rw [if_neg (by simp [hlength]), hread, Option.bind_some, ofDigits?_hexDigits]

end Rehearsal.Uuid
