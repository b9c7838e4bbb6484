import Rehearsal.Proofs.Assoc
import Rehearsal.Proofs.Validation.Conformance

/-!
# A message passes itself as control message

A message of literal texts has no matcher expressions and no header under a reserved name. Main
statement: such a message passes a control message that carries the same, without taking random
numbers (`Scope.run_validate_again`). The identifier and the time of a message are not looked at.
-/

namespace Rehearsal

/-- No text in the message is a matcher expression, its headers can be told from the reserved ones,
and its payload is a document if the message is of the kind that holds documents. -/
structure Message.IsLiteral (type : MessageType) (m : Message) : Prop where
  payload : Matcher.isExpression m.payload.plain = false
  document : type = .json → m.payload.isEmpty = false →
    ∃ v, m.payload.document = .ok v ∧ v.IsLiteral
  reserved : ∀ name ∈ m.headers.keys, name ≠ Message.idHeader ∧ name ≠ Message.timestampHeader
  headers : ∀ name text, m.headers.get? name = some (.text text) →
    Matcher.isExpression text = false
  headerData : ∀ block ∈ m.headerData, Matcher.isExpression block = false

namespace Message

/-- Two names are those of the identifier and the time, all others those of headers. -/
theorem header?_of_ne {m : Message} {name : String} (hid : name ≠ idHeader)
    (htime : name ≠ timestampHeader) : m.header? name = m.headers.get? name := by
  rw [header?, if_neg hid, if_neg htime]

end Message

namespace Scope

variable {s : Scope} {type : MessageType} {m : Message} {fresh : Fresh}

/-- A document conforms to itself if no text in it is a matcher expression. -/
theorem run_checkJson_self {path : String} {v : Json} (hv : v.IsNormal) (hl : v.IsLiteral) :
    (s.checkJson path v v).run fresh = .ok ((), fresh) := by
  have hsame : v.same v = true := (Json.same_iff_unsigned_eq v v).2 rfl
  rw [checkJson_eq_ok_iff, conforms_iff_same s path v v fresh fresh hv hv hl]
  exact ⟨hsame, rfl⟩

/-- A payload passes itself: a document is the same as itself, and a text without matchers is
compared. -/
theorem run_checkPayload_again (hm : m.IsLiteral type)
    (hnormal : ∀ v, m.payload.document = .ok v → v.IsNormal) (id : Uuid) (timestamp : Timestamp) :
    (s.checkPayload type m { m with id, timestamp }).run fresh = .ok ((), fresh) := by
  unfold checkPayload
  by_cases hempty : m.payload.isEmpty = true
  · rw [if_pos hempty]
    rfl
  · rw [if_neg hempty]
    dsimp only
    rw [hm.payload, if_neg Bool.false_ne_true]
    split
    · next hjson =>
      obtain ⟨v, hv, hl⟩ := hm.document hjson (Bool.eq_false_iff.2 hempty)
      rw [hv]
      exact run_checkJson_self (hnormal v hv) hl
    · rw [if_pos rfl]
      rfl

/-- A header passes itself. -/
theorem run_checkHeader_self {name : String} {v : Json}
    (h : ∀ text, v = .text text → Matcher.isExpression text = false) :
    (s.checkHeader name v v).run fresh = .ok ((), fresh) := by
  have hcompare : (checkHeader.compare name v v).run fresh = .ok ((), fresh) := by
    rw [checkHeader.compare, if_pos rfl]
    rfl
  cases v with
  | text text =>
    rw [checkHeader, h text rfl]
    exact hcompare
  | _ => exact hcompare

/-- Headers that the message has are found there. -/
theorem run_checkHeaders_of_forall {es : List (String × Json)}
    (h : ∀ e ∈ es, m.header? e.1 = some e.2
      ∧ ∀ text, e.2 = .text text → Matcher.isExpression text = false) :
    (s.checkHeaders m es).run fresh = .ok ((), fresh) := by
  induction es with
  | nil => rfl
  | cons e es ih =>
    obtain ⟨hfound, htext⟩ := h e List.mem_cons_self
    rw [checkHeaders, hfound]
    have hhead : (s.checkHeader e.1 e.2 e.2).run fresh = .ok ((), fresh) :=
      run_checkHeader_self htext
    rw [Draw.run_bind_of_ok hhead]
    exact ih fun e he => h e (List.mem_cons_of_mem _ he)

/-- Blocks of header data pass themselves, one by one. -/
theorem run_checkBlocks_self {blocks : List String}
    (h : ∀ block ∈ blocks, Matcher.isExpression block = false) (i : Nat) :
    (s.checkBlocks i blocks blocks).run fresh = .ok ((), fresh) := by
  induction blocks generalizing i with
  | nil => rfl
  | cons block blocks ih =>
    have hhead : (s.checkBlock i block block).run fresh = .ok ((), fresh) := by
      rw [checkBlock, h block List.mem_cons_self, if_pos rfl]
      rfl
    rw [checkBlocks, Draw.run_bind_of_ok hhead]
    exact ih (fun block hb => h block (List.mem_cons_of_mem _ hb)) (i + 1)

/-- A message of literal texts passes a control message that carries the same. -/
theorem run_validate_again (hm : m.IsLiteral type)
    (hnormal : ∀ v, m.payload.document = .ok v → v.IsNormal) (id : Uuid) (timestamp : Timestamp) :
    (s.validate type m { m with id, timestamp }).run fresh = .ok ((), fresh) := by
  have hheaders : (s.checkHeaders m m.headers.entries).run fresh = .ok ((), fresh) := by
    apply run_checkHeaders_of_forall
    intro e he
    have hget : m.headers.get? e.1 = some e.2 := Assoc.get?_of_mem he
    obtain ⟨hid, htime⟩ := hm.reserved e.1 (List.mem_map.2 ⟨e, he, rfl⟩)
    refine ⟨by rw [Message.header?_of_ne hid htime, hget], ?_⟩
    intro text htext
    exact hm.headers e.1 text (by rw [hget, htext])
  have hblocks : (s.checkHeaderData m.headerData m.headerData).run fresh = .ok ((), fresh) := by
    rw [checkHeaderData, if_neg (Nat.lt_irrefl _)]
    exact run_checkBlocks_self hm.headerData 0
  rw [validate, Draw.run_bind_of_ok (run_checkPayload_again hm hnormal id timestamp),
    Draw.run_bind_of_ok hheaders]
  exact hblocks

end Scope
end Rehearsal
