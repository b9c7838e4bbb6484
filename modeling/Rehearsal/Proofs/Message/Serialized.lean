import Rehearsal.Message.Serialized
import Rehearsal.Proofs.Assoc
import Rehearsal.Proofs.Json.Normal
import Rehearsal.Proofs.Json.Reading
import Rehearsal.Proofs.Timestamp
import Rehearsal.Proofs.Uuid

/-!
# Serialized messages

The parts of a message are read from sources that mean what was written for them, and so is the
message (`ofSource?_of_means`). A message that is read is sound and not nested too deeply, so that
it is written and read again. Main statement: nothing of a message is lost in its serialized form,
and a message that was read in whatever form has one serialized form that stays the same
(`serialized_stable`).
-/

namespace Rehearsal

open Json (Source Piece)
open Json.Source (Means ItemsMean FieldsMean)

/-! ## Parts of a source -/

namespace Json.Source

section
variable {s : Source} {ss : List Source} {t : String} {v : Json}

theorem Means.text?_eq (h : Means s (.text t)) : s.text? = some t := by
  cases h with
  | text h => rw [text?, h]; rfl

theorem Means.variant?_eq (h : Means s (.text t)) : s.variant? = some t := by
  cases h with
  | text h => exact Means.text?_eq (.text h)

/-- A document inside a message is read as it is, if it is in normal form and not nested too deeply.
-/
theorem Means.inner?_eq (h : Means s v) (hn : v.IsNormal) (hd : v.depth ≤ maxDepth - 2) :
    s.inner? = some v := by
  rw [inner?, h.value_eq hd]
  exact congrArg some (normalize_eq_self hn)

theorem ItemsMean.exists_cons {vs : List Json} (h : ItemsMean ss (v :: vs)) :
    ∃ s ss', ss = s :: ss' ∧ Means s v ∧ ItemsMean ss' vs := by
  cases h with
  | cons hs hss => exact ⟨_, _, rfl, hs, hss⟩

/-- Items are read one by one, if each of them is read. -/
theorem ItemsMean.mapM_eq {α : Type} {write : α → Json} {read? : Source → Option α} :
    ∀ {ss : List Source} {as : List α}, ItemsMean ss (as.map write) →
      (∀ s, ∀ a ∈ as, Means s (write a) → read? s = some a) → ss.mapM read? = some as
  | _, [], .nil, _ => rfl
  | _, a :: as, .cons hs hss, h => by
    rw [List.mapM_cons, h _ a (by simp) hs, hss.mapM_eq fun s b hb => h s b (by simp [hb])]
    rfl

/-- The fields of an object are its keys with sources that mean its values. -/
theorem FieldsMean.fields?_eq : ∀ {ss : List (List Piece × Source)} {fs : List (String × Json)},
    FieldsMean ss fs → ∃ vs, (Source.object ss).fields? = some ((fs.map (·.1)).zip vs)
      ∧ ItemsMean vs (fs.map (·.2))
  | _, _, .nil => ⟨[], rfl, .nil⟩
  | _, _, .cons (s := s) hk hs hss => by
    obtain ⟨vs, hvs, hmean⟩ := hss.fields?_eq
    refine ⟨s :: vs, ?_, .cons hs hmean⟩
    rw [fields?] at hvs ⊢
    rw [List.mapM_cons, hvs]
    dsimp only
    rw [hk]
    rfl

end

end Json.Source

/-! ## Payloads -/

namespace Payload

/-- The documents in the payload are in normal form. -/
def IsNormal (p : Payload) : Prop := ∀ v, p = .json v → v.IsNormal

/-- A byte is read from its number. -/
theorem byte?_of_means {s : Source} {b : UInt8} (h : Means s (Json.ofNat b.toNat)) :
    byte? s = some b := by
  have hb := b.toNat_lt
  have hfits : b.toNat < 1 <<< 64 := Nat.lt_trans hb (by decide)
  rw [Json.ofNat, dif_pos hfits] at h
  cases h with
  | number h =>
    rw [byte?, h]
    dsimp only
    rw [if_pos (by exact hb), UInt8.ofNat_toNat]

/-- A payload is read from the fields of an object by its kind and its content. -/
theorem ofSource?_object {ss : List (List Piece × Source)} {fs : List (String × Source)}
    (h : (Source.object ss).fields? = some fs) {kind : Source} (content : Option Source)
    (hkind : Source.unique? "kind" fs = some (some kind))
    (hcontent : Source.unique? "content" fs = some content) :
    ofSource? (.object ss) = kind.variant?.bind fun name => ofKind? name content := by
  rw [ofSource?, h]
  · simp only [Option.bind_eq_bind, Option.bind_some, hkind, hcontent]
  · rintro kind content ⟨⟩

/-- A payload is read from what means its serialized form, kind by kind. -/
theorem ofSource?_of_means {s : Source} {p : Payload} (h : Means s p.toJson) (hn : p.IsNormal)
    (hd : p.toJson.depth ≤ Json.maxDepth - 1) : ofSource? s = some p := by
  cases h with
  | object hf =>
    obtain ⟨vs, hvs, hmean⟩ := hf.fields?_eq
    -- the kind is the first field, and what follows depends on the payload
    cases hmean with
    | cons hkind hrest =>
      cases p with
      | empty =>
        cases hrest
        rw [ofSource?_object hvs none rfl rfl, hkind.variant?_eq]
        rfl
      | text t =>
        cases hrest with
        | cons hcontent hnil =>
        cases hnil
        rw [ofSource?_object hvs (some _) rfl rfl, hkind.variant?_eq]
        show (Source.text? _).map Payload.text = _
        rw [hcontent.text?_eq]
        rfl
      | json v =>
        cases hrest with
        | cons hcontent hnil =>
        cases hnil
        rw [ofSource?_object hvs (some _) rfl rfl, hkind.variant?_eq]
        show (Source.inner? _).map Payload.json = _
        have hdepth : v.depth ≤ Json.maxDepth - 2 := by
          simp only [toJson, Json.depth, Json.fieldsDepth] at hd
          omega
        rw [hcontent.inner?_eq (hn v rfl) hdepth]
        rfl
      | binary bytes =>
        cases hrest with
        | cons hcontent hnil =>
        cases hnil
        rw [ofSource?_object hvs (some _) rfl rfl, hkind.variant?_eq]
        cases hcontent with
        | array hbytes =>
          show (List.mapM byte? _).map Payload.binary = _
          rw [hbytes.mapM_eq fun s b _ h => byte?_of_means h]
          rfl

end Payload

/-! ## Messages -/

namespace Message

/-- What every message holds: its time is one that a clock can give, and its documents are in normal
form. -/
structure IsSound (m : Message) : Prop where
  timestamp : m.timestamp.IsValid
  payload : m.payload.IsNormal
  headers : ∀ e ∈ m.headers.entries, e.2.IsNormal

/-- The values of headers are read one by one. -/
theorem mapM_inner?_of_mean : ∀ {vs : List Source} {fs : List (String × Json)},
    ItemsMean vs (fs.map (·.2)) → (∀ e ∈ fs, e.2.IsNormal) →
    Json.fieldsDepth fs ≤ Json.maxDepth - 2 →
    ((fs.map (·.1)).zip vs).mapM (fun (k, v) => v.inner?.map fun v => (k, v)) = some fs
  | _, [], .nil, _, _ => rfl
  | _, (k, v) :: fs, .cons hv hvs, hn, hd => by
    have hd := Nat.max_le.1 hd
    have hrest := mapM_inner?_of_mean hvs (fun e he => hn e (by simp [he])) hd.2
    rw [List.map_cons, List.zip_cons_cons, List.mapM_cons, hrest]
    dsimp only
    rw [hv.inner?_eq (hn (k, v) (by simp)) hd.1]
    rfl

/-- Headers keep their order, as no key stands twice. -/
theorem headers?_of_means {s : Source} {headers : Assoc Json}
    (h : Means s (.object headers.entries)) (hn : ∀ e ∈ headers.entries, e.2.IsNormal)
    (hd : Json.fieldsDepth headers.entries ≤ Json.maxDepth - 2) : headers? s = some headers := by
  cases h with
  | object hf =>
    obtain ⟨vs, hvs, hmean⟩ := hf.fields?_eq
    rw [headers?, hvs, Option.bind_eq_bind, Option.bind_some, mapM_inner?_of_mean hmean hn hd]
    exact congrArg some headers.ofList_entries

/-- Header data is read text by text. -/
theorem headerData?_of_means {s : Source} {ts : List String}
    (h : Means s (.array (ts.map .text))) : headerData? s = some ts := by
  cases h with
  | array h => exact h.mapM_eq fun s t _ h => h.text?_eq

/-- A part that may be missing is read from null as missing, and else from its text. -/
theorem optional?_of_means {α : Type} {s : Source} (text : α → String)
    {read? : Source → Option α} {a : Option α} (h : Means s (optional (fun a => .text (text a)) a))
    (hread : ∀ a, Means s (.text (text a)) → read? s = some a) :
    optional? read? (some s) = some a := by
  cases a with
  | none => cases h; rfl
  | some a =>
    have hs := hread a h
    cases h with
    | text h => exact congrArg (Option.map some) hs

theorem ofName?_name (t : MessageType) : MessageType.ofName? t.name = some t := by
  cases t <;> rfl

/-- A message is read from what means its serialized form. -/
theorem ofSource?_of_means {s : Source} {m : Message} (h : Means s m.toJson) (hm : m.IsSound)
    (hd : m.toJson.depth ≤ Json.maxDepth) : ofSource? s = some m := by
  have hdepth : m.payload.toJson.depth ≤ Json.maxDepth - 1
      ∧ Json.fieldsDepth m.headers.entries ≤ Json.maxDepth - 2 := by
    simp only [toJson, headersObject, Json.depth, Json.fieldsDepth] at hd
    omega
  cases h with
  | @object ss _ hf =>
    obtain ⟨vs, hvs, hmean⟩ := hf.fields?_eq
    -- a message has seven fields, each with its own source
    obtain ⟨id, vs, rfl, hid, hmean⟩ := hmean.exists_cons
    obtain ⟨timestamp, vs, rfl, htimestamp, hmean⟩ := hmean.exists_cons
    obtain ⟨name, vs, rfl, hname, hmean⟩ := hmean.exists_cons
    obtain ⟨type, vs, rfl, htype, hmean⟩ := hmean.exists_cons
    obtain ⟨payload, vs, rfl, hpayload, hmean⟩ := hmean.exists_cons
    obtain ⟨headers, vs, rfl, hheaders, hmean⟩ := hmean.exists_cons
    obtain ⟨headerData, vs, rfl, hdata, hmean⟩ := hmean.exists_cons
    cases hmean
    -- every field is there once, so the record finds all of them
    have hrecord : (Source.object ss).record? ["id", "timestamp", "name", "message_type",
        "payload", "headers", "header_data"] = some [some id, some timestamp, some name,
        some type, some payload, some headers, some headerData] := by
      rw [Source.record?, hvs]
      · rfl
      · rintro vs ⟨⟩
    have htype : optional? (fun v => v.variant?.bind MessageType.ofName?) (some type)
        = some m.type := optional?_of_means MessageType.name htype fun t h => by
      rw [h.variant?_eq, Option.bind_some, ofName?_name]
    have hname : optional? Source.text? (some name) = some m.name :=
      optional?_of_means (fun t => t) hname fun _ h => h.text?_eq
    simp only [ofSource?, hrecord, Option.bind_eq_bind, Option.bind_some, hid.text?_eq,
      htimestamp.text?_eq, Uuid.read?_render, Timestamp.read?_render hm.timestamp, hname, htype,
      defaulting?, Payload.ofSource?_of_means hpayload hm.payload hdepth.1,
      headers?_of_means hheaders hm.headers hdepth.2, headerData?_of_means hdata]
    rfl

/-- The doubles in the message are read as what they were written for. -/
def DoublesReadBack (m : Message) : Prop :=
  ∀ d finite, .double d finite ∈ m.toJson.numbers → (Json.Number.double d finite).IsReadBack

/-- A message is read from its serialized form. -/
theorem deserialize?_serialize {m : Message} (hm : m.IsSound) (hdoubles : m.DoublesReadBack)
    (hd : m.toJson.depth ≤ Json.maxDepth) : deserialize? m.serialize = some m := by
  obtain ⟨s, hs, hmeans⟩ := Source.exists_ofText_render (Json.forall_isReadBack hdoubles)
  rw [deserialize?, serialize, hs]
  exact ofSource?_of_means hmeans hm hd

/-! ## Messages that are read -/

/-- A document that is read inside a message is in normal form, and as deep as it may be there. -/
theorem inner?_spec {s : Source} {v : Json} (h : s.inner? = some v) :
    v.IsNormal ∧ v.depth ≤ Json.maxDepth - 2 := by
  unfold Source.inner? at h
  cases hs : s.value (Json.maxDepth - 2) with
  | error e => rw [hs] at h; cases h
  | ok u =>
    rw [hs] at h
    cases h
    exact ⟨Json.isNormal_normalize u,
      Nat.le_trans (Json.depth_normalize_le u) (Source.depth_le_of_value hs)⟩

/-- A payload adds one level to that of its document. -/
theorem depth_payload_le {p : Payload} (h : ∀ v, p = .json v → v.depth ≤ Json.maxDepth - 2) :
    p.toJson.depth ≤ Json.maxDepth - 1 := by
  cases p with
  | empty => decide
  | text s => exact (by decide : 1 ≤ Json.maxDepth - 1)
  | json v =>
    have hv := h v rfl
    simp only [Payload.toJson, Json.depth, Json.fieldsDepth, Json.maxDepth] at hv ⊢
    omega
  -- bytes are numbers, which open no level
  | binary bytes =>
    have hbytes : Json.itemsDepth (bytes.map fun b => Json.ofNat b.toNat) ≤ 0 := by
      rw [Json.itemsDepth_le_iff]
      intro v hv
      obtain ⟨b, -, rfl⟩ := List.mem_map.1 hv
      exact Nat.le_of_eq (Source.depth_ofNat _)
    simp only [Payload.toJson, Json.depth, Json.fieldsDepth, Json.maxDepth]
    omega

theorem depth_optional {α : Type} (text : α → String) (a : Option α) :
    (optional (fun a => .text (text a)) a).depth = 0 := by
  cases a <;> rfl

/-- A message adds one level to that of its payload, and two to those of its headers. -/
theorem depth_toJson_le {m : Message} (hpayload : m.payload.toJson.depth ≤ Json.maxDepth - 1)
    (hheaders : Json.fieldsDepth m.headers.entries ≤ Json.maxDepth - 2) :
    m.toJson.depth ≤ Json.maxDepth := by
  have hname : (optional Json.text m.name).depth = 0 := depth_optional (fun t => t) m.name
  have htype := depth_optional MessageType.name m.type
  have hdata : Json.itemsDepth (m.headerData.map .text) ≤ 0 := by
    rw [Json.itemsDepth_le_iff]
    intro v hv
    obtain ⟨t, -, rfl⟩ := List.mem_map.1 hv
    exact Nat.le_refl 0
  simp only [toJson, headersObject, Json.depth, Json.fieldsDepth, Json.maxDepth] at *
  omega

/-- Only the kind of documents makes a document of its content. -/
theorem inner?_of_ofKind? {kind : String} {content : Option Source} {v : Json}
    (h : Payload.ofKind? kind content = some (.json v)) : ∃ s : Source, s.inner? = some v := by
  unfold Payload.ofKind? at h
  split at h
  · cases h
  · cases h
  · obtain ⟨t, -, ht⟩ := Option.map_eq_some_iff.1 h
    cases ht
  · next s =>
    obtain ⟨u, hu, hv⟩ := Option.map_eq_some_iff.1 h
    cases hv
    exact ⟨s, hu⟩
  · obtain ⟨bytes, -, hbytes⟩ := Option.map_eq_some_iff.1 h
    cases hbytes
  · cases h

/-- A document that is read as a payload was read as a document inside a message. -/
theorem payload_spec {s : Source} {v : Json} (h : Payload.ofSource? s = some (.json v)) :
    v.IsNormal ∧ v.depth ≤ Json.maxDepth - 2 := by
  have hkind : ∃ kind content, Payload.ofKind? kind content = some (.json v) := by
    unfold Payload.ofSource? at h
    simp only [Option.bind_eq_bind] at h
    -- the payload is the name of its kind alone, or an object with kind and content
    split at h
    · obtain ⟨kind, -, h⟩ := Option.bind_eq_some_iff.1 h
      exact ⟨kind, _, h⟩
    · simp only [Option.bind_eq_some_iff] at h
      obtain ⟨fs, -, _, -, _, -, kind, -, content, -, h⟩ := h
      exact ⟨kind, content, h⟩
  obtain ⟨kind, content, hkind⟩ := hkind
  obtain ⟨s, hs⟩ := inner?_of_ofKind? hkind
  exact inner?_spec hs

theorem mapM_inner?_spec {ks : List (String × Source)} {fs : List (String × Json)}
    (h : ks.mapM (fun (k, v) => v.inner?.map fun v => (k, v)) = some fs) :
    ∀ f ∈ fs, f.2.IsNormal ∧ f.2.depth ≤ Json.maxDepth - 2 := by
  induction ks generalizing fs with
  | nil => cases h; simp
  | cons k ks ih =>
    rw [List.mapM_cons] at h
    simp only [Option.bind_eq_bind, Option.bind_eq_some_iff, Option.map_eq_some_iff] at h
    obtain ⟨f, ⟨v, hv, rfl⟩, fs, hfs, h⟩ := h
    cases h
    intro f hf
    rcases List.mem_cons.1 hf with rfl | hf
    · exact inner?_spec hv
    · exact ih hfs f hf

/-- The values of headers that are read are documents inside a message. -/
theorem headers?_spec {s : Source} {headers : Assoc Json} (h : headers? s = some headers) :
    ∀ e ∈ headers.entries, e.2.IsNormal ∧ e.2.depth ≤ Json.maxDepth - 2 := by
  simp only [headers?, Option.bind_eq_bind, Option.bind_eq_some_iff] at h
  obtain ⟨ks, -, fs, hfs, h⟩ := h
  cases h
  intro e he
  exact Assoc.of_get?_ofList (C := fun v => v.IsNormal ∧ v.depth ≤ Json.maxDepth - 2)
    (mapM_inner?_spec hfs) (Assoc.get?_of_mem he)

/-- A part that is missing has its default, and else is read. -/
theorem defaulting?_eq_some {α : Type} {default a : α} {read? : Source → Option α}
    {s : Option Source} (h : defaulting? default read? s = some a) :
    a = default ∨ ∃ s, read? s = some a := by
  cases s with
  | none => cases h; exact .inl rfl
  | some s => exact .inr ⟨s, h⟩

/-- A message that is read is sound, and written again it is not nested too deeply. -/
theorem ofSource?_spec {s : Source} {m : Message} (h : ofSource? s = some m) :
    m.IsSound ∧ m.toJson.depth ≤ Json.maxDepth := by
  simp only [ofSource?, Option.bind_eq_bind, Option.bind_eq_some_iff] at h
  obtain ⟨vs, -, h⟩ := h
  split at h
  · simp only [Option.bind_eq_some_iff] at h
    obtain ⟨_, -, _, -, id, -, _, -, _, -, timestamp, htimestamp, name, -, type, -, payload,
      hpayload, headers, hheaders, headerData, -, h⟩ := h
    cases h
    have hpayload : ∀ v, payload = .json v → v.IsNormal ∧ v.depth ≤ Json.maxDepth - 2 := by
      rintro v rfl
      rcases defaulting?_eq_some hpayload with h | ⟨s, h⟩
      · cases h
      · exact payload_spec h
    have hheaders : ∀ e ∈ headers.entries, e.2.IsNormal ∧ e.2.depth ≤ Json.maxDepth - 2 := by
      rcases defaulting?_eq_some hheaders with rfl | ⟨s, h⟩
      · exact fun e he => nomatch he
      · exact headers?_spec h
    refine ⟨⟨Timestamp.isValid_of_read? htimestamp, fun v hv => (hpayload v hv).1,
      fun e he => (hheaders e he).1⟩, ?_⟩
    exact depth_toJson_le (depth_payload_le fun v hv => (hpayload v hv).2)
      (Json.fieldsDepth_le_iff.2 fun e he => (hheaders e he).2)
  · cases h

/-- A text that is read as a message has a sound one. -/
theorem isSound_of_deserialize? {s : String} {m : Message} (h : deserialize? s = some m) :
    m.IsSound ∧ m.toJson.depth ≤ Json.maxDepth := by
  obtain ⟨source, -, h⟩ := Option.bind_eq_some_iff.1 h
  exact ofSource?_spec h

/-- Nothing of a message is lost in its serialized form: it is read back as it was, as far as it is
not nested too deeply. Every text that is read as a message has a normal form, the serialized form
of the message, which is read and written again as the same text. -/
theorem serialized_stable :
    (∀ m : Message, m.IsSound → m.DoublesReadBack → m.toJson.depth ≤ Json.maxDepth →
      deserialize? m.serialize = some m)
    ∧ ∀ (s : String) (m : Message), deserialize? s = some m → m.DoublesReadBack →
      (deserialize? m.serialize).map serialize = some m.serialize := by
  refine ⟨fun m hm hdoubles hd => deserialize?_serialize hm hdoubles hd, fun s m h hdoubles => ?_⟩
  obtain ⟨hm, hd⟩ := isSound_of_deserialize? h
  rw [deserialize?_serialize hm hdoubles hd, Option.map_some]

/-- A message from a leap second, with its headers out of the order of their names. -/
def leapMessage : Message where
  id := ⟨0x0123456789ABCDEF0123456789ABCDEF, by decide⟩
  timestamp := ⟨1709247599, 1500000000⟩
  type := some .json
  payload := .json (.object [("a", .number (.double (Double.ofRatio false 3 2) (by decide))),
    ("b", .array [.null, .text "\"\n"])])
  headers := .ofList [("later", .bool true), ("early", .null)]
  headerData := ["", "x"]

theorem isSound_leapMessage : leapMessage.IsSound where
  timestamp := ⟨by decide, .inr (by decide)⟩
  payload := by
    rintro v ⟨⟩
    exact ⟨by decide, trivial, ⟨trivial, trivial, trivial⟩, trivial⟩
  headers := by
    simp [leapMessage, Assoc.ofList, Assoc.insertAll, Assoc.insert, Assoc.empty,
      Assoc.Entries.put, Json.IsNormal]

/-- A text of a message with its fields in another order, with an unknown field, without most of the
optional ones and with a header that comes twice. -/
def looseText : String :=
  "\x7b\"x\":0,\"headers\":\x7b\"b\":1,\"a\":0,\"b\":2\x7d,\"timestamp\":\"2024-2-29 9:9:60z\","
    ++ "\"id\":\"0123456789ABCDEF0123456789abcdef\"\x7d"

/-- The normal form of the text. -/
def strictText : String :=
  "\x7b\"id\":\"01234567-89ab-cdef-0123-456789abcdef\",\"timestamp\":\"2024-02-29T09:09:60Z\","
    ++ "\"name\":null,\"message_type\":null,\"payload\":\x7b\"kind\":\"empty\"\x7d,"
    ++ "\"headers\":\x7b\"b\":2,\"a\":0\x7d,\"header_data\":[]\x7d"

theorem exists_deserialize?_looseText : ∃ m, deserialize? looseText = some m
    ∧ m.DoublesReadBack ∧ m.serialize = strictText := by
  have hcheck : (deserialize? looseText).any (fun m =>
      (∀ n ∈ m.toJson.numbers, n.IsReadBack) ∧ m.serialize = strictText) = true := by
    decide +kernel
  obtain ⟨m, hm, h⟩ := (Option.any_eq_true _ _).1 hcheck
  obtain ⟨hnumbers, hserialize⟩ := of_decide_eq_true h
  exact ⟨m, hm, fun d finite h => hnumbers _ h, hserialize⟩

theorem serialized_stable_leap :
    (leapMessage.IsSound ∧ leapMessage.DoublesReadBack ∧ leapMessage.toJson.depth ≤ Json.maxDepth
      ∧ deserialize? leapMessage.serialize = some leapMessage)
    ∧ ∃ m, deserialize? looseText = some m ∧ m.DoublesReadBack
      ∧ (deserialize? m.serialize).map serialize = some m.serialize
      ∧ m.serialize = strictText := by
  have hdoubles : leapMessage.DoublesReadBack := by
    have hall : ∀ n ∈ leapMessage.toJson.numbers, n.IsReadBack := by decide +kernel
    exact fun d finite h => hall _ h
  have hdepth : leapMessage.toJson.depth ≤ Json.maxDepth := by decide
  obtain ⟨m, hm, hm', hstrict⟩ := exists_deserialize?_looseText
  exact ⟨⟨isSound_leapMessage, hdoubles, hdepth,
      serialized_stable.1 leapMessage isSound_leapMessage hdoubles hdepth⟩,
    m, hm, hm', serialized_stable.2 looseText m hm hm', hstrict⟩

end Message

end Rehearsal
