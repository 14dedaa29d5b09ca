/-
What the bytes of a message are made of.

Bytes are read as a message of a kind iff they are a row of fields (`decode_eq_ok_iff`).
Each field in the row is a field of the wire format, declared or not, and it is the same
field wherever it stands; so rows can be put one after the other, and cut at every place
between two fields (`row_split`).

The induction is on the nesting budget: what a message has taken is a length and a row of
fields, read with one level less.
-/
import DeviceGen.Descriptor.Reader
import DeviceGen.Proofs.Wire.Fields

namespace DeviceGen.Descriptor

open DeviceGen.Wire
open DeviceGen.Wire.Reader (Reads Row Takes of_bind_ok)

/-- The reader of the fields of a message that has a budget for what is inside. -/
abbrev fieldReader (budget : Nat) (kind : Kind) : Reader (Option (Occurrence kind.fields)) :=
  readField (readMessage budget) budget kind

/-- The bytes of a message are a length and a row of fields, which are read with one level
less than there was for the message. -/
def IsMessage (budget : Nat) (kind : Kind) (bytes : List UInt8)
    (contents : Reading (.fields kind.fields)) : Prop :=
  ∃ inner length body fields, budget = inner + 1 ∧ bytes = length ++ body
    ∧ Varint.Form body.length length ∧ Row (fieldReader inner kind) body fields
    ∧ contents = declared fields

theorem IsMessage.payload {budget : Nat} {kind : Kind} {bytes : List UInt8}
    {contents : Reading (.fields kind.fields)} :
    IsMessage budget kind bytes contents → Payload .delimited bytes
  | ⟨_, _, _, _, _, hbytes, hlength, _, _⟩ => hbytes ▸ .delimited hlength

/-! ### What readers have taken -/

theorem takes_expect (expected found : WireType) :
    Takes (expect expected found) fun bytes _ => bytes = [] ∧ found = expected := by
  unfold expect
  by_cases h : found = expected
  · rw [if_pos h]
    exact (Takes.pure ()).mono fun _ _ hpure => ⟨hpure.1, h⟩
  · rw [if_neg h]
    exact Takes.fail _

theorem takes_readScalar (s : Scalar) (found : WireType) :
    Takes (readScalar s found) fun bytes _ => Payload found bytes := by
  refine ((takes_expect s.wireType found).bind fun _ =>
    s.takes_read.bind_pure fun v => (.scalars [v] : Reading (.occurrence (.scalar s)))).mono ?_
  rintro bytes content ⟨_, body, _, rfl, ⟨rfl, hfound⟩, _, hpayload, _⟩
  rw [hfound]
  exact hpayload

variable {messages : MessageReader}

/-- The readers of messages take a length and as many bytes. -/
abbrev Delimits (messages : MessageReader) : Prop :=
  ∀ kind, Takes (messages kind) fun bytes _ => Payload .delimited bytes

theorem takes_readOccurrence (hmessages : Delimits messages) (type : FieldType)
    (found : WireType) :
    Takes (readOccurrence messages type found) fun bytes _ => Payload found bytes := by
  have message {α : Type} (k : Kind) (f : Reading (.fields k.fields) → α) :
      Takes (expect .delimited found >>= fun _ => messages k >>= fun contents => pure (f contents))
        fun bytes _ => Payload found bytes := by
    refine ((takes_expect .delimited found).bind fun _ => (hmessages k).bind_pure f).mono ?_
    rintro bytes content ⟨_, body, _, rfl, ⟨rfl, rfl⟩, _, hpayload, _⟩
    exact hpayload
  cases type with
  | optional s => exact takes_readScalar s found
  | required s => exact takes_readScalar s found
  | message k => exact message k Reading.message
  | messages k => exact message k Reading.message
  | list s packed =>
      by_cases hpacked : s.packable ∧ found = .delimited
      · obtain ⟨hpackable, rfl⟩ := hpacked
        simp only [readOccurrence]
        rw [if_pos ⟨hpackable, trivial⟩]
        have hne : ∀ bytes (v : s.Carrier), Payload s.wireType bytes → bytes ≠ [] :=
          fun _ _ h => h.ne_nil
        refine ((Reader.takes_delimited s.takes_read hne).bind_pure _).mono ?_
        rintro _ _ ⟨_, ⟨length, body, rfl, hlength, -⟩, _⟩
        exact .delimited hlength
      · simp only [readOccurrence]
        rw [if_neg hpacked]
        exact takes_readScalar s found

/-- What is read of a field after its key. -/
def fieldAfter (messages : MessageReader) (budget : Nat) (kind : Kind) (key : Key) :
    Reader (Option (Occurrence kind.fields)) :=
  match Member.find? key.number kind.fields with
  | some ⟨field, member⟩ => do
    let content ← Reader.inside (kind.place field) (readOccurrence messages field.type key.wireType)
    return some ⟨field, member, content⟩
  | none => do
    skip budget key
    return none

theorem readField_eq (messages : MessageReader) (budget : Nat) (kind : Kind) :
    readField messages budget kind = Key.read >>= fieldAfter messages budget kind :=
  rfl

/-- **The reader of the fields of a message takes fields**, one at a time. -/
theorem takes_readField (hmessages : Delimits messages) (budget : Nat) (kind : Kind) :
    Takes (readField messages budget kind) fun bytes _ =>
      ∃ levels number, IsField levels number bytes := by
  have hafter (key : Key) : Takes (fieldAfter messages budget kind key) fun bytes _ =>
      ∀ keyBytes, Key.Form key keyBytes → ∃ levels, IsField levels key.number (keyBytes ++ bytes) := by
    unfold fieldAfter
    cases Member.find? key.number kind.fields with
    | none =>
        refine ((takes_skip budget key).bind_pure fun _ => none).mono ?_
        rintro bytes _ ⟨_, hcompletes, -⟩ keyBytes hkey
        exact ⟨budget, hcompletes keyBytes hkey⟩
    | some found =>
        obtain ⟨field, member⟩ := found
        have hread := (takes_readOccurrence hmessages field.type key.wireType).inside
          (kind.place field)
        refine (hread.bind_pure fun content =>
          (some ⟨field, member, content⟩ : Option (Occurrence kind.fields))).mono ?_
        rintro bytes _ ⟨_, hpayload, -⟩ keyBytes hkey
        exact ⟨1, .plain hkey hpayload⟩
  rw [readField_eq]
  refine (Key.takes_read.bind hafter).mono ?_
  rintro bytes answer ⟨keyBytes, body, key, rfl, hkey, hbody⟩
  obtain ⟨levels, hfield⟩ := hbody keyBytes hkey
  exact ⟨levels, key.number, hfield⟩

theorem ne_nil_of_isField {bytes : List UInt8} :
    (∃ levels number, IsField levels number bytes) → bytes ≠ []
  | ⟨_, _, h⟩ => h.ne_nil

/-- **A message that was read is a length and a row of fields.** -/
theorem takes_readMessage (budget : Nat) (kind : Kind) :
    Takes (readMessage budget kind) (IsMessage budget kind) := by
  induction budget generalizing kind with
  | zero => exact Takes.fail _
  | succ budget ih =>
      have hmessages : Delimits (readMessage budget) := fun k => (ih k).mono fun _ _ h => h.payload
      have hfields := Reader.takes_delimited (takes_readField hmessages budget kind)
        fun _ _ => ne_nil_of_isField
      intro input rest contents h
      obtain ⟨fields, hread, rfl⟩ := Reader.of_map_ok h
      obtain ⟨taken, hinput, ⟨length, body, rfl, hlength, hrow⟩, hreads⟩ := hfields hread
      exact ⟨_, hinput, ⟨budget, length, body, fields, rfl, rfl, hlength, hrow, rfl⟩,
        hreads.map declared⟩

theorem delimits_readMessage (budget : Nat) : Delimits (readMessage budget) :=
  fun kind => (takes_readMessage budget kind).mono fun _ _ h => h.payload

theorem fieldReader_eq (budget : Nat) (kind : Kind) :
    fieldReader budget kind = Key.read >>= fieldAfter (readMessage budget) budget kind :=
  rfl

theorem takes_fieldReader (budget : Nat) (kind : Kind) :
    Takes (fieldReader budget kind) fun bytes _ => ∃ levels number, IsField levels number bytes :=
  takes_readField (delimits_readMessage budget) budget kind

/-! ### Whole messages -/

variable {kind : Kind} {bytes : List UInt8} {budget : Nat}

theorem decode_of_row {fields : List (Option (Occurrence kind.fields))}
    (h : Row (fieldReader nestingLimit kind) bytes fields) :
    decode kind bytes = .ok (declared fields).record := by
  have hall : readAll kind (Input.ofBytes bytes) = .ok (declared fields, Input.ofBytes []) :=
    Reader.map_ok declared h.toEnd
  rw [decode, reading, hall]
  rfl

/-- **Bytes are read as a message iff they are a row of fields**, and the message is what the
declared ones among them say. -/
theorem decode_eq_ok_iff {r : Record kind} :
    decode kind bytes = .ok r ↔
      ∃ fields, Row (fieldReader nestingLimit kind) bytes fields ∧ r = (declared fields).record := by
  constructor
  · intro h
    unfold decode reading at h
    cases hall : readAll kind (Input.ofBytes bytes) with
    | error e =>
        rw [hall] at h
        cases h
    | ok p =>
        rw [hall] at h
        cases h
        obtain ⟨fields, hend, hdeclared⟩ := Reader.of_map_ok hall
        have hrow := ((Reader.toEnd_eq_ok_iff (takes_fieldReader nestingLimit kind)
          fun _ _ => ne_nil_of_isField).mp hend).1
        exact ⟨fields, hrow, by rw [hdeclared]⟩
  · rintro ⟨fields, hrow, rfl⟩
    exact decode_of_row hrow

/-! ### Places between fields -/

/-- What a row of fields begins with is read first. -/
theorem row_field {levels number : Nat} {field after : List UInt8}
    {fields : List (Option (Occurrence kind.fields))} (hfield : IsField levels number field)
    (h : Row (fieldReader budget kind) (field ++ after) fields) :
    ∃ answer others, fields = answer :: others ∧ Reads (fieldReader budget kind) field answer
      ∧ Row (fieldReader budget kind) after others := by
  generalize hwhole : field ++ after = whole at h
  cases h with
  | nil => exact absurd hwhole (by simp [hfield.ne_nil])
  | @cons taken more answer others first nonempty later =>
      -- the reader takes one field, and the bytes begin with one field only
      obtain ⟨levels', number', htaken⟩ := (takes_fieldReader budget kind).form_of_reads first
      obtain ⟨rfl, -, rfl⟩ := hfield.unique htaken hwhole
      exact ⟨answer, others, rfl, first, later⟩

/-- **A row of fields can be cut at every place between two fields.** -/
theorem row_split {before after : List UInt8} {fields : List (Option (Occurrence kind.fields))}
    (hbefore : AreFields before) (h : Row (fieldReader budget kind) (before ++ after) fields) :
    ∃ fs gs, fields = fs ++ gs ∧ Row (fieldReader budget kind) before fs
      ∧ Row (fieldReader budget kind) after gs := by
  obtain ⟨parts, rfl, hparts⟩ := hbefore
  induction parts generalizing fields with
  | nil => exact ⟨[], fields, rfl, Row.nil, h⟩
  | cons part parts ih =>
      obtain ⟨levels, hpart⟩ := hparts part List.mem_cons_self
      rw [List.flatMap_cons, List.append_assoc] at h
      obtain ⟨answer, others, rfl, hfirst, hothers⟩ := row_field hpart h
      obtain ⟨fs, gs, rfl, hfs, hgs⟩ := ih (fun f hf => hparts f (List.mem_cons_of_mem part hf))
        hothers
      exact ⟨answer :: fs, gs, rfl, Row.cons hfirst hpart.ne_nil hfs, hgs⟩

end DeviceGen.Descriptor
