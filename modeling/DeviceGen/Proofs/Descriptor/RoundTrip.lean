/-
Reading a written record.

A reader with a nesting budget gets back every record that is at most as deep as the
budget, and refuses every deeper one at the first message that is nested too deep.  So
the budget is the exact limit of the round trip.

Both halves are one induction over the record, with the budget left open: entering a
message spends one level of the budget and takes one level off the depth.  For a slot
the statement speaks of any reader that begins with the key of the slot's field
(`Keyed`), because the reader of the fields of a message knows the whole table and the
induction only a part of it.
-/
import DeviceGen.Proofs.Descriptor.Contents
import DeviceGen.Proofs.Descriptor.Lengths
import DeviceGen.Proofs.Descriptor.Occurrences

namespace DeviceGen.Descriptor

open DeviceGen.Wire
open DeviceGen.Wire.Reader (Reads Row Breaks Stops)

/-! ### Tables -/

/-- Only values that need no length of their own share a key. -/
def FieldType.Packs : FieldType → Prop
  | .list s true => s.packable = true
  | _ => True

/-- What reading asks of a field: a number that a key can hold, and no packed texts. -/
structure Field.Sound (f : Field) : Prop where
  pos : 0 < f.number
  lt : f.number < 2 ^ 29
  packs : f.type.Packs

instance (type : FieldType) : Decidable type.Packs :=
  match type with
  | .list s true => inferInstanceAs (Decidable (s.packable = true))
  | .list _ false | .optional _ | .required _ | .message _ | .messages _ => isTrue trivial

instance (f : Field) : Decidable f.Sound :=
  decidable_of_iff (0 < f.number ∧ f.number < 2 ^ 29 ∧ f.type.Packs)
    ⟨fun h => ⟨h.1, h.2.1, h.2.2⟩, fun h => ⟨h.pos, h.lt, h.packs⟩⟩

theorem Kind.sound (kind : Kind) : ∀ f ∈ kind.fields, f.Sound := by
  cases kind <;> decide

theorem Member.mem {f : Field} : {table : List Field} → Member f table → f ∈ table
  | _, .here => List.mem_cons_self
  | _, .there m => List.mem_cons_of_mem _ m.mem

/-- A field is found by its number if no other field of the table has it. -/
theorem Member.find?_self {f : Field} {table : List Field} (m : Member f table)
    (h : (table.map Field.number).Pairwise (· < ·)) :
    Member.find? f.number table = some ⟨f, m⟩ := by
  induction m with
  | here => rw [find?, if_pos rfl]
  | @there g table m ih =>
      rw [List.map_cons, List.pairwise_cons] at h
      have hlt : g.number < f.number := h.1 _ (List.mem_map_of_mem m.mem)
      rw [find?, if_neg (by omega), ih h.2]
      rfl

/-- The occurrence at the place that its field has in another table. -/
def Occurrence.at {table whole : List Field} (place : ∀ f, Member f table → Member f whole)
    (o : Occurrence table) : Occurrence whole :=
  ⟨o.field, place o.field o.member, o.content⟩

/-! ### Fields after their keys -/

variable {α : Type} {messages : MessageReader}

/-- A reader that takes a key with the number and then reads an occurrence. -/
structure Keyed (messages : MessageReader) (type : FieldType) (number : Nat)
    (thing : Reader α) (answer : Reading (.occurrence type.element) → α) : Prop where
  reads : ∀ {found body content}, Reads (readOccurrence messages type found) body content →
    Reads thing (Key.write ⟨number, found⟩ ++ body) (answer content)
  stops : ∀ {found body cause}, Stops (readOccurrence messages type found) body cause →
    Stops thing (Key.write ⟨number, found⟩ ++ body) cause

/-- The reader of the next field of a message reads each field of the table. -/
theorem keyed_readField (messages : MessageReader) (budget : Nat) {kind : Kind} {f : Field}
    {member : Member f kind.fields}
    (hfind : Member.find? f.number kind.fields = some ⟨f, member⟩) :
    Keyed messages f.type f.number (readField messages budget kind)
      (fun content => some ⟨f, member, content⟩) := by
  have hsound := kind.sound f member.mem
  have hkey : ∀ found, Reads Key.read (Key.write ⟨f.number, found⟩) ⟨f.number, found⟩ :=
    fun found => Key.reads_write hsound.pos hsound.lt
  constructor
  · intro found body content h
    unfold readField
    refine (hkey found).bind ?_
    simp only [hfind]
    exact (h.inside (kind.place f)).map fun content =>
      (some ⟨f, member, content⟩ : Option (Occurrence kind.fields))
  · intro found body cause h
    unfold readField
    refine (hkey found).bind_stops ?_
    simp only [hfind]
    exact (h.inside (kind.place f)).bind _

theorem keyed_ne_nil (number : Nat) (found : WireType) (body : List UInt8) :
    Key.write ⟨number, found⟩ ++ body ≠ [] := by
  simp [Key.write_ne_nil]

/-! ### Occurrences -/

theorem expect_self (w : WireType) : expect w w = pure () := if_pos rfl

theorem reads_readScalar (s : Scalar) {v : s.Carrier} (h : s.Fits v) :
    Reads (readScalar s s.wireType) (s.write v) (.scalars [v]) := by
  unfold readScalar
  rw [expect_self]
  exact (s.reads_write v h).map fun v => (.scalars [v] : Reading (.occurrence (.scalar s)))

/-- A value of an unpacked list is read like a single one. -/
theorem readOccurrence_list (s : Scalar) (packed : Bool) :
    readOccurrence messages (.list s packed) s.wireType = readScalar s s.wireType := by
  have hpack : ¬ (s.packable = true ∧ s.wireType = .delimited) := by
    rintro ⟨hp, hw⟩
    simp [Scalar.packable, hw] at hp
  simp only [readOccurrence]
  rw [if_neg hpack]

/-- All values of a packed list are read as one occurrence. -/
theorem reads_packed {s : Scalar} {values : List s.Carrier} (hpack : s.packable = true)
    (hfits : ∀ v ∈ values, s.Fits v) (hlen : (values.flatMap s.write).length < 2 ^ 64) :
    Reads (readOccurrence messages (.list s true) .delimited)
      (Scalar.delimited (values.flatMap s.write)) (.scalars values) := by
  have hrow : Row s.read (values.flatMap s.write) values := by
    have hmap : Row s.read (values.flatMap s.write) (values.map id) :=
      Row.flatMap (fun v hv => s.reads_write v (hfits v hv)) (fun v _ => s.write_ne_nil v)
    rwa [List.map_id] at hmap
  simp only [readOccurrence]
  rw [if_pos ⟨hpack, trivial⟩]
  exact (hrow.delimited hlen).map fun values =>
    (.scalars values : Reading (.occurrence (.scalar s)))

theorem declared_some {kind : Kind} (os : List (Occurrence kind.fields)) :
    declared (os.map some) = Reading.ofList os := by
  rw [declared, List.filterMap_map]
  exact congrArg Reading.ofList List.filterMap_some

/-- A message is read behind its length with one level less for what is inside. -/
theorem reads_readMessage {budget : Nat} {k : Kind} {bytes : List UInt8}
    {os : List (Occurrence k.fields)}
    (h : Row (readField (readMessage budget) budget k) bytes (os.map some))
    (hlen : bytes.length < 2 ^ 64) :
    Reads (readMessage (budget + 1) k) (Scalar.delimited bytes) (Reading.ofList os) := by
  have hmap : Reads (readMessage (budget + 1) k) (Scalar.delimited bytes)
      (declared (os.map some)) := (h.delimited hlen).map declared
  rwa [declared_some] at hmap

theorem stops_readMessage {budget : Nat} {k : Kind} {bytes : List UInt8} {cause : Cause}
    (h : Breaks (readField (readMessage budget) budget k) bytes cause)
    (hlen : bytes.length < 2 ^ 64) :
    Stops (readMessage (budget + 1) k) (Scalar.delimited bytes) cause :=
  (h.delimited hlen).map declared

/-! ### The induction -/

/-- A written value is read if its depth is within the budget, and refused if not. -/
def Data.Understood : {shape : Shape} → Data shape → Prop
  | .slot type, d => ∀ {α : Type} {thing : Reader α}
      {answer : Reading (.occurrence type.element) → α} {budget number : Nat},
      Keyed (readMessage budget) type number thing answer → type.Packs →
      (d.depth ≤ budget → Row thing (d.write number) (d.occurrences.map answer)) ∧
        (budget < d.depth → Breaks thing (d.write number) .tooDeep)
  | .record table, d => ∀ {kind : Kind} (place : ∀ f, Member f table → Member f kind.fields)
      (budget : Nat),
      (∀ f m, Member.find? f.number kind.fields = some ⟨f, place f m⟩) →
      (d.depth ≤ budget →
          Row (readField (readMessage budget) budget kind) d.write
            (d.occurrences.map fun o => some (o.at place))) ∧
        (budget < d.depth → Breaks (readField (readMessage budget) budget kind) d.write .tooDeep)

/-- A whole record is read with its own table. -/
theorem Data.Understood.whole {k : Kind} {r : Record k} (h : Data.Understood r) (budget : Nat) :
    (r.depth ≤ budget →
        Row (readField (readMessage budget) budget k) r.write (r.occurrences.map some)) ∧
      (budget < r.depth → Breaks (readField (readMessage budget) budget k) r.write .tooDeep) :=
  h (fun _ m => m) budget fun _ m => m.find?_self k.numbers_increase

/-- A message that is understood is read where one is expected, or refused if it is
nested too deep. -/
private theorem understood_message {k : Kind} {r : Record k} (h : Data.Understood r)
    (hlen : r.write.length < 2 ^ 64) (budget : Nat) :
    (r.depth + 1 ≤ budget →
        Reads (readMessage budget k) (Scalar.delimited r.write) (Reading.ofList r.occurrences)) ∧
      (budget < r.depth + 1 → Stops (readMessage budget k) (Scalar.delimited r.write) .tooDeep) := by
  cases budget with
  | zero => exact ⟨fun hle => absurd hle (by omega), fun _ => Reader.stops_fail _ _⟩
  | succ budget =>
      obtain ⟨hrow, hbreaks⟩ := h.whole budget
      exact ⟨fun hle => reads_readMessage (hrow (by omega)) hlen,
        fun hlt => stops_readMessage (hbreaks (by omega)) hlen⟩

/-- The field of a single message or of one of several. -/
private theorem keyed_message {k : Kind} {r : Record k} (h : Data.Understood r)
    (hlen : r.write.length < 2 ^ 64) {type : FieldType} {thing : Reader α}
    {answer : Reading (.occurrence type.element) → α} {budget number : Nat}
    (wrap : Reading (.fields k.fields) → Reading (.occurrence type.element))
    (hread : readOccurrence (readMessage budget) type .delimited = wrap <$> readMessage budget k)
    (hkeyed : Keyed (readMessage budget) type number thing answer) :
    (r.depth + 1 ≤ budget →
        Reads thing (writeDelimited number r.write) (answer (wrap (Reading.ofList r.occurrences)))) ∧
      (budget < r.depth + 1 → Stops thing (writeDelimited number r.write) .tooDeep) := by
  obtain ⟨hreads, hstops⟩ := understood_message h hlen budget
  constructor
  · intro hle
    apply hkeyed.reads
    rw [hread]
    exact (hreads hle).map wrap
  · intro hlt
    apply hkeyed.stops
    rw [hread]
    exact (hstops hlt).map wrap

/-- A list of values is not nested at all, packed or not. -/
private theorem understood_list {s : Scalar} {packed : Bool} (values : List s.Carrier)
    (hfits : Data.Fits (.list values : Slot (.list s packed))) :
    Data.Understood (.list values : Slot (.list s packed)) := by
  intro α thing answer budget number hkeyed hpacks
  refine ⟨fun _ => ?_, fun hlt => absurd hlt (Nat.not_lt_zero _)⟩
  cases packed with
  | true =>
      cases values with
      | nil => exact Row.nil
      | cons v values =>
          exact Row.single (hkeyed.reads (reads_packed hpacks hfits.1 hfits.2))
            (keyed_ne_nil _ _ _)
  | false =>
      show Row thing (values.flatMap (writeScalar s number))
        ((values.map fun v => .scalars [v]).map answer)
      rw [List.map_map]
      refine Row.flatMap (fun v hv => ?_) (fun v _ => keyed_ne_nil _ _ _)
      apply hkeyed.reads
      rw [readOccurrence_list]
      exact reads_readScalar s (hfits v hv)

/-- A repeated field is refused at the first message in it that is nested too deep. -/
private theorem understood_cons {k : Kind} {r : Record k} {rest : Slot (.messages k)}
    (hr : Data.Understood r) (hlen : r.write.length < 2 ^ 64) (hrest : Data.Understood rest) :
    Data.Understood (.cons r rest) := by
  intro α thing answer budget number hkeyed hpacks
  obtain ⟨hreads, hstops⟩ := keyed_message hr hlen Reading.message
    (by simp only [readOccurrence]; rfl) hkeyed
  obtain ⟨hrow, hbreaks⟩ := hrest hkeyed hpacks
  constructor
  · intro hle
    simp only [Data.depth] at hle
    exact Row.cons (hreads (by omega)) (keyed_ne_nil _ _ _) (hrow (by omega))
  · intro hlt
    simp only [Data.depth] at hlt
    by_cases hfirst : budget < r.depth + 1
    · exact ((hstops hfirst).breaks (keyed_ne_nil _ _ _)).append _
    · exact (Row.single (hreads (by omega)) (keyed_ne_nil _ _ _)).breaks (hbreaks (by omega))

/-- The fields of a message follow each other, and the first one that is nested too deep
decides. -/
private theorem understood_field {f : Field} {table : List Field} {slot : Slot f.type}
    {rest : Fields table} (hslot : Data.Understood slot) (hrest : Data.Understood rest) :
    Data.Understood (.field slot rest) := by
  intro kind place budget hplace
  have hkeyed := keyed_readField (readMessage budget) budget (hplace f .here)
  obtain ⟨hrow, hbreaks⟩ := hslot hkeyed (kind.sound f (place f .here).mem).packs
  obtain ⟨hrows, hlater⟩ := hrest (fun g m => place g (.there m)) budget
    fun g m => hplace g (.there m)
  constructor
  · intro hle
    simp only [Data.depth] at hle
    have hall := (hrow (by omega)).append (hrows (by omega))
    show Row _ (slot.write f.number ++ rest.write)
      ((slot.occurrences.map Occurrence.here ++ rest.occurrences.map Occurrence.there).map _)
    rw [List.map_append, List.map_map, List.map_map]
    exact hall
  · intro hlt
    simp only [Data.depth] at hlt
    by_cases hfirst : budget < slot.depth
    · exact (hbreaks hfirst).append _
    · exact (hrow (by omega)).breaks (hlater (by omega))

theorem Data.understood {shape : Shape} (d : Data shape) (hfits : d.Fits) : d.Understood := by
  induction d with
  | @optional s value =>
      intro α thing answer budget number hkeyed hpacks
      refine ⟨fun _ => ?_, fun hlt => absurd hlt (Nat.not_lt_zero _)⟩
      cases value with
      | none => exact Row.nil
      | some v =>
          exact Row.single (hkeyed.reads (reads_readScalar s (hfits v rfl))) (keyed_ne_nil _ _ _)
  | @required s value =>
      intro α thing answer budget number hkeyed hpacks
      refine ⟨fun _ => ?_, fun hlt => absurd hlt (Nat.not_lt_zero _)⟩
      exact Row.single (hkeyed.reads (reads_readScalar s hfits)) (keyed_ne_nil _ _ _)
  | list values => exact understood_list values hfits
  | absent | nil =>
      intro α thing answer budget number hkeyed hpacks
      exact ⟨fun _ => Row.nil, fun hlt => absurd hlt (Nat.not_lt_zero _)⟩
  | present r ih =>
      intro α thing answer budget number hkeyed hpacks
      obtain ⟨hreads, hstops⟩ := keyed_message (ih hfits.1) hfits.2 Reading.message
        (by simp only [readOccurrence]; rfl) hkeyed
      exact ⟨fun hle => Row.single (hreads hle) (keyed_ne_nil _ _ _),
        fun hlt => (hstops hlt).breaks (keyed_ne_nil _ _ _)⟩
  | cons r rest ih ihrest => exact understood_cons (ih hfits.1.1) hfits.1.2 (ihrest hfits.2)
  | empty =>
      intro kind place budget hplace
      exact ⟨fun _ => Row.nil, fun hlt => absurd hlt (Nat.not_lt_zero _)⟩
  | field slot rest ih ihrest => exact understood_field (ih hfits.1) (ihrest hfits.2)

/-! ### Whole messages -/

/-- **A record whose depth is within the limit is read as it was written.** -/
theorem decode_encode {kind : Kind} {r : Record kind} (hfits : Data.Fits r)
    (hdepth : r.depth ≤ nestingLimit) : decode kind (encode r) = .ok r := by
  have hwhole := Data.Understood.whole (Data.understood r hfits) nestingLimit
  have hdecode : decode kind (encode r) = .ok (declared (r.occurrences.map some)).record :=
    decode_of_row (hwhole.1 hdepth)
  rw [hdecode, declared_some]
  exact congrArg Except.ok (Reading.record_occurrences r)

/-- **A record that is nested deeper is refused.** -/
theorem decode_encode_tooDeep {kind : Kind} {r : Record kind} (hfits : Data.Fits r)
    (hdepth : nestingLimit < r.depth) :
    ∃ path, decode kind (encode r) = .error ⟨path, .tooDeep⟩ := by
  have hwhole := Data.Understood.whole (Data.understood r hfits) nestingLimit
  obtain ⟨path, hpath⟩ := (hwhole.2 hdepth).toEnd
  have hall : readAll kind (Input.ofBytes (encode r)) = .error ⟨path, .tooDeep⟩ :=
    Reader.map_error declared hpath
  rw [decode, reading, hall]
  exact ⟨path, rfl⟩

end DeviceGen.Descriptor
