/-
Messages that come in two parts.

Bytes of a message can be cut between two fields, and both parts are bytes of a message
again.  What the whole says is the record of the first part with the record of the second
one merged into it (`decode_append`): a value that the second part has counts, one that
it has not is kept from the first, messages are merged in the same way, and the members
of repeated fields follow each other.

This is not how a message is read.  The reader merges occurrences into a record one by
one, and the law says that the occurrences of the second part may as well be merged into
a blank record first; the induction is on the reading of that part (`Reading.merges`).
It fails for a kind with a required field, because a record does not show whether a
required field was there.  There is one such kind, and no other has it as a single
message.
-/
import DeviceGen.Proofs.Descriptor.RoundTrip

namespace DeviceGen.Descriptor

open DeviceGen.Wire.Reader (Row)

/-! ### Merging records -/

/-- The first value with the second merged into it. -/
def Data.merge : {shape : Shape} → Data shape → Data shape → Data shape
  | _, .optional earlier, .optional later => .optional (later <|> earlier)
  | _, .required _, .required later => .required later
  | _, .list earlier, .list later => .list (earlier ++ later)
  | _, .absent, later => later
  | _, .present r, .absent => .present r
  | _, .present r, .present s => .present (r.merge s)
  | _, .nil, later => later
  | _, .cons r rest, later => .cons r (rest.merge later)
  | _, .empty, .empty => .empty
  | _, .field slot rest, .field slot' rest' => .field (slot.merge slot') (rest.merge rest')

/-- Merging is a matter of order alone. -/
theorem Data.merge_assoc {shape : Shape} (a b c : Data shape) :
    (a.merge b).merge c = a.merge (b.merge c) := by
  induction a with
  | optional v =>
      cases b
      cases c
      simp [merge, Option.or_assoc]
  | required v =>
      cases b
      cases c
      rfl
  | list values =>
      cases b
      cases c
      simp [merge]
  | absent => rfl
  | present r ih =>
      cases b with
      | absent => cases c <;> rfl
      | present s =>
          cases c with
          | absent => rfl
          | present t => exact congrArg Data.present (ih s t)
  | nil => rfl
  | cons r rest _ ih => exact congrArg (Data.cons r) (ih b c)
  | empty =>
      cases b
      cases c
      rfl
  | field slot rest ihslot ihrest =>
      cases b
      cases c
      simp only [merge, ihslot, ihrest]

theorem Data.records_merge {k : Kind} :
    ∀ s t : Slot (.messages k), records (s.merge t) = s.records ++ t.records
  | .nil, _ => rfl
  | .cons r rest, t => congrArg (r :: ·) (records_merge rest t)

theorem Data.merge_ofRecords {k : Kind} (s : Slot (.messages k)) (rs : List (Record k)) :
    s.merge (Slot.ofRecords rs) = Slot.ofRecords (s.records ++ rs) := by
  rw [← ofRecords_records (s.merge _), records_merge, records_ofRecords]

/-! ### Fields that show whether they were there -/

/-- A field that shows in a record whether it was there; a single message does if all its
fields do. -/
def FieldType.Mergeable : FieldType → Prop
  | .required _ => False
  | .message k => k ≠ .namePart
  | .optional _ | .list _ _ | .messages _ => True

instance : (type : FieldType) → Decidable type.Mergeable
  | .required _ => inferInstanceAs (Decidable False)
  | .message k => inferInstanceAs (Decidable (k ≠ .namePart))
  | .optional _ | .list _ _ | .messages _ => inferInstanceAs (Decidable True)

/-- Only one kind of message has required fields. -/
theorem Kind.mergeable (kind : Kind) (h : kind ≠ .namePart) :
    ∀ f ∈ kind.fields, f.type.Mergeable := by
  cases kind <;> first | exact absurd rfl h | decide

/-- Merging a blank into a value changes nothing. -/
theorem Slot.merge_blank {type : FieldType} (h : type.Mergeable) (slot : Slot type) :
    slot.merge (Slot.blank type) = slot := by
  cases type with
  | required s => exact absurd h id
  | optional s =>
      cases slot
      rfl
  | list s packed =>
      cases slot
      simp [blank, Data.merge]
  | message k => cases slot <;> rfl
  | messages k =>
      have := Data.merge_ofRecords slot []
      rwa [List.append_nil, Data.ofRecords_records] at this

theorem Fields.merge_blank {table : List Field} (h : ∀ f ∈ table, f.type.Mergeable)
    (r : Fields table) : r.merge (Fields.blank table) = r := by
  induction table with
  | nil =>
      cases r
      rfl
  | cons f table ih =>
      cases r with
      | field slot rest =>
          simp only [blank, Data.merge]
          rw [Slot.merge_blank (h f (by simp)), ih fun g hg => h g (List.mem_cons_of_mem f hg)]

/-- A slot is changed by what is merged into it. -/
theorem Fields.modify_eq_merge {f : Field} {change : Slot f.type → Slot f.type}
    (hchange : ∀ slot, change slot = Data.merge slot (change (Slot.blank f.type)))
    {table : List Field} (h : ∀ g ∈ table, g.type.Mergeable) (m : Member f table)
    (r : Fields table) :
    Fields.modify change m r = Data.merge r (Fields.modify change m (Fields.blank table)) := by
  induction m with
  | here =>
      cases r with
      | field slot rest =>
          simp only [modify, blank, Data.merge]
          rw [← hchange, merge_blank fun g hg => h g (List.mem_cons_of_mem f hg)]
  | @there g table m ih =>
      cases r with
      | field slot rest =>
          simp only [modify, blank, Data.merge]
          rw [← ih (fun g' hg => h g' (List.mem_cons_of_mem g hg)) rest,
            Slot.merge_blank (h g (by simp))]

/-! ### Readings -/

/-- A reading may be merged into a blank first. -/
def Reading.Merges : {extent : Extent} → Reading extent → Prop
  | .occurrence (.scalar _), _ => True
  | .occurrence (.message k), reading =>
      k ≠ .namePart → ∀ r : Record k,
        reading.change r = Data.merge r (reading.change (Fields.blank k.fields))
  | .fields table, reading =>
      (∀ f ∈ table, f.type.Mergeable) → ∀ r : Fields table,
        reading.change r = Data.merge r (reading.change (Fields.blank table))

theorem Slot.absorb_eq_merge {type : FieldType} (htype : type.Mergeable)
    (content : Reading (.occurrence type.element)) (h : content.Merges) (slot : Slot type) :
    Slot.absorb content.change slot
      = Data.merge slot (Slot.absorb content.change (Slot.blank type)) := by
  cases type with
  | required s => exact absurd htype id
  | optional s =>
      cases slot
      simp only [absorb, blank, Data.merge]
      cases content.change.getLast? <;> rfl
  | list s packed =>
      cases slot
      simp [absorb, blank, Data.merge]
  | message k =>
      cases slot with
      | absent => rfl
      | present r => exact congrArg Data.present (h htype r)
  | messages k =>
      exact (Data.merge_ofRecords slot [content.change (Fields.blank k.fields)]).symm

theorem Reading.merges {extent : Extent} (reading : Reading extent) : reading.Merges := by
  induction reading with
  | scalars values => trivial
  | @message k contents ih => exact fun hk => ih (k.mergeable hk)
  | done =>
      intro htable r
      exact (Fields.merge_blank htable r).symm
  | @next f table member content rest ih ihrest =>
      intro htable r
      -- what was read first is merged in, and the rest into what this gives
      have hslot := Fields.modify_eq_merge
        (Slot.absorb_eq_merge (htable f member.mem) content ih) htable member
      have hrest := ihrest htable
      simp only [change]
      rw [hrest, hslot r, Data.merge_assoc, ← hrest]

/-- **What two parts of a message say is the one record merged into the other.** -/
theorem decode_append {kind : Kind} (hkind : kind ≠ .namePart) {xs ys : List UInt8}
    {r s : Record kind} (hx : decode kind xs = .ok r) (hy : decode kind ys = .ok s) :
    decode kind (xs ++ ys) = .ok (Data.merge r s) := by
  obtain ⟨fs, hfs, rfl⟩ := decode_eq_ok_iff.mp hx
  obtain ⟨gs, hgs, rfl⟩ := decode_eq_ok_iff.mp hy
  rw [decode_of_row (hfs.append hgs)]
  have hboth : (declared (fs ++ gs)).record = (declared gs).change (declared fs).record := by
    unfold Reading.record declared
    rw [List.filterMap_append, Reading.change_ofList, Fields.absorbAll_append,
      ← Reading.change_ofList, ← Reading.change_ofList]
  rw [hboth]
  exact congrArg Except.ok ((declared gs).merges (kind.mergeable hkind) (declared fs).record)

end DeviceGen.Descriptor
