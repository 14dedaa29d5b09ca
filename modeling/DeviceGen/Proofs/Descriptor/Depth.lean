/-
How deep a message can be that was read.

The reader of a message spends a level of its budget for every message it enters, so
what it answers is less deep than its budget (`depth_readMessage`, by induction on the
budget).  Merging loses nothing and adds nothing: a record is at most as deep as the
deepest of what was merged into it (`depth_record`, by induction on the reading).  Both
together say that a record that was read is within the limit of the reader that is to
read it again.
-/
import DeviceGen.Descriptor.Reader
import DeviceGen.Proofs.Wire.Reads

namespace DeviceGen.Descriptor

open DeviceGen.Wire
open DeviceGen.Wire.Reader (of_bind_ok of_map_ok of_inside_ok)

/-! ### What a reader answers -/

theorem Reading.depth_ofList_le {table : List Field} {n : Nat} :
    ∀ {os : List (Occurrence table)}, (∀ o ∈ os, o.content.depth ≤ n) →
      (Reading.ofList os).depth ≤ n
  | [], _ => Nat.zero_le n
  | o :: os, h => by
      have hfirst := h o (by simp)
      have hrest := depth_ofList_le fun p hp => h p (List.mem_cons_of_mem o hp)
      simp only [ofList, depth]
      omega

/-- Values are not nested. -/
theorem Reading.depth_scalar_le {s : Scalar} (content : Reading (.occurrence (.scalar s)))
    (n : Nat) : content.depth ≤ n := by
  cases content
  exact Nat.zero_le n

/-- The readers of messages answer readings less deep than the budget. -/
def Shallow (messages : MessageReader) (budget : Nat) : Prop :=
  ∀ (k : Kind) {input rest : Input} {contents : Reading (.fields k.fields)},
    messages k input = .ok (contents, rest) → contents.depth < budget

theorem depth_readOccurrence {messages : MessageReader} {budget : Nat}
    (hmessages : Shallow messages budget) (type : FieldType) {found : WireType}
    {input rest : Input} {content : Reading (.occurrence type.element)}
    (h : readOccurrence messages type found input = .ok (content, rest)) :
    content.depth ≤ budget := by
  cases type with
  | optional s => exact content.depth_scalar_le budget
  | required s => exact content.depth_scalar_le budget
  | list s packed => exact content.depth_scalar_le budget
  | message k =>
      obtain ⟨_, _, _, h⟩ := of_bind_ok h
      obtain ⟨contents, _, hcontents, h⟩ := of_bind_ok h
      cases h
      exact hmessages k hcontents
  | messages k =>
      obtain ⟨_, _, _, h⟩ := of_bind_ok h
      obtain ⟨contents, _, hcontents, h⟩ := of_bind_ok h
      cases h
      exact hmessages k hcontents

theorem depth_readField {messages : MessageReader} {budget : Nat}
    (hmessages : Shallow messages budget) {kind : Kind} {input rest : Input}
    {o : Occurrence kind.fields}
    (h : readField messages budget kind input = .ok (some o, rest)) :
    o.content.depth ≤ budget := by
  obtain ⟨key, middle, _, h⟩ := of_bind_ok h
  cases hfind : Member.find? key.number kind.fields with
  | none =>
      simp only [hfind] at h
      obtain ⟨_, _, _, h⟩ := of_bind_ok h
      cases h
  | some found =>
      simp only [hfind] at h
      obtain ⟨content, _, hcontent, h⟩ := of_bind_ok h
      cases h
      exact depth_readOccurrence hmessages _ (of_inside_ok hcontent)

/-- The declared fields of a message are as shallow as each of them. -/
theorem depth_declared_le {messages : MessageReader} {budget : Nat}
    (hmessages : Shallow messages budget) {kind : Kind}
    {fields : List (Option (Occurrence kind.fields))}
    (h : ∀ field ∈ fields, ∃ i j, readField messages budget kind i = .ok (field, j)) :
    (declared fields).depth ≤ budget := by
  refine Reading.depth_ofList_le fun o ho => ?_
  obtain ⟨field, hmem, hfield⟩ := List.mem_filterMap.mp ho
  obtain rfl : field = some o := hfield
  obtain ⟨i, j, hread⟩ := h (some o) hmem
  exact depth_readField hmessages hread

/-- **A message that was read is less deep than the budget of its reader.** -/
theorem depth_readMessage (budget : Nat) : Shallow (readMessage budget) budget := by
  induction budget with
  | zero =>
      intro k input rest contents h
      cases h
  | succ budget ih =>
      intro k input rest contents h
      obtain ⟨fields, hfields, rfl⟩ := of_map_ok h
      exact Nat.lt_succ_of_le (depth_declared_le ih (Reader.mem_delimited hfields))

theorem depth_reading_le {kind : Kind} {bytes : List UInt8} {contents : Reading (.fields kind.fields)}
    (h : reading kind bytes = .ok contents) : contents.depth ≤ nestingLimit := by
  unfold reading at h
  cases hread : readAll kind (Input.ofBytes bytes) with
  | error e =>
      rw [hread] at h
      cases h
  | ok p =>
      rw [hread] at h
      cases h
      obtain ⟨fields, hfields, hdeclared⟩ := of_map_ok hread
      rw [hdeclared]
      exact depth_declared_le (depth_readMessage nestingLimit) (Reader.mem_downTo hfields)

/-! ### What merging makes of it -/

theorem Slot.depth_blank (type : FieldType) : (Slot.blank type).depth = 0 := by
  cases type <;> rfl

theorem Fields.depth_blank (table : List Field) : (Fields.blank table).depth = 0 := by
  induction table with
  | nil => rfl
  | cons f table ih =>
      simp only [Fields.blank, Data.depth, Slot.depth_blank, ih]
      omega

theorem Slot.depth_ofRecords_le {k : Kind} {n : Nat} :
    ∀ {rs : List (Record k)}, (∀ r ∈ rs, r.depth < n) → (Slot.ofRecords rs).depth ≤ n
  | [], _ => Nat.zero_le n
  | r :: rs, h => by
      have hfirst := h r (by simp)
      have hrest := depth_ofRecords_le fun s hs => h s (List.mem_cons_of_mem r hs)
      simp only [Slot.ofRecords, Data.depth]
      omega

theorem Data.depth_append_le {k : Kind} (slot : Slot (.messages k)) (r : Record k) :
    (slot.append r).depth ≤ max slot.depth (r.depth + 1) := by
  refine Slot.depth_ofRecords_le fun s hs => ?_
  rcases List.mem_append.mp hs with hs | hs
  · have := Data.depth_lt_of_mem hs
    omega
  · obtain rfl : s = r := by simpa using hs
    omega

theorem Fields.depth_modify_le {f : Field} {change : Slot f.type → Slot f.type} {n : Nat}
    (hchange : ∀ slot, (change slot).depth ≤ max slot.depth n) {table : List Field}
    (m : Member f table) (r : Fields table) :
    (Fields.modify change m r).depth ≤ max r.depth n := by
  induction m with
  | here =>
      cases r with
      | field slot rest =>
          have := hchange slot
          simp only [Fields.modify, Data.depth]
          omega
  | there m ih =>
      cases r with
      | field slot rest =>
          have := ih rest
          simp only [Fields.modify, Data.depth]
          omega

/-- Merging a reading makes a record no deeper than the reading is. -/
def Reading.Bounded : {extent : Extent} → Reading extent → Prop
  | .occurrence (.scalar _), _ => True
  | .occurrence (.message k), reading =>
      ∀ r : Record k, (reading.change r).depth + 1 ≤ max (r.depth + 1) reading.depth
  | .fields table, reading =>
      ∀ r : Fields table, (reading.change r).depth ≤ max r.depth reading.depth

/-- A message that nothing was there before is as deep as what was read. -/
theorem Reading.Bounded.blank {k : Kind} {content : Reading (.occurrence (.message k))}
    (h : content.Bounded) : (content.change (Fields.blank k.fields)).depth + 1 ≤ content.depth := by
  have hmax : (content.change (Fields.blank k.fields)).depth + 1
      ≤ max ((Fields.blank k.fields).depth + 1) content.depth := h (Fields.blank k.fields)
  have hpos : 0 < content.depth := by
    cases content
    exact Nat.succ_pos _
  rw [Fields.depth_blank] at hmax
  omega

theorem Slot.depth_absorb_le {type : FieldType} (content : Reading (.occurrence type.element))
    (h : content.Bounded) (slot : Slot type) :
    (Slot.absorb content.change slot).depth ≤ max slot.depth content.depth := by
  cases type with
  | optional s =>
      cases slot
      exact Nat.zero_le _
  | required s =>
      cases slot
      exact Nat.zero_le _
  | list s packed =>
      cases slot
      exact Nat.zero_le _
  | message k =>
      cases slot with
      | absent => exact Nat.le_trans h.blank (Nat.le_max_right _ _)
      | present r => exact h r
  | messages k =>
      refine Nat.le_trans (Data.depth_append_le slot (content.change (Fields.blank k.fields))) ?_
      exact Nat.max_le.mpr ⟨Nat.le_max_left _ _, Nat.le_trans h.blank (Nat.le_max_right _ _)⟩

theorem Reading.bounded {extent : Extent} (reading : Reading extent) : reading.Bounded := by
  induction reading with
  | scalars values => trivial
  | message contents ih =>
      intro r
      have := ih r
      simp only [change, depth]
      omega
  | done =>
      intro r
      exact Nat.le_max_left _ _
  | next member content rest ih ihrest =>
      intro r
      have hslot := Fields.depth_modify_le (Slot.depth_absorb_le content ih) member r
      have hrest := ihrest (Fields.modify (Slot.absorb content.change) member r)
      simp only [change, depth]
      omega

/-- **A record that was read is at most as deep as messages may be nested.** -/
theorem depth_decode_le {kind : Kind} {bytes : List UInt8} {r : Record kind}
    (h : decode kind bytes = .ok r) : r.depth ≤ nestingLimit := by
  unfold decode at h
  cases hreading : reading kind bytes with
  | error e =>
      rw [hreading] at h
      cases h
  | ok contents =>
      rw [hreading] at h
      cases h
      have hcontents := depth_reading_le hreading
      have hmerged := contents.bounded (Fields.blank kind.fields)
      rw [Fields.depth_blank] at hmerged
      exact Nat.le_trans hmerged (by omega)

end DeviceGen.Descriptor
