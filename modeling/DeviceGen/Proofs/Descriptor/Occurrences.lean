/-
A record is what its occurrences say.

Writing a record leaves a trace of it that can be described without bytes: for each
field, in the order of the table, the occurrences under which its slot is written.  A
slot that holds nothing leaves none, a packed list leaves one for all its values, and
every other slot leaves one for each of its parts.

Merging these occurrences into a blank record gives the record back.  The induction is
over records and slots together; for a repeated field it has to speak of the messages
that are already there, because its occurrences are appended to them one by one.
-/
import DeviceGen.Descriptor.Reading

namespace DeviceGen.Descriptor

/-- The same occurrence, in a table with one more field in front. -/
def Occurrence.there {g : Field} {table : List Field} (o : Occurrence table) :
    Occurrence (g :: table) :=
  ⟨o.field, .there o.member, o.content⟩

/-- An occurrence of the first field of a table. -/
def Occurrence.here {f : Field} {table : List Field}
    (content : Reading (.occurrence f.type.element)) : Occurrence (f :: table) :=
  ⟨f, .here, content⟩

/-- What a written value leaves: contents for a slot, occurrences for a table. -/
abbrev Occurrences : Shape → Type
  | .slot type => List (Reading (.occurrence type.element))
  | .record table => List (Occurrence table)

/-- The occurrences under which a value is written. -/
def Data.occurrences : {shape : Shape} → Data shape → Occurrences shape
  | _, .optional value => value.toList.map fun v => .scalars [v]
  | _, .required value => [.scalars [value]]
  | _, @Data.list _ true values => if values.isEmpty then [] else [.scalars values]
  | _, @Data.list _ false values => values.map fun v => .scalars [v]
  | _, .absent => []
  | _, .present r => [.message (Reading.ofList r.occurrences)]
  | _, .nil => []
  | _, .cons r rest => .message (Reading.ofList r.occurrences) :: rest.occurrences
  | _, .empty => []
  | _, .field slot rest =>
      slot.occurrences.map Occurrence.here ++ rest.occurrences.map Occurrence.there

/-! ### Merging occurrences -/

/-- A slot after the occurrences of its field. -/
def Slot.absorbAll {type : FieldType} (contents : List (Reading (.occurrence type.element)))
    (slot : Slot type) : Slot type :=
  contents.foldl (fun s c => Slot.absorb c.change s) slot

/-- A record after occurrences of its fields. -/
def Fields.absorbAll {table : List Field} (os : List (Occurrence table)) (r : Fields table) :
    Fields table :=
  os.foldl (fun r o => Fields.modify (Slot.absorb o.content.change) o.member r) r

theorem Reading.change_ofList {table : List Field} (os : List (Occurrence table))
    (r : Fields table) : (Reading.ofList os).change r = Fields.absorbAll os r := by
  induction os generalizing r with
  | nil => rfl
  | cons o os ih => exact ih _

theorem Fields.absorbAll_append {table : List Field} (os ps : List (Occurrence table))
    (r : Fields table) :
    Fields.absorbAll (os ++ ps) r = Fields.absorbAll ps (Fields.absorbAll os r) :=
  List.foldl_append

/-- Occurrences of the first field change its slot alone. -/
theorem Fields.absorbAll_here {f : Field} {table : List Field}
    (contents : List (Reading (.occurrence f.type.element))) (slot : Slot f.type)
    (rest : Fields table) :
    Fields.absorbAll (contents.map Occurrence.here) (.field slot rest)
      = .field (Slot.absorbAll contents slot) rest := by
  induction contents generalizing slot with
  | nil => rfl
  | cons c contents ih => exact ih _

/-- Occurrences of later fields leave the first slot alone. -/
theorem Fields.absorbAll_there {f : Field} {table : List Field} (os : List (Occurrence table))
    (slot : Slot f.type) (rest : Fields table) :
    Fields.absorbAll (os.map Occurrence.there) (.field slot rest)
      = .field slot (Fields.absorbAll os rest) := by
  induction os generalizing rest with
  | nil => rfl
  | cons o os ih => exact ih _

theorem Slot.absorbAll_values {s : Wire.Scalar} {packed : Bool} (values earlier : List s.Carrier) :
    (Slot.absorbAll (values.map fun v => .scalars [v]) (.list earlier) : Slot (.list s packed))
      = .list (earlier ++ values) := by
  induction values generalizing earlier with
  | nil =>
      rw [List.append_nil]
      rfl
  | cons v values ih =>
      have := ih (earlier ++ [v])
      rw [List.append_assoc] at this
      exact this

/-- A value is what its occurrences say: merged into what was there before for a
repeated field, and into a blank for everything else. -/
def Data.Recovered : {shape : Shape} → Data shape → Prop
  | .slot (.messages _), d =>
      ∀ earlier, Slot.absorbAll d.occurrences earlier = Slot.ofRecords (earlier.records ++ d.records)
  | .slot type, d => Slot.absorbAll d.occurrences (Slot.blank type) = d
  | .record _, d => (Reading.ofList d.occurrences).record = d

private theorem recovered_slot {type : FieldType} {d : Slot type} (h : d.Recovered) :
    Slot.absorbAll d.occurrences (Slot.blank type) = d := by
  cases type with
  | messages k =>
      rw [h (Slot.blank (.messages k))]
      exact Data.ofRecords_records d
  | optional s => exact h
  | required s => exact h
  | list s packed => exact h
  | message k => exact h

theorem Data.recovered {shape : Shape} (d : Data shape) : d.Recovered := by
  induction d with
  | optional value => cases value <;> rfl
  | required value => rfl
  | @list s packed values =>
      cases packed with
      | true => cases values <;> rfl
      | false => exact Slot.absorbAll_values values []
  | absent => rfl
  | present r ih => exact congrArg Data.present ih
  | nil =>
      intro earlier
      show earlier = Slot.ofRecords (earlier.records ++ [])
      rw [List.append_nil, ofRecords_records]
  | cons r rest ih ihrest =>
      intro earlier
      have hr : (Reading.ofList r.occurrences).change (Fields.blank _) = r := ih
      have hrest := ihrest (earlier.append r)
      rw [records_append, List.append_assoc] at hrest
      show Slot.absorbAll rest.occurrences
        (earlier.append ((Reading.ofList r.occurrences).change (Fields.blank _))) = _
      rw [hr]
      exact hrest
  | empty => rfl
  | @field f table slot rest ih ihrest =>
      have hrest : Fields.absorbAll rest.occurrences (Fields.blank table) = rest := by
        rw [← Reading.change_ofList]
        exact ihrest
      show (Reading.ofList (slot.occurrences.map Occurrence.here
        ++ rest.occurrences.map Occurrence.there)).change
          (.field (Slot.blank f.type) (Fields.blank table)) = .field slot rest
      rw [Reading.change_ofList, Fields.absorbAll_append, Fields.absorbAll_here,
        recovered_slot ih, Fields.absorbAll_there, hrest]

/-- **Merging the occurrences of a record gives the record back.** -/
theorem Reading.record_occurrences {table : List Field} (r : Fields table) :
    (Reading.ofList r.occurrences).record = r :=
  r.recovered

end DeviceGen.Descriptor
