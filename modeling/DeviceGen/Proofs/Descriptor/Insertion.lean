/-
Undeclared fields put into messages.

A message may be extended by fields that its readers do not know.  `Inserted` says that
bytes have one more field of this kind than others: between two fields of the message, or
inside one of the messages in it, at any depth, whose lengths are adjusted on the way.
Such bytes are read as the same message (`Inserted.decode_eq`).

The induction is on the place of insertion.  Around the new field the row of fields is
taken apart and put together again; a message around it says the same because only the
declared fields of its contents count.  What can go wrong is the nesting: a reader spends
one level for each message around the field and as many for the field as it needs itself.
-/
import DeviceGen.Proofs.Descriptor.RoundTrip

namespace DeviceGen.Descriptor

open DeviceGen.Wire
open DeviceGen.Wire.Reader (Reads Row of_bind_ok of_map_ok of_inside_ok)

/-- The new bytes of a message of a kind are the old ones with one undeclared field more.
The levels are enough for the field and for the messages around it. -/
inductive Inserted : (kind : Kind) → (levels : Nat) → (old new : List UInt8) → Prop where
  | here {kind : Kind} {levels number : Nat} {before field after : List UInt8}
      (hbefore : AreFields before) (hfield : IsField levels number field)
      (hnumber : number ∉ kind.fields.map Field.number) :
      Inserted kind levels (before ++ after) (before ++ (field ++ after))
  | inside {kind k : Kind} {levels : Nat} {f : Field}
      {before key length length' old new after : List UInt8}
      (hbefore : AreFields before) (hf : f ∈ kind.fields)
      (htype : f.type = .message k ∨ f.type = .messages k)
      (hkey : Key.Form ⟨f.number, .delimited⟩ key)
      (hlength : Varint.Form old.length length) (hlength' : Varint.Form new.length length')
      (h : Inserted k levels old new) :
      Inserted kind (levels + 1) (before ++ ((key ++ (length ++ old)) ++ after))
        (before ++ ((key ++ (length' ++ new)) ++ after))

/-! ### Fields by their numbers -/

theorem Member.find?_eq_none {number : Nat} :
    ∀ {table : List Field}, number ∉ table.map Field.number → Member.find? number table = none
  | [], _ => rfl
  | f :: table, h => by
      simp only [List.map_cons, List.mem_cons, not_or] at h
      rw [find?, if_neg (Ne.symm h.1), find?_eq_none h.2]
      rfl

theorem Member.exists_of_mem {f : Field} :
    ∀ {table : List Field}, f ∈ table → Nonempty (Member f table)
  | g :: table, h => by
      rcases List.mem_cons.mp h with rfl | h
      · exact ⟨.here⟩
      · obtain ⟨m⟩ := exists_of_mem h
        exact ⟨.there m⟩

/-- A declared field is found by its number. -/
theorem Kind.find?_eq_some {kind : Kind} {f : Field} (hf : f ∈ kind.fields) :
    ∃ member, Member.find? f.number kind.fields = some ⟨f, member⟩ := by
  obtain ⟨member⟩ := Member.exists_of_mem hf
  exact ⟨member, member.find?_self kind.numbers_increase⟩

/-! ### What a field says -/

variable {kind : Kind} {budget : Nat}

/-- A field that is not declared says nothing. -/
theorem reads_undeclared {number : Nat} {field : List UInt8} (hfield : IsField budget number field)
    (hnumber : number ∉ kind.fields.map Field.number) :
    Reads (fieldReader budget kind) field none := by
  obtain ⟨keyBytes, body, w, rfl, hkey, -, hskip⟩ := hfield.reads_skip
  rw [fieldReader_eq]
  refine hkey.reads.bind ?_
  unfold fieldAfter
  simp only [Member.find?_eq_none hnumber]
  exact hskip.map fun _ => none

/-- An occurrence of a field that holds messages is the message behind the key. -/
theorem readOccurrence_message (messages : MessageReader) {type : FieldType} {k : Kind}
    (htype : type = .message k ∨ type = .messages k) :
    ∃ wrap : Reading (.fields k.fields) → Reading (.occurrence type.element),
      readOccurrence messages type .delimited = wrap <$> messages k := by
  rcases htype with rfl | rfl
  · exact ⟨Reading.message, by simp only [readOccurrence]; rfl⟩
  · exact ⟨Reading.message, by simp only [readOccurrence]; rfl⟩

/-- A field that holds a message says what the declared fields of the message say, and
nothing else. -/
theorem reads_message_field {k : Kind} {f : Field} {key length old : List UInt8}
    {answer : Option (Occurrence kind.fields)} (hf : f ∈ kind.fields)
    (htype : f.type = .message k ∨ f.type = .messages k)
    (hkey : Key.Form ⟨f.number, .delimited⟩ key) (hlength : Varint.Form old.length length)
    (h : Reads (fieldReader budget kind) (key ++ (length ++ old)) answer) :
    ∃ inner fields, budget = inner + 1 ∧ Row (fieldReader inner k) old fields
      ∧ ∀ {length' new : List UInt8} {fields' : List (Option (Occurrence k.fields))},
          Varint.Form new.length length' → Row (fieldReader inner k) new fields' →
          declared fields' = declared fields →
          Reads (fieldReader budget kind) (key ++ (length' ++ new)) answer := by
  obtain ⟨member, hfind⟩ := Kind.find?_eq_some hf
  obtain ⟨wrap, hwrap⟩ := readOccurrence_message (readMessage budget) htype
  rw [fieldReader_eq] at h
  have hrun := hkey.reads.of_bind h []
  simp only [fieldAfter, hfind, List.append_nil] at hrun
  obtain ⟨content, middle, hcontent, hanswer⟩ := of_bind_ok hrun
  cases hanswer
  replace hcontent := of_inside_ok hcontent
  rw [hwrap] at hcontent
  obtain ⟨contents, hmessage, rfl⟩ := of_map_ok hcontent
  obtain ⟨taken, htaken, ⟨inner, length₁, body, fields, rfl, rfl, hlength₁, hrow, rfl⟩, -⟩ :=
    takes_readMessage budget k hmessage
  obtain ⟨rfl, -, rfl⟩ := hlength.reads.unique (s := old) (t := body) hlength₁.reads
    (by simpa using htaken)
  refine ⟨inner, fields, rfl, hrow, fun {length' new fields'} hlength' hrow' hsame => ?_⟩
  have hread : Reads (readMessage (inner + 1) k) (length' ++ new) (declared fields') :=
    (hrow'.reads_delimited hlength').map declared
  rw [hsame] at hread
  have hoccurrence := hread.map wrap
  rw [← hwrap] at hoccurrence
  rw [fieldReader_eq]
  refine hkey.reads.bind ?_
  simp only [fieldAfter, hfind]
  exact (hoccurrence.inside (kind.place f)).map fun content =>
    (some ⟨f, member, content⟩ : Option (Occurrence kind.fields))

/-! ### Insertion -/

theorem declared_insert_none (fs gs : List (Option (Occurrence kind.fields))) :
    declared (fs ++ none :: gs) = declared (fs ++ gs) := by
  unfold declared
  rw [List.filterMap_append, List.filterMap_append]
  rfl

/-- New bytes are a row again, with one field more or with a field that says the same. -/
theorem Inserted.row {levels : Nat} {old new : List UInt8} (h : Inserted kind levels old new) :
    ∀ {budget : Nat} {fields : List (Option (Occurrence kind.fields))}, levels ≤ budget →
      Row (fieldReader budget kind) old fields →
      ∃ fields', Row (fieldReader budget kind) new fields' ∧ declared fields' = declared fields := by
  induction h with
  | here hbefore hfield hnumber =>
      intro budget fields hle hold
      obtain ⟨fs, gs, rfl, hfs, hgs⟩ := row_split hbefore hold
      have hnew := Row.cons (reads_undeclared (hfield.mono hle) hnumber) hfield.ne_nil hgs
      exact ⟨fs ++ none :: gs, hfs.append hnew, declared_insert_none fs gs⟩
  | @inside kind k levels f before key length length' old new after
      hbefore hf htype hkey hlength hlength' _ ih =>
      intro budget fields hle hold
      obtain ⟨fs, gs, rfl, hfs, hgs⟩ := row_split hbefore hold
      have hfield : IsField 1 f.number (key ++ (length ++ old)) := .plain hkey (.delimited hlength)
      obtain ⟨answer, others, rfl, hfirst, hothers⟩ := row_field hfield hgs
      obtain ⟨inner, contents, rfl, hcontents, hchange⟩ :=
        reads_message_field hf htype hkey hlength hfirst
      obtain ⟨contents', hrow, hsame⟩ := ih (by omega) hcontents
      have hnew := Row.cons (hchange hlength' hrow hsame) (by simp [hkey.ne_nil]) hothers
      exact ⟨fs ++ answer :: others, hfs.append hnew, rfl⟩

/-- **A message with an undeclared field more, anywhere in it, is read as the same message**,
if the new field is not nested too deep. -/
theorem Inserted.decode_eq {old new : List UInt8} {r : Record kind}
    (h : Inserted kind nestingLimit old new) (hold : decode kind old = .ok r) :
    decode kind new = .ok r := by
  obtain ⟨fields, hrow, rfl⟩ := decode_eq_ok_iff.mp hold
  obtain ⟨fields', hrow', hsame⟩ := h.row (Nat.le_refl _) hrow
  rw [decode_of_row hrow', hsame]

end DeviceGen.Descriptor
