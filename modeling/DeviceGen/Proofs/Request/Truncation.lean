/-
Requests that are cut off.

A written request is one field after the other: the selected names, the parameter, the version
and the files.  Bytes that it begins with are again a request only if they end where one of these
fields does, and then they are the written form of a request that has the fields before the cut
and no others (`ofParts`).  Every other cut is refused, wherever it is.

Nothing is asked of the cut request but what the whole one has: a written request is accepted iff
each of its fields is (`decode_encode_eq_ok_iff`).
-/
import DeviceGen.Proofs.Descriptor.Cut
import DeviceGen.Proofs.Request.RoundTrip
import Mathlib.Data.List.Basic

namespace DeviceGen.Request

open DeviceGen.Descriptor (Data FileDescriptor Slot Version encode nestingLimit writeDelimited)
open DeviceGen.Wire

/-! ### The fields of a request -/

/-- A field of a written request. -/
inductive Part where
  | selected (name : String)
  | parameter (text : String)
  | version (version : Version)
  | file (file : FileDescriptor)

namespace Part

/-- The number of the field. -/
def number : Part → Nat
  | .selected _ => 1
  | .parameter _ => 2
  | .version _ => 3
  | .file _ => 15

/-- What stands behind the length of the field. -/
def content : Part → List UInt8
  | .selected name => Scalar.utf8 name
  | .parameter text => Scalar.utf8 text
  | .version v => encode v
  | .file f => encode f

/-- The bytes of the field. -/
def bytes (part : Part) : List UInt8 := writeDelimited part.number part.content

/-- The name, if the field selects a file. -/
def selected? : Part → Option String
  | .selected name => some name
  | _ => none

/-- The text, if the field is the parameter. -/
def parameter? : Part → Option String
  | .parameter text => some text
  | _ => none

/-- The version, if the field is one. -/
def version? : Part → Option Version
  | .version v => some v
  | _ => none

/-- The schema file, if the field is one. -/
def file? : Part → Option FileDescriptor
  | .file f => some f
  | _ => none

/-- What a reader asks of a field beyond its length: no message that is nested too deep, and no
version that is too old. -/
def Admissible : Part → Prop
  | .selected _ | .parameter _ => True
  | .version v => v.depth < nestingLimit ∧ 3 ≤ v.major
  | .file f => f.depth < nestingLimit

/-- What a reader asks of a field. -/
structure Accepted (part : Part) : Prop where
  length : part.content.length < 2 ^ 64
  admissible : part.Admissible

theorem number_pos_lt : ∀ part : Part, 0 < part.number ∧ part.number < 2 ^ 29
  | .selected _ | .parameter _ | .version _ | .file _ => by simp [number]

end Part

/-- The slot of a version that may be there. -/
def versionSlot : Option Version → Slot (.message .version)
  | none => .absent
  | some v => .present v

/-- The request with everything that can be in one. -/
def of (selected : List String) (parameter : Option String) (version? : Option Version)
    (files : List FileDescriptor) : Descriptor.Request :=
  .field (.list selected) (.field (.optional parameter) (.field (versionSlot version?)
    (.field (Slot.ofRecords files) .empty)))

/-- The fields of a request, in the order in which they are written. -/
def parts (request : Descriptor.Request) : List Part :=
  request.selected.map .selected ++ request.parameter.toList.map .parameter
    ++ request.version?.toList.map .version ++ request.files.map .file

/-- The request that fields make. -/
def ofParts (parts : List Part) : Descriptor.Request :=
  of (parts.filterMap Part.selected?) (parts.filterMap Part.parameter?).getLast?
    (parts.filterMap Part.version?).getLast? (parts.filterMap Part.file?)

/-! ### Requests and their fields -/

variable {selected : List String} {parameter : Option String} {version? : Option Version}
  {files : List FileDescriptor}

/-- Every request is made of what can be in one. -/
theorem exists_eq_of : ∀ request : Descriptor.Request,
    ∃ selected parameter version? files, request = of selected parameter version? files
  | .field (.list selected) (.field (.optional parameter) (.field .absent (.field files .empty))) =>
    ⟨selected, parameter, none, files.records, by rw [of, Data.ofRecords_records]; rfl⟩
  | .field (.list selected) (.field (.optional parameter) (.field (.present v)
      (.field files .empty))) =>
    ⟨selected, parameter, some v, files.records, by rw [of, Data.ofRecords_records]; rfl⟩

theorem version?_of : (of selected parameter version? files).version? = version? := by
  cases version? <;> rfl

theorem files_of : (of selected parameter version? files).files = files :=
  Data.records_ofRecords files

theorem parts_of : parts (of selected parameter version? files)
    = selected.map .selected ++ parameter.toList.map .parameter
      ++ version?.toList.map .version ++ files.map .file := by
  rw [parts, version?_of, files_of]
  rfl

theorem write_selected (names : List String) :
    (.list names : Slot (.list .text false)).write 1
      = (names.map Part.selected).flatMap Part.bytes := by
  rw [List.flatMap_map]
  rfl

theorem write_parameter (parameter : Option String) :
    (.optional parameter : Slot (.optional .text)).write 2
      = (parameter.toList.map Part.parameter).flatMap Part.bytes := by
  cases parameter with
  | none => rfl
  | some text => exact (List.append_nil _).symm

theorem write_version (version? : Option Version) :
    (versionSlot version?).write 3 = (version?.toList.map Part.version).flatMap Part.bytes := by
  cases version? with
  | none => rfl
  | some v => exact (List.append_nil _).symm

theorem write_files (files : List FileDescriptor) :
    (Slot.ofRecords files).write 15 = (files.map Part.file).flatMap Part.bytes := by
  induction files with
  | nil => rfl
  | cons file files ih =>
      rw [List.map_cons, List.flatMap_cons, ← ih]
      rfl

/-- **A request is written as its fields are**, one after the other. -/
theorem encode_eq (request : Descriptor.Request) :
    encode request = (parts request).flatMap Part.bytes := by
  obtain ⟨selected, parameter, version?, files, rfl⟩ := exists_eq_of request
  rw [parts_of, List.flatMap_append, List.flatMap_append, List.flatMap_append, ← write_selected,
    ← write_parameter, ← write_version, ← write_files, List.append_assoc, List.append_assoc,
    ← List.append_nil ((Slot.ofRecords files).write 15)]
  rfl

/-- What is asked of each field is asked of those of one kind after those of another. -/
theorem filterMap_parts {α : Type} (question : Part → Option α) :
    (parts (of selected parameter version? files)).filterMap question
      = selected.filterMap (fun name => question (.selected name))
        ++ parameter.toList.filterMap (fun text => question (.parameter text))
        ++ version?.toList.filterMap (fun v => question (.version v))
        ++ files.filterMap (fun file => question (.file file)) := by
  rw [parts_of]
  simp only [List.filterMap_append, List.filterMap_map, Function.comp_def]

/-- A request is made of its fields. -/
theorem ofParts_parts (request : Descriptor.Request) : ofParts (parts request) = request := by
  obtain ⟨selected, parameter, version?, files, rfl⟩ := exists_eq_of request
  rw [ofParts]
  simp only [filterMap_parts, Part.selected?, Part.parameter?, Part.version?, Part.file?,
    List.filterMap_none, List.filterMap_some, List.append_nil, List.nil_append]
  cases parameter <;> cases version? <;> rfl

theorem take_toList {α : Type} (o : Option α) (n : Nat) :
    ∃ p : Option α, o.toList.take n = p.toList := by
  cases n with
  | zero => exact ⟨none, rfl⟩
  | succ n => exact ⟨o, by cases o <;> simp⟩

/-- The first fields of a request are the fields of a request. -/
theorem exists_parts_eq_take (request : Descriptor.Request) (n : Nat) :
    ∃ cut, parts cut = (parts request).take n := by
  obtain ⟨selected, parameter, version?, files, rfl⟩ := exists_eq_of request
  rw [parts_of]
  simp only [List.take_append, ← List.map_take]
  obtain ⟨parameter', hparameter⟩ := take_toList parameter (n - (selected.map Part.selected).length)
  obtain ⟨version', hversion⟩ := take_toList version?
    (n - (selected.map Part.selected ++ parameter.toList.map Part.parameter).length)
  rw [hparameter, hversion, ← parts_of]
  exact ⟨_, rfl⟩

theorem parts_ofParts_take (request : Descriptor.Request) (n : Nat) :
    parts (ofParts ((parts request).take n)) = (parts request).take n := by
  obtain ⟨cut, hcut⟩ := exists_parts_eq_take request n
  rw [← hcut, ofParts_parts]

/-! ### Which written requests are accepted -/

theorem parts_number (parts : List Part) :
    ∀ p ∈ parts.map (fun part => (part.number, part.content)), 0 < p.1 ∧ p.1 < 2 ^ 29 := by
  intro p hp
  obtain ⟨part, -, rfl⟩ := List.mem_map.mp hp
  exact part.number_pos_lt

/-- The fields of a request whose written form was read have lengths of 64 bits. -/
theorem length_lt_of_decode {kind : Descriptor.Kind} {parts : List Part}
    {record : Descriptor.Record kind}
    (h : Descriptor.decode kind (parts.flatMap Part.bytes) = .ok record) :
    ∀ part ∈ parts, part.content.length < 2 ^ 64 := by
  obtain ⟨fields, hrow, -⟩ := Descriptor.decode_eq_ok_iff.mp h
  have hlengths := Descriptor.length_lt_of_row (parts_number parts)
    (by rw [List.flatMap_map]; exact hrow)
  intro part hpart
  exact hlengths _ (List.mem_map_of_mem hpart)

/-- All fields are those of each kind. -/
theorem forall_parts {P : Part → Prop} :
    (∀ part ∈ parts (of selected parameter version? files), P part)
      ↔ (∀ name ∈ selected, P (.selected name)) ∧ (∀ text ∈ parameter, P (.parameter text))
        ∧ (∀ v ∈ version?, P (.version v)) ∧ ∀ file ∈ files, P (.file file) := by
  rw [parts_of]
  simp only [List.forall_mem_append, List.forall_mem_map, Option.mem_toList, Option.mem_def,
    and_assoc]

/-- The lengths in a request are those of its fields, and those inside its fields are shorter. -/
theorem fits_of_parts {request : Descriptor.Request}
    (h : ∀ part ∈ parts request, part.content.length < 2 ^ 64) : Data.Fits request := by
  obtain ⟨selected, parameter, version?, files, rfl⟩ := exists_eq_of request
  obtain ⟨hnames, hparameter, hversion, hfiles⟩ := forall_parts.mp h
  have hslot : Data.Fits (versionSlot version?) := by
    cases version? with
    | none => trivial
    | some v => exact ⟨Data.fits_of_short v (hversion v rfl), hversion v rfl⟩
  exact ⟨hnames, hparameter, hslot, Slot.fits_ofRecords fun file hfile =>
    ⟨Data.fits_of_short file (hfiles file hfile), hfiles file hfile⟩, trivial⟩

/-- A request is as deep as the deepest message among its fields is with the request around it. -/
theorem admissible_iff {request : Descriptor.Request} :
    (∀ part ∈ parts request, part.Admissible)
      ↔ request.depth ≤ nestingLimit ∧ ∀ v ∈ request.version?, 3 ≤ v.major := by
  obtain ⟨selected, parameter, version?, files, rfl⟩ := exists_eq_of request
  have hdepth : (of selected parameter version? files).depth ≤ nestingLimit
      ↔ (versionSlot version?).depth ≤ nestingLimit
        ∧ (Slot.ofRecords files).depth ≤ nestingLimit := by
    simp only [of, Data.depth]
    omega
  have hfiles : (Slot.ofRecords files).depth ≤ nestingLimit
      ↔ ∀ file ∈ files, file.depth < nestingLimit := by
    refine ⟨fun h file hfile => ?_, Slot.depth_ofRecords_le⟩
    exact Nat.lt_of_lt_of_le
      (Data.depth_lt_of_mem (by rwa [Data.records_ofRecords])) h
  rw [forall_parts, hdepth, hfiles, version?_of]
  cases version? with
  | none => simp [versionSlot, Data.depth, Part.Admissible]
  | some v =>
      have hslot : (versionSlot (some v)).depth ≤ nestingLimit ↔ v.depth < nestingLimit := Iff.rfl
      rw [hslot]
      simp only [Part.Admissible, implies_true, Option.mem_def, Option.some.injEq, forall_eq',
        true_and]
      exact and_right_comm

/-- **A written request is accepted iff each of its fields is.** -/
theorem decode_encode_eq_ok_iff {request : Descriptor.Request} :
    decode (encode request) = .ok request ↔ ∀ part ∈ parts request, part.Accepted := by
  constructor
  · intro h part hpart
    have hread := (read_of_decode_ok h).1
    rw [encode_eq] at hread
    obtain ⟨hversion, hdepth⟩ := of_decode_ok h
    exact ⟨length_lt_of_decode hread part hpart, admissible_iff.mpr ⟨hdepth, hversion⟩ part hpart⟩
  · intro h
    obtain ⟨hdepth, hversion⟩ := admissible_iff.mp fun part hpart => (h part hpart).admissible
    have hfits := fits_of_parts fun part hpart => (h part hpart).length
    rw [decode_eq_of_read (Descriptor.decode_encode hfits hdepth)]
    exact checkVersion_ok hversion

/-! ### Cuts -/

/-- Where a request ends if only its first fields are written. -/
def endOf (request : Descriptor.Request) (fields : Nat) : Nat :=
  (((parts request).take fields).flatMap Part.bytes).length

/-- The cuts where a field ends begin with that of all bytes. -/
@[simp] theorem endOf_zero (request : Descriptor.Request) : endOf request 0 = 0 := rfl

/-- The last cut where a field ends leaves the whole request. -/
@[simp] theorem endOf_length (request : Descriptor.Request) :
    endOf request (parts request).length = (encode request).length := by
  rw [endOf, List.take_length, encode_eq]

/-- What is written up to the end of a field is the request that the fields up to there make. -/
theorem take_endOf (request : Descriptor.Request) (fields : Nat) :
    (encode request).take (endOf request fields)
      = encode (ofParts ((parts request).take fields)) := by
  have hsplit : encode request = ((parts request).take fields).flatMap Part.bytes
      ++ ((parts request).drop fields).flatMap Part.bytes := by
    rw [← List.flatMap_append, List.take_append_drop, encode_eq]
  rw [hsplit, endOf, List.take_left, encode_eq, parts_ofParts_take]

/-- A request is still accepted without its last fields. -/
theorem decode_take_endOf {request : Descriptor.Request}
    (h : decode (encode request) = .ok request) (fields : Nat) :
    decode ((encode request).take (endOf request fields))
      = .ok (ofParts ((parts request).take fields)) := by
  rw [take_endOf]
  refine decode_encode_eq_ok_iff.mpr fun part hpart => ?_
  rw [parts_ofParts_take] at hpart
  exact decode_encode_eq_ok_iff.mp h part (List.mem_of_mem_take hpart)

/-- What is read of a cut request ends where a field of the request does. -/
theorem exists_endOf {kind : Descriptor.Kind} {request : Descriptor.Request}
    (h : decode (encode request) = .ok request) {n : Nat} (hn : n ≤ (encode request).length)
    {cut : Descriptor.Record kind}
    (hcut : Descriptor.decode kind ((encode request).take n) = .ok cut) :
    ∃ fields ≤ (parts request).length, n = endOf request fields := by
  have hfield (piece) (hpiece : piece ∈ (parts request).map Part.bytes) :
      ∃ levels number, IsField levels number piece := by
    obtain ⟨part, hpart, rfl⟩ := List.mem_map.mp hpiece
    obtain ⟨h₀, h₁⟩ := part.number_pos_lt
    exact ⟨1, part.number,
      isField_writeDelimited h₀ h₁ (decode_encode_eq_ok_iff.mp h part hpart).length⟩
  have hwhole : (encode request).take n ++ (encode request).drop n
      = ((parts request).map Part.bytes).flatten := by
    rw [List.take_append_drop, encode_eq, List.flatMap_def]
  obtain ⟨answers, hrow, -⟩ := Descriptor.decode_eq_ok_iff.mp hcut
  obtain ⟨fields, hfields, htake⟩ := Descriptor.row_take hfield hrow hwhole
  refine ⟨fields, by rwa [List.length_map] at hfields, ?_⟩
  rw [endOf, List.flatMap_def, List.map_take, ← htake, List.length_take, Nat.min_eq_left hn]

/-- **A request that is cut off is never misread.**  It is accepted iff the cut is where a field
ends, and then it is the request of the fields before the cut; cut anywhere else, it is no
request at all. -/
theorem decode_take {request : Descriptor.Request} (h : decode (encode request) = .ok request)
    {n : Nat} (hn : n ≤ (encode request).length) :
    ((∃ cut, decode ((encode request).take n) = .ok cut)
        ↔ ∃ fields ≤ (parts request).length, n = endOf request fields)
      ∧ (∀ fields ≤ (parts request).length, n = endOf request fields →
        decode ((encode request).take n) = .ok (ofParts ((parts request).take fields)))
      ∧ ((∀ fields ≤ (parts request).length, n ≠ endOf request fields) →
        ∃ failure, decode ((encode request).take n) = .error (.malformed .request failure)) := by
  have hboundary (fields) (_ : fields ≤ (parts request).length) (heq : n = endOf request fields) :
      decode ((encode request).take n) = .ok (ofParts ((parts request).take fields)) := by
    rw [heq]
    exact decode_take_endOf h fields
  refine ⟨⟨?_, ?_⟩, hboundary, ?_⟩
  · rintro ⟨cut, hcut⟩
    exact exists_endOf h hn (read_of_decode_ok hcut).1
  · rintro ⟨fields, hfields, heq⟩
    exact ⟨_, hboundary fields hfields heq⟩
  · intro hinside
    cases hread : Descriptor.decode .request ((encode request).take n) with
    | error failure => exact ⟨failure, decode_eq_of_fail hread⟩
    | ok cut =>
        obtain ⟨fields, hfields, heq⟩ := exists_endOf h hn hread
        exact absurd heq (hinside fields hfields)

/-- Of nine bytes, the first three are a request for the file `a`, and the first five end inside
a version. -/
theorem decode_take_sample :
    decode (encode sample) = .ok sample
      ∧ decode ((encode sample).take 3) = .ok (of ["a"] none none [])
      ∧ ∃ failure, decode ((encode sample).take 5) = .error (.malformed .request failure) := by
  have hlength : (encode sample).length = 9 := by
    rw [encode_sample]
    rfl
  have hdecode : decode (encode sample) = .ok sample := by
    rw [encode_sample]
    rfl
  have hcut (n : Nat) (hn : n ≤ 9) := decode_take hdecode (hlength ▸ hn)
  refine ⟨hdecode, ?_, ?_⟩
  · exact (hcut 3 (by decide)).2.1 1 (by decide) (by decide +kernel)
  · exact (hcut 5 (by decide)).2.2 (by decide +kernel)

end DeviceGen.Request
