/-
Requests of compilers that know more.

A newer compiler may put fields into a request, or into the files and messages in it,
that are not declared here.  They are stepped over, whatever they hold, and so they
change nothing: neither the request that is read nor what a generator makes of it.
-/
import DeviceGen.Proofs.Descriptor.Insertion
import DeviceGen.Proofs.Request.RoundTrip

namespace DeviceGen.Request

open DeviceGen.Descriptor (Field Inserted)
open DeviceGen.Wire

/-- **A field that is not declared changes neither an accepted request nor any run on it**,
wherever it stands in the request and whatever it holds, if the messages around it and the
groups in it are nested at most a hundred deep. -/
theorem decode_inserted {old new : List UInt8} {request : Descriptor.Request}
    (hold : decode old = .ok request) (h : Inserted .request 100 old new) :
    decode new = .ok request ∧ ∀ generator : Generator, generator.run new = generator.run old := by
  obtain ⟨hread, hcheck⟩ := read_of_decode_ok hold
  have hnew : decode new = .ok request := (decode_eq_of_read (h.decode_eq hread)).trans hcheck
  exact ⟨hnew, run_eq_of_decode_eq (hnew.trans hold.symm)⟩

/-- A name of one letter, and behind it the only message of another field. -/
def named (letter key : UInt8) (length contents : List UInt8) : List UInt8 :=
  [0x0a, 1, letter] ++ ([key] ++ (length ++ contents))

/-- A request for the file `a`, in which a message `M` holds a message `N`. -/
def nestedBytes : List UInt8 :=
  named 0x61 0x7a [13] (named 0x61 0x22 [8] (named 0x4d 0x1a [3] [0x0a, 1, 0x4e]))

/-- A group of the number 1000, with a padded integer, a group, and two bytes behind their
length in it. -/
def strangeGroup : List UInt8 :=
  [0xc3, 0x3e, 8, 0x81, 0, 0x13, 0x2d, 1, 2, 3, 4, 0x14, 0x1a, 2, 0x78, 0x79, 0xc4, 0x3e]

/-- The request with the group at the front of `N`, whose new length is padded. -/
def nestedBytesWithGroup : List UInt8 :=
  named 0x61 0x7a [32] (named 0x61 0x22 [27]
    (named 0x4d 0x1a [0x95, 0] (strangeGroup ++ [0x0a, 1, 0x4e])))

/-- What is new in a message is new in the message around it. -/
private theorem inserted_named {kind k : Descriptor.Kind} {levels : Nat} {letter key : UInt8}
    (f : Field) {length length' old new : List UInt8}
    (hf : f ∈ kind.fields) (htype : f.type = .messages k)
    (hkey : Key.read (Input.ofBytes [key]) = .ok (⟨f.number, .delimited⟩, Input.ofBytes []))
    (hlength : Varint.read (Input.ofBytes length) = .ok (old.length, Input.ofBytes []))
    (hlength' : Varint.read (Input.ofBytes length') = .ok (new.length, Input.ofBytes []))
    (h : Inserted k levels old new) :
    Inserted kind (levels + 1) (named letter key length old) (named letter key length' new) := by
  have hname : IsField 1 1 [0x0a, 1, letter] := (takes_stepOver 1).form_of_run (by rfl)
  unfold named
  rw [← List.append_nil ([key] ++ (length ++ old)), ← List.append_nil ([key] ++ (length' ++ new))]
  exact .inside hname.areFields hf (.inr htype) (Key.takes_read.form_of_run hkey)
    (Varint.takes_read.form_of_run hlength) (Varint.takes_read.form_of_run hlength') h

private theorem inserted_strangeGroup : Inserted .request 100 nestedBytes nestedBytesWithGroup := by
  have hgroup : IsField 97 1000 strangeGroup := (takes_stepOver 97).form_of_run (by rfl)
  have hinner : Inserted .message 97 [0x0a, 1, 0x4e] (strangeGroup ++ [0x0a, 1, 0x4e]) :=
    .here .nil hgroup (by decide)
  refine inserted_named (.messages 15 "proto_file" .file) (by decide) rfl
    (by rfl) (by rfl) (by rfl) ?_
  refine inserted_named (.messages 4 "message_type" .message) (by decide) rfl
    (by rfl) (by rfl) (by rfl) ?_
  exact inserted_named (.messages 3 "nested_type" .message) (by decide) rfl
    (by rfl) (by rfl) (by rfl) hinner

/-- A group of three levels inside a message inside a message of a file. -/
theorem decode_inserted_group :
    ∃ request, decode nestedBytes = .ok request
      ∧ Inserted .request 100 nestedBytes nestedBytesWithGroup
      ∧ decode nestedBytesWithGroup = .ok request
      ∧ (∀ generator : Generator, generator.run nestedBytesWithGroup = generator.run nestedBytes)
      ∧ (request.files.flatMap (·.messages)).flatMap (·.nested.map (·.name)) = ["N"] := by
  have hold : ∃ request, decode nestedBytes = .ok request
      ∧ (request.files.flatMap (·.messages)).flatMap (·.nested.map (·.name)) = ["N"] :=
    ⟨_, rfl, by decide +kernel⟩
  obtain ⟨request, hold, hnames⟩ := hold
  obtain ⟨hnew, hrun⟩ := decode_inserted hold inserted_strangeGroup
  exact ⟨request, hold, inserted_strangeGroup, hnew, hrun, hnames⟩

end DeviceGen.Request
