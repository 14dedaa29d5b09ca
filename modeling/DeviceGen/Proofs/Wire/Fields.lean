/-
Fields of any kind, and stepping over them.

A field is a key and a value, or a group: fields between two keys with one number.
`IsField` says so without a reader, and it counts the levels of nesting: one for the
field itself, and for a group as many again as the fields inside it need.  A reader that
has as many levels left steps over exactly the field (`IsField.reads`), and a reader that
has stepped over something has taken a field (`takes_stepOver`).

So fields can be told apart in any bytes in one way only (`IsField.unique`), and it makes
sense to speak of the places between them.
-/
import DeviceGen.Proofs.Wire.Forms

namespace DeviceGen.Wire

open Reader (Reads Row Takes Shrinks of_bind_ok)

/-- The bytes are one field with a number, and the levels of nesting are enough for it. -/
inductive IsField : (levels number : Nat) → List UInt8 → Prop where
  | plain {levels number : Nat} {w : WireType} {key payload : List UInt8}
      (hkey : Key.Form ⟨number, w⟩ key) (hpayload : Payload w payload) :
      IsField (levels + 1) number (key ++ payload)
  | group {levels number : Nat} {opening closing : List UInt8} {fields : List (Nat × List UInt8)}
      (hopening : Key.Form ⟨number, .groupStart⟩ opening)
      (hfields : ∀ f ∈ fields, IsField levels f.1 f.2)
      (hclosing : Key.Form ⟨number, .groupEnd⟩ closing) :
      IsField (levels + 1) number (opening ++ (fields.flatMap Prod.snd ++ closing))

/-- The bytes are fields, one after the other. -/
def AreFields (bytes : List UInt8) : Prop :=
  ∃ fields : List (Nat × List UInt8),
    bytes = fields.flatMap Prod.snd ∧ ∀ f ∈ fields, ∃ levels, IsField levels f.1 f.2

theorem Key.Form.ne_nil {key : Key} {bytes : List UInt8} (h : Key.Form key bytes) : bytes ≠ [] :=
  h.varint.ne_nil

namespace IsField

variable {levels number : Nat} {bytes : List UInt8}

theorem ne_nil (h : IsField levels number bytes) : bytes ≠ [] := by
  cases h with
  | plain hkey _ => simp [hkey.ne_nil]
  | group hopening _ _ => simp [hopening.ne_nil]

/-- More levels are also enough. -/
theorem mono (h : IsField levels number bytes) :
    ∀ {more : Nat}, levels ≤ more → IsField more number bytes := by
  induction h with
  | plain hkey hpayload =>
      intro more hle
      obtain ⟨more, rfl⟩ : ∃ n, more = n + 1 := ⟨more - 1, by omega⟩
      exact .plain hkey hpayload
  | group hopening hfields hclosing ih =>
      intro more hle
      obtain ⟨more, rfl⟩ : ∃ n, more = n + 1 := ⟨more - 1, by omega⟩
      exact .group hopening (fun f hf => ih f hf (by omega)) hclosing

end IsField

theorem AreFields.nil : AreFields [] := ⟨[], rfl, by simp⟩

theorem IsField.areFields {levels number : Nat} {bytes : List UInt8}
    (h : IsField levels number bytes) : AreFields bytes := by
  refine ⟨[(number, bytes)], by simp, ?_⟩
  intro f hf
  obtain rfl := List.mem_singleton.mp hf
  exact ⟨levels, h⟩

/-! ### What was stepped over -/

/-- What is done in a group after a key. -/
def groupStep (budget number : Nat) (inner : Key) : Reader (Option Unit) := do
  if inner.wireType ≠ .groupEnd then
    skip budget inner
    return some ()
  else if inner.number = number then return none
  else Reader.fail .strayGroupEnd

/-- One turn of the loop over the fields of a group. -/
def groupTurn (budget number : Nat) : Reader (Option Unit) := Key.read >>= groupStep budget number

theorem skip_groupStart (budget number : Nat) :
    skip (budget + 1) ⟨number, .groupStart⟩ = discard (Reader.collect (groupTurn budget number)) :=
  rfl

/-- The bytes after a key make it a field. -/
def Completes (budget : Nat) (key : Key) (bytes : List UInt8) : Prop :=
  ∀ keyBytes, Key.Form key keyBytes → IsField budget key.number (keyBytes ++ bytes)

/-- What one turn of the loop over a group has taken: a field, or the key that ends the
group. -/
def IsTurn (budget number : Nat) (bytes : List UInt8) : Option Unit → Prop
  | some () => ∃ inner, IsField budget inner bytes
  | none => Key.Form ⟨number, .groupEnd⟩ bytes

theorem IsTurn.ne_nil {budget number : Nat} {bytes : List UInt8} :
    {answer : Option Unit} → IsTurn budget number bytes answer → bytes ≠ []
  | some (), ⟨_, h⟩ => h.ne_nil
  | none, h => Key.Form.ne_nil h

theorem takes_groupTurn {budget : Nat}
    (hskip : ∀ key, Takes (skip budget key) fun bytes _ => Completes budget key bytes)
    (number : Nat) : Takes (groupTurn budget number) (IsTurn budget number) := by
  have hstep (key : Key) : Takes (groupStep budget number key) fun bytes answer =>
      ∀ keyBytes, Key.Form key keyBytes → IsTurn budget number (keyBytes ++ bytes) answer := by
    unfold groupStep
    obtain ⟨inner, w⟩ := key
    by_cases hw : w = .groupEnd
    · subst hw
      rw [if_neg (by simp)]
      by_cases hsame : inner = number
      · subst hsame
        rw [if_pos rfl]
        refine (Takes.pure none).mono ?_
        rintro bytes answer ⟨rfl, rfl⟩ keyBytes hkey
        rwa [List.append_nil]
      · rw [if_neg hsame]
        exact Takes.fail _
    · rw [if_pos hw]
      refine ((hskip ⟨inner, w⟩).bind_pure fun _ => some ()).mono ?_
      rintro bytes answer ⟨_, hcompletes, rfl⟩ keyBytes hkey
      exact ⟨inner, hcompletes keyBytes hkey⟩
  refine (Key.takes_read.bind hstep).mono ?_
  rintro bytes answer ⟨keyBytes, more, key, rfl, hkey, hmore⟩
  exact hmore keyBytes hkey

/-- Fields whose numbers are not known have some. -/
private theorem exists_numbers {levels : Nat} :
    ∀ {parts : List (List UInt8)}, (∀ part ∈ parts, ∃ number, IsField levels number part) →
      ∃ fields : List (Nat × List UInt8), parts.flatten = fields.flatMap Prod.snd
        ∧ ∀ f ∈ fields, IsField levels f.1 f.2
  | [], _ => ⟨[], rfl, by simp⟩
  | part :: parts, h => by
      obtain ⟨number, hpart⟩ := h part (by simp)
      obtain ⟨fields, hflat, hfields⟩ := exists_numbers fun p hp =>
        h p (List.mem_cons_of_mem part hp)
      refine ⟨(number, part) :: fields, by rw [List.flatten_cons, hflat, List.flatMap_cons], ?_⟩
      intro f hf
      rcases List.mem_cons.mp hf with rfl | hf
      · exact hpart
      · exact hfields f hf

/-- **What was stepped over, with its key, is a field.** -/
theorem takes_skip (budget : Nat) (key : Key) :
    Takes (skip budget key) fun bytes _ => Completes budget key bytes := by
  induction budget generalizing key with
  | zero => exact Takes.fail _
  | succ budget ih =>
      obtain ⟨number, w⟩ := key
      have plain {α : Type} {r : Reader α} (hr : Takes r fun bytes _ => Payload w bytes) :
          Takes (discard r) fun bytes _ => Completes (budget + 1) ⟨number, w⟩ bytes :=
        (hr.bind_pure fun _ => ()).mono fun _ _ ⟨_, hpayload, _⟩ _ hkey => .plain hkey hpayload
      cases w with
      | varint => exact plain (Varint.takes_read.mono fun _ _ h => .varint h)
      | fixed32 => exact plain ((Reader.takes_take 4).mono fun _ _ h => .fixed32 h.2)
      | fixed64 => exact plain ((Reader.takes_take 8).mono fun _ _ h => .fixed64 h.2)
      | delimited =>
          refine ((Varint.takes_read.bind fun n =>
            (Reader.takes_take n).bind_pure fun _ => ())).mono ?_
          rintro _ _ ⟨length, body, n, rfl, hform, bytes, ⟨rfl, rfl⟩, _⟩ keyBytes hkey
          exact .plain hkey (.delimited hform)
      | groupStart =>
          rw [skip_groupStart]
          refine (((takes_groupTurn ih number).collect fun _ _ h => h.ne_nil).bind_pure
            fun _ => ()).mono ?_
          rintro _ _ ⟨_, ⟨parts, last, rfl, hparts, hlast⟩, _⟩ keyBytes hkey
          have hfields : ∀ part ∈ parts, ∃ inner, IsField budget inner part :=
            fun part hpart => let ⟨_, h⟩ := hparts part hpart; h
          obtain ⟨fields, hflat, hall⟩ := exists_numbers hfields
          rw [hflat]
          exact .group hkey hall hlast
      | groupEnd => exact Takes.fail _

/-- Steps over a field and answers its number. -/
def stepOver (levels : Nat) : Reader Nat := do
  let key ← Key.read
  skip levels key
  return key.number

theorem takes_stepOver (levels : Nat) :
    Takes (stepOver levels) fun bytes number => IsField levels number bytes := by
  refine (Key.takes_read.bind fun key =>
    (takes_skip levels key).bind_pure fun _ => key.number).mono ?_
  rintro _ number ⟨keyBytes, body, key, rfl, hkey, _, hcompletes, rfl⟩
  exact hcompletes keyBytes hkey

/-! ### Stepping over a field -/

theorem Payload.reads_skip {w : WireType} {payload : List UInt8} (h : Payload w payload)
    (budget number : Nat) : Reads (skip (budget + 1) ⟨number, w⟩) payload () := by
  cases h with
  | varint h => exact h.reads.map fun _ => ()
  | fixed32 h => exact (h ▸ Reader.reads_take payload).map fun _ => ()
  | fixed64 h => exact (h ▸ Reader.reads_take payload).map fun _ => ()
  | @delimited length body h => exact h.reads.bind ((Reader.reads_take body).map fun _ => ())

namespace IsField

variable {levels number : Nat} {bytes : List UInt8}

/-- A field begins with its key, and after the key it is stepped over. -/
theorem reads_skip (h : IsField levels number bytes) :
    ∃ keyBytes body w, bytes = keyBytes ++ body ∧ Key.Form ⟨number, w⟩ keyBytes
      ∧ w ≠ .groupEnd ∧ Reads (skip levels ⟨number, w⟩) body () := by
  induction h with
  | @plain levels number w key payload hkey hpayload =>
      refine ⟨key, payload, w, rfl, hkey, ?_, hpayload.reads_skip levels number⟩
      rintro rfl
      cases hpayload
  | @group levels number opening closing fields hopening hfields hclosing ih =>
      refine ⟨opening, _, .groupStart, rfl, hopening, by simp, ?_⟩
      have hturn : ∀ f ∈ fields, Reads (groupTurn levels number) f.2 (some ()) := by
        intro f hf
        obtain ⟨keyBytes, body, w, hbytes, hkey, hw, hskip⟩ := ih f hf
        rw [hbytes]
        refine hkey.reads.bind ?_
        unfold groupStep
        rw [if_pos hw]
        exact hskip.map fun _ => some ()
      have hend : Reads (groupTurn levels number) closing none := by
        have hstop : Reads (groupStep levels number ⟨number, .groupEnd⟩) [] none := by
          unfold groupStep
          rw [if_neg (by simp), if_pos rfl]
          exact fun _ => rfl
        have hwhole := hclosing.reads.bind hstop
        rwa [List.append_nil] at hwhole
      have hrow : Row (groupTurn levels number) (fields.flatMap Prod.snd)
          ((fields.map fun _ => ()).map some) := by
        rw [List.map_map]
        exact Row.flatMap hturn fun f hf => (hfields f hf).ne_nil
      have hshrinks : Shrinks (groupTurn levels number) := fun _ _ _ hrun =>
        (takes_groupTurn (takes_skip levels) number).size_lt (fun _ _ h => h.ne_nil) hrun
      rw [skip_groupStart]
      exact (hrow.reads_collect hshrinks hend).map fun _ => ()

/-- **A reader with enough levels left steps over a field and no further.** -/
theorem reads (h : IsField levels number bytes) : Reads (stepOver levels) bytes number := by
  obtain ⟨keyBytes, body, w, rfl, hkey, -, hskip⟩ := h.reads_skip
  exact hkey.reads.bind (hskip.map fun _ => number)

/-- The same bytes begin with one field only. -/
theorem unique {others s t : List UInt8} {levels' number' : Nat} (h : IsField levels number bytes)
    (h' : IsField levels' number' others) (hsame : bytes ++ s = others ++ t) :
    bytes = others ∧ number = number' ∧ s = t := by
  have hread := (h.mono (Nat.le_max_left levels levels')).reads
  have hread' := (h'.mono (Nat.le_max_right levels levels')).reads
  exact hread.unique hread' hsame

end IsField

end DeviceGen.Wire
