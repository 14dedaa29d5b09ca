/-
What unpacking and packing leave of a buffer.

The bytes of a number are all bits of the member that they are unpacked to, so packing this
member again gives the same bytes.  Only a truth value has fewer states than its byte: of all
bytes other than zero there is one left.  So a buffer that is unpacked and packed again becomes
its canonical form, in which truth values are zero or one and everything else is as it was.

Members must not share a name here.  Of two that do, the later one is what both are packed from.
-/
import DeviceGen.Proofs.Can.Packing

namespace DeviceGen.Can

open DeviceGen.C (Memory Outcome Value assign)
open DeviceGen.Text (unlines)
open LittleEndian (bytes value)

/-! ### Canonical forms -/

/-- Whether the byte at a place of a packed form is a truth value. -/
def isFlagAt (bindings : List Binding) (i : Nat) : Bool :=
  (placed bindings).any fun (place, b) => place == i && b.representation == .boolean

/-- A buffer whose packed form has one in place of every other truth value than zero. -/
def canonical (bindings : List Binding) (buffer : List UInt8) : List UInt8 :=
  buffer.mapIdx fun i b => if isFlagAt bindings i = true ∧ b ≠ 0 then 1 else b

/-- The bytes of one value in their canonical form. -/
def canonicalBytes (r : Representation) (bs : List UInt8) : List UInt8 :=
  if r = .boolean then bs.map fun b => if b ≠ 0 then 1 else b else bs

theorem packedBytes_pos (r : Representation) : 0 < packedBytes r := by
  cases r with
  | integer width _ | real width => cases width <;> exact Nat.zero_lt_succ _
  | boolean | choice _ _ => exact Nat.zero_lt_succ _

theorem placedFrom_add (n offset : Nat) (bindings : List Binding) :
    placedFrom (n + offset) bindings
      = (placedFrom offset bindings).map fun (place, b) => (n + place, b) := by
  induction bindings generalizing offset with
  | nil => rfl
  | cons b bs ih => rw [placedFrom, placedFrom, List.map_cons, Nat.add_assoc, ih]

theorem isFlagAt_cons (b : Binding) (bs : List Binding) (i : Nat) :
    isFlagAt (b :: bs) i = (0 == i && b.representation == .boolean
      || (placed bs).any fun (place, c) =>
        packedBytes b.representation + place == i && c.representation == .boolean) := by
  unfold isFlagAt placed
  rw [placedFrom, List.any_cons, Nat.zero_add, ← Nat.add_zero (packedBytes b.representation),
    placedFrom_add, List.any_map]
  rfl

/-- The first bytes are those of the first value. -/
theorem isFlagAt_cons_of_lt {b : Binding} (bs : List Binding) {i : Nat}
    (hi : i < packedBytes b.representation) :
    isFlagAt (b :: bs) i = (b.representation == .boolean) := by
  have hrest : ((placed bs).any fun (place, c) =>
      packedBytes b.representation + place == i && c.representation == .boolean) = false := by
    rw [List.any_eq_false]
    rintro ⟨place, c⟩ -
    have hne : packedBytes b.representation + place ≠ i := by omega
    simp [hne]
  rw [isFlagAt_cons, hrest, Bool.or_false]
  by_cases hflag : b.representation = .boolean
  · have hzero : i = 0 := by
      rw [hflag] at hi
      exact Nat.lt_one_iff.mp hi
    rw [hzero, BEq.rfl, Bool.true_and]
  · simp [hflag]

/-- The bytes after those of the first value are those of the others. -/
theorem isFlagAt_cons_add (b : Binding) (bs : List Binding) (i : Nat) :
    isFlagAt (b :: bs) (i + packedBytes b.representation) = isFlagAt bs i := by
  have hfirst : (0 == i + packedBytes b.representation) = false := by
    have hpos := packedBytes_pos b.representation
    simp only [beq_eq_false_iff_ne]
    omega
  have hplace (place : Nat) :
      (packedBytes b.representation + place == i + packedBytes b.representation)
        = (place == i) := by
    rw [Nat.add_comm i, Bool.eq_iff_iff, beq_iff_eq, beq_iff_eq, Nat.add_left_cancel_iff]
  rw [isFlagAt_cons, hfirst, Bool.false_and, Bool.false_or]
  simp only [hplace]
  rfl

/-- The canonical form is that of the first value before that of the others. -/
theorem canonical_cons (b : Binding) (bs : List Binding) {first : List UInt8}
    (hfirst : first.length = packedBytes b.representation) (rest : List UInt8) :
    canonical (b :: bs) (first ++ rest)
      = canonicalBytes b.representation first ++ canonical bs rest := by
  have hfront : first.mapIdx (fun i c => if isFlagAt (b :: bs) i = true ∧ c ≠ 0 then 1 else c)
      = canonicalBytes b.representation first := by
    apply List.ext_getElem?
    intro i
    rw [List.getElem?_mapIdx]
    by_cases hi : i < first.length
    · have hflag := isFlagAt_cons_of_lt bs (hfirst ▸ hi)
      unfold canonicalBytes
      by_cases hboolean : b.representation = .boolean
      · simp [hflag, hboolean, List.getElem?_map]
      · simp [hflag, hboolean]
    · have hnone := List.getElem?_eq_none (Nat.le_of_not_lt hi)
      unfold canonicalBytes
      split <;> simp [hnone]
  unfold canonical
  rw [List.mapIdx_append, hfront, hfirst]
  simp only [isFlagAt_cons_add]

/-! ### Values and their bytes -/

theorem bytes_four_value {bs : List UInt8} (h : bs.length = 4) :
    bytes 4 (UInt32.ofNat (value bs)).toNat = bs := by
  have hlt := LittleEndian.value_lt bs
  have hbytes := LittleEndian.bytes_value bs
  rw [h] at hlt hbytes
  replace hlt : value bs < 2 ^ 32 := hlt
  rw [UInt32.toNat_ofNat', Nat.mod_eq_of_lt hlt, hbytes]

theorem bytes_eight_value {bs : List UInt8} (h : bs.length = 8) :
    bytes 8 (UInt64.ofNat (value bs)).toNat = bs := by
  have hlt := LittleEndian.value_lt bs
  have hbytes := LittleEndian.bytes_value bs
  rw [h] at hlt hbytes
  replace hlt : value bs < 2 ^ 64 := hlt
  rw [UInt64.toNat_ofNat', Nat.mod_eq_of_lt hlt, hbytes]

/-- A value that was read from bytes has these bytes, but for a truth value. -/
theorem image_ofImage (r : Representation) {bs : List UInt8} (h : bs.length = packedBytes r) :
    (Value.ofImage bs (memberType r)).image = canonicalBytes r bs := by
  cases r with
  | integer width signed =>
      cases width with
      | w32 =>
          cases signed with
          | false => exact bytes_four_value h
          | true =>
              show bytes 4 (UInt32.ofNat (value bs)).toInt32.toUInt32.toNat = bs
              rw [UInt32.toUInt32_toInt32, bytes_four_value h]
      | w64 =>
          cases signed with
          | false => exact bytes_eight_value h
          | true =>
              show bytes 8 (UInt64.ofNat (value bs)).toInt64.toUInt64.toNat = bs
              rw [UInt64.toUInt64_toInt64, bytes_eight_value h]
  | real width =>
      cases width with
      | w32 => exact bytes_four_value h
      | w64 => exact bytes_eight_value h
  | boolean =>
      obtain ⟨b, rfl⟩ := List.length_eq_one_iff.mp h
      by_cases hb : b = 0
      · subst hb
        rfl
      · simp [Value.ofImage, memberType, Value.image, canonicalBytes, hb]
  | choice enumName options =>
      show bytes 4 (UInt32.ofNat (value bs)).toInt32.toUInt32.toNat = bs
      rw [UInt32.toUInt32_toInt32, bytes_four_value h]

/-! ### Unpacking before packing -/

theorem typed_unpacked {bindings declared : List Binding} :
    ∀ {members : String → Value} {buf : List UInt8}, Typed members declared →
      (∀ b ∈ bindings, b ∈ declared) → Typed (unpacked members buf bindings) declared := by
  induction bindings with
  | nil => exact fun htyped _ => htyped
  | cons b bs ih =>
      intro members buf htyped hsub
      refine ih (htyped.assign ?_) fun c hc => hsub c (List.mem_cons_of_mem b hc)
      rw [Value.type_ofImage, htyped b (hsub b List.mem_cons_self)]

theorem unpacked_of_not_mem {bindings : List Binding} {name : String}
    (h : name ∉ bindings.map memberOf) (members : String → Value) (buf : List UInt8) :
    unpacked members buf bindings name = members name := by
  induction bindings generalizing members buf with
  | nil => rfl
  | cons b bs ih =>
      rw [List.map_cons, List.mem_cons, not_or] at h
      rw [unpacked, ih h.2, assign, if_neg h.1]

theorem image_cons (members : String → Value) (b : Binding) (bs : List Binding) :
    image members (b :: bs) = (members (memberOf b)).image ++ image members bs := rfl

/-- Members that were unpacked from a buffer are packed to its canonical form. -/
theorem image_unpacked {bindings : List Binding} (hnames : (bindings.map memberOf).Nodup)
    (members : String → Value) {buf : List UInt8} (hroom : packedSize bindings ≤ buf.length) :
    image (unpacked members buf bindings) bindings ++ buf.drop (packedSize bindings)
      = canonical bindings buf := by
  induction bindings generalizing members buf with
  | nil =>
      show buf = canonical [] buf
      apply List.ext_getElem?
      intro i
      simp [canonical, isFlagAt, placed, placedFrom]
  | cons b bs ih =>
      rw [List.map_cons, List.nodup_cons] at hnames
      rw [packedSize_cons] at hroom ⊢
      have hlen : (buf.take (packedBytes b.representation)).length
          = packedBytes b.representation := by
        rw [List.length_take]
        omega
      -- no later member has this name, so what is set first stays
      have hmember : unpacked members buf (b :: bs) (memberOf b)
          = .ofImage (buf.take (packedBytes b.representation)) (memberType b.representation) := by
        rw [unpacked, unpacked_of_not_mem hnames.1, assign, if_pos rfl]
      have hroomLeft : packedSize bs ≤ (buf.drop (packedBytes b.representation)).length := by
        rw [List.length_drop]
        omega
      have hrest := ih hnames.2
        (assign members (memberOf b)
          (.ofImage (buf.take (packedBytes b.representation)) (memberType b.representation)))
        hroomLeft
      have hsplit := canonical_cons b bs hlen (buf.drop (packedBytes b.representation))
      rw [List.take_append_drop] at hsplit
      rw [image_cons, hmember, image_ofImage _ hlen, hsplit, ← hrest, List.append_assoc,
        List.drop_drop]
      rfl

/-- Members are unpacked from the form that they were packed to. -/
theorem unpacked_canonical {bindings : List Binding} (hnames : (bindings.map memberOf).Nodup)
    {members : String → Value} (htyped : Typed members bindings) {buf : List UInt8}
    (hroom : packedSize bindings ≤ buf.length) :
    unpacked (unpacked members buf bindings) (canonical bindings buf) bindings
      = unpacked members buf bindings := by
  rw [← image_unpacked hnames members hroom]
  funext name
  rw [unpacked_image (typed_unpacked htyped fun _ hb => hb), ite_self]

theorem length_canonical (bindings : List Binding) (buf : List UInt8) :
    (canonical bindings buf).length = buf.length := List.length_mapIdx

theorem canonical_canonical (bindings : List Binding) (buf : List UInt8) :
    canonical bindings (canonical bindings buf) = canonical bindings buf := by
  unfold canonical
  rw [List.mapIdx_mapIdx]
  congr 1
  funext i b
  by_cases h : isFlagAt bindings i = true ∧ b ≠ 0
  · simp [h]
  · simp [h]

/-- Two functions unpack any buffer that is long enough to a structure that packs to the canonical
form of the buffer, and both change nothing any more if they run again. -/
def Settles (message : Message) (pack unpack : Memory → Option Outcome) : Prop :=
  ∀ members buffer, Typed members message.bindings →
    packedSize message.bindings ≤ buffer.length →
      ∃ filled,
        unpack ⟨members, buffer⟩ = some ⟨packedSize message.bindings, ⟨filled, buffer⟩⟩
          ∧ pack ⟨filled, buffer⟩ = some ⟨packedSize message.bindings,
              ⟨filled, canonical message.bindings buffer⟩⟩
          ∧ unpack ⟨filled, canonical message.bindings buffer⟩
            = some ⟨packedSize message.bindings, ⟨filled, canonical message.bindings buffer⟩⟩
          ∧ pack ⟨filled, canonical message.bindings buffer⟩
            = some ⟨packedSize message.bindings, ⟨filled, canonical message.bindings buffer⟩⟩
          ∧ canonical message.bindings (canonical message.bindings buffer)
            = canonical message.bindings buffer

theorem settles_statements (message : Message) (hnames : (message.bindings.map memberOf).Nodup)
    (hsize : packedSize message.bindings < 2 ^ 31) :
    Settles message (pack message) (unpack message) := by
  intro members buffer htyped hlong
  have hfilled : Typed (unpacked members buffer message.bindings) message.bindings :=
    typed_unpacked htyped fun _ hb => hb
  have hagain : packedSize message.bindings ≤ (canonical message.bindings buffer).length := by
    rw [length_canonical]
    exact hlong
  have hpack := pack_run hfilled hsize hlong
  rw [image_unpacked hnames members hlong] at hpack
  have hunpack := unpack_run hfilled hsize hagain
  rw [unpacked_canonical hnames htyped hlong] at hunpack
  have hpackAgain := pack_run hfilled hsize hagain
  have himage := image_unpacked hnames (unpacked members buffer message.bindings) hagain
  rw [unpacked_canonical hnames htyped hlong, canonical_canonical] at himage
  rw [himage] at hpackAgain
  exact ⟨_, unpack_run htyped hsize hlong, hpack, hunpack, hpackAgain, canonical_canonical _ _⟩

/-- **Unpacking and packing again gives the canonical form of a buffer.**  Nothing changes but
truth values, and of them only those that are neither zero nor one; running both again changes
neither the buffer nor the structure any more.  This holds of the functions that are read off the
text of the generated source, on any buffer that is long enough and on any structure, and of the
statements in it also if the names make no text in C. -/
theorem unpack_then_pack (message : Message) (hrole : message.role ≠ .unclassified)
    (hbindings : message.bindings ≠ []) (hnames : (message.bindings.map memberOf).Nodup)
    (hsize : packedSize message.bindings < 2 ^ 31) :
    (definition message).text = unlines (
        "" :: (packRoutine message.name message.bindings).lines
          ++ "" :: (unpackRoutine message.name message.bindings).lines)
      ∧ Settles message (pack message) (unpack message)
      ∧ (message.IsReadable →
          Settles message (execute .pack message) (execute .unpack message)) := by
  have hpacked : message.isPacked = true := by
    simp [Message.isPacked, hrole, hbindings]
  have hstatements := settles_statements message hnames hsize
  refine ⟨?_, hstatements, fun hreadable members buffer htyped hlong => ?_⟩
  · unfold definition
    rw [if_pos hpacked]
  · obtain ⟨filled, hunpack, hpack, hunpackAgain, hpackAgain, hcanonical⟩ :=
      hstatements members buffer htyped hlong
    exact ⟨filled, execute_of_call hreadable hpacked hsize .unpack hunpack,
      execute_of_call hreadable hpacked hsize .pack hpack,
      execute_of_call hreadable hpacked hsize .unpack hunpackAgain,
      execute_of_call hreadable hpacked hsize .pack hpackAgain, hcanonical⟩

theorem unpack_then_pack_pump :
    ∃ filled,
      execute .unpack pump ⟨pumpMembers 0 false, [0xff, 0x7f, 0, 0x80, 7, 9]⟩
          = some ⟨5, ⟨filled, [0xff, 0x7f, 0, 0x80, 7, 9]⟩⟩
        ∧ execute .pack pump ⟨filled, [0xff, 0x7f, 0, 0x80, 7, 9]⟩
          = some ⟨5, ⟨filled, [0xff, 0x7f, 0, 0x80, 1, 9]⟩⟩ := by
  obtain ⟨-, -, hexecute⟩ := unpack_then_pack pump (by decide) (by decide) (by decide) (by decide)
  obtain ⟨filled, hunpack, hpack, -⟩ := hexecute isReadable_pump (pumpMembers 0 false)
    [0xff, 0x7f, 0, 0x80, 7, 9] (typed_pumpMembers _ _) (by decide)
  have hcanonical : canonical pump.bindings [0xff, 0x7f, 0, 0x80, 7, 9]
      = [0xff, 0x7f, 0, 0x80, 1, 9] := by
    decide
  rw [hcanonical] at hpack
  exact ⟨filled, hunpack, hpack⟩

end DeviceGen.Can
