/-
Packing and unpacking are inverse.

The functions for a message copy each member to a place of its own and back.  What a
member leaves in the buffer is its image, as many bytes as its representation says, and
reading these bytes gives the member back.  The places follow each other without gaps,
so after some of the statements of a function the buffer consists of what they have
dealt with and what they have not touched; that is what the inductions here carry along.

What is shown of the statements then holds of the functions that are read off the generated
source, because these do what the statements say.
-/
import DeviceGen.Proofs.Can.Program

namespace DeviceGen.Can

open DeviceGen.C (Expr Memory Outcome Stmt Value assign runAll)
open DeviceGen.Text (unlines)
open LittleEndian (bytes value)

/-- A value that the member for a representation can hold. -/
inductive Held : Representation → Value → Prop where
  | int32 (v : Int32) : Held (.integer .w32 true) (.int32 v)
  | int64 (v : Int64) : Held (.integer .w64 true) (.int64 v)
  | uint32 (v : UInt32) : Held (.integer .w32 false) (.uint32 v)
  | uint64 (v : UInt64) : Held (.integer .w64 false) (.uint64 v)
  | float (bits : UInt32) : Held (.real .w32) (.float bits)
  | double (bits : UInt64) : Held (.real .w64) (.double bits)
  | boolean (v : Bool) : Held .boolean (.bool v)
  | choice (enumName : String) (options : List Schema.EnumValue) (v : Int32) :
      Held (.choice enumName options) (.enumeration enumName v)

theorem held_of_type {r : Representation} {v : Value} (h : v.type = memberType r) : Held r v := by
  rcases r with ⟨_ | _, _ | _⟩ | ⟨_ | _⟩ | _ | ⟨enumName, options⟩ <;> cases v <;> cases h
    <;> constructor

theorem length_image {v : Value} {r : Representation} (h : v.type = memberType r) :
    v.image.length = packedBytes r := by
  cases held_of_type h with
  | boolean => rfl
  | _ => exact LittleEndian.length_bytes _ _

/-! ### One member -/

section Steps

variable {members : String → Value} {name : String} {r : Representation}

/-- The bytes of a member's place are replaced by its image. -/
theorem pack_step (htype : (members name).type = memberType r) (done : List UInt8)
    {old : List UInt8} (hold : old.length = packedBytes r) (rest : List UInt8) :
    (packStmt done.length name r).run ⟨members, done ++ old ++ rest⟩
      = some ⟨members, done ++ (members name).image ++ rest⟩ := by
  generalize hv : members name = v at htype
  have hmember (buf : List UInt8) : (Expr.member name).eval ⟨members, buf⟩ = some v :=
    congrArg some hv
  cases held_of_type htype with
  -- what is put has another type than a signed member, and the same image
  | int32 v =>
      have hcast (buf : List UInt8) := Expr.eval_cast (hmember buf) (Value.convert_unsigned32 v)
      have hrun := Stmt.run_put .u32 done hold rest (hcast _) (Value.convert_self rfl)
      exact hrun
  | int64 v =>
      have hcast (buf : List UInt8) := Expr.eval_cast (hmember buf) (Value.convert_unsigned64 v)
      have hrun := Stmt.run_put .u64 done hold rest (hcast _) (Value.convert_self rfl)
      exact hrun
  | uint32 v | uint64 v =>
      have hcast (buf : List UInt8) := Expr.eval_cast (hmember buf) (Value.convert_self rfl)
      exact Stmt.run_put _ done hold rest (hcast _) (Value.convert_self rfl)
  | float bits | double bits =>
      exact Stmt.run_put _ done hold rest (hmember _) (Value.convert_self rfl)
  | boolean v =>
      obtain ⟨b, rfl⟩ := List.length_eq_one_iff.mp hold
      simp only [List.append_assoc, List.singleton_append]
      have heval (buf : List UInt8) : (Expr.oneIf (.member name)).eval ⟨members, buf⟩
          = some (.uint32 (if v then 1 else 0)) := by
        rw [Expr.eval, hmember]
        cases v <;> rfl
      cases v with
      | false => exact Stmt.run_setByte done b rest (heval _) rfl
      | true => exact Stmt.run_setByte done b rest (heval _) rfl
  | choice enumName options v =>
      have hnumber (buf : List UInt8) := Expr.eval_cast (hmember buf)
        (Value.convert_number enumName v)
      have hcast (buf : List UInt8) := Expr.eval_cast (hnumber buf) (Value.convert_unsigned32 v)
      have hrun := Stmt.run_put .u32 done hold rest (hcast _) (Value.convert_self rfl)
      exact hrun

/-- A member is set to what the bytes of its place stand for. -/
theorem unpack_step (htype : (members name).type = memberType r) (done : List UInt8)
    {bs : List UInt8} (hbs : bs.length = packedBytes r) (rest : List UInt8) :
    (unpackStmt done.length name r).run ⟨members, done ++ bs ++ rest⟩
      = some ⟨assign members name (.ofImage bs (memberType r)), done ++ bs ++ rest⟩ := by
  have hget (word : C.Word) (hlen : bs.length = word.bytes) :
      (Expr.get word done.length).eval ⟨members, done ++ bs ++ rest⟩
        = some (.ofImage bs word.type) := word.get_run done hlen rest
  have hself {v : Value} (hv : v.type = memberType r) :
      v.convert ((members name).type) = some v := Value.convert_self (hv.trans htype.symm)
  cases r with
  | integer width signed =>
      cases width with
      | w32 =>
          cases signed with
          | false => exact Stmt.run_setMember name (hget .u32 hbs) (hself rfl)
          | true =>
              have hcast := Expr.eval_cast (hget .u32 hbs) (Value.convert_signed32 _)
              exact Stmt.run_setMember name hcast (hself rfl)
      | w64 =>
          cases signed with
          | false => exact Stmt.run_setMember name (hget .u64 hbs) (hself rfl)
          | true =>
              have hcast := Expr.eval_cast (hget .u64 hbs) (Value.convert_signed64 _)
              exact Stmt.run_setMember name hcast (hself rfl)
  | real width =>
      cases width with
      | w32 => exact Stmt.run_setMember name (hget .f32 hbs) (hself rfl)
      | w64 => exact Stmt.run_setMember name (hget .f64 hbs) (hself rfl)
  | boolean =>
      -- a byte is an `int` when it is compared, and a truth value when it is assigned
      obtain ⟨b, rfl⟩ := List.length_eq_one_iff.mp hbs
      rw [List.append_assoc, List.singleton_append]
      refine Stmt.run_setMember name (Expr.eval_nonzero done b rest) ?_
      rw [htype]
      by_cases hb : b = 0
      · subst hb
        rfl
      · rw [if_neg hb]
        show some (Value.bool true) = some (.bool ([b] ≠ [0]))
        simp [hb]
  | choice enumName options =>
      have hnumber := Expr.eval_cast (hget .u32 hbs) (Value.convert_signed32 _)
      have hcast := Expr.eval_cast hnumber (Value.convert_enumeration enumName _)
      exact Stmt.run_setMember name hcast (hself rfl)

end Steps

/-! ### All members -/

/-- Members that have the types declared for them. -/
def Typed (members : String → Value) (bindings : List Binding) : Prop :=
  ∀ b ∈ bindings, (members (memberOf b)).type = memberType b.representation

/-- The packed form of the members for bindings. -/
def image (members : String → Value) (bindings : List Binding) : List UInt8 :=
  bindings.flatMap fun b => (members (memberOf b)).image

/-- The members after those for bindings are set to what stands in a buffer. -/
def unpacked (members : String → Value) (buf : List UInt8) : List Binding → String → Value
  | [] => members
  | b :: bs =>
      unpacked
        (assign members (memberOf b)
          (.ofImage (buf.take (packedBytes b.representation)) (memberType b.representation)))
        (buf.drop (packedBytes b.representation)) bs

theorem length_packed {members : String → Value} {bindings : List Binding}
    (htyped : Typed members bindings) : (image members bindings).length = packedSize bindings := by
  induction bindings with
  | nil => rfl
  | cons b bs ih =>
      have hrest := ih fun c hc => htyped c (List.mem_cons_of_mem b hc)
      have hfirst := length_image (htyped b List.mem_cons_self)
      rw [packedSize_cons, ← hrest, ← hfirst]
      exact List.length_append

/-- A member of the type that its name has already leaves all members with their types. -/
theorem Typed.assign {members : String → Value} {bindings : List Binding}
    (htyped : Typed members bindings) {name : String} {v : Value}
    (hv : v.type = (members name).type) : Typed (assign members name v) bindings := by
  intro b hb
  unfold C.assign
  by_cases hname : memberOf b = name
  · rw [if_pos hname, hv, ← hname]
    exact htyped b hb
  · rw [if_neg hname]
    exact htyped b hb

/-- The statements that pack members, from the place `offset` on. -/
def packStmts (offset : Nat) (bindings : List Binding) : List Stmt :=
  (placedFrom offset bindings).map fun (place, b) => packStmt place (memberOf b) b.representation

/-- The statements that unpack members, from the place `offset` on. -/
def unpackStmts (offset : Nat) (bindings : List Binding) : List Stmt :=
  (placedFrom offset bindings).map fun (place, b) => unpackStmt place (memberOf b) b.representation

/-- Packing replaces what follows the bytes that are done by the image of the members. -/
theorem runAll_pack {members : String → Value} {bindings : List Binding}
    (htyped : Typed members bindings) (done rest : List UInt8)
    (hroom : packedSize bindings ≤ rest.length) :
    runAll (packStmts done.length bindings) ⟨members, done ++ rest⟩
      = some ⟨members, done ++ image members bindings ++ rest.drop (packedSize bindings)⟩ := by
  induction bindings generalizing done rest with
  | nil =>
      show some _ = some _
      simp [image, packedSize]
  | cons b bs ih =>
      have hb := htyped b List.mem_cons_self
      have hbs : Typed members bs := fun c hc => htyped c (List.mem_cons_of_mem b hc)
      rw [packedSize_cons] at hroom
      have hold : (rest.take (packedBytes b.representation)).length
          = packedBytes b.representation := by
        rw [List.length_take]
        omega
      have hstep := pack_step hb done hold (rest.drop (packedBytes b.representation))
      rw [List.append_assoc, List.take_append_drop] at hstep
      -- the image of the first member is done, and the next place follows it
      have hlen : (done ++ (members (memberOf b)).image).length
          = done.length + packedBytes b.representation := by
        rw [List.length_append, length_image hb]
      have hnext := ih hbs (done ++ (members (memberOf b)).image)
        (rest.drop (packedBytes b.representation)) (by rw [List.length_drop]; omega)
      rw [hlen] at hnext
      show (Stmt.run _ _).bind _ = _
      rw [hstep, Option.bind_some]
      refine hnext.trans ?_
      rw [List.drop_drop, packedSize_cons]
      simp [image, List.append_assoc]

/-- Unpacking sets the members to what follows the bytes that are done. -/
theorem runAll_unpack {members : String → Value} {bindings : List Binding}
    (htyped : Typed members bindings) (done rest : List UInt8)
    (hroom : packedSize bindings ≤ rest.length) :
    runAll (unpackStmts done.length bindings) ⟨members, done ++ rest⟩
      = some ⟨unpacked members rest bindings, done ++ rest⟩ := by
  induction bindings generalizing members done rest with
  | nil => rfl
  | cons b bs ih =>
      have hb := htyped b List.mem_cons_self
      have hbs : Typed members bs := fun c hc => htyped c (List.mem_cons_of_mem b hc)
      rw [packedSize_cons] at hroom
      have hlen : (rest.take (packedBytes b.representation)).length
          = packedBytes b.representation := by
        rw [List.length_take]
        omega
      have hstep := unpack_step hb done hlen (rest.drop (packedBytes b.representation))
      rw [List.append_assoc, List.take_append_drop] at hstep
      have hdone : (done ++ rest.take (packedBytes b.representation)).length
          = done.length + packedBytes b.representation := by
        rw [List.length_append, hlen]
      have hv : (Value.ofImage (rest.take (packedBytes b.representation))
          (memberType b.representation)).type = (members (memberOf b)).type := by
        rw [Value.type_ofImage, hb]
      have hnext := ih (hbs.assign hv) (done ++ rest.take (packedBytes b.representation))
        (rest.drop (packedBytes b.representation)) (by rw [List.length_drop]; omega)
      rw [hdone, List.append_assoc, List.take_append_drop] at hnext
      show (Stmt.run _ _).bind _ = _
      rw [hstep, Option.bind_some]
      exact hnext

/-- What was packed is unpacked, and members that were not packed stay. -/
theorem unpacked_image {members : String → Value} {bindings : List Binding}
    (htyped : Typed members bindings) (others : String → Value) (rest : List UInt8)
    (name : String) :
    unpacked others (image members bindings ++ rest) bindings name
      = if name ∈ bindings.map memberOf then members name else others name := by
  induction bindings generalizing others with
  | nil => rfl
  | cons b bs ih =>
      have hb := htyped b List.mem_cons_self
      have hbs : Typed members bs := fun c hc => htyped c (List.mem_cons_of_mem b hc)
      have hsplit : image members (b :: bs) ++ rest
          = (members (memberOf b)).image ++ (image members bs ++ rest) := by
        simp [image]
      rw [hsplit]
      unfold unpacked
      rw [← length_image hb, List.take_left, List.drop_left, ← hb, Value.ofImage_image, ih hbs]
      unfold C.assign
      rw [List.map_cons]
      by_cases hlater : name ∈ bs.map memberOf
      · rw [if_pos hlater, if_pos (List.mem_cons_of_mem _ hlater)]
      · rw [if_neg hlater]
        by_cases hname : name = memberOf b
        · subst hname
          rw [if_pos rfl, if_pos List.mem_cons_self]
        · rw [if_neg hname, if_neg]
          intro hmem
          rcases List.mem_cons.mp hmem with h | h
          · exact hname h
          · exact hlater h

/-! ### The functions of a message -/

/-- A call of the function that packs a message. -/
def pack (message : Message) : C.Memory → Option C.Outcome :=
  (packRoutine message.name message.bindings).call (structLines message.name message.bindings)

/-- A call of the function that unpacks a message. -/
def unpack (message : Message) : C.Memory → Option C.Outcome :=
  (unpackRoutine message.name message.bindings).call (structLines message.name message.bindings)

section Calls

variable {message : Message} {members : String → Value} {buffer : List UInt8}

theorem pack_run (htyped : Typed members message.bindings)
    (hsize : packedSize message.bindings < 2 ^ 31)
    (hlong : packedSize message.bindings ≤ buffer.length) :
    pack message ⟨members, buffer⟩ = some ⟨packedSize message.bindings, ⟨members,
      image members message.bindings ++ buffer.drop (packedSize message.bindings)⟩⟩ := by
  have hrun := runAll_pack htyped [] buffer hlong
  exact C.Routine.call_run (macroValue?_structLines _ _) hlong hsize hrun

theorem unpack_run (htyped : Typed members message.bindings)
    (hsize : packedSize message.bindings < 2 ^ 31)
    (hlong : packedSize message.bindings ≤ buffer.length) :
    unpack message ⟨members, buffer⟩ = some ⟨packedSize message.bindings,
      ⟨unpacked members buffer message.bindings, buffer⟩⟩ := by
  have hrun := runAll_unpack htyped [] buffer hlong
  exact C.Routine.call_run (macroValue?_structLines _ _) hlong hsize hrun

end Calls

/-- Two functions copy the members of a message to a buffer and back.  Both refuse a buffer that is
too short.  Otherwise packing replaces the first bytes of the buffer, as many as the size says, and
unpacking them into any other structure gives back every member, and no other one. -/
structure Copies (message : Message) (pack unpack : Memory → Option Outcome) : Prop where
  short : ∀ members buffer, Typed members message.bindings →
    buffer.length < packedSize message.bindings →
      pack ⟨members, buffer⟩ = some ⟨-1, ⟨members, buffer⟩⟩
        ∧ unpack ⟨members, buffer⟩ = some ⟨-1, ⟨members, buffer⟩⟩
  long : ∀ members buffer, Typed members message.bindings →
    packedSize message.bindings ≤ buffer.length →
      ∃ packed, packed.length = packedSize message.bindings
        ∧ pack ⟨members, buffer⟩ = some ⟨packedSize message.bindings,
            ⟨members, packed ++ buffer.drop (packedSize message.bindings)⟩⟩
        ∧ ∀ others, Typed others message.bindings →
            unpack ⟨others, packed ++ buffer.drop (packedSize message.bindings)⟩
              = some ⟨packedSize message.bindings,
                ⟨fun name => if name ∈ message.bindings.map memberOf then members name
                  else others name,
                packed ++ buffer.drop (packedSize message.bindings)⟩⟩

theorem copies_statements (message : Message) (hsize : packedSize message.bindings < 2 ^ 31) :
    Copies message (pack message) (unpack message) := by
  have hvalue := macroValue?_structLines message.name message.bindings
  refine ⟨?_, ?_⟩
  · intro members buffer htyped hshort
    exact ⟨C.Routine.call_short hvalue hshort, C.Routine.call_short hvalue hshort⟩
  · intro members buffer htyped hlong
    have hlen := length_packed htyped
    refine ⟨image members message.bindings, hlen, pack_run htyped hsize hlong, ?_⟩
    intro others hothers
    rw [unpack_run hothers hsize (by rw [List.length_append]; omega)]
    rw [funext (unpacked_image htyped others (buffer.drop (packedSize message.bindings)))]

/-- Functions copy members if they do what other ones do that copy them. -/
theorem Copies.of_agree {message : Message} {pack unpack pack' unpack' : Memory → Option Outcome}
    (h : Copies message pack unpack)
    (hpack : ∀ {memory outcome}, pack memory = some outcome → pack' memory = some outcome)
    (hunpack : ∀ {memory outcome}, unpack memory = some outcome → unpack' memory = some outcome) :
    Copies message pack' unpack' := by
  refine ⟨?_, ?_⟩
  · intro members buffer htyped hshort
    obtain ⟨hp, hu⟩ := h.short members buffer htyped hshort
    exact ⟨hpack hp, hunpack hu⟩
  · intro members buffer htyped hlong
    obtain ⟨packed, hlen, hp, hu⟩ := h.long members buffer htyped hlong
    exact ⟨packed, hlen, hpack hp, fun others hothers => hunpack (hu others hothers)⟩

/-- **Unpacking restores what was packed, and nothing else is touched.**  This holds of the
functions that are read off the text of the generated source, run with the macros of the generated
declaration, which declares the members with the types of their values.  With names that are no
identifiers the text is none in C, but the statements in it still copy the members and restore
them.  Members of one name would be one member, so that names need not even be distinct. -/
theorem pack_unpack (message : Message) (hrole : message.role ≠ .unclassified)
    (hbindings : message.bindings ≠ []) (hsize : packedSize message.bindings < 2 ^ 31) :
    (declaration message).text = unlines (structLines message.name message.bindings)
      ∧ (definition message).text = unlines (
          "" :: (packRoutine message.name message.bindings).lines
            ++ "" :: (unpackRoutine message.name message.bindings).lines)
      ∧ Copies message (pack message) (unpack message)
      ∧ (message.IsReadable → message.IsDeclared
          ∧ Copies message (execute .pack message) (execute .unpack message)) := by
  have hpacked : message.isPacked = true := by
    simp [Message.isPacked, hrole, hbindings]
  have hstatements := copies_statements message hsize
  refine ⟨?_, ?_, hstatements, fun hreadable => ?_⟩
  · unfold declaration
    rw [if_pos hpacked]
  · unfold definition
    rw [if_pos hpacked]
  · exact ⟨hreadable.isDeclared hpacked, hstatements.of_agree
      (execute_of_call hreadable hpacked hsize .pack)
      (execute_of_call hreadable hpacked hsize .unpack)⟩

/-- A pump that is sent a speed and whether it is enabled. -/
def pump : Message where
  name := "PumpCtl"
  role := .outgoing
  bindings := [
    ⟨"speed", "speed", "PumpCtl-1", .real .w32, .real Double.zero, .control (.stepper false)⟩,
    ⟨"enabled", "enabled", "PumpCtl-2", .boolean, .boolean false, .control .toggle⟩]

/-- The members of a pump. -/
def pumpMembers (speed : UInt32) (enabled : Bool) (name : String) : Value :=
  if name = "speed" then .float speed else .bool enabled

theorem typed_pumpMembers (speed : UInt32) (enabled : Bool) :
    Typed (pumpMembers speed enabled) pump.bindings := by
  intro b hb
  simp only [pump, List.mem_cons, List.not_mem_nil, or_false] at hb
  rcases hb with rfl | rfl <;> rfl

theorem isReadable_pump : pump.IsReadable := ⟨by decide, by decide, by decide⟩

theorem pack_unpack_pump :
    (C.declaration? (declaration pump).text).map (·.type)
        = some ⟨"PumpCtl_t", [⟨"float", "speed"⟩, ⟨"bool", "enabled"⟩]⟩
      ∧ ∃ packed, packed.length = 5
        ∧ execute .pack pump ⟨pumpMembers 0x3fc00000 true, [9, 9, 9, 9, 9, 9]⟩
          = some ⟨5, ⟨pumpMembers 0x3fc00000 true, packed ++ [9]⟩⟩
        ∧ execute .unpack pump ⟨pumpMembers 0 false, packed ++ [9]⟩
          = some ⟨5, ⟨fun name => if name ∈ ["speed", "enabled"] then
              pumpMembers 0x3fc00000 true name else pumpMembers 0 false name, packed ++ [9]⟩⟩ := by
  obtain ⟨-, -, -, hreadable⟩ := pack_unpack pump (by decide) (by decide) (by decide)
  obtain ⟨hdeclared, hcopies⟩ := hreadable isReadable_pump
  obtain ⟨packed, hlen, hpack, hunpack⟩ := hcopies.long
    (pumpMembers 0x3fc00000 true) [9, 9, 9, 9, 9, 9] (typed_pumpMembers _ _) (by decide)
  refine ⟨?_, packed, hlen, hpack, hunpack _ (typed_pumpMembers _ _)⟩
  rw [hdeclared.text]
  rfl

end DeviceGen.Can
