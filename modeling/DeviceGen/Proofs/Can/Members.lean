/-
Which members of a structure meet.

A structure has a member for each bound field, and the functions of its message name the members
as the structure does.  Reserved words are escaped, so no member is one.  But escaping does not
look at the other fields: the member for a reserved word is also the member for a field that has
an underscore more.  Fields of different names meet in no other way.
-/
import DeviceGen.Proofs.C.Names
import DeviceGen.Proofs.Can.HeaderLines
import DeviceGen.Proofs.Descriptor.Made

namespace DeviceGen

open DeviceGen.C (IsIdentifier Stmt member? memberName reservedWords)
open DeviceGen.Schema (Registry Role)
open DeviceGen.Text (IsWord unlines)

/-! ### Members of a structure and of its functions -/

namespace Can

/-- A member is read off the line that declares it. -/
theorem member?_memberLine {b : Binding} (h : IsWord b.name) :
    member? (memberLine b) = some (memberOf b) := by
  refine C.member?_declaration _ ?_
  unfold memberOf memberName
  split
  · exact (h.append (by decide)).not_mem (by decide)
  · exact h.not_mem (by decide)

/-- The members of a structure are those for its bindings. -/
theorem members_structLines (message : String) {bindings : List Binding}
    (h : ∀ b ∈ bindings, IsWord b.name) :
    (structLines message bindings).filterMap member? = bindings.map memberOf := by
  have hmembers : (bindings.map memberLine).filterMap member? = bindings.map memberOf := by
    rw [List.filterMap_map, ← List.filterMap_eq_map]
    exact List.filterMap_congr fun b hb => member?_memberLine (h b hb)
  have hopen : ["", "typedef struct \x7b"].filterMap member? = [] := by decide
  have hclose : ["\x7d " ++ message ++ "_t;", "",
      "#define " ++ C.sizeMacro message ++ " " ++ toString (packedSize bindings) ++ "u", "",
      C.Routine.head .pack message ++ ";", C.Routine.head .unpack message ++ ";"].filterMap member?
        = [] := by
    rw [List.filterMap_eq_nil_iff]
    intro line hline
    apply C.member?_eq_none
    simp only [List.mem_cons, List.not_mem_nil, or_false] at hline
    rcases hline with rfl | rfl | rfl | rfl | rfl | rfl
    · simp
    · decide
    · simp
    · decide
    · rw [head?_prototype]
      decide
    · rw [head?_prototype]
      decide
  unfold structLines
  rw [List.filterMap_append, List.filterMap_append, hmembers, hopen, hclose, List.nil_append,
    List.append_nil]

theorem members_packStmt (offset : Nat) (member : String) (r : Representation) :
    (packStmt offset member r).members = [member] := by
  cases r <;> rfl

theorem members_unpackStmt (offset : Nat) (member : String) (r : Representation) :
    (unpackStmt offset member r).members = [member] := by
  rcases r with ⟨_, _ | _⟩ | _ | _ | _ <;> rfl

theorem map_placedFrom {α : Type} (f : Binding → α) (offset : Nat) (bindings : List Binding) :
    ((placedFrom offset bindings).map fun (_, b) => f b) = bindings.map f := by
  induction bindings generalizing offset with
  | nil => rfl
  | cons b bs ih => rw [placedFrom, List.map_cons, List.map_cons, ih]

/-- The function that packs a message has a statement for each member, and it names no other. -/
theorem members_packRoutine (message : String) (bindings : List Binding) :
    (packRoutine message bindings).body.map Stmt.members
      = bindings.map fun b => [memberOf b] := by
  unfold packRoutine placed
  rw [List.map_map, ← map_placedFrom (fun b => [memberOf b]) 0]
  exact List.map_congr_left fun _ _ => members_packStmt _ _ _

theorem members_unpackRoutine (message : String) (bindings : List Binding) :
    (unpackRoutine message bindings).body.map Stmt.members
      = bindings.map fun b => [memberOf b] := by
  unfold unpackRoutine placed
  rw [List.map_map, ← map_placedFrom (fun b => [memberOf b]) 0]
  exact List.map_congr_left fun _ _ => members_unpackStmt _ _ _

section Members

open DeviceGen.Descriptor (FieldDescriptor FileDescriptor MessageDescriptor)

variable {registry : Registry} {options : Options} {role : Role} {message : Schema.Message}
  {bindings : List Binding}

/-- **When members meet.**  The members of a structure are those for the bound fields, in order,
and none is a reserved word; the functions of the message name them in the same order, one in each
statement.  No two are the same iff no bound field is a reserved word that another bound field has
with an underscore more. -/
theorem members_distinct_iff
    (hbindings : Binding.ofMessage registry options role message = .ok bindings)
    (hdistinct : (message.fields.map (·.name)).Nodup)
    (hidentifiers : ∀ field ∈ message.fields, IsIdentifier field.name) :
    (Message.isPacked ⟨message.name, role, bindings⟩ = true →
        (declaration ⟨message.name, role, bindings⟩).text
            = unlines (structLines message.name bindings)
          ∧ (definition ⟨message.name, role, bindings⟩).text
            = unlines ("" :: (packRoutine message.name bindings).lines
              ++ "" :: (unpackRoutine message.name bindings).lines))
      ∧ (structLines message.name bindings).filterMap member? = bindings.map memberOf
      ∧ ((bindings.map memberOf).Nodup
          ↔ ∀ b ∈ bindings, b.name ∈ reservedWords → ∀ c ∈ bindings, c.name ≠ b.name ++ "_")
      ∧ (∀ b ∈ bindings, memberOf b ∉ reservedWords)
      ∧ (packRoutine message.name bindings).body.map Stmt.members
        = bindings.map (fun b => [memberOf b])
      ∧ (unpackRoutine message.name bindings).body.map Stmt.members
        = bindings.map (fun b => [memberOf b]) := by
  have hsublist := Binding.sublist_ofMessage hbindings
  have hwords : ∀ b ∈ bindings, IsWord b.name := by
    intro b hb
    obtain ⟨field, hfield, hname⟩ :=
      List.mem_map.mp (hsublist.mem (List.mem_map_of_mem (f := (·.name)) hb))
    exact hname ▸ (hidentifiers field hfield).isWord
  refine ⟨?_, members_structLines message.name hwords, ?_, fun b _ => C.memberName_not_mem b.name,
    members_packRoutine message.name bindings, members_unpackRoutine message.name bindings⟩
  · intro hpacked
    exact ⟨by rw [declaration, if_pos hpacked], by rw [definition, if_pos hpacked]⟩
  · have hiff := C.nodup_map_memberName_iff (hdistinct.sublist hsublist)
    rw [List.map_map, List.forall_mem_map] at hiff
    refine hiff.trans (forall₂_congr fun b _ => imp_congr_right fun _ => ?_)
    rw [List.mem_map, not_exists]
    exact forall_congr' fun c => not_and

/-- A message with fields of these names, which are numbers. -/
def numbersMessage (names : List String) : Schema.Message where
  name := "ValveCtl"
  fields := names.map fun name => ⟨name, 1, .int32⟩

theorem members_distinct_iff_valve :
    ∃ bindings, Binding.ofMessage .empty .default .outgoing
          (numbersMessage ["default", "level", "level_"]) = .ok bindings
      ∧ (structLines "ValveCtl" bindings).filterMap member? = ["default_", "level", "level_"]
      ∧ (bindings.map memberOf).Nodup := by
  obtain ⟨bindings, hbindings, hmembers, hdistinct⟩ : ∃ bindings,
      Binding.ofMessage .empty .default .outgoing
          (numbersMessage ["default", "level", "level_"]) = .ok bindings
        ∧ bindings.map memberOf = ["default_", "level", "level_"]
        ∧ ∀ b ∈ bindings, b.name ∈ reservedWords → ∀ c ∈ bindings, c.name ≠ b.name ++ "_" :=
    ⟨_, rfl, by decide, by decide⟩
  obtain ⟨-, hdeclared, hiff, -⟩ := members_distinct_iff hbindings (by decide) (by decide)
  exact ⟨bindings, hbindings, hmembers ▸ hdeclared, hiff.mpr hdistinct⟩

/-- A request for a message with fields of these names, which are numbers. -/
def valveRequest (names : List String) : Descriptor.Request :=
  .make ["valve.proto"] none [FileDescriptor.make "valve.proto" none
    [MessageDescriptor.make "ValveCtl"
      (names.zipIdx.map fun (name, i) => FieldDescriptor.make name (Int32.ofNat (i + 1)) 5 none)]
    []]

/-- Different identifiers may have one member.  Then a structure has this member twice. -/
theorem members_may_meet :
    ["default", "default_"].Nodup ∧ (∀ name ∈ ["default", "default_"], IsIdentifier name)
      ∧ (valveRequest ["default", "default_"]).files.map
          (fun file => file.messages.map fun m => m.fields.map (·.name))
        = [[["default", "default_"]]]
      ∧ (∃ files, (Generator.can.generate (valveRequest ["default", "default_"])).result
        = .ok files)
      ∧ ((valveRequest ["default", "default_"]).headers.flatMap Header.messages).map
          (fun m => (structLines m.name m.bindings).filterMap member?)
        = [["default_", "default_"]] :=
  ⟨by decide, by decide, by decide +kernel, exists_ok_of_isSome (by decide +kernel),
    by decide +kernel⟩

end Members

end Can

end DeviceGen
