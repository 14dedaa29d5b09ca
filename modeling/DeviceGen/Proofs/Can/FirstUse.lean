/-
Where a header declares enumeration types.

A header is a row of blocks: for each packed message its structure, and in front of it the types
that its members are the first to choose from.  What carries this through the messages is the
list of names that were met: a name is declared by the first member that has it, and by no later
one.  So the types of a header are the names that members choose from, without repetitions, and
each stands right in front of the structure of its first user.

The source is made of the same messages as the header, so it defines the functions for each
structure that the header declares, in the same order.
-/
import DeviceGen.Proofs.Can.Inclusion
import DeviceGen.Proofs.FirstOccurrences
import DeviceGen.Proofs.Generator.Contents

namespace DeviceGen

open DeviceGen.Schema (Enumeration Registry Role ValueType)
open DeviceGen.Text (unlines unlines_append)

/-! ### Names that are referred to -/

/-- The enumeration that a type refers to. -/
def Schema.ValueType.enumName? : ValueType → Option String
  | enumeration name => some name
  | _ => none

/-- The enumerations that the fields of a message refer to, in order. -/
def Schema.Message.enumNames (message : Schema.Message) : List String :=
  message.fields.filterMap fun field => field.type.enumName?

/-- The enumerations that fields of messages with a role refer to, in order. -/
def Schema.File.enumNames (file : Schema.File) : List String :=
  (file.messages.filter Schema.Message.isClassified).flatMap Schema.Message.enumNames

theorem filterMap_cons_toList {α β : Type} (f : α → Option β) (a : α) (as : List α) :
    (a :: as).filterMap f = (f a).toList ++ as.filterMap f := by
  rw [List.filterMap_cons]
  cases f a <;> rfl

namespace Binding

variable {registry : Registry} {options : Options} {role : Role} {message : Schema.Message}

/-- A binding chooses from the enumeration that its field refers to. -/
theorem enumOf?_ofField {field : Schema.Field} {b? : Option Binding}
    (h : ofField registry options role message field = .ok b?) :
    (b?.bind fun b => (Can.enumOf? b.representation).map Enumeration.name)
      = field.type.enumName? := by
  unfold ofField at h
  cases htype : field.type with
  | enumeration name =>
      rw [htype, ValueType.representation, Registry.resolve] at h
      cases hget : registry.get? name with
      | none =>
          rw [hget] at h
          cases h
      | some e =>
          rw [hget] at h
          cases h
          have hname : e.name = name := by simpa using List.find?_some hget
          exact congrArg some hname
  | _ =>
      rw [htype] at h
      cases h
      rfl

/-- Bindings choose from the enumerations that the fields refer to, in order. -/
theorem enumOf?_ofFields {fields : List Schema.Field} {bs : List Binding}
    (h : ofFields registry options role message fields = .ok bs) :
    (bs.filterMap fun b => Can.enumOf? b.representation).map Enumeration.name
      = fields.filterMap fun field => field.type.enumName? := by
  obtain ⟨found, rfl, hfound⟩ := forall₂_ofFields h
  clear h
  induction hfound with
  | nil => rfl
  | @cons field first fields found hfield _ ih =>
      rw [List.flatMap_cons, List.filterMap_append, List.map_append, ih, filterMap_cons_toList,
        ← enumOf?_ofField hfield]
      cases first with
      | none => rfl
      | some b =>
          rw [Option.toList_some, filterMap_cons_toList, Option.bind_some]
          cases Can.enumOf? b.representation <;> rfl

end Binding

namespace Can

/-- The names of the enumerations that messages choose from, in order. -/
def choiceNames (ms : List Message) : List String := (ms.flatMap Message.enums).map Enumeration.name

theorem choiceNames_cons (m : Message) (ms : List Message) :
    choiceNames (m :: ms) = m.enums.map Enumeration.name ++ choiceNames ms := by
  unfold choiceNames
  rw [List.flatMap_cons, List.map_append]

/-- Bound messages choose from the enumerations that their fields refer to. -/
theorem choiceNames_bound {context : Context} {messages : List Schema.Message} {ms : List Message}
    (h : context.bound messages = .ok ms) :
    choiceNames ms
      = (messages.filter Schema.Message.isClassified).flatMap Schema.Message.enumNames := by
  replace h := Context.forall₂_bound h
  generalize messages.filter Schema.Message.isClassified = classified at h ⊢
  induction h with
  | nil => rfl
  | cons hbind _ ih =>
      obtain ⟨bindings, hbindings, rfl⟩ := except_map_eq_ok.mp hbind.2
      rw [choiceNames_cons, List.flatMap_cons, ih]
      exact congrArg (· ++ _) (Binding.enumOf?_ofFields hbindings)

/-- A message that is not packed has nothing to choose from, if it has a role. -/
theorem choiceNames_filter {ms : List Message} (h : ∀ m ∈ ms, m.role ≠ .unclassified) :
    choiceNames (ms.filter Message.isPacked) = choiceNames ms := by
  induction ms with
  | nil => rfl
  | cons m ms ih =>
      have hrest := ih fun n hn => h n (List.mem_cons_of_mem m hn)
      by_cases hpacked : m.isPacked = true
      · rw [List.filter_cons_of_pos hpacked, choiceNames_cons, choiceNames_cons, hrest]
      · have hnone : m.bindings = [] := by
          simpa [Message.isPacked, h m List.mem_cons_self] using hpacked
        rw [List.filter_cons_of_neg hpacked, choiceNames_cons, hrest, Message.enums, hnone]
        rfl

/-- Messages are bound in the role that they have. -/
theorem role_bound {context : Context} {messages : List Schema.Message} {ms : List Message}
    (h : context.bound messages = .ok ms) : ∀ m ∈ ms, m.role ≠ .unclassified := by
  replace h := Context.forall₂_bound h
  generalize messages.filter Schema.Message.isClassified = classified at h
  induction h with
  | nil => simp
  | cons hbind _ ih =>
      obtain ⟨hclassified, hbind⟩ := hbind
      obtain ⟨bindings, -, rfl⟩ := except_map_eq_ok.mp hbind
      rw [List.forall_mem_cons]
      exact ⟨by simpa [Schema.Message.isClassified] using hclassified, ih⟩

/-! ### Blocks -/

/-- A piece of a header. -/
inductive Block where
  /-- The type of an enumeration, in its own guard. -/
  | type (e : Enumeration)
  /-- The structure of a message, its size and its functions. -/
  | struct (m : Message)
  deriving DecidableEq, Repr

namespace Block

/-- The lines of a block. -/
def lines : Block → List String
  | type e => enumLines e
  | struct m => structLines m.name m.bindings

/-- The text of a block. -/
def text (b : Block) : String := unlines b.lines

/-- The enumeration whose type a block is. -/
def type? : Block → Option Enumeration
  | type e => some e
  | struct _ => none

/-- The message whose structure a block is. -/
def struct? : Block → Option Message
  | type _ => none
  | struct m => some m

end Block

/-- The blocks for messages; the types of those `seen` stand before them. -/
def blocks (seen : List String) : List Message → List Block
  | [] => []
  | m :: ms =>
    (freshEnums seen m.bindings).map .type
      ++ .struct m :: blocks ((freshEnums seen m.bindings).map Enumeration.name ++ seen) ms

theorem flatMap_lines_blocks (seen : List String) (ms : List Message) :
    (blocks seen ms).flatMap Block.lines = declarationLines seen ms := by
  induction ms generalizing seen with
  | nil => rfl
  | cons m ms ih =>
      rw [blocks, declarationLines, List.flatMap_append, List.flatMap_cons, ih, List.flatMap_map,
        List.append_assoc]
      rfl

theorem join_text_blocks (bs : List Block) :
    String.join (bs.map Block.text) = unlines (bs.flatMap Block.lines) := by
  induction bs with
  | nil => rfl
  | cons b bs ih => rw [List.map_cons, String.join_cons, List.flatMap_cons, unlines_append, ih,
      Block.text]

theorem filterMap_struct?_types (es : List Enumeration) :
    (es.map Block.type).filterMap Block.struct? = [] := by
  rw [List.filterMap_map]
  exact List.filterMap_eq_nil_iff.mpr fun _ _ => rfl

theorem filterMap_type?_types (es : List Enumeration) :
    (es.map Block.type).filterMap Block.type? = es := by
  rw [List.filterMap_map]
  exact List.filterMap_some

theorem structs_blocks (seen : List String) (ms : List Message) :
    (blocks seen ms).filterMap Block.struct? = ms := by
  induction ms generalizing seen with
  | nil => rfl
  | cons m ms ih =>
      rw [blocks, List.filterMap_append, filterMap_struct?_types, List.nil_append,
        filterMap_cons_toList, ih]
      rfl

/-! ### Names without repetitions -/

/-- The new enumerations of a message are the names that it is the first to have. -/
theorem map_name_freshEnums (seen : List String) (bindings : List Binding) :
    (freshEnums seen bindings).map Enumeration.name
      = (((bindings.filterMap fun b => enumOf? b.representation).map Enumeration.name).filter
          (· ∉ seen)).eraseDups := by
  induction bindings generalizing seen with
  | nil => rfl
  | cons b bs ih =>
      rw [freshEnums]
      cases hchoice : enumOf? b.representation with
      | none =>
          simp only [List.filterMap_cons, hchoice]
          exact ih seen
      | some e =>
          simp only [List.filterMap_cons, hchoice, List.map_cons]
          by_cases hseen : seen.contains e.name = true
          · have hmem : ¬ (e.name ∉ seen) := by simpa using hseen
            rw [if_pos hseen, List.filter_cons_of_neg (by simpa using hmem)]
            exact ih seen
          · have hmem : e.name ∉ seen := by simpa using hseen
            rw [if_neg hseen, List.filter_cons_of_pos (by simpa using hmem), List.eraseDups_cons,
              List.map_cons, ih, filter_not_mem_cons]

/-- The types of the blocks are the names that messages choose from, without repetitions. -/
theorem map_name_blocks (seen : List String) (ms : List Message) :
    ((blocks seen ms).filterMap Block.type?).map Enumeration.name
      = ((choiceNames ms).filter (· ∉ seen)).eraseDups := by
  induction ms generalizing seen with
  | nil => rfl
  | cons m ms ih =>
      rw [blocks, List.filterMap_append, filterMap_type?_types, filterMap_cons_toList,
        List.map_append, choiceNames_cons, eraseDups_filter_append]
      show _ ++ ((blocks _ ms).filterMap Block.type?).map Enumeration.name = _
      rw [ih, map_name_freshEnums]
      rfl

/-! ### The place of a type -/

/-- What a message chooses from was seen before it or is new with it. -/
theorem mem_freshEnums_or_seen {seen : List String} {m : Message} {name : String}
    (h : name ∈ m.enums.map Enumeration.name) :
    name ∈ (freshEnums seen m.bindings).map Enumeration.name ++ seen := by
  obtain ⟨e, he, rfl⟩ := List.mem_map.mp h
  obtain ⟨b, hb, hchoice⟩ := List.mem_filterMap.mp he
  rw [List.mem_append]
  rcases mem_freshEnums hb hchoice seen with hseen | ⟨e', he', hname⟩
  · exact .inr hseen
  · exact .inl (List.mem_map.mpr ⟨e', he', hname⟩)

theorem name_not_mem_of_mem_freshEnums {seen : List String} {bindings : List Binding}
    {e : Enumeration} (h : e ∈ freshEnums seen bindings) : e.name ∉ seen := by
  have hmem := List.mem_map_of_mem (f := Enumeration.name) h
  rw [map_name_freshEnums, List.mem_eraseDups, List.mem_filter] at hmem
  exact of_decide_eq_true hmem.2

/-- A type stands behind the structures of all messages before the first one that chooses from
it, and in front of the structure of that message. -/
theorem place_of_type {ms : List Message} {seen : List String} {front back : List Block}
    {e : Enumeration} (h : blocks seen ms = front ++ .type e :: back) :
    e.name ∉ seen ∧ ∃ before m after, ms = before ++ m :: after
      ∧ e ∈ m.enums ∧ (∀ n ∈ before, e.name ∉ n.enums.map Enumeration.name)
      ∧ front.filterMap Block.struct? = before ∧ back.filterMap Block.struct? = m :: after := by
  induction ms generalizing seen front with
  | nil =>
      rw [blocks] at h
      exact absurd h.symm (by simp)
  | cons m ms ih =>
      rw [blocks] at h
      rcases List.append_eq_append_iff.mp h with ⟨more, hfront, hlater⟩ | ⟨more, hfresh, hback⟩
      · -- the type is new with a later message
        cases more with
        | nil => cases hlater
        | cons first more =>
            obtain ⟨rfl, hblocks⟩ := List.cons.inj hlater
            obtain ⟨hseen, before, m', after, rfl, he, hbefore, hstructs, hrest⟩ := ih hblocks
            rw [List.mem_append, not_or] at hseen
            refine ⟨hseen.2, m :: before, m', after, rfl, he, ?_, ?_, hrest⟩
            · rw [List.forall_mem_cons]
              refine ⟨fun hmem => ?_, hbefore⟩
              rcases List.mem_append.mp (mem_freshEnums_or_seen hmem) with hnew | hold
              · exact hseen.1 hnew
              · exact hseen.2 hold
            · rw [hfront, List.filterMap_append, filterMap_struct?_types, List.nil_append,
                filterMap_cons_toList, hstructs]
              rfl
      · cases more with
        | nil => cases hback
        | cons first more =>
            obtain ⟨rfl, rfl⟩ := List.cons.inj hback
            have he : e ∈ freshEnums seen m.bindings := by
              have hmem : Block.type e ∈ (freshEnums seen m.bindings).map Block.type := by
                rw [hfresh]
                exact List.mem_append_right _ List.mem_cons_self
              obtain ⟨e', he', heq⟩ := List.mem_map.mp hmem
              cases heq
              exact he'
            have hnone {part : List Block} (hsub : ∀ b ∈ part, b ∈ front ++ .type e :: more) :
                part.filterMap Block.struct? = [] := by
              rw [List.filterMap_eq_nil_iff]
              intro b hb
              have hmem := hsub b hb
              rw [← hfresh] at hmem
              obtain ⟨e', -, rfl⟩ := List.mem_map.mp hmem
              rfl
            refine ⟨name_not_mem_of_mem_freshEnums he, [], m, ms, rfl, ?_, by simp, ?_, ?_⟩
            · exact List.mem_filterMap.mpr (mem_enums_of_mem_freshEnums he)
            · exact hnone fun b hb => List.mem_append_left _ hb
            · rw [List.append_eq, List.filterMap_append, filterMap_cons_toList, structs_blocks,
                hnone fun b hb => List.mem_append_right _ (List.mem_cons_of_mem _ hb)]
              rfl

/-! ### Whole files -/

/-- Blocks that declare what messages need when it is first needed. -/
structure DeclareAtFirstUse (bs : List Block) (ms : List Message) : Prop where
  /-- There is a structure for each packed message, in order. -/
  structs : bs.filterMap Block.struct? = ms.filter Message.isPacked
  /-- The types are those that members choose from, each at its first place. -/
  types : (bs.filterMap Block.type?).map Enumeration.name = (choiceNames ms).eraseDups
  /-- A type comes after the structures of all messages before the first one that chooses from
  it, and before the structure of that message. -/
  place : ∀ front e back, bs = front ++ .type e :: back →
    ∃ before m after, ms.filter Message.isPacked = before ++ m :: after
      ∧ e ∈ m.enums ∧ (∀ n ∈ before, e.name ∉ n.enums.map Enumeration.name)
      ∧ front.filterMap Block.struct? = before ∧ back.filterMap Block.struct? = m :: after

theorem declareAtFirstUse_blocks {ms : List Message} (h : ∀ m ∈ ms, m.role ≠ .unclassified) :
    DeclareAtFirstUse (blocks [] (ms.filter Message.isPacked)) ms where
  structs := structs_blocks [] _
  types := by
    rw [map_name_blocks, choiceNames_filter h, List.filter_eq_self.mpr (by simp)]
  place := fun _ _ _ hblocks => (place_of_type hblocks).2

/-- The header that consists of blocks. -/
def headerWith (name : String) (bs : List Block) : Output.File where
  name := name
  content := headerPreamble (C.guardName name) ++ String.join (bs.map Block.text)
    ++ headerEpilogue (C.guardName name)

/-- The source that defines the functions of messages, for the header with a name. -/
def sourceWith (name headerFile : String) (ms : List Message) : Output.File where
  name := name
  content := sourcePreamble (Output.baseName headerFile) ++ String.join (ms.map fun m => unlines (
    "" :: (packRoutine m.name m.bindings).lines ++ "" :: (unpackRoutine m.name m.bindings).lines))

section Texts

variable {ms : List Message} (h : ∀ m ∈ ms, m.isPacked = true)

include h

theorem header_eq (name : String) : header name ms = headerWith name (blocks [] ms) := by
  unfold header headerWith Output.assemble
  rw [join_text_blocks, flatMap_lines_blocks, ← join_declarations h]

theorem source_eq (name headerFile : String) :
    source name headerFile ms = sourceWith name headerFile ms := by
  have hdefinitions : (ms.map definition).map Output.Part.text
      = ms.map fun m => unlines (
        "" :: (packRoutine m.name m.bindings).lines
          ++ "" :: (unpackRoutine m.name m.bindings).lines) := by
    rw [List.map_map]
    refine List.map_congr_left fun m hm => ?_
    rw [Function.comp_apply, definition, if_pos (h m hm)]
  unfold source sourceWith Output.assemble
  rw [hdefinitions, String.append_empty]

end Texts

variable {context : Context} {schema : Schema.File} {outputs : List Output.File}

/-- **A header declares what it needs, once, at its first use.**  For a file whose messages can
be bound, the header is a row of blocks between its beginning and its end: the structures of the
packed messages, in order, and the types of the enumerations that fields of messages with a role
refer to, each once, in the order of the first references and right in front of the structure
that is the first to need it.  The source has the functions of the same messages, in the same
order. -/
theorem types_at_first_use (h : (files context schema).result = .ok outputs) :
    ∃ ms bs, context.bound schema.messages = .ok ms ∧ DeclareAtFirstUse bs ms
      ∧ choiceNames ms = schema.enumNames
      ∧ outputs = [
          headerWith (Output.fileName headerName schema.stem context.selected) bs,
          sourceWith (Output.fileName sourceName schema.stem context.selected)
            (Output.fileName headerName schema.stem context.selected)
            (bs.filterMap Block.struct?)] := by
  rw [result_files] at h
  obtain ⟨ms, hms, rfl⟩ := except_map_eq_ok.mp h
  have hpacked : ∀ m ∈ ms.filter Message.isPacked, m.isPacked = true := fun m hm =>
    (List.mem_filter.mp hm).2
  have hdeclare := declareAtFirstUse_blocks (role_bound hms)
  refine ⟨ms, _, hms, hdeclare, choiceNames_bound hms, ?_⟩
  rw [hdeclare.structs]
  show [header _ _, source _ _ _] = _
  rw [header_eq hpacked, source_eq hpacked]

/-- A file with messages that choose from three of four enumerations, one of them twice. -/
def driveSchema : Schema.File where
  name := "drive.proto"
  package := some "fw"
  messages := [
    ⟨"DriveCtl", [⟨"mode", 1, .enumeration ".fw.Mode"⟩, ⟨"torque", 2, .int64⟩,
      ⟨"gear", 3, .enumeration ".fw.Gear"⟩]⟩,
    ⟨"Note", [⟨"gear", 1, .enumeration ".fw.Unused"⟩]⟩,
    ⟨"DriveTlm", [⟨"gear", 1, .enumeration ".fw.Gear"⟩, ⟨"fault", 2, .enumeration ".fw.Fault"⟩]⟩]
  enums := [⟨".fw.Fault", [⟨"NONE", 0⟩]⟩, ⟨".fw.Gear", [⟨"LOW", 0⟩]⟩, ⟨".fw.Mode", [⟨"OFF", 0⟩]⟩,
    ⟨".fw.Unused", [⟨"X", 0⟩]⟩]

theorem types_at_first_use_drive :
    ∃ outputs bs,
      (files ⟨.ofFiles [driveSchema], .default, 1⟩ driveSchema).result = .ok outputs
        ∧ (bs.filterMap Block.type?).map Enumeration.name = [".fw.Mode", ".fw.Gear", ".fw.Fault"]
        ∧ outputs = [headerWith "can.pb.h" bs,
          sourceWith "can.pb.c" "can.pb.h" (bs.filterMap Block.struct?)] := by
  obtain ⟨outputs, hfiles⟩ : ∃ outputs,
      (files ⟨.ofFiles [driveSchema], .default, 1⟩ driveSchema).result = .ok outputs :=
    exists_ok_of_isSome (by decide +kernel)
  obtain ⟨ms, bs, -, hdeclare, hnames, houtputs⟩ := types_at_first_use hfiles
  refine ⟨outputs, bs, hfiles, ?_, houtputs⟩
  rw [hdeclare.types, hnames]
  decide +kernel

end Can

end DeviceGen
