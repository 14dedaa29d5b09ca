/-
The functions of a message, run off the generated source.

The source of a message is read as a text: its helpers and then the two functions of the message.
The function for a direction is called by its name, with the macros that the declaration of the
message defines, and it does what its statements say.  So whatever is known of the statements is
known of the text.

This needs a text in C.  A message has one if its own name and those of its fields are identifiers
and its enumerations have types of their own.
-/
import DeviceGen.Proofs.C.Agreement
import DeviceGen.Proofs.C.Declarations
import DeviceGen.Proofs.Can.BlockNames
import DeviceGen.Proofs.Can.Helpers

namespace DeviceGen.Can

open DeviceGen.C (Defines Direction Function IsIdentifier Linkage Memory Outcome Routine Stmt
  callWithin enumType macroValue? sizeMacro)
open DeviceGen.Text (anyNext unlines)

/-! ### Readable messages -/

/-- A message with a text in C. -/
structure Message.IsReadable (m : Message) : Prop where
  name : IsIdentifier m.name
  fields : ∀ b ∈ m.bindings, IsIdentifier b.name
  types : ∀ e ∈ m.enums, IsIdentifier (enumType e.name) ∧ enumType e.name ∉ C.ownTypes.map Prod.fst

theorem enumType?_memberType (r : Representation) :
    (memberType r).enumType? = (enumOf? r).map fun e => enumType e.name := by
  rcases r with ⟨_ | _, _ | _⟩ | ⟨_ | _⟩ | _ | _ <;> rfl

/-- The type of a member has a name of its own. -/
theorem Message.IsReadable.enumType {m : Message} (h : m.IsReadable) {b : Binding}
    (hb : b ∈ m.bindings) : ∀ name ∈ (memberType b.representation).enumType?.toList,
      IsIdentifier name ∧ name ∉ C.ownTypes.map Prod.fst := by
  intro name hname
  rw [enumType?_memberType, Option.mem_toList] at hname
  obtain ⟨e, he, rfl⟩ := Option.map_eq_some_iff.mp hname
  exact h.types e (List.mem_filterMap.mpr ⟨b, hb, he⟩)

section Statements

variable (offset : Nat) (member : String) (r : Representation)

theorem isPlain_packStmt : (packStmt offset member r).value.isPlain = true := by
  cases r <;> rfl

theorem isPlain_unpackStmt : (unpackStmt offset member r).value.isPlain = true := by
  rcases r with ⟨_, _ | _⟩ | _ | _ | _ <;> rfl

theorem offsets_packStmt : (packStmt offset member r).offsets = [offset] := by
  cases r <;> rfl

theorem offsets_unpackStmt : (unpackStmt offset member r).offsets = [offset] := by
  rcases r with ⟨_, _ | _⟩ | _ | _ | _ <;> rfl

end Statements

theorem packedSize_cons (b : Binding) (bs : List Binding) :
    packedSize (b :: bs) = packedBytes b.representation + packedSize bs := rfl

/-- No value begins behind the last byte. -/
theorem le_of_mem_placedFrom {offset place : Nat} {b : Binding} {bs : List Binding}
    (h : (place, b) ∈ placedFrom offset bs) : place ≤ offset + packedSize bs := by
  induction bs generalizing offset with
  | nil => cases h
  | cons c bs ih =>
      rw [placedFrom, List.mem_cons] at h
      rcases h with h | h
      · cases h
        exact Nat.le_add_right _ _
      · have hplace := ih h
        rw [packedSize_cons]
        omega

section Statements

variable {b : Binding} {place : Nat} (hfield : IsIdentifier b.name) (hplace : place < 2 ^ 31)

include hfield hplace

theorem isCode_packStmt : (packStmt place (memberOf b) b.representation).IsCode := by
  refine ⟨isPlain_packStmt _ _ _, ?_, ?_, ?_⟩
  · rw [members_packStmt, enumTypes_packStmt]
    exact List.forall_mem_singleton.mpr hfield.memberName
  · rw [enumTypes_packStmt]
    exact List.forall_mem_nil _
  · rw [offsets_packStmt]
    exact List.forall_mem_singleton.mpr hplace

theorem isCode_unpackStmt (htypes : ∀ name ∈ (memberType b.representation).enumType?.toList,
      IsIdentifier name ∧ name ∉ C.ownTypes.map Prod.fst) :
    (unpackStmt place (memberOf b) b.representation).IsCode := by
  have hcast : ∀ name ∈ (unpackStmt place (memberOf b) b.representation).enumTypes,
      IsIdentifier name ∧ name ∉ C.ownTypes.map Prod.fst := by
    rw [enumTypes_unpackStmt, ← Option.toList_map, ← enumType?_memberType]
    exact htypes
  refine ⟨isPlain_unpackStmt _ _ _, ?_, fun name hname => (hcast name hname).2, ?_⟩
  · rw [members_unpackStmt]
    exact List.forall_mem_cons.mpr ⟨hfield.memberName, fun name hname => (hcast name hname).1⟩
  · rw [offsets_unpackStmt]
    exact List.forall_mem_singleton.mpr hplace

end Statements

/-- The function of a message for a direction. -/
def Message.routine (m : Message) : Direction → Routine
  | .pack => packRoutine m.name m.bindings
  | .unpack => unpackRoutine m.name m.bindings

theorem Message.IsReadable.isCode {m : Message} (h : m.IsReadable)
    (hsize : packedSize m.bindings < 2 ^ 31) (direction : Direction) :
    (m.routine direction).IsCode := by
  have hplaced {place : Nat} {b : Binding} (hb : (place, b) ∈ placed m.bindings) :
      IsIdentifier b.name ∧ place < 2 ^ 31 ∧ b ∈ m.bindings := by
    have hmem := mem_of_mem_placed hb
    have hplace := le_of_mem_placedFrom hb
    exact ⟨h.fields b hmem, by omega, hmem⟩
  cases direction with
  | pack =>
      refine ⟨h.name, fun s hs => ?_⟩
      obtain ⟨⟨place, b⟩, hb, rfl⟩ := List.mem_map.mp hs
      obtain ⟨hfield, hplace, -⟩ := hplaced hb
      exact isCode_packStmt hfield hplace
  | unpack =>
      refine ⟨h.name, fun s hs => ?_⟩
      obtain ⟨⟨place, b⟩, hb, rfl⟩ := List.mem_map.mp hs
      obtain ⟨hfield, hplace, hmem⟩ := hplaced hb
      exact isCode_unpackStmt hfield hplace (h.enumType hmem)

/-! ### The text of a declaration -/

/-- The member for a binding, as it is declared. -/
def declaredMember (b : Binding) : C.Member where
  type := (memberType b.representation).text
  name := memberOf b

/-- The structure of a message. -/
def Message.type (m : Message) : C.Structure where
  name := m.name ++ "_t"
  members := m.bindings.map declaredMember

/-- The declaration of a message is read off its text as its structure and its functions, and the
types of the members are those of the values in them. -/
structure Message.IsDeclared (m : Message) : Prop where
  text : C.declaration? (declaration m).text = some ⟨m.type,
    [(m.routine .pack).function.toSignature, (m.routine .unpack).function.toSignature]⟩
  types : ∀ b ∈ m.bindings, C.CType.named? (declaredMember b).type
    = some (memberType b.representation).promoted

section Declarations

variable {m : Message} (h : m.IsReadable)

include h

theorem unbroken_lines : ∀ line ∈ structLines m.name m.bindings, Unbroken line :=
  unbroken_structLines h.name.isWord (fun b hb => unbroken_memberOf (h.fields b hb).isWord)
    fun e he => .of_isWord (h.types e he).1.isWord

theorem spells_memberLine {b : Binding} (hb : b ∈ m.bindings) :
    C.Spells (memberLine b).toList (declaredMember b).tokens anyNext :=
  C.Member.spells_line (C.CType.isIdentifier_text fun name hname => (h.enumType hb name hname).1)
    (h.fields b hb).memberName

theorem spells_memberLines {bs : List Binding} (hbs : ∀ b ∈ bs, b ∈ m.bindings) :
    C.Spells (unlines (bs.map memberLine)).toList ((bs.map declaredMember).flatMap
      C.Member.tokens) anyNext := by
  induction bs with
  | nil => exact C.spells_unlines_nil
  | cons b bs ih =>
      rw [List.forall_mem_cons] at hbs
      exact (spells_memberLine h hbs.1).anywhere.line (ih hbs.2)

theorem spells_membersLines :
    C.Spells (unlines (membersLines m.name m.bindings)).toList m.type.tokens anyNext := by
  have hclose := C.Structure.spells_closing (h.name.append (by decide))
  have hall := (C.Structure.spells_opening.join
    (spells_memberLines h fun _ hb => hb)).join hclose
  rw [← Text.unlines_append, ← Text.unlines_append] at hall
  simpa [C.Structure.tokens, Message.type, membersLines] using hall

/-- The tokens of a declaration are those of the structure and of the functions. -/
theorem spells_structLines :
    C.Spells (unlines (structLines m.name m.bindings)).toList
      (m.type.tokens ++ (C.Routine.prototypeTokens .pack m.name
        ++ C.Routine.prototypeTokens .unpack m.name)) anyNext := by
  have hfunctions : C.Spells (unlines (functionLines m.name)).toList
      (C.Routine.prototypeTokens .pack m.name ++ C.Routine.prototypeTokens .unpack m.name)
      anyNext :=
    C.Spells.empty.line ((C.Routine.spells_prototype .pack h.name).anywhere.line
      (C.Routine.spells_prototype .unpack h.name).oneLine)
  have hsize : C.Spells (unlines (sizeLine m.name m.bindings :: functionLines m.name)).toList
      (C.Routine.prototypeTokens .pack m.name ++ C.Routine.prototypeTokens .unpack m.name)
      anyNext := by
    refine hfunctions.behindDirective (by simp [sizeLine]) ?_
    exact unbroken_lines h _ (by simp [structLines, sizeLine])
  have hall := (spells_membersLines h).join hsize
  rw [← Text.unlines_append] at hall
  rw [structLines_eq, List.append_assoc]
  exact hall

theorem Message.IsReadable.isDeclared (hpacked : m.isPacked = true) : m.IsDeclared := by
  refine ⟨?_, fun b hb => ?_⟩
  · rw [C.declaration?, declaration, if_pos hpacked, (spells_structLines h).ofText]
    exact C.TokenReader.whole_of_run (C.Routine.read_declaration m.type m.name)
  · exact C.CType.named?_text fun name hname => (h.enumType hb name hname).2

end Declarations

/-! ### The text of a source -/

/-- The beginning of a source has the helpers in it, and nothing else. -/
theorem defines_preambleLines : Defines (preambleLines headerName) helpers := by
  have hinclude : includeLine (Output.baseName headerName) = "#include \"can.pb.h\"" := by
    decide +kernel
  show Defines (preambleLines headerName) ([] ++ helpers)
  unfold preambleLines
  rw [hinclude]
  refine Defines.append ?_ defines_helperLines
  apply Defines.of_chars
  · repeat apply C.lines_eq_cons
    apply C.lines_eq_nil
  all_goals decide +kernel

/-- The functions in the source of a message. -/
def Message.program (m : Message) : List Function :=
  helpers ++ [(m.routine .pack).function, (m.routine .unpack).function]

section Texts

variable {m : Message} (h : m.IsReadable) (hpacked : m.isPacked = true)
  (hsize : packedSize m.bindings < 2 ^ 31)

include h hpacked

theorem lines_declaration : Text.lines (declaration m).text = structLines m.name m.bindings := by
  rw [declaration, if_pos hpacked]
  exact Text.lines_unlines (unbroken_lines h)

include hsize

/-- The functions are read off the source. -/
theorem functions?_source :
    C.functions? (source sourceName headerName [m]).content = some m.program := by
  have hlines : sourceLines headerName [m] = preambleLines headerName
      ++ ("" :: (m.routine .pack).lines ++ "" :: (m.routine .unpack).lines) := by
    rw [sourceLines, List.flatMap_singleton]
    rfl
  rw [source_eq (List.forall_mem_singleton.mpr hpacked), content_sourceWith, hlines]
  exact (defines_preambleLines.append ((h.isCode hsize .pack).defines.blank.append
    (h.isCode hsize .unpack).defines.blank)).functions?_unlines

end Texts

/-- How the name of the function for a direction begins. -/
def initials : Direction → List Char
  | .pack => ['p', 'a']
  | .unpack => ['u', 'n']

theorem take_function (direction : Direction) (message : String) :
    (direction.function message).toList.take 2 = initials direction := by
  cases direction <;> simp [Direction.function, initials]

/-- The function for a direction is found by its name, which begins like that of no other one. -/
theorem find?_program (m : Message) (direction : Direction) :
    m.program.find? (·.name = direction.function m.name)
      = some (m.routine direction).function := by
  have hnames : ∀ f ∈ helpers, f.name.toList.take 2 ≠ ['p', 'a']
      ∧ f.name.toList.take 2 ≠ ['u', 'n'] := by decide
  have hhelper : helpers.find? (·.name = direction.function m.name) = none := by
    rw [List.find?_eq_none]
    intro f hf heq
    have hfirst := take_function direction m.name
    rw [← of_decide_eq_true heq] at hfirst
    cases direction with
    | pack => exact (hnames f hf).1 hfirst
    | unpack => exact (hnames f hf).2 hfirst
  have hapart : Direction.pack.function m.name ≠ Direction.unpack.function m.name := by
    intro heq
    have hfirst := take_function .pack m.name
    rw [heq, take_function] at hfirst
    exact absurd hfirst (by decide)
  rw [Message.program, List.find?_append, hhelper, Option.none_or]
  cases direction with
  | pack => exact List.find?_cons_of_pos (decide_eq_true rfl)
  | unpack =>
      rw [List.find?_cons_of_neg (by exact mt of_decide_eq_true hapart)]
      exact List.find?_cons_of_pos (decide_eq_true rfl)

/-- The declaration of a message defines the macro that its functions ask. -/
theorem macroValue?_structLines (message : String) (bindings : List Binding) :
    macroValue? (sizeMacro message) (structLines message bindings)
      = some (packedSize bindings) := by
  have hmembers : (bindings.map memberLine).findSome? (C.macroOfLine? (sizeMacro message))
      = none := by
    rw [List.findSome?_eq_none_iff]
    intro line hline
    obtain ⟨b, -, rfl⟩ := List.mem_map.mp hline
    apply C.macroOfLine?_other
    simp [memberLine]
  have hopen (line : String) (h : line ∈ ["", "typedef struct \x7b"]) :
      C.macroOfLine? (sizeMacro message) line = none := by
    apply C.macroOfLine?_other
    rcases List.mem_cons.mp h with rfl | h
    · decide
    · rw [List.mem_singleton.mp h]
      decide
  have hclose : C.macroOfLine? (sizeMacro message) ("\x7d " ++ message ++ "_t;") = none := by
    apply C.macroOfLine?_other
    simp
  have hempty := hopen "" (by simp)
  have hdefine := C.macroOfLine?_define (sizeMacro message) (packedSize bindings)
  unfold macroValue? structLines
  rw [List.findSome?_append, List.findSome?_append, hmembers,
    List.findSome?_eq_none_iff.mpr hopen, Option.or_none, Option.none_or]
  simp only [List.findSome?_cons, hclose, hempty, hdefine]

/-! ### Calls -/

/-- A call of the function of a message for a direction, as the generated source defines it, with
the macros of the generated declaration. -/
def execute (direction : Direction) (m : Message) : Memory → Option Outcome :=
  C.callByText (Text.lines (declaration m).text) (source sourceName headerName [m]).content
    (direction.function m.name)

/-- What stands outside of a function of a message: the macros of its declaration, and all functions
of its source, of which no more than nine call each other. -/
def Message.linkage (m : Message) : Linkage where
  defined := (macroValue? · (structLines m.name m.bindings))
  call := callWithin (macroValue? · (structLines m.name m.bindings)) m.program 9

theorem Message.defined_linkage (m : Message) (name : String) :
    m.linkage.defined name = macroValue? name (structLines m.name m.bindings) := rfl

theorem Message.helps_linkage (m : Message) : m.linkage.Helps := ⟨puts_helpers, gets_helpers⟩

/-- **The text of a function does what its statements say.** -/
theorem execute_of_call {m : Message} (h : m.IsReadable) (hpacked : m.isPacked = true)
    (hsize : packedSize m.bindings < 2 ^ 31) (direction : Direction) {memory : Memory}
    {outcome : Outcome}
    (hcall : (m.routine direction).call (structLines m.name m.bindings) memory = some outcome) :
    execute direction m memory = some outcome := by
  have hmessage : (m.routine direction).message = m.name := by cases direction <;> rfl
  have hvalue : macroValue? (sizeMacro (m.routine direction).message)
      (structLines m.name m.bindings) = some (packedSize m.bindings) := by
    rw [hmessage, macroValue?_structLines]
  have hdefined : m.linkage.defined (sizeMacro (m.routine direction).message)
      = some (packedSize m.bindings) := by
    rw [m.defined_linkage, hvalue]
  obtain ⟨v, hv, hrun⟩ :=
    (h.isCode hsize direction).call_function hdefined hsize m.helps_linkage hvalue hcall
  have hcalled : callWithin (macroValue? · (structLines m.name m.bindings)) m.program
      m.program.length (direction.function m.name) [.object, .place 0, .size memory.buffer.length]
      memory = some (some (.value (.int32 v)), outcome.memory) := by
    have hdepth : m.program.length = 9 + 1 := rfl
    rw [hdepth, C.callWithin_succ (find?_program m direction)]
    exact hrun
  unfold execute C.callByText
  rw [functions?_source h hpacked hsize, lines_declaration h hpacked]
  simp only [Option.bind_eq_bind, Option.bind_some, hcalled, hv]
  rfl

end DeviceGen.Can
