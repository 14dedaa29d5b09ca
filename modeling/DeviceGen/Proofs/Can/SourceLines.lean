/-
The lines of a source.

A source is printed as a text like a header.  Its lines are those of its helpers and then, for
each message, those of the two functions that the header declares.  Names that consist of letters,
digits and underscores do not break them, whatever the statements of a function are, so what is
read off the text is what the functions are named.
-/
import DeviceGen.Proofs.C.Names
import DeviceGen.Proofs.Can.FirstUse

namespace DeviceGen

open DeviceGen.C (CType Direction Expr IsIdentifier Routine Stmt function? sizeMacro)
open DeviceGen.Text (IsWord unlines unlines_append)

/-! ### Functions -/

namespace C

open DeviceGen.Can (Unbroken unbroken_toString_nat)

theorem unbroken_byteText (offset : Nat) : Unbroken (byteText offset) :=
  (Unbroken.append (by decide) (unbroken_toString_nat offset)).append (by decide)

theorem unbroken_memberText {name : String} (h : IsWord name) : Unbroken (memberText name) :=
  .append (by decide) (.of_isWord h)

theorem Word.unbroken_text (word : Word) : Unbroken word.text := by
  cases word <;> decide

theorem CType.unbroken_text {type : CType} (h : ∀ name ∈ type.enumType?.toList, IsWord name) :
    Unbroken type.text := by
  cases type with
  | enumeration enumName => exact .of_isWord (h _ List.mem_cons_self)
  | _ => decide

theorem Expr.unbroken_text {e : Expr} (h : ∀ name ∈ e.members ++ e.enumTypes, IsWord name) :
    Unbroken e.text := by
  induction e with
  | member name => exact unbroken_memberText (h name List.mem_cons_self)
  | byte offset => exact unbroken_byteText offset
  | get word offset =>
      exact (((Unbroken.append (by decide) word.unbroken_text).append (by decide)).append
        (unbroken_byteText offset)).append (by decide)
  | cast type e ih =>
      simp only [Expr.members, Expr.enumTypes, List.forall_mem_append] at h ih
      have htype := CType.unbroken_text h.2.1
      exact ((Unbroken.append (by decide) htype).append (by decide)).append (ih ⟨h.1, h.2.2⟩)
  | oneIf e ih => exact (ih h).append (by decide)
  | nonzero e ih => exact (ih h).append (by decide)

theorem Stmt.unbroken_text {s : Stmt} (h : ∀ name ∈ s.members ++ s.enumTypes, IsWord name) :
    Unbroken s.text := by
  cases s with
  | put word offset e =>
      exact ((((((Unbroken.append (by decide) word.unbroken_text).append (by decide)).append
        (unbroken_byteText offset)).append (by decide)).append (e.unbroken_text h)).append
        (by decide))
  | setByte offset e =>
      exact (((unbroken_byteText offset).append (by decide)).append (e.unbroken_text h)).append
        (by decide)
  | setMember name e =>
      rw [Stmt.members, List.cons_append, List.forall_mem_cons] at h
      exact (((unbroken_memberText h.1).append (by decide)).append (e.unbroken_text h.2)).append
        (by decide)

namespace Routine

variable {routine : Routine}

theorem unbroken_head (direction : Direction) {message : String} (h : IsWord message) :
    Unbroken (head direction message) := by
  have hname : Unbroken message := .of_isWord h
  cases direction with
  | pack =>
      exact (((Unbroken.append (by decide) hname).append (by decide)).append hname).append
        (by decide)
  | unpack =>
      exact (((Unbroken.append (by decide) hname).append (by decide)).append hname).append
        (by decide)

theorem unbroken_lines (hmessage : IsWord routine.message)
    (hnames : ∀ name ∈ routine.names, IsWord name) : ∀ line ∈ routine.lines, Unbroken line := by
  have hbody : ∀ s ∈ routine.body, ∀ name ∈ s.members ++ s.enumTypes, IsWord name :=
    fun s hs name hname =>
      hnames name (List.mem_append_right _ (List.mem_flatMap.mpr ⟨s, hs, hname⟩))
  have hsize : Unbroken (sizeMacro routine.message) := .of_isWord (Can.isWord_sizeMacro hmessage)
  intro line hline
  simp only [lines, List.mem_append, List.mem_cons, List.not_mem_nil, or_false,
    List.mem_map] at hline
  rcases hline with ((rfl | rfl | rfl | rfl) | ⟨s, hs, rfl⟩) | rfl | rfl
  · exact (unbroken_head routine.direction hmessage).append (by decide)
  · exact (Unbroken.append (by decide) hsize).append (by decide)
  · decide
  · decide
  · exact .append (by decide) (Stmt.unbroken_text (hbody s hs))
  · exact (Unbroken.append (by decide) hsize).append (by decide)
  · decide

/-- A function is read off its first line, and no other one off the rest. -/
theorem filterMap_function?_lines (h : IsIdentifier routine.message) :
    routine.lines.filterMap function? = [routine.direction.function routine.message] := by
  have hinside : ∀ line ∈ (["  if (len < " ++ sizeMacro routine.message ++ ") \x7b",
      "    return -1;", "  \x7d"] ++ routine.body.map (fun s => "  " ++ s.text)
      ++ ["  return (int)" ++ sizeMacro routine.message ++ ";", "\x7d"]), function? line = none := by
    intro line hline
    simp only [List.mem_append, List.mem_cons, List.not_mem_nil, or_false, List.mem_map] at hline
    rcases hline with ((rfl | rfl | rfl) | ⟨s, -, rfl⟩) | rfl | rfl
    · exact function?_eq_none (c := ' ') (by simp) (by decide)
    · decide
    · decide
    · exact function?_eq_none (c := ' ') (by simp) (by decide)
    · exact function?_eq_none (c := ' ') (by simp) (by decide)
    · decide
  show (_ :: _).filterMap function? = _
  rw [List.filterMap_cons_some (name?_head routine.direction h _).2]
  exact congrArg (_ :: ·) (List.filterMap_eq_nil_iff.mpr hinside)

end Routine

end C

/-! ### The lines of a source -/

namespace Can

/-- The lines in front of the functions of a source. -/
def preambleLines (headerFile : String) : List String := [
    "/**",
    "* Generated File, do not track!",
    "* Implements functions to pack and unpack data structures for CAN tx/rx.",
    "*/",
    "#include <string.h>",
    "",
    includeLine (Output.baseName headerFile)] ++ helperLines

/-- The functions of a message. -/
def definitionLines (m : Message) : List String :=
  "" :: (packRoutine m.name m.bindings).lines ++ "" :: (unpackRoutine m.name m.bindings).lines

/-- The lines of a source. -/
def sourceLines (headerFile : String) (ms : List Message) : List String :=
  preambleLines headerFile ++ ms.flatMap definitionLines

theorem content_sourceWith (name headerFile : String) (ms : List Message) :
    (sourceWith name headerFile ms).content = unlines (sourceLines headerFile ms) := by
  have hdefinitions : String.join (ms.map fun m => unlines (definitionLines m))
      = unlines (ms.flatMap definitionLines) := by
    induction ms with
    | nil => rfl
    | cons m ms ih =>
        rw [List.map_cons, String.join_cons, ih, List.flatMap_cons, unlines_append]
  rw [sourceLines, unlines_append, ← hdefinitions]
  rfl

/-- The helpers of a source. -/
def helperFunctions : List String :=
  ["put_u32", "get_u32", "put_u64", "get_u64", "put_f32", "get_f32", "put_f64", "get_f64"]

/-- The functions of a message. -/
def Message.functions (m : Message) : List String :=
  [Direction.pack.function m.name, Direction.unpack.function m.name]

/-- A line that is given by its characters may be passed over. -/
theorem filterMap_function?_pass {cs : List Char} {lines names : List String}
    (h : C.functionChars? cs = none) (hrest : lines.filterMap function? = names) :
    (String.ofList cs :: lines).filterMap function? = names := by
  have hnone : function? (String.ofList cs) = none := by rwa [function?, String.toList_ofList]
  rw [List.filterMap_cons_none hnone, hrest]

theorem filterMap_function?_find {cs : List Char} {name : String} {lines names : List String}
    (h : C.functionChars? cs = some name) (hrest : lines.filterMap function? = names) :
    (String.ofList cs :: lines).filterMap function? = name :: names := by
  have hsome : function? (String.ofList cs) = some name := by rwa [function?, String.toList_ofList]
  rw [List.filterMap_cons_some hsome, hrest]

/-- The helpers are read off their lines, one after the other. -/
theorem filterMap_function?_helperLines : helperLines.filterMap function? = helperFunctions := by
  unfold helperLines helperFunctions
  -- the characters of a fixed line decide, without encoding and decoding it
  repeat' first
    | refine filterMap_function?_pass (by rfl) ?_
    | refine filterMap_function?_find (by rfl) ?_
    | rfl

theorem filterMap_function?_preambleLines (headerFile : String) :
    (preambleLines headerFile).filterMap function? = helperFunctions := by
  have hinclude : function? (includeLine (Output.baseName headerFile)) = none :=
    C.function?_eq_none (c := '#') (by simp [includeLine]) (by decide)
  unfold preambleLines
  iterate 6 refine filterMap_function?_pass (by rfl) ?_
  exact (List.filterMap_cons_none hinclude).trans filterMap_function?_helperLines

theorem filterMap_function?_sourceLines {ms : List Message} (h : ∀ m ∈ ms, IsIdentifier m.name)
    (headerFile : String) :
    (sourceLines headerFile ms).filterMap function?
      = helperFunctions ++ ms.flatMap Message.functions := by
  have hdefinition : ∀ m ∈ ms, (definitionLines m).filterMap function? = m.functions := by
    intro m hm
    have hpack : (packRoutine m.name m.bindings).lines.filterMap function?
        = [Direction.pack.function m.name] := C.Routine.filterMap_function?_lines (h m hm)
    have hunpack : (unpackRoutine m.name m.bindings).lines.filterMap function?
        = [Direction.unpack.function m.name] := C.Routine.filterMap_function?_lines (h m hm)
    rw [definitionLines, List.cons_append, List.filterMap_cons_none (by decide),
      List.filterMap_append, hpack, List.filterMap_cons_none (by decide), hunpack]
    rfl
  rw [sourceLines, List.filterMap_append, filterMap_function?_preambleLines,
    List.filterMap_flatMap, List.flatMap_def, List.map_congr_left hdefinition, ← List.flatMap_def]

/-- A line may be given by its characters. -/
theorem Unbroken.ofList {cs : List Char} (h : '\n' ∉ cs) : Unbroken (String.ofList cs) := by
  unfold Unbroken
  rwa [String.toList_ofList]

theorem unbroken_helperLines : ∀ line ∈ helperLines, Unbroken line := by
  unfold helperLines
  simp only [List.forall_mem_cons, List.not_mem_nil, false_imp_iff, implies_true, and_true]
  and_intros <;> exact .ofList (by decide)

theorem unbroken_preambleLines {headerFile : String} (h : '\n' ∉ headerFile.toList) :
    ∀ line ∈ preambleLines headerFile, Unbroken line := by
  have hbase : Unbroken (Output.baseName headerFile) := mt Text.mem_of_mem_afterLast h
  have hinclude : Unbroken (includeLine (Output.baseName headerFile)) :=
    (Unbroken.append (by decide) hbase).append (by decide)
  unfold preambleLines
  rw [List.forall_mem_append]
  refine ⟨?_, unbroken_helperLines⟩
  simp only [List.forall_mem_cons, List.not_mem_nil, false_imp_iff, implies_true, and_true]
  and_intros
  iterate 6 exact .ofList (by decide)
  exact hinclude

/-- A source with a name of one line, and with functions whose names are words, has its lines. -/
theorem unbroken_sourceLines {headerFile : String} (hfile : '\n' ∉ headerFile.toList)
    {ms : List Message} (hmessages : ∀ m ∈ ms, IsWord m.name)
    (hpack : ∀ m ∈ ms, ∀ name ∈ (packRoutine m.name m.bindings).names, IsWord name)
    (hunpack : ∀ m ∈ ms, ∀ name ∈ (unpackRoutine m.name m.bindings).names, IsWord name) :
    ∀ line ∈ sourceLines headerFile ms, Unbroken line := by
  intro line hline
  rw [sourceLines, List.mem_append, List.mem_flatMap] at hline
  rcases hline with hline | ⟨m, hm, hline⟩
  · exact unbroken_preambleLines hfile line hline
  · rw [definitionLines, List.mem_append, List.mem_cons, List.mem_cons] at hline
    rcases hline with (rfl | hline) | rfl | hline
    · decide
    · exact C.Routine.unbroken_lines (hmessages m hm) (hpack m hm) line hline
    · decide
    · exact C.Routine.unbroken_lines (hmessages m hm) (hunpack m hm) line hline

end Can

end DeviceGen
