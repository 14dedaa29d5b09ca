/-
The names in a header and in the functions of its messages.

A header is a row of blocks, and each block introduces names: a type its guard, its enumerators
and itself, a structure its members, itself, the macro for its size and its functions.  What is
put in front of a name of the schema is an identifier itself, and what is put behind it is a
word, so these names are identifiers if those of the schema are (`Message.Legal`).

Identifiers have no blanks and no parentheses in them, so they are read off the lines that they
are printed in, block by block.
-/
import DeviceGen.Proofs.Can.Members
import DeviceGen.Proofs.Can.SourceLines

namespace DeviceGen.Can

open DeviceGen.C (IsIdentifier Routine enumBase enumGuard enumType guardName isIdentifier_iff
  name? sizeMacro)
open DeviceGen.Schema (Enumeration)
open DeviceGen.Text (IsWord isWordChar)

/-! ### Macros -/

theorem isDigit_guardChar (c : Char) : (C.guardChar c).isDigit = c.isDigit := by
  unfold C.guardChar
  split
  · next h => exact IsIdentifier.isDigit_toUpper (by simp [isWordChar, h])
  · next h =>
      rw [Char.isAlphanum, Bool.or_eq_true, not_or] at h
      rw [Bool.eq_false_iff.mpr h.2]
      decide

/-- A macro name made of a text is an identifier iff the text does not begin with a digit. -/
theorem isIdentifier_guardName_iff {text : String} :
    IsIdentifier (guardName text) ↔ ∃ c, text.toList.head? = some c ∧ c.isDigit = false := by
  rw [isIdentifier_iff, and_iff_right (isWord_guardName text), guardName, String.toList_ofList,
    List.head?_map]
  simp only [Option.map_eq_some_iff]
  constructor
  · rintro ⟨_, ⟨c, hc, rfl⟩, hdigit⟩
    exact ⟨c, hc, by rwa [isDigit_guardChar] at hdigit⟩
  · rintro ⟨c, hc, hdigit⟩
    exact ⟨_, ⟨c, hc, rfl⟩, by rwa [isDigit_guardChar]⟩

theorem isIdentifier_enumGuard {name : String} (h : IsIdentifier (enumBase name)) :
    IsIdentifier (enumGuard name) := by
  obtain ⟨-, c, hc, hdigit⟩ := isIdentifier_iff.mp h
  exact (isIdentifier_guardName_iff.mpr ⟨c, hc, hdigit⟩).append (by decide)

/-! ### Names of blocks -/

/-- The names that a block introduces, in order. -/
def Block.names : Block → List String
  | type e =>
    [enumGuard e.name, enumGuard e.name]
      ++ e.values.map (fun v => enumBase e.name ++ "_" ++ v.label) ++ [enumType e.name]
  | struct m => m.bindings.map memberOf ++ [m.name ++ "_t", sizeMacro m.name] ++ m.functions

/-- A message whose names are identifiers, like those of what it chooses from. -/
structure Message.Legal (m : Message) : Prop where
  name : IsIdentifier m.name
  members : ∀ b ∈ m.bindings, IsIdentifier b.name
  enums : ∀ e ∈ m.enums, IsIdentifier (enumBase e.name)
  labels : ∀ e ∈ m.enums, ∀ v ∈ e.values, IsWord v.label

theorem Message.Legal.functions {m : Message} (h : m.Legal) :
    ∀ name ∈ m.functions, IsIdentifier name := by
  intro name hname
  simp only [Message.functions, List.mem_cons, List.not_mem_nil, or_false] at hname
  rcases hname with rfl | rfl
  · exact h.name.function .pack
  · exact h.name.function .unpack

theorem mem_blocks {b : Block} {ms : List Message} {seen : List String} (h : b ∈ blocks seen ms) :
    ∃ m ∈ ms, b = .struct m ∨ ∃ e ∈ m.enums, b = .type e := by
  induction ms generalizing seen with
  | nil => cases h
  | cons m ms ih =>
      rw [blocks, List.mem_append, List.mem_cons] at h
      rcases h with h | rfl | h
      · obtain ⟨e, he, rfl⟩ := List.mem_map.mp h
        have hmem : e ∈ m.enums := List.mem_filterMap.mpr (mem_enums_of_mem_freshEnums he)
        exact ⟨m, List.mem_cons_self, .inr ⟨e, hmem, rfl⟩⟩
      · exact ⟨m, List.mem_cons_self, .inl rfl⟩
      · obtain ⟨n, hn, hb⟩ := ih h
        exact ⟨n, List.mem_cons_of_mem m hn, hb⟩

/-- The names in blocks are identifiers if those of the messages are. -/
theorem isIdentifier_of_mem_blocks {ms : List Message} (h : ∀ m ∈ ms, m.Legal)
    {seen : List String} {b : Block} (hb : b ∈ blocks seen ms) :
    ∀ name ∈ b.names, IsIdentifier name := by
  obtain ⟨m, hm, rfl | ⟨e, he, rfl⟩⟩ := mem_blocks hb
  · have hname := (h m hm).name
    intro name hmem
    simp only [Block.names, List.mem_append, List.mem_cons, List.not_mem_nil, or_false,
      List.mem_map] at hmem
    rcases hmem with (⟨c, hc, rfl⟩ | rfl | rfl) | hmem
    · exact ((h m hm).members c hc).memberName
    · exact hname.append (by decide)
    · exact hname.sizeMacro
    · exact (h m hm).functions name hmem
  · have hbase := (h m hm).enums e he
    intro name hmem
    simp only [Block.names, List.mem_append, List.mem_cons, List.not_mem_nil, or_false,
      List.mem_map] at hmem
    rcases hmem with ((rfl | rfl) | ⟨v, hv, rfl⟩) | rfl
    · exact isIdentifier_enumGuard hbase
    · exact isIdentifier_enumGuard hbase
    · exact (hbase.append (by decide)).append ((h m hm).labels e he v hv)
    · exact hbase.append (by decide)

/-- The line that closes a guard introduces no name. -/
theorem name?_endGuard (guard : String) : name? ("#endif /* " ++ guard ++ " */") = none := by
  have hline : "#endif /* " ++ guard ++ " */" = "#endif" ++ (" /* " ++ guard ++ " */") := by
    simp only [← String.append_assoc]
    rfl
  rw [hline, C.name?_endif]

/-- Identifiers are read off the lines of a type. -/
theorem filterMap_name?_enumLines {e : Enumeration} (hbase : IsIdentifier (enumBase e.name))
    (hlabels : ∀ v ∈ e.values, IsWord v.label) :
    (enumLines e).filterMap name? = (Block.type e).names := by
  have hguard : ' ' ∉ (enumGuard e.name).toList := (isWord_enumGuard e.name).not_mem (by decide)
  have hopen : ["", "#ifndef " ++ enumGuard e.name, "#define " ++ enumGuard e.name,
      "typedef enum \x7b"].filterMap name? = [enumGuard e.name, enumGuard e.name] := by
    rw [List.filterMap_cons_none (by decide), List.filterMap_cons_some (C.name?_ifndef hguard),
      List.filterMap_cons_some (C.name?_guard hguard), List.filterMap_cons_none (by decide),
      List.filterMap_nil]
  have hvalues : (e.values.map (enumeratorLine (enumBase e.name))).filterMap name?
      = e.values.map fun v => enumBase e.name ++ "_" ++ v.label := by
    rw [List.filterMap_map, ← List.filterMap_eq_map]
    refine List.filterMap_congr fun v hv => ?_
    have hname : ' ' ∉ (enumBase e.name ++ "_" ++ v.label).toList :=
      ((hbase.append (by decide)).append (hlabels v hv)).isWord.not_mem (by decide)
    have hline : enumeratorLine (enumBase e.name) v
        = "  " ++ (enumBase e.name ++ "_" ++ v.label) ++ " = " ++ toString v.number.toInt ++ "," := by
      simp only [enumeratorLine, String.append_assoc]
    rw [Function.comp_apply, hline, C.name?_enumerator _ hname]
    rfl
  have hclose : ["\x7d " ++ enumType e.name ++ ";",
      "#endif /* " ++ enumGuard e.name ++ " */"].filterMap name? = [enumType e.name] := by
    rw [List.filterMap_cons_some (C.name?_closing _),
      List.filterMap_cons_none (name?_endGuard _), List.filterMap_nil]
  unfold enumLines
  rw [List.filterMap_append, List.filterMap_append, hopen, hvalues, hclose, Block.names]

/-- Identifiers are read off the lines of a structure. -/
theorem filterMap_name?_structLines {m : Message} (h : m.Legal) :
    (structLines m.name m.bindings).filterMap name? = (Block.struct m).names := by
  have hsize : ' ' ∉ (sizeMacro m.name).toList := h.name.sizeMacro.isWord.not_mem (by decide)
  have hmembers : (m.bindings.map memberLine).filterMap name? = m.bindings.map memberOf := by
    rw [List.filterMap_map, ← List.filterMap_eq_map]
    refine List.filterMap_congr fun b hb => ?_
    exact C.name?_declaration _ ((h.members b hb).memberName.isWord.not_mem (by decide))
  have hopen : ["", "typedef struct \x7b"].filterMap name? = [] := by decide
  have hmacro : name? (sizeLine m.name m.bindings) = some (sizeMacro m.name) := by
    have hline : sizeLine m.name m.bindings = "#define "
        ++ (sizeMacro m.name ++ (" " ++ toString (packedSize m.bindings) ++ "u")) := by
      simp only [sizeLine, String.append_assoc]
    rw [hline, C.name?_define hsize (Or.inr (by simp))]
  have hclose : ["\x7d " ++ m.name ++ "_t;", ""].filterMap name? = [m.name ++ "_t"] := by
    have hline : "\x7d " ++ m.name ++ "_t;" = "\x7d " ++ (m.name ++ "_t") ++ ";" := by
      simp only [String.append_assoc]
      rfl
    rw [hline, List.filterMap_cons_some (C.name?_closing _), List.filterMap_cons_none (by decide),
      List.filterMap_nil]
  have hfunctions : (functionLines m.name).filterMap name? = m.functions := by
    unfold functionLines Message.functions
    rw [List.filterMap_cons_none (by decide),
      List.filterMap_cons_some (C.name?_head .pack h.name _).1,
      List.filterMap_cons_some (C.name?_head .unpack h.name _).1, List.filterMap_nil]
  rw [structLines_eq, membersLines, List.filterMap_append, List.filterMap_append,
    List.filterMap_append, List.filterMap_append, hopen, hmembers, hclose, hfunctions,
    List.filterMap_cons_some hmacro, List.filterMap_nil, Block.names]
  simp

/-- Identifiers are read off a header. -/
theorem Header.filterMap_name?_lines {h : Header} (hlegal : ∀ m ∈ h.messages, m.Legal) :
    h.lines.filterMap name?
      = [h.guard, h.guard] ++ (blocks [] h.messages).flatMap Block.names := by
  have hguard : ' ' ∉ h.guard.toList := (isWord_guardName h.name).not_mem (by decide)
  have hblocks : (declarationLines [] h.messages).filterMap name?
      = (blocks [] h.messages).flatMap Block.names := by
    rw [← flatMap_lines_blocks, List.filterMap_flatMap, List.flatMap_def, List.flatMap_def]
    refine congrArg List.flatten (List.map_congr_left fun b hb => ?_)
    obtain ⟨m, hm, rfl | ⟨e, he, rfl⟩⟩ := mem_blocks hb
    · exact filterMap_name?_structLines (hlegal m hm)
    · exact filterMap_name?_enumLines ((hlegal m hm).enums e he) ((hlegal m hm).labels e he)
  have hcomment : commentLines.filterMap name? = [] := by decide
  have hinclude : includeLines.filterMap name? = [] := by decide
  have hlast : ["", "#endif /* " ++ h.guard ++ " */"].filterMap name? = [] := by
    rw [List.filterMap_cons_none (by decide), List.filterMap_cons_none (name?_endGuard _),
      List.filterMap_nil]
  have hlines : h.lines = commentLines ++ (("#ifndef " ++ h.guard) :: ("#define " ++ h.guard)
      :: (includeLines ++ declarationLines [] h.messages
        ++ ["", "#endif /* " ++ h.guard ++ " */"])) := by
    simp [Header.lines, Header.body, C.guarded]
  rw [hlines, List.filterMap_append, hcomment,
    List.filterMap_cons_some (C.name?_ifndef hguard),
    List.filterMap_cons_some (C.name?_guard hguard), List.filterMap_append, List.filterMap_append,
    hinclude, hblocks, hlast]
  simp

/-! ### Names of functions -/

/-- Statements for a representation name the enumeration type that it has, if they cast to it. -/
theorem enumTypes_packStmt (offset : Nat) (member : String) (r : Representation) :
    (packStmt offset member r).enumTypes = [] := by
  cases r with
  | integer width signed => cases width <;> rfl
  | _ => rfl

theorem enumTypes_unpackStmt (offset : Nat) (member : String) (r : Representation) :
    (unpackStmt offset member r).enumTypes = (enumOf? r).toList.map fun e => enumType e.name := by
  cases r with
  | integer width signed => cases width <;> cases signed <;> rfl
  | _ => rfl

theorem mem_of_mem_placed {offset : Nat} {b : Binding} {bindings : List Binding}
    (h : (offset, b) ∈ placed bindings) : b ∈ bindings := by
  have hall : (placed bindings).map Prod.snd = bindings :=
    (map_placedFrom (fun b => b) 0 bindings).trans (List.map_id' bindings)
  exact hall ▸ List.mem_map_of_mem (f := Prod.snd) h

namespace Message.Legal

variable {m : Message} (h : m.Legal)

include h

/-- The names in the function that packs a message are identifiers. -/
theorem names_packRoutine :
    ∀ name ∈ (packRoutine m.name m.bindings).names, IsIdentifier name := by
  intro name hname
  simp only [Routine.names, List.mem_append, List.mem_cons, List.not_mem_nil, or_false,
    List.mem_flatMap] at hname
  rcases hname with (rfl | rfl | rfl) | ⟨s, hs, hname⟩
  · exact h.name.function .pack
  · exact h.name.append (by decide)
  · exact h.name.sizeMacro
  · obtain ⟨⟨offset, b⟩, hb, rfl⟩ := List.mem_map.mp hs
    rw [members_packStmt, enumTypes_packStmt] at hname
    have hmember : name = memberOf b := by simpa using hname
    exact hmember ▸ (h.members b (mem_of_mem_placed hb)).memberName

theorem names_unpackRoutine :
    ∀ name ∈ (unpackRoutine m.name m.bindings).names, IsIdentifier name := by
  intro name hname
  simp only [Routine.names, List.mem_append, List.mem_cons, List.not_mem_nil, or_false,
    List.mem_flatMap] at hname
  rcases hname with (rfl | rfl | rfl) | ⟨s, hs, hname⟩
  · exact h.name.function .unpack
  · exact h.name.append (by decide)
  · exact h.name.sizeMacro
  · obtain ⟨⟨offset, b⟩, hb, rfl⟩ := List.mem_map.mp hs
    have hbinding := mem_of_mem_placed hb
    rw [members_unpackStmt, enumTypes_unpackStmt] at hname
    simp only [List.mem_singleton, List.mem_map, Option.mem_toList] at hname
    rcases hname with rfl | ⟨e, he, rfl⟩
    · exact (h.members b hbinding).memberName
    · have hmem : e ∈ m.enums := List.mem_filterMap.mpr ⟨b, hbinding, he⟩
      exact (h.enums e hmem).append (by decide)

end Message.Legal

end DeviceGen.Can
