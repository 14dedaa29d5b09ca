/-
The lines of a header.

A header is printed as a text, but what conditionals do to it is a matter of its lines.
They are a comment and then, inside the guard of the header, the declarations of messages,
each after the enumeration types that the header takes to be new, in guards of their own.
Names made of letters, digits and underscores do not break these lines, so the text and the
lines say the same.

Every line is either no directive at all, or it opens or closes a guard, or it defines the
macro of a guard or of a size.  The three kinds of macros end in a letter of their own.
-/
import DeviceGen.Proofs.C.Conditionals
import DeviceGen.Proofs.C.Typedefs
import DeviceGen.Proofs.Can.Generated

namespace DeviceGen.Can

open DeviceGen.C (Balanced Typedef directive? enumBase enumGuard enumType guardName
  guarded sizeMacro typedefs)
open DeviceGen.Schema (Enumeration)
open DeviceGen.Text (IsWord unlines unlines_append)

/-! ### The lines of a header -/

/-- The comment that a header begins with. -/
def commentLines : List String := [
  "/**",
  "* Generated file!  Do not track.",
  "* Interface to pack and unpack data structures for CAN tx/rx.",
  "*/"]

/-- The lines between the guard of a header and its declarations. -/
def includeLines : List String := [
  "", "#include <stdbool.h>", "#include <stddef.h>", "#include <stdint.h>"]

/-- The declarations of messages, each after the enumerations that were not `seen`. -/
def declarationLines (seen : List String) : List Message → List String
  | [] => []
  | m :: ms =>
    (freshEnums seen m.bindings).flatMap enumLines ++ structLines m.name m.bindings
      ++ declarationLines ((freshEnums seen m.bindings).map Enumeration.name ++ seen) ms

/-- What the guard of a header protects. -/
def Header.body (h : Header) : List String :=
  ("#define " ++ h.guard) :: includeLines ++ declarationLines [] h.messages ++ [""]

/-- The lines of a header. -/
def Header.lines (h : Header) : List String := commentLines ++ guarded h.guard h.body

/-- The type of an enumeration as it is declared. -/
def typedefOf (e : Enumeration) : Typedef :=
  ⟨enumType e.name, e.values.map (enumeratorLine (enumBase e.name))⟩

/-- What the guard of an enumeration type protects. -/
def typeBody (e : Enumeration) : List String :=
  ("#define " ++ enumGuard e.name) :: (typedefOf e).lines

theorem enumLines_eq (e : Enumeration) :
    enumLines e = "" :: guarded (enumGuard e.name) (typeBody e) := by
  simp [enumLines, guarded, typeBody, Typedef.lines, Typedef.opening, typedefOf]

theorem join_declarations {ms : List Message} (h : ∀ m ∈ ms, m.isPacked = true)
    (seen : List String) :
    String.join ((declarations seen ms).map Output.Part.text)
      = unlines (declarationLines seen ms) := by
  induction ms generalizing seen with
  | nil => rfl
  | cons m ms ih =>
      have hm : (declaration m).text = unlines (structLines m.name m.bindings) := by
        rw [declaration, if_pos (h m List.mem_cons_self)]
      rw [declarations, List.map_cons, String.join_cons,
        ih fun n hn => h n (List.mem_cons_of_mem m hn), declarationLines, unlines_append,
        unlines_append, hm]

/-- The content of a header is made of its lines. -/
theorem Header.content_file {h : Header} (hpacked : ∀ m ∈ h.messages, m.isPacked = true) :
    h.file.content = unlines h.lines := by
  have hdeclarations := join_declarations hpacked []
  show headerPreamble h.guard ++ String.join ((declarations [] h.messages).map Output.Part.text)
    ++ headerEpilogue h.guard = _
  have hlines : h.lines = (commentLines ++ ("#ifndef " ++ h.guard) :: ("#define " ++ h.guard)
      :: includeLines) ++ declarationLines [] h.messages
      ++ ["", "#endif /* " ++ h.guard ++ " */"] := by
    simp [Header.lines, Header.body, guarded]
  rw [hdeclarations, hlines, unlines_append, unlines_append]
  rfl

/-! ### Lines that are not broken -/

/-- No end of line inside. -/
def Unbroken (line : String) : Prop := '\n' ∉ line.toList

instance (line : String) : Decidable (Unbroken line) := inferInstanceAs (Decidable (¬ _))

theorem Unbroken.append {a b : String} (ha : Unbroken a) (hb : Unbroken b) : Unbroken (a ++ b) := by
  unfold Unbroken at *
  rw [String.toList_append, List.mem_append]
  exact not_or.mpr ⟨ha, hb⟩

theorem Unbroken.of_isWord {text : String} (h : IsWord text) : Unbroken text :=
  h.not_mem (by decide)

theorem unbroken_toString_nat (n : Nat) : Unbroken (toString n) :=
  .of_isWord (Text.isWord_toString n)

theorem unbroken_toString_int : ∀ n : Int, Unbroken (toString n)
  | .ofNat n => unbroken_toString_nat n
  | .negSucc n => Unbroken.append (a := "-") (by decide)
      (unbroken_toString_nat (n + 1))

theorem isWord_guardName (text : String) : IsWord (guardName text) := by
  intro c hc
  unfold guardName at hc
  rw [String.toList_ofList] at hc
  obtain ⟨d, -, rfl⟩ := List.mem_map.mp hc
  unfold C.guardChar
  split
  · next hd =>
      refine Text.isWordChar_toUpper ?_
      simp [Text.isWordChar, hd]
  · decide

theorem isWord_enumGuard (name : String) : IsWord (enumGuard name) :=
  (isWord_guardName _).append (by decide)

theorem isWord_sizeMacro {name : String} (h : IsWord name) : IsWord (sizeMacro name) :=
  h.upperSnake.append (by decide)

theorem unbroken_enumBase {name : String} (h : Unbroken name) : Unbroken (enumBase name) := by
  unfold Unbroken enumBase
  rw [String.toList_ofList]
  intro hmem
  obtain ⟨c, hc, hline⟩ := List.mem_map.mp hmem
  by_cases hdot : c = '.'
  · rw [if_pos hdot] at hline
    cases hline
  · rw [if_neg hdot] at hline
    subst hline
    exact h ((List.dropWhile_sublist _).mem hc)

theorem unbroken_enumType {name : String} (h : Unbroken name) : Unbroken (enumType name) :=
  (unbroken_enumBase h).append (by decide)

theorem unbroken_enumLines {e : Enumeration} (hname : Unbroken e.name)
    (hlabels : ∀ v ∈ e.values, Unbroken v.label) : ∀ line ∈ enumLines e, Unbroken line := by
  have hguard : Unbroken (enumGuard e.name) := .of_isWord (isWord_enumGuard e.name)
  intro line hline
  simp only [enumLines, List.mem_append, List.mem_cons, List.not_mem_nil, or_false,
    List.mem_map] at hline
  rcases hline with ((rfl | rfl | rfl | rfl) | ⟨v, hv, rfl⟩) | rfl | rfl
  · decide
  · exact Unbroken.append (by decide) hguard
  · exact Unbroken.append (by decide) hguard
  · decide
  · unfold enumeratorLine
    exact (((((Unbroken.append (by decide) (unbroken_enumBase hname)).append (by decide)).append
      (hlabels v hv)).append (by decide)).append (unbroken_toString_int _)).append (by decide)
  · exact (Unbroken.append (by decide) (unbroken_enumType hname)).append (by decide)
  · exact (Unbroken.append (by decide) hguard).append (by decide)

/-- The type of a member is named like an enumeration, or has a name of its own. -/
theorem unbroken_memberType {m : Message} (htypes : ∀ e ∈ m.enums, Unbroken (enumType e.name))
    {b : Binding} (hb : b ∈ m.bindings) : Unbroken (memberType b.representation).text := by
  cases hr : b.representation with
  | integer width signed => cases width <;> cases signed <;> decide
  | real width => cases width <;> decide
  | boolean => decide
  | choice enumName options =>
      have hmem : (⟨enumName, options⟩ : Enumeration) ∈ m.enums :=
        List.mem_filterMap.mpr ⟨b, hb, by rw [hr, enumOf?]⟩
      have htype : Unbroken (enumType enumName) := htypes ⟨enumName, options⟩ hmem
      exact htype

theorem unbroken_memberOf {b : Binding} (h : IsWord b.name) : Unbroken (memberOf b) := by
  unfold memberOf C.memberName
  split
  · exact .append (.of_isWord h) (by decide)
  · exact .of_isWord h

theorem unbroken_structLines {m : Message} (hword : IsWord m.name)
    (hmembers : ∀ b ∈ m.bindings, Unbroken (memberOf b))
    (htypes : ∀ e ∈ m.enums, Unbroken (enumType e.name)) :
    ∀ line ∈ structLines m.name m.bindings, Unbroken line := by
  have hname : Unbroken m.name := .of_isWord hword
  intro line hline
  simp only [structLines, List.mem_append, List.mem_cons, List.not_mem_nil, or_false,
    List.mem_map] at hline
  rcases hline with ((rfl | rfl) | ⟨b, hb, rfl⟩) | rfl | rfl | rfl | rfl | rfl | rfl
  · decide
  · decide
  · exact (((Unbroken.append (by decide) (unbroken_memberType htypes hb)).append (by decide)).append
      (hmembers b hb)).append (by decide)
  · exact (Unbroken.append (by decide) hname).append (by decide)
  · decide
  · exact (((Unbroken.append (by decide) (.of_isWord (isWord_sizeMacro hword))).append
      (by decide)).append (unbroken_toString_nat _)).append (by decide)
  · decide
  · exact ((((Unbroken.append (by decide) hname).append (by decide)).append hname).append
      (by decide)).append (by decide)
  · exact ((((Unbroken.append (by decide) hname).append (by decide)).append hname).append
      (by decide)).append (by decide)

/-- The enumerations that are declared before a message are among its own. -/
theorem mem_enums_of_mem_freshEnums {seen : List String} {bindings : List Binding} {e : Enumeration}
    (h : e ∈ freshEnums seen bindings) : ∃ b ∈ bindings, enumOf? b.representation = some e := by
  induction bindings generalizing seen with
  | nil => cases h
  | cons b bs ih =>
      have hlater {seen : List String} (hmem : e ∈ freshEnums seen bs) :
          ∃ c ∈ b :: bs, enumOf? c.representation = some e := by
        obtain ⟨c, hc, hchoice⟩ := ih hmem
        exact ⟨c, List.mem_cons_of_mem b hc, hchoice⟩
      unfold freshEnums at h
      cases hchoice : enumOf? b.representation with
      | none =>
          rw [hchoice] at h
          exact hlater h
      | some found =>
          simp only [hchoice] at h
          split at h
          · exact hlater h
          · rcases List.mem_cons.mp h with rfl | h
            · exact ⟨b, List.mem_cons_self, hchoice⟩
            · exact hlater h

theorem unbroken_declarationLines {ms : List Message} (h : ∀ m ∈ ms, m.Clear) (seen : List String) :
    ∀ line ∈ declarationLines seen ms, Unbroken line := by
  induction ms generalizing seen with
  | nil => simp [declarationLines]
  | cons m ms ih =>
      have hm := h m List.mem_cons_self
      intro line hline
      rw [declarationLines, List.mem_append, List.mem_append] at hline
      rcases hline with (hline | hline) | hline
      · obtain ⟨e, he, hline⟩ := List.mem_flatMap.mp hline
        have hmem : e ∈ m.enums := List.mem_filterMap.mpr (mem_enums_of_mem_freshEnums he)
        exact unbroken_enumLines (hm.enums e hmem) (hm.labels e hmem) line hline
      · exact unbroken_structLines hm.name (fun b hb => unbroken_memberOf (hm.members b hb))
          (fun e he => unbroken_enumType (hm.enums e he)) line hline
      · exact ih (fun n hn => h n (List.mem_cons_of_mem m hn)) _ line hline

theorem Header.unbroken_lines {h : Header} (hclear : ∀ m ∈ h.messages, m.Clear) :
    ∀ line ∈ h.lines, Unbroken line := by
  have hguard : Unbroken h.guard := .of_isWord (isWord_guardName h.name)
  have hcomment : ∀ line ∈ commentLines, Unbroken line := by simp [commentLines, Unbroken]
  have hinclude : ∀ line ∈ includeLines, Unbroken line := by simp [includeLines, Unbroken]
  intro line hline
  simp only [Header.lines, Header.body, guarded, List.mem_append, List.mem_cons,
    List.not_mem_nil, or_false] at hline
  rcases hline with hline | (rfl | ((rfl | hline) | hline) | rfl) | rfl
  · exact hcomment line hline
  · exact Unbroken.append (by decide) hguard
  · exact Unbroken.append (by decide) hguard
  · exact hinclude line hline
  · exact unbroken_declarationLines hclear [] line hline
  · decide
  · exact (Unbroken.append (by decide) hguard).append (by decide)

/-! ### Directives -/

/-- The lines of a structure before the macro for its size. -/
def membersLines (message : String) (bindings : List Binding) : List String :=
  ["", "typedef struct \x7b"] ++ bindings.map memberLine ++ ["\x7d " ++ message ++ "_t;", ""]

/-- The line that defines the macro for the size of a packed message. -/
def sizeLine (message : String) (bindings : List Binding) : String :=
  "#define " ++ sizeMacro message ++ " " ++ toString (packedSize bindings) ++ "u"

/-- The lines of a structure after the macro for its size. -/
def functionLines (message : String) : List String :=
  ["", C.Routine.head .pack message ++ ";", C.Routine.head .unpack message ++ ";"]

theorem structLines_eq (message : String) (bindings : List Binding) :
    structLines message bindings
      = membersLines message bindings ++ [sizeLine message bindings] ++ functionLines message := by
  simp [structLines, membersLines, sizeLine, functionLines]

/-- A line that neither is a directive nor opens an enumeration. -/
structure Plain (line : String) : Prop where
  directive : directive? line = none
  opening : line ≠ Typedef.opening

theorem ne_opening {line : String} (h : line.toList.head? ≠ some 't') :
    line ≠ Typedef.opening := by
  rintro rfl
  exact h (by decide)

/-- The first character of a line may say that it is plain. -/
theorem Plain.of_head {line : String} (hash : line.toList.head? ≠ some '#')
    (letter : line.toList.head? ≠ some 't') : Plain line :=
  ⟨C.directive?_none hash, ne_opening letter⟩

theorem plain_empty : Plain "" := .of_head (by decide) (by decide)

theorem plain_membersLines (message : String) (bindings : List Binding) :
    ∀ line ∈ membersLines message bindings, Plain line := by
  intro line hline
  simp only [membersLines, List.mem_append, List.mem_cons, List.not_mem_nil, or_false,
    List.mem_map] at hline
  rcases hline with ((rfl | rfl) | ⟨b, -, rfl⟩) | rfl | rfl
  · exact plain_empty
  · exact ⟨C.directive?_none (by decide), by decide⟩
  · exact .of_head (by simp [memberLine]) (by simp [memberLine])
  · exact .of_head (by simp) (by simp)
  · exact plain_empty

theorem head?_prototype (direction : C.Direction) (message : String) :
    (C.Routine.head direction message ++ ";").toList.head? = some 'i' := by
  cases direction with
  | pack =>
      show ("int pack_" ++ message ++ "(const " ++ message ++ "_t *msg, uint8_t *buf, size_t len)"
        ++ ";").toList.head? = _
      simp
  | unpack =>
      show ("int unpack_" ++ message ++ "(" ++ message ++ "_t *msg, const uint8_t *buf, size_t len)"
        ++ ";").toList.head? = _
      simp

theorem plain_functionLines (message : String) : ∀ line ∈ functionLines message, Plain line := by
  intro line hline
  simp only [functionLines, List.mem_cons, List.not_mem_nil, or_false] at hline
  rcases hline with rfl | rfl | rfl
  · exact plain_empty
  · exact .of_head (head?_prototype .pack message ▸ by decide)
      (head?_prototype .pack message ▸ by decide)
  · exact .of_head (head?_prototype .unpack message ▸ by decide)
      (head?_prototype .unpack message ▸ by decide)

theorem plain_includeLines : ∀ line ∈ includeLines, Plain line := by
  intro line hline
  simp only [includeLines, List.mem_cons, List.not_mem_nil, or_false] at hline
  rcases hline with rfl | rfl | rfl | rfl <;> exact ⟨by decide, by decide⟩

theorem plain_commentLines : ∀ line ∈ commentLines, Plain line := by
  intro line hline
  simp only [commentLines, List.mem_cons, List.not_mem_nil, or_false] at hline
  rcases hline with rfl | rfl | rfl | rfl <;> exact .of_head (by simp) (by simp)

theorem directive?_sizeLine {message : String} (h : IsWord message) (bindings : List Binding) :
    directive? (sizeLine message bindings) = some (.define (sizeMacro message)) := by
  have hline : sizeLine message bindings
      = "#define " ++ (sizeMacro message ++ (" " ++ toString (packedSize bindings) ++ "u")) := by
    simp only [sizeLine, String.append_assoc]
  rw [hline]
  exact C.directive?_define ((isWord_sizeMacro h).not_mem (by decide)) (Or.inr (by simp))

/-- A guard defines the macro that it asks for. -/
theorem directive?_guard {name : String} (h : IsWord name) :
    directive? ("#define " ++ name) = some (.define name) := by
  have hdefine := C.directive?_define (h.not_mem (by decide)) (Or.inl rfl)
  rwa [String.append_empty] at hdefine

/-- The lines of an enumeration type are no directives. -/
theorem directive?_typedef (e : Enumeration) :
    ∀ line ∈ (typedefOf e).lines, directive? line = none := by
  intro line hline
  simp only [Typedef.lines, typedefOf, List.mem_append, List.mem_cons, List.not_mem_nil, or_false,
    List.mem_map] at hline
  rcases hline with (rfl | ⟨v, -, rfl⟩) | rfl
  · decide
  · exact C.directive?_none (by simp [enumeratorLine])
  · exact C.directive?_none (by simp)

/-- The lines of an enumeration type declare it. -/
theorem declares_typedef (e : Enumeration) :
    C.Declares (typedefOf e).lines [typedefOf e] := by
  refine C.Declares.of_typedef fun line hline => ?_
  obtain ⟨v, -, rfl⟩ := List.mem_map.mp hline
  simp [Typedef.closing?, enumeratorLine]

theorem balanced_typeBody (e : Enumeration) : Balanced (typeBody e) :=
  .define (directive?_guard (isWord_enumGuard e.name)) (.of_plain (directive?_typedef e))

theorem balanced_enumLines (e : Enumeration) : Balanced (enumLines e) := by
  have hguarded := Balanced.guarded ((isWord_enumGuard e.name).not_mem (by decide))
    (balanced_typeBody e) .nil
  rw [List.append_nil] at hguarded
  rw [enumLines_eq]
  exact .plain plain_empty.directive hguarded

theorem balanced_structLines {m : Message} (hm : m.Clear) :
    Balanced (structLines m.name m.bindings) := by
  have hmembers := Balanced.of_plain fun line hline =>
    (plain_membersLines m.name m.bindings line hline).directive
  have hfunctions := Balanced.of_plain fun line hline =>
    (plain_functionLines m.name line hline).directive
  rw [structLines_eq]
  exact (hmembers.append (.define (directive?_sizeLine hm.name m.bindings) .nil)).append hfunctions

theorem balanced_declarationLines {ms : List Message} (h : ∀ m ∈ ms, m.Clear)
    (seen : List String) : Balanced (declarationLines seen ms) := by
  induction ms generalizing seen with
  | nil => exact .nil
  | cons m ms ih =>
      have henums (es : List Enumeration) : Balanced (es.flatMap enumLines) := by
        induction es with
        | nil => exact .nil
        | cons e es ih => exact (balanced_enumLines e).append ih
      exact ((henums _).append (balanced_structLines (h m List.mem_cons_self))).append
        (ih (fun n hn => h n (List.mem_cons_of_mem m hn)) _)

theorem Header.balanced_body {h : Header} (hclear : ∀ m ∈ h.messages, m.Clear) :
    Balanced h.body := by
  have hinclude := Balanced.of_plain fun line hline => (plain_includeLines line hline).directive
  exact .define (directive?_guard (isWord_guardName h.name))
    ((hinclude.append (balanced_declarationLines hclear [])).append
      (.plain plain_empty.directive .nil))

/-! ### Endings of macros -/

theorem getLast?_enumGuard (name : String) : (enumGuard name).toList.getLast? = some 'D' := by
  simp [enumGuard, List.getLast?_append]

theorem getLast?_sizeMacro (message : String) :
    (sizeMacro message).toList.getLast? = some 'E' := by
  simp [sizeMacro, List.getLast?_append]

theorem enumGuard_ne_sizeMacro (name message : String) : enumGuard name ≠ sizeMacro message := by
  intro h
  have hlast := getLast?_enumGuard name
  rw [h, getLast?_sizeMacro] at hlast
  cases hlast

theorem getLast?_guardName {name : String} (h : name.toList.getLast? = some 'h') :
    (guardName name).toList.getLast? = some 'H' := by
  rw [guardName, String.toList_ofList, List.getLast?_map, h]
  rfl

/-- The name of a generated file ends like the generator's own name for it. -/
theorem getLast?_fileName {own : String} {c : Char} (h : own.toList.getLast? = some c)
    (stem : String) (selected : Nat) :
    (Output.fileName own stem selected).toList.getLast? = some c := by
  unfold Output.fileName
  split
  · exact h
  · rw [String.toList_append, List.getLast?_append, h, Option.some_or]

end DeviceGen.Can
