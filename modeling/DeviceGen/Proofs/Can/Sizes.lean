/-
Which size a bounds check asks for.

The functions of a message compare the length of a buffer with a macro, and the header defines
that macro once for each message whose name gives it.  Names of the same words give one macro.
If such messages have packed forms of different sizes, then the macro stands for neither of
them: a compiler that takes either definition lets one of the messages be checked against the
size of the other.  In all other cases a bounds check asks for the size of its own message.
-/
import Mathlib.Data.List.Pairwise
import DeviceGen.Proofs.Can.HeaderLines
import DeviceGen.Proofs.Can.Packing
import DeviceGen.Proofs.Descriptor.Made
import DeviceGen.Proofs.Text.Words

namespace DeviceGen

/-! ### What lines define -/

namespace C

/-- The values that lines define for a macro, in order. -/
def macroValues (name : String) (lines : List String) : List Nat :=
  lines.filterMap (macroOfLine? name)

/-- A macro stands for a number if lines define it as this number, and never as another. -/
def StandsFor (name : String) (lines : List String) (n : Nat) : Prop :=
  n ∈ macroValues name lines ∧ ∀ v ∈ macroValues name lines, v = n

instance (name : String) (lines : List String) (n : Nat) : Decidable (StandsFor name lines n) :=
  inferInstanceAs (Decidable (_ ∧ _))

theorem macroValues_append (name : String) (lines others : List String) :
    macroValues name (lines ++ others) = macroValues name lines ++ macroValues name others :=
  List.filterMap_append

theorem StandsFor.macroValue? {name : String} {lines : List String} {n : Nat}
    (h : StandsFor name lines n) : macroValue? name lines = some n := by
  unfold C.macroValue?
  rw [← List.head?_filterMap]
  obtain ⟨v, vs, hvalues⟩ := List.exists_cons_of_ne_nil (List.ne_nil_of_mem h.1)
  show (macroValues name lines).head? = some n
  rw [hvalues, List.head?_cons, h.2 v (hvalues ▸ List.mem_cons_self)]

/-- A line with another directive, or with none, gives a macro no value. -/
theorem macroOfLine?_eq_none {name line : String} (hname : ' ' ∉ name.toList)
    (h : directive? line ≠ some (.define name)) : macroOfLine? name line = none := by
  unfold macroOfLine?
  rw [if_neg]
  intro hprefix
  obtain ⟨rest, hrest⟩ := List.isPrefixOf_iff_prefix.mp hprefix
  have hline : line = "#define " ++ (name ++ (" " ++ String.ofList rest)) := by
    apply String.toList_inj.mp
    rw [← hrest]
    simp
  rw [hline, directive?_define hname (Or.inr (by simp))] at h
  exact h rfl

/-- Of other lines a function asks only for the size. -/
theorem Routine.call_congr (routine : Routine) {header other : List String}
    (h : C.macroValue? (sizeMacro routine.message) header
      = C.macroValue? (sizeMacro routine.message) other) (memory : Memory) :
    routine.call header memory = routine.call other memory := by
  unfold call
  rw [h]

theorem macroValues_eq_nil {name : String} {lines : List String} (hname : ' ' ∉ name.toList)
    (h : ∀ line ∈ lines, directive? line ≠ some (.define name)) : macroValues name lines = [] :=
  List.filterMap_eq_nil_iff.mpr fun line hline => macroOfLine?_eq_none hname (h line hline)

end C

namespace Can

open DeviceGen.C (Directive StandsFor directive? enumGuard macroValues sizeMacro)
open DeviceGen.Schema (Enumeration)
open DeviceGen.Text (IsWord SameWords unlines)

/-! ### What a header defines -/

section Lines

variable {name : String}

/-- Lines that are plain define nothing. -/
theorem macroValues_plain {lines : List String} (hname : IsWord name)
    (h : ∀ line ∈ lines, Plain line) : macroValues (sizeMacro name) lines = [] := by
  refine C.macroValues_eq_nil ((isWord_sizeMacro hname).not_mem (by decide)) fun line hline => ?_
  rw [(h line hline).directive]
  exact nofun

/-- A guard is no size. -/
theorem macroValues_guard {guard : String} (hname : IsWord name) (hguard : IsWord guard)
    (hne : guard ≠ sizeMacro name) : macroValues (sizeMacro name) ["#define " ++ guard] = [] := by
  refine C.macroValues_eq_nil ((isWord_sizeMacro hname).not_mem (by decide)) fun line hline => ?_
  rw [List.mem_singleton.mp hline, directive?_guard hguard]
  intro hdefine
  exact hne (Directive.define.inj (Option.some.inj hdefine))

/-- The lines around a guarded block define nothing. -/
theorem macroValues_guarded {guard : String} (hname : IsWord name) (hguard : IsWord guard)
    (lines : List String) :
    macroValues (sizeMacro name) (C.guarded guard lines) = macroValues (sizeMacro name) lines := by
  have hblank := (isWord_sizeMacro hname).not_mem (c := ' ') (by decide)
  have hopen : macroValues (sizeMacro name) ["#ifndef " ++ guard] = [] := by
    refine C.macroValues_eq_nil hblank fun line hline => ?_
    rw [List.mem_singleton.mp hline, C.directive?_ifndef (hguard.not_mem (by decide))]
    exact nofun
  have hclose : macroValues (sizeMacro name) ["#endif /* " ++ guard ++ " */"] = [] := by
    refine C.macroValues_eq_nil hblank fun line hline => ?_
    have hend := C.directive?_endif (" /* " ++ guard ++ " */")
    rw [← String.append_assoc, ← String.append_assoc] at hend
    rw [List.mem_singleton.mp hline, show "#endif /* " = "#endif" ++ " /* " from rfl, hend]
    exact nofun
  show macroValues (sizeMacro name)
    (["#ifndef " ++ guard] ++ lines ++ ["#endif /* " ++ guard ++ " */"]) = _
  rw [C.macroValues_append, C.macroValues_append, hopen, hclose, List.nil_append, List.append_nil]

theorem macroValues_enumLines (hname : IsWord name) (e : Enumeration) :
    macroValues (sizeMacro name) (enumLines e) = [] := by
  have hword := isWord_enumGuard e.name
  have htype : macroValues (sizeMacro name) (typedefOf e).lines = [] := by
    refine C.macroValues_eq_nil ((isWord_sizeMacro hname).not_mem (by decide)) fun line hline => ?_
    rw [directive?_typedef e line hline]
    exact nofun
  rw [enumLines_eq]
  show macroValues (sizeMacro name) ([""] ++ C.guarded (enumGuard e.name)
    (["#define " ++ enumGuard e.name] ++ (typedefOf e).lines)) = _
  rw [C.macroValues_append, macroValues_guarded hname hword, C.macroValues_append,
    macroValues_guard hname hword (enumGuard_ne_sizeMacro _ _), htype,
    macroValues_plain hname fun line hline => List.mem_singleton.mp hline ▸ plain_empty]
  rfl

/-- The structure of a message defines the macro of that message. -/
theorem macroValues_structLines (hname : IsWord name) {message : String} (hmessage : IsWord message)
    (bindings : List Binding) :
    macroValues (sizeMacro name) (structLines message bindings)
      = if sizeMacro message = sizeMacro name then [packedSize bindings] else [] := by
  have hsize : macroValues (sizeMacro name) [sizeLine message bindings]
      = if sizeMacro message = sizeMacro name then [packedSize bindings] else [] := by
    by_cases hsame : sizeMacro message = sizeMacro name
    · rw [if_pos hsame]
      unfold macroValues sizeLine
      rw [hsame, List.filterMap_cons_some (C.macroOfLine?_define _ _), List.filterMap_nil]
    · rw [if_neg hsame]
      refine C.macroValues_eq_nil ((isWord_sizeMacro hname).not_mem (by decide)) fun line hline => ?_
      rw [List.mem_singleton.mp hline, directive?_sizeLine hmessage]
      intro hdefine
      exact hsame (Directive.define.inj (Option.some.inj hdefine))
  rw [structLines_eq, C.macroValues_append, C.macroValues_append, hsize,
    macroValues_plain hname (plain_membersLines message bindings),
    macroValues_plain hname (plain_functionLines message), List.nil_append, List.append_nil]

/-- Each message with the macro defines it once, in order. -/
theorem macroValues_declarationLines (hname : IsWord name) {ms : List Message}
    (h : ∀ m ∈ ms, IsWord m.name) (seen : List String) :
    macroValues (sizeMacro name) (declarationLines seen ms)
      = (ms.filter fun m => sizeMacro m.name = sizeMacro name).map
        fun m => packedSize m.bindings := by
  induction ms generalizing seen with
  | nil => rfl
  | cons m ms ih =>
      have hfresh : macroValues (sizeMacro name) ((freshEnums seen m.bindings).flatMap enumLines)
          = [] := by
        induction freshEnums seen m.bindings with
        | nil => rfl
        | cons e es ih =>
            rw [List.flatMap_cons, C.macroValues_append, macroValues_enumLines hname, ih]
            rfl
      rw [declarationLines, C.macroValues_append, C.macroValues_append, hfresh,
        macroValues_structLines hname (h m List.mem_cons_self),
        ih fun n hn => h n (List.mem_cons_of_mem m hn)]
      by_cases hsame : sizeMacro m.name = sizeMacro name
      · simp [hsame]
      · simp [hsame]

/-- **A header defines a size macro once for each message that has it.** -/
theorem Header.macroValues_lines {h : Header} (hname : IsWord name)
    (hwords : ∀ m ∈ h.messages, IsWord m.name) (hguard : h.guard ≠ sizeMacro name) :
    macroValues (sizeMacro name) h.lines
      = (h.messages.filter fun m => sizeMacro m.name = sizeMacro name).map
        fun m => packedSize m.bindings := by
  have hword : IsWord h.guard := isWord_guardName h.name
  show macroValues (sizeMacro name) (commentLines ++ C.guarded h.guard (["#define " ++ h.guard]
    ++ includeLines ++ declarationLines [] h.messages ++ [""])) = _
  rw [C.macroValues_append, macroValues_guarded hname hword, C.macroValues_append,
    C.macroValues_append, C.macroValues_append, macroValues_plain hname plain_commentLines,
    macroValues_guard hname hword hguard, macroValues_plain hname plain_includeLines,
    macroValues_declarationLines hname hwords,
    macroValues_plain hname fun line hline => List.mem_singleton.mp hline ▸ plain_empty]
  simp

end Lines

/-! ### Bounds checks -/

/-- The macro that the functions of a message ask for stands for the size of that message. -/
def Header.Measures (h : Header) (m : Message) : Prop :=
  StandsFor (sizeMacro m.name) h.lines (packedSize m.bindings)

instance (h : Header) (m : Message) : Decidable (h.Measures m) :=
  inferInstanceAs (Decidable (StandsFor _ _ _))

theorem sizeMacro_eq_iff {name other : String} (hname : IsWord name) (hother : IsWord other) :
    sizeMacro name = sizeMacro other ↔ SameWords name other := by
  unfold sizeMacro
  rw [String.append_left_inj, Text.upperSnake_eq_iff hname hother]

namespace Header

variable {h : Header} {m : Message}

/-- A macro stands for the size of a message iff all messages of the same words have it. -/
theorem measures_iff (hwords : ∀ m ∈ h.messages, IsWord m.name)
    (hguard : ∀ name, h.guard ≠ sizeMacro name) (hm : m ∈ h.messages) :
    h.Measures m ↔ ∀ n ∈ h.messages, SameWords n.name m.name →
      packedSize n.bindings = packedSize m.bindings := by
  have hvalues := macroValues_lines (hwords m hm) hwords (hguard m.name)
  unfold Measures StandsFor
  rw [hvalues]
  constructor
  · rintro ⟨-, hsame⟩ n hn hnm
    have hmacro := (sizeMacro_eq_iff (hwords n hn) (hwords m hm)).mpr hnm
    exact hsame _ (List.mem_map_of_mem (List.mem_filter.mpr ⟨hn, decide_eq_true hmacro⟩))
  · intro hsame
    refine ⟨List.mem_map_of_mem (List.mem_filter.mpr ⟨hm, by simp⟩), fun v hv => ?_⟩
    obtain ⟨n, hn, rfl⟩ := List.mem_map.mp hv
    obtain ⟨hn, hmacro⟩ := List.mem_filter.mp hn
    exact hsame n hn ((sizeMacro_eq_iff (hwords n hn) (hwords m hm)).mp (of_decide_eq_true hmacro))

/-- With the header, the functions of a message do what they do with its own declaration. -/
theorem Measures.call_eq (hmeasures : h.Measures m) (memory : C.Memory) :
    (packRoutine m.name m.bindings).call h.lines memory = pack m memory
      ∧ (unpackRoutine m.name m.bindings).call h.lines memory = unpack m memory := by
  have hvalue : C.macroValue? (sizeMacro m.name) h.lines
      = C.macroValue? (sizeMacro m.name) (structLines m.name m.bindings) :=
    hmeasures.macroValue?.trans (macroValue?_structLines m.name m.bindings).symm
  exact ⟨(packRoutine m.name m.bindings).call_congr hvalue memory,
    (unpackRoutine m.name m.bindings).call_congr hvalue memory⟩

/-- The macros have different names iff no two messages are of the same words. -/
theorem nodup_sizeMacros_iff (hwords : ∀ m ∈ h.messages, IsWord m.name) :
    (h.messages.map fun m => sizeMacro m.name).Nodup
      ↔ h.messages.Pairwise fun m n => ¬ SameWords m.name n.name := by
  rw [List.Nodup, List.pairwise_map]
  exact List.Pairwise.iff_of_mem fun hm hn =>
    not_congr (sizeMacro_eq_iff (hwords _ hm) (hwords _ hn))

/-- If no two messages are of the same words, each macro stands for the size of its message. -/
theorem measures_of_pairwise (hwords : ∀ m ∈ h.messages, IsWord m.name)
    (hguard : ∀ name, h.guard ≠ sizeMacro name)
    (hdistinct : h.messages.Pairwise fun m n => ¬ SameWords m.name n.name) (hm : m ∈ h.messages) :
    h.Measures m := by
  have hsymm : Std.Symm fun n m : Message =>
      SameWords n.name m.name → packedSize n.bindings = packedSize m.bindings :=
    ⟨fun _ _ h hsame => (h hsame.symm).symm⟩
  have hsizes : h.messages.Pairwise fun m n : Message =>
      SameWords n.name m.name → packedSize n.bindings = packedSize m.bindings :=
    hdistinct.imp fun hne hsame => absurd hsame.symm hne
  exact (measures_iff hwords hguard hm).mpr fun n hn hsame =>
    hsizes.forall_of_forall (fun _ _ _ => rfl) hm hn hsame

end Header

/-! ### The headers of a request -/

section Request

open DeviceGen.Descriptor (FieldDescriptor FileDescriptor MessageDescriptor)

variable {request : Descriptor.Request} {files : List Output.File} {file : FileDescriptor}

/-- The header for a file of a request. -/
def headerFor (request : Descriptor.Request) (file : FileDescriptor) : Header :=
  headerOf request.context (Schema.File.ofDescriptor file)

/-- Each message of a header is a message of its file. -/
theorem of_mem_headerFor {m : Message} (hm : m ∈ (headerFor request file).messages) :
    m.isPacked = true ∧ ∃ d ∈ file.messages, m.name = d.name := by
  obtain ⟨message, hmessage, hpacked⟩ := List.mem_filterMap.mp hm
  obtain ⟨d, hd, rfl⟩ := List.mem_map.mp hmessage
  obtain ⟨hname, hisPacked, -⟩ := of_packed? hpacked
  exact ⟨hisPacked, d, hd, hname⟩

theorem guard_headerFor_ne (name : String) : (headerFor request file).guard ≠ sizeMacro name := by
  have hlast : (headerFor request file).guard.toList.getLast? = some 'H' :=
    getLast?_guardName (getLast?_fileName (by decide) _ _)
  intro heq
  rw [heq, getLast?_sizeMacro] at hlast
  cases hlast

/-- **Which bounds checks ask for the size of their own message.**  In the header for a selected
file the macro of a message stands for the size of that message iff all messages of the same
words have packed forms of this size, and then its functions do what they do with its own
declaration.  The macros have different names iff no two messages are of the same words, which
is enough for all of them. -/
theorem checks_own_size_iff (hgenerate : (Generator.can.generate request).result = .ok files)
    (hfile : file ∈ request.selectedFiles) (hwords : ∀ m ∈ file.messages, IsWord m.name) :
    (headerFor request file).file ∈ files
      ∧ (headerFor request file).file.content = unlines (headerFor request file).lines
      ∧ (((headerFor request file).messages.map fun m => sizeMacro m.name).Nodup
          ↔ (headerFor request file).messages.Pairwise fun m n => ¬ SameWords m.name n.name)
      ∧ (((headerFor request file).messages.Pairwise fun m n => ¬ SameWords m.name n.name) →
          ∀ m ∈ (headerFor request file).messages, (headerFor request file).Measures m)
      ∧ ∀ m ∈ (headerFor request file).messages,
          ((headerFor request file).Measures m
            ↔ ∀ n ∈ (headerFor request file).messages, SameWords n.name m.name →
              packedSize n.bindings = packedSize m.bindings)
          ∧ ((headerFor request file).Measures m → ∀ memory,
            (packRoutine m.name m.bindings).call (headerFor request file).lines memory
                = pack m memory
              ∧ (unpackRoutine m.name m.bindings).call (headerFor request file).lines memory
                = unpack m memory) := by
  have hnames : ∀ m ∈ (headerFor request file).messages, IsWord m.name := by
    intro m hm
    obtain ⟨-, d, hd, hname⟩ := of_mem_headerFor hm
    rw [hname]
    exact hwords d hd
  refine ⟨?_, ?_, Header.nodup_sizeMacros_iff hnames, ?_, ?_⟩
  · rw [Generator.of_generate_can hgenerate, List.mem_flatMap]
    exact ⟨file, hfile, List.mem_cons_self⟩
  · exact Header.content_file fun m hm => (of_mem_headerFor hm).1
  · intro hdistinct m hm
    exact Header.measures_of_pairwise hnames guard_headerFor_ne hdistinct hm
  · intro m hm
    exact ⟨Header.measures_iff hnames guard_headerFor_ne hm, fun h => h.call_eq⟩

/-- A file with messages of one field, given by the code of its type. -/
def sensorFile (messages : List (String × Int32)) : FileDescriptor :=
  FileDescriptor.make "sensor.proto" none
    (messages.map fun (name, type) =>
      MessageDescriptor.make name [FieldDescriptor.make "value" 1 type none]) []

/-- A request for the code of such a file. -/
def sensorRequest (messages : List (String × Int32)) : Descriptor.Request :=
  .make ["sensor.proto"] none [sensorFile messages]

/-- The header for such a file. -/
def sensorHeader (messages : List (String × Int32)) : Header :=
  headerFor (sensorRequest messages) (sensorFile messages)

/-- Two messages of the same words and of the same size, and another one. -/
def alikeSensors : List (String × Int32) := [("AdcTlm", 1), ("ADCTlm", 1), ("PumpCtl", 8)]

theorem checks_own_size_iff_sample :
    ¬ ((sensorHeader alikeSensors).messages.map fun m => sizeMacro m.name).Nodup
      ∧ ∀ m ∈ (sensorHeader alikeSensors).messages, ∀ memory,
        (packRoutine m.name m.bindings).call (sensorHeader alikeSensors).lines memory
          = pack m memory := by
  obtain ⟨files, hgenerate⟩ : ∃ files,
      (Generator.can.generate (sensorRequest alikeSensors)).result = .ok files :=
    exists_ok_of_isSome (by decide +kernel)
  have hfile : sensorFile alikeSensors ∈ (sensorRequest alikeSensors).selectedFiles :=
    List.mem_cons_self
  obtain ⟨-, -, hnodup, -, hchecks⟩ := checks_own_size_iff hgenerate hfile (by decide +kernel)
  have hwords : ¬ (sensorHeader alikeSensors).messages.Pairwise
      fun m n => ¬ SameWords m.name n.name := by
    decide +kernel
  have hsizes : ∀ m ∈ (sensorHeader alikeSensors).messages,
      ∀ n ∈ (sensorHeader alikeSensors).messages,
        SameWords n.name m.name → packedSize n.bindings = packedSize m.bindings := by
    decide +kernel
  refine ⟨mt hnodup.mp hwords, fun m hm memory => ?_⟩
  obtain ⟨hmeasures, hcall⟩ := hchecks m hm
  exact (hcall (hmeasures.mpr (hsizes m hm)) memory).1

/-- Two messages of the same words, a wide one and a narrow one. -/
def clashingSensors : List (String × Int32) := [("AdcTlm", 1), ("ADCTlm", 5)]

/-- Messages of the same words may have packed forms of different sizes.  Then their macro is
defined twice and stands for neither size.  Taken as the size of the narrow message, it lets the
wide one be packed into a buffer that cannot hold it, and what such a run does is undefined. -/
theorem checks_may_ask_for_another_size :
    (sensorFile clashingSensors).messages.map (·.name) = ["AdcTlm", "ADCTlm"]
      ∧ (∃ files, (Generator.can.generate (sensorRequest clashingSensors)).result = .ok files)
      ∧ (sensorHeader clashingSensors).messages.map
          (fun m => (m.name, sizeMacro m.name, packedSize m.bindings))
        = [("AdcTlm", "ADC_TLM_PACKED_SIZE", 8), ("ADCTlm", "ADC_TLM_PACKED_SIZE", 4)]
      ∧ (∀ n, ¬ StandsFor "ADC_TLM_PACKED_SIZE" (sensorHeader clashingSensors).lines n)
      ∧ ∃ wide narrow, (sensorHeader clashingSensors).messages = [wide, narrow]
          ∧ (packRoutine wide.name wide.bindings).call (structLines narrow.name narrow.bindings)
              ⟨fun _ => .double 0, [0, 0, 0, 0]⟩ = none := by
  have hmacro : sizeMacro "AdcTlm" = "ADC_TLM_PACKED_SIZE" := by decide +kernel
  have hvalues : macroValues (sizeMacro "AdcTlm") (sensorHeader clashingSensors).lines = _ :=
    Header.macroValues_lines (by decide) (by decide +kernel) (guard_headerFor_ne _)
  have hsizes : (((sensorHeader clashingSensors).messages.filter
      fun m => sizeMacro m.name = sizeMacro "AdcTlm").map fun m => packedSize m.bindings)
        = [8, 4] := by
    decide +kernel
  rw [hsizes, hmacro] at hvalues
  refine ⟨by decide +kernel, exists_ok_of_isSome (by decide +kernel), by decide +kernel, ?_, ?_⟩
  · rintro n ⟨-, hall⟩
    rw [hvalues] at hall
    have hwide := hall 8 (by decide)
    have hnarrow := hall 4 (by decide)
    omega
  · exact ⟨_, _, rfl, Option.isNone_iff_eq_none.mp (by decide +kernel)⟩

end Request

end Can

end DeviceGen
