/-
Which names in generated files are identifiers.

If the names of a schema are identifiers, so are the names that are made of them.  The full name
of an enumeration, which may begin with the name of a package, loses its first dot and gets
underscores for the others.

The guard of a header is made of a path instead.  Every character of the path is kept in capitals
or becomes an underscore, and this leaves a digit where it stands.  So the guard is an identifier
unless there are several headers and the path of its schema file begins with a digit
(`isIdentifier_guard_iff`).
-/
import DeviceGen.Proofs.Can.BlockNames
import DeviceGen.Proofs.Can.Sizes
import DeviceGen.Proofs.Generator.Names

namespace DeviceGen

open DeviceGen.C (IsIdentifier areIdentifierChars enumBase isIdentifier_iff)
open DeviceGen.Descriptor (EnumDescriptor EnumValueDescriptor FieldDescriptor FileDescriptor
  MessageDescriptor)
open DeviceGen.Schema (Enumeration)
open DeviceGen.Text (isWordChar unlines)

/-! ### Qualified names -/

/-- Identifiers with dots between them. -/
def IsQualified (text : String) : Prop :=
  ∀ part ∈ text.toList.splitOn '.', areIdentifierChars part = true

instance (text : String) : Decidable (IsQualified text) :=
  inferInstanceAs (Decidable (∀ part ∈ _, _))

theorem mem_splitOn_or_eq {c separator : Char} {cs : List Char} (h : c ∈ cs) :
    (∃ part ∈ cs.splitOn separator, c ∈ part) ∨ c = separator := by
  simp only [List.splitOn_eq_splitOnP]
  induction cs with
  | nil => cases h
  | cons d ds ih =>
      obtain ⟨part, parts, hsplit⟩ :=
        List.exists_cons_of_ne_nil (List.splitOnP_ne_nil (· == separator) ds)
      rw [hsplit] at ih
      rw [List.splitOnP_cons_eq_if_modifyHead, hsplit]
      by_cases hd : d = separator
      · rw [if_pos (beq_iff_eq.mpr hd)]
        rcases List.mem_cons.mp h with rfl | h
        · exact .inr hd
        · exact (ih h).imp_left fun ⟨p, hp, hc⟩ => ⟨p, List.mem_cons_of_mem _ hp, hc⟩
      · -- the first part gets one character more, and the others stay
        rw [if_neg (mt beq_iff_eq.mp hd), List.modifyHead_cons]
        rcases List.mem_cons.mp h with rfl | h
        · exact .inl ⟨_, List.mem_cons_self, List.mem_cons_self⟩
        · refine (ih h).imp_left fun ⟨p, hp, hc⟩ => ?_
          rcases List.mem_cons.mp hp with rfl | hp
          · exact ⟨_, List.mem_cons_self, List.mem_cons_of_mem _ hc⟩
          · exact ⟨p, List.mem_cons_of_mem _ hp, hc⟩

theorem C.IsIdentifier.isQualified {name : String} (h : IsIdentifier name) : IsQualified name := by
  have hone : name.toList.splitOn '.' = [name.toList] := by
    rw [List.splitOn_eq_splitOnP]
    refine List.splitOnP_eq_singleton fun c hc => beq_eq_false_iff_ne.mpr ?_
    rintro rfl
    exact h.isWord.not_mem (by decide) hc
  intro part hpart
  rw [hone, List.mem_singleton] at hpart
  exact hpart ▸ h

namespace IsQualified

variable {text : String}

theorem isWordChar_or_eq (h : IsQualified text) :
    ∀ c ∈ text.toList, isWordChar c = true ∨ c = '.' := by
  intro c hc
  refine (mem_splitOn_or_eq hc).imp_left fun ⟨part, hpart, hmem⟩ => ?_
  have hidentifier : IsIdentifier (String.ofList part) := by
    unfold IsIdentifier
    rw [String.toList_ofList]
    exact h part hpart
  exact hidentifier.isWord c (by rwa [String.toList_ofList])

/-- A qualified name begins with a character that may begin an identifier. -/
theorem exists_cons (h : IsQualified text) :
    ∃ c cs, text.toList = c :: cs ∧ (c.isAlpha || c == '_') = true := by
  unfold IsQualified at h
  cases htext : text.toList with
  | nil =>
      rw [htext] at h
      exact absurd (h [] (by decide)) (by decide)
  | cons c cs =>
      refine ⟨c, cs, rfl, ?_⟩
      rw [htext, List.splitOn_eq_splitOnP, List.splitOnP_cons_eq_if_modifyHead] at h
      by_cases hc : c = '.'
      · rw [if_pos (beq_iff_eq.mpr hc)] at h
        exact absurd (h [] List.mem_cons_self) (by decide)
      · obtain ⟨part, parts, hsplit⟩ :=
          List.exists_cons_of_ne_nil (List.splitOnP_ne_nil (· == '.') cs)
        rw [if_neg (mt beq_iff_eq.mp hc), hsplit, List.modifyHead_cons] at h
        have hfirst := h (c :: part) List.mem_cons_self
        rw [areIdentifierChars, Bool.and_eq_true] at hfirst
        exact hfirst.1

end IsQualified

theorem isWordChar_or_eq_dotted {names : List String} (h : ∀ name ∈ names, IsQualified name) :
    ∀ c ∈ (dotted names).toList, isWordChar c = true ∨ c = '.' := by
  induction names with
  | nil => simp [dotted_nil]
  | cons name names ih =>
      rw [List.forall_mem_cons] at h
      intro c hc
      rw [dotted_cons, String.toList_append, String.toList_append, List.mem_append,
        List.mem_append] at hc
      rcases hc with (hdot | hname) | hnames
      · exact .inr (by simpa using hdot)
      · exact h.1.isWordChar_or_eq c hname
      · exact ih h.2 c hnames

/-- With underscores for its dots a full name is an identifier. -/
theorem isIdentifier_enumBase {names : List String} (hne : names ≠ [])
    (h : ∀ name ∈ names, IsQualified name) : IsIdentifier (enumBase (dotted names)) := by
  obtain ⟨name, names, rfl⟩ := List.exists_cons_of_ne_nil hne
  obtain ⟨c, cs, hcs, hfirst⟩ := (h name List.mem_cons_self).exists_cons
  have hword := C.isWordChar_of_isFirst hfirst
  have hdot : c ≠ '.' := by
    rintro rfl
    revert hword
    decide
  have hbase : (enumBase (dotted (name :: names))).toList
      = (c :: (cs ++ (dotted names).toList)).map fun d => if d = '.' then '_' else d := by
    have hchars : (dotted (name :: names)).toList = '.' :: c :: (cs ++ (dotted names).toList) := by
      rw [dotted_cons]
      simp [hcs]
    -- behind the first dot stands a character that is none, so no more is dropped
    unfold enumBase
    rw [String.toList_ofList, hchars, List.dropWhile_cons_of_pos (by decide),
      List.dropWhile_cons_of_neg (by simpa using hdot)]
  have hchars : ∀ d ∈ c :: (cs ++ (dotted names).toList), isWordChar d = true ∨ d = '.' := by
    intro d hd
    refine isWordChar_or_eq_dotted h d ?_
    rw [dotted_cons]
    simp only [String.toList_append, hcs, List.mem_append]
    rcases List.mem_cons.mp hd with rfl | hd
    · exact .inl (.inr List.mem_cons_self)
    · rcases List.mem_append.mp hd with hd | hd
      · exact .inl (.inr (List.mem_cons_of_mem _ hd))
      · exact .inr hd
  refine isIdentifier_iff.mpr ⟨?_, c, ?_, (C.isFirst_iff hword).mp hfirst⟩
  · intro d hd
    rw [hbase] at hd
    obtain ⟨e, he, rfl⟩ := List.mem_map.mp hd
    split
    · decide
    · next hne => exact (hchars e he).resolve_right hne
  · rw [hbase, List.map_cons, List.head?_cons, if_neg hdot]

/-! ### Guards -/

namespace Can

/-- Whether a text begins with a digit. -/
def beginsWithDigit (text : String) : Bool := text.toList.head?.any Char.isDigit

/-- What follows a name does not matter if it begins with a dot. -/
theorem beginsWithDigit_append_dot (name rest : String) :
    beginsWithDigit (name ++ ("." ++ rest)) = beginsWithDigit name := by
  unfold beginsWithDigit
  cases hname : name.toList with
  | nil => simp [hname]
  | cons c cs => simp [hname]

/-- Names of generated files begin with a digit iff they begin with the path of a schema file that
does. -/
theorem beginsWithDigit_fileName {own : String} (hown : beginsWithDigit own = false)
    (path : String) (selected : Nat) :
    beginsWithDigit (Output.fileName own (Text.beforeEnding ".proto" path) selected) = true
      ↔ 2 ≤ selected ∧ beginsWithDigit path = true := by
  have hstem : beginsWithDigit (Text.beforeEnding ".proto" path) = beginsWithDigit path := by
    cases hending : Text.hasEnding ".proto" path with
    | false => rw [Text.beforeEnding_of_not_hasEnding hending]
    | true =>
        obtain ⟨stem, rfl⟩ := Text.hasEnding_iff.mp hending
        rw [Text.beforeEnding_append]
        exact (beginsWithDigit_append_dot stem "proto").symm
  unfold Output.fileName
  by_cases hselected : selected ≤ 1
  · have hone : ¬ 2 ≤ selected := by omega
    rw [if_pos hselected, hown]
    simp [hone]
  · have hmany : 2 ≤ selected := by omega
    rw [if_neg hselected, String.append_assoc, beginsWithDigit_append_dot, hstem,
      and_iff_right hmany]

theorem fileName_ne_empty {own : String} (hown : own ≠ "") (stem : String) (selected : Nat) :
    Output.fileName own stem selected ≠ "" := by
  unfold Output.fileName
  split
  · exact hown
  · simp

section Guard

variable {request : Descriptor.Request} {file : FileDescriptor}

/-- **The guard of a header is an identifier** unless several files are selected and the path of
its own begins with a digit. -/
theorem isIdentifier_guard_iff :
    IsIdentifier (headerFor request file).guard
      ↔ ¬ (2 ≤ request.selected.length ∧ beginsWithDigit file.name = true) := by
  have hname : (headerFor request file).name
      = Output.fileName headerName (Text.beforeEnding ".proto" file.name)
        request.selected.length := rfl
  have hown : beginsWithDigit headerName = false := by decide
  have hdigit := beginsWithDigit_fileName hown file.name request.selected.length
  have hne : (headerFor request file).name ≠ "" := fileName_ne_empty (by decide) _ _
  rw [Header.guard, isIdentifier_guardName_iff, ← hdigit, ← hname]
  generalize (headerFor request file).name = name at hne ⊢
  unfold beginsWithDigit
  cases hchars : name.toList with
  | nil => exact absurd (String.toList_eq_nil_iff.mp hchars) hne
  | cons c cs => simp

end Guard

end Can

/-! ### Requests -/

/-- Packages, messages, fields, enumerations and labels are named by identifiers; dots may stand
between the parts of a package. -/
structure Descriptor.Request.NamedByIdentifiers (request : Descriptor.Request) : Prop where
  package : ∀ file ∈ request.files, ∀ package, file.package? = some package →
    package = "" ∨ IsQualified package
  message : ∀ file ∈ request.files, ∀ m ∈ file.messages, IsIdentifier m.name
  field : ∀ file ∈ request.files, ∀ m ∈ file.messages, ∀ field ∈ m.fields, IsIdentifier field.name
  enclosing : ∀ file ∈ request.files, ∀ path e, file.Declares path e →
    ∀ name ∈ path, IsIdentifier name
  enumeration : ∀ file ∈ request.files, ∀ path e, file.Declares path e → IsIdentifier e.name
  label : ∀ file ∈ request.files, ∀ path e, file.Declares path e →
    ∀ v ∈ e.values, IsIdentifier v.label

namespace Descriptor.Request.NamedByIdentifiers

variable {request : Request} {file : FileDescriptor}

theorem namedByWords (h : request.NamedByIdentifiers) : request.NamedByWords where
  package := fun file hfile package hpackage c hc => by
    rcases h.package file hfile package hpackage with rfl | hqualified
    · cases hc
    · exact hqualified.isWordChar_or_eq c hc
  message := fun file hfile m hm => (h.message file hfile m hm).isWord
  field := fun file hfile m hm field hfield => (h.field file hfile m hm field hfield).isWord
  enclosing := fun file hfile path e he name hname =>
    (h.enclosing file hfile path e he name hname).isWord
  enumeration := fun file hfile path e he => (h.enumeration file hfile path e he).isWord
  label := fun file hfile path e he v hv => (h.label file hfile path e he v hv).isWord

/-- Where messages have nothing inside, the names are few. -/
theorem of_flat (hflat : ∀ file ∈ request.files, ∀ m ∈ file.messages, m.nested = [] ∧ m.enums = [])
    (hpackage : ∀ file ∈ request.files, ∀ package ∈ file.package?.toList, IsQualified package)
    (hmessages : ∀ file ∈ request.files, ∀ m ∈ file.messages,
      IsIdentifier m.name ∧ ∀ field ∈ m.fields, IsIdentifier field.name)
    (henums : ∀ file ∈ request.files, ∀ e ∈ file.enums,
      IsIdentifier e.name ∧ ∀ v ∈ e.values, IsIdentifier v.label) : request.NamedByIdentifiers where
  package := fun file hfile package hname =>
    .inr (hpackage file hfile package (by rw [hname]; exact List.mem_singleton_self package))
  message := fun file hfile m hm => (hmessages file hfile m hm).1
  field := fun file hfile m hm => (hmessages file hfile m hm).2
  enclosing := fun file hfile path e h => by
    rw [(h.of_flat (hflat file hfile)).1]
    simp
  enumeration := fun file hfile path e h => (henums file hfile e (h.of_flat (hflat file hfile)).2).1
  label := fun file hfile path e h => (henums file hfile e (h.of_flat (hflat file hfile)).2).2

/-- The parts of the full name of an enumeration are qualified names. -/
theorem isQualified_part (h : request.NamedByIdentifiers) (hfile : file ∈ request.files)
    {path : List String} {e : EnumDescriptor} (he : file.Declares path e) :
    ∀ name ∈ file.packagePath ++ path ++ [e.name], IsQualified name := by
  intro name hname
  rw [List.mem_append, List.mem_append, List.mem_singleton] at hname
  rcases hname with (hpackage | hpath) | rfl
  · unfold FileDescriptor.packagePath at hpackage
    cases hsome : file.package? with
    | none => simp [hsome] at hpackage
    | some package =>
        simp only [hsome] at hpackage
        split at hpackage
        · cases hpackage
        · next hne =>
            rw [List.mem_singleton.mp hpackage]
            exact (h.package file hfile package hsome).resolve_left hne
  · exact (h.enclosing file hfile path e he name hpath).isQualified
  · exact (h.enumeration file hfile path e he).isQualified

/-- The messages of a header have names that make identifiers. -/
theorem legal (h : request.NamedByIdentifiers) (hfile : file ∈ request.selectedFiles)
    {m : Can.Message} (hm : m ∈ (Can.headerFor request file).messages) : m.Legal := by
  have hfiles := mem_files_of_mem_selectedFiles request hfile
  obtain ⟨message, hmessage, hpacked⟩ := List.mem_filterMap.mp hm
  obtain ⟨d, hd, rfl⟩ := List.mem_map.mp hmessage
  obtain ⟨hname, -, hbindings⟩ := Can.of_packed? hpacked
  have hdeclared {e : Enumeration} (he : e ∈ m.enums) :=
    declared_of_get? (Can.get?_of_mem_enums hpacked he)
  refine ⟨?_, ?_, ?_, ?_⟩
  · rw [hname]
    exact h.message file hfiles d hd
  · intro b hb
    obtain ⟨field, hfield, hbinding⟩ := Binding.of_mem_ofFields hbindings hb
    obtain ⟨fd, hfd, rfl⟩ := List.mem_map.mp hfield
    rw [(Binding.of_ofField hbinding).1]
    exact h.field file hfiles d hd fd hfd
  · intro e he
    obtain ⟨declaring, hdeclaring, path, declaration, hdeclares, rfl⟩ := hdeclared he
    rw [Schema.name_ofDescriptor]
    exact isIdentifier_enumBase (by simp) (h.isQualified_part hdeclaring hdeclares)
  · intro e he v hv
    obtain ⟨declaring, hdeclaring, path, declaration, hdeclares, rfl⟩ := hdeclared he
    obtain ⟨value, hvalue, rfl⟩ := List.mem_map.mp hv
    exact (h.label declaring hdeclaring path declaration hdeclares value hvalue).isWord

end Descriptor.Request.NamedByIdentifiers

namespace Can

section Request

variable {request : Descriptor.Request} {files : List Output.File} {file : FileDescriptor}

/-- The source for a file of a request. -/
def sourceFor (request : Descriptor.Request) (file : FileDescriptor) : Output.File :=
  sourceOf request.context (Schema.File.ofDescriptor file)

/-- The name of a generated file is as unbroken as the path of its schema file. -/
theorem unbroken_fileName {own path : String} (hown : Unbroken own) (hpath : Unbroken path)
    (selected : Nat) :
    Unbroken (Output.fileName own (Text.beforeEnding ".proto" path) selected) := by
  have hstem : Unbroken (Text.beforeEnding ".proto" path) := by
    unfold Text.beforeEnding Text.charsBeforeEnding
    split
    · exact .ofList fun hmem => hpath (List.mem_of_mem_take hmem)
    · exact .ofList hpath
  unfold Output.fileName
  split
  · exact hown
  · exact (hstem.append (by decide)).append hown

/-- A header and a source whose names are known, and are identifiers besides the guard. -/
structure LegalNames (h : Header) (f : Output.File) : Prop where
  /-- The header asks for its guard, defines it, and then introduces the names of its blocks. -/
  introduced : C.namesIn h.file.content
    = [h.guard, h.guard] ++ (blocks [] h.messages).flatMap Block.names
  declared : ∀ name ∈ (blocks [] h.messages).flatMap Block.names, IsIdentifier name
  /-- The source has its helpers and then the functions of the messages. -/
  functions : C.functionsIn f.content = helperFunctions ++ h.messages.flatMap Message.functions
  defined : ∀ name ∈ helperFunctions ++ h.messages.flatMap Message.functions, IsIdentifier name
  printed : f.content = unlines (sourceLines h.name h.messages)
  /-- These are the names that the functions of the messages have in them. -/
  used : ∀ m ∈ h.messages, ∀ name ∈ (packRoutine m.name m.bindings).names
    ++ (unpackRoutine m.name m.bindings).names, IsIdentifier name

theorem legalNames_headerFor (hnames : request.NamedByIdentifiers)
    (hfile : file ∈ request.selectedFiles) (hpath : '\n' ∉ file.name.toList) :
    LegalNames (headerFor request file) (sourceFor request file) := by
  have hlegal : ∀ m ∈ (headerFor request file).messages, m.Legal := fun m hm =>
    hnames.legal hfile hm
  have hpacked : ∀ m ∈ (headerFor request file).messages, m.isPacked = true := fun m hm =>
    (of_mem_headerFor hm).1
  have hclear : ∀ m ∈ (headerFor request file).messages, m.Clear := fun m hm =>
    Descriptor.Request.clear_of_mem_messages hnames.namedByWords
      (List.mem_map_of_mem (f := fun file => headerFor request file) hfile) hm
  have hcontent : (sourceFor request file).content
      = unlines (sourceLines (headerFor request file).name (headerFor request file).messages) := by
    rw [← content_sourceWith, ← source_eq hpacked]
    rfl
  have hline : '\n' ∉ (headerFor request file).name.toList :=
    unbroken_fileName (by decide) hpath request.selected.length
  refine ⟨?_, ?_, ?_, ?_, hcontent, ?_⟩
  · rw [C.namesIn, Header.content_file hpacked, Text.lines_unlines (Header.unbroken_lines hclear),
      Header.filterMap_name?_lines hlegal]
  · intro name hname
    obtain ⟨b, hb, hname⟩ := List.mem_flatMap.mp hname
    exact isIdentifier_of_mem_blocks hlegal hb name hname
  · have hunbroken := unbroken_sourceLines hline (fun m hm => (hlegal m hm).name.isWord)
      (fun m hm name hname => ((hlegal m hm).names_packRoutine name hname).isWord)
      (fun m hm name hname => ((hlegal m hm).names_unpackRoutine name hname).isWord)
    rw [C.functionsIn, hcontent, Text.lines_unlines hunbroken,
      filterMap_function?_sourceLines fun m hm => (hlegal m hm).name]
  · have hhelpers : ∀ name ∈ helperFunctions, IsIdentifier name := by decide
    rw [List.forall_mem_append]
    refine ⟨hhelpers, fun name hname => ?_⟩
    obtain ⟨m, hm, hname⟩ := List.mem_flatMap.mp hname
    exact (hlegal m hm).functions name hname
  · intro m hm
    rw [List.forall_mem_append]
    exact ⟨(hlegal m hm).names_packRoutine, (hlegal m hm).names_unpackRoutine⟩

/-- **Which names in generated files are identifiers.**  If the names of a schema are, then so is
every name in the header and the source for a selected file, but perhaps the guard of the header:
all names in the header are identifiers iff it is the only one, or the path of its schema file
does not begin with a digit. -/
theorem all_identifiers_iff (hnames : request.NamedByIdentifiers)
    (hgenerate : (Generator.can.generate request).result = .ok files)
    (hfile : file ∈ request.selectedFiles) (hpath : '\n' ∉ file.name.toList) :
    (headerFor request file).file ∈ files ∧ sourceFor request file ∈ files
      ∧ LegalNames (headerFor request file) (sourceFor request file)
      ∧ ((∀ name ∈ C.namesIn (headerFor request file).file.content, IsIdentifier name)
          ↔ ¬ (2 ≤ request.selected.length ∧ beginsWithDigit file.name = true)) := by
  have hnamed := legalNames_headerFor hnames hfile hpath
  have hguard : IsIdentifier (headerFor request file).guard ↔ _ := isIdentifier_guard_iff
  refine ⟨?_, ?_, hnamed, ?_⟩
  · rw [Generator.of_generate_can hgenerate, List.mem_flatMap]
    exact ⟨file, hfile, List.mem_cons_self⟩
  · rw [Generator.of_generate_can hgenerate, List.mem_flatMap]
    exact ⟨file, hfile, List.mem_cons_of_mem _ List.mem_cons_self⟩
  · rw [hnamed.introduced, ← hguard, List.forall_mem_append, and_iff_left hnamed.declared]
    simp

/-- A file at a path, which needs an enumeration of its own. -/
def wheelFile (path : String) : FileDescriptor :=
  FileDescriptor.make path (some "fw.axle")
    [MessageDescriptor.make "WheelCtl" [FieldDescriptor.make "default" 1 5 none,
      FieldDescriptor.make "mode" 2 14 (some ".fw.axle.Mode")]]
    [EnumDescriptor.make "Mode" [EnumValueDescriptor.make "OFF" 0]]

/-- A request for such a file and another one. -/
def wheelRequest (path : String) : Descriptor.Request :=
  .make [path, "brake.proto"] none [wheelFile path,
    FileDescriptor.make "brake.proto" (some "fw.axle")
      [MessageDescriptor.make "BrakeCtl" [FieldDescriptor.make "force" 1 2 none]] []]

theorem all_identifiers_iff_wheel :
    ∃ files, (Generator.can.generate (wheelRequest "front/2wheel.proto")).result = .ok files
      ∧ ∃ header ∈ files, ∃ source ∈ files,
        C.namesIn header.content = ["FRONT_2WHEEL_CAN_PB_H", "FRONT_2WHEEL_CAN_PB_H",
            "FW_AXLE_MODE_DEFINED", "FW_AXLE_MODE_DEFINED", "fw_axle_Mode_OFF", "fw_axle_Mode_t",
            "default_", "mode", "WheelCtl_t", "WHEEL_CTL_PACKED_SIZE", "pack_WheelCtl",
            "unpack_WheelCtl"]
          ∧ C.functionsIn source.content = helperFunctions ++ ["pack_WheelCtl", "unpack_WheelCtl"]
          ∧ ∀ name ∈ C.namesIn header.content, IsIdentifier name := by
  obtain ⟨files, hgenerate⟩ : ∃ files,
      (Generator.can.generate (wheelRequest "front/2wheel.proto")).result = .ok files :=
    exists_ok_of_isSome (by decide +kernel)
  have hnames : (wheelRequest "front/2wheel.proto").NamedByIdentifiers :=
    .of_flat (by decide +kernel) (by decide +kernel) (by decide +kernel) (by decide +kernel)
  have hfile : wheelFile "front/2wheel.proto" ∈ (wheelRequest "front/2wheel.proto").selectedFiles :=
    List.mem_cons_self
  obtain ⟨hheader, hsource, hlegal, hiff⟩ := all_identifiers_iff hnames hgenerate hfile (by decide)
  exact ⟨files, hgenerate, _, hheader, _, hsource, hlegal.introduced.trans (by decide +kernel),
    hlegal.functions.trans (by decide +kernel), hiff.mpr (by decide)⟩

/-- A path may begin with a digit.  Of several headers, the one for such a path has a guard that
begins with it too, and no macro can be named like this. -/
theorem guard_may_begin_with_digit :
    (wheelRequest "2wheel.proto").NamedByIdentifiers
      ∧ (wheelRequest "2wheel.proto").selected = ["2wheel.proto", "brake.proto"]
      ∧ (∃ files, (Generator.can.generate (wheelRequest "2wheel.proto")).result = .ok files
          ∧ ∃ header ∈ files, "2WHEEL_CAN_PB_H" ∈ C.namesIn header.content)
      ∧ ¬ IsIdentifier "2WHEEL_CAN_PB_H" := by
  obtain ⟨files, hgenerate⟩ : ∃ files,
      (Generator.can.generate (wheelRequest "2wheel.proto")).result = .ok files :=
    exists_ok_of_isSome (by decide +kernel)
  have hnames : (wheelRequest "2wheel.proto").NamedByIdentifiers :=
    .of_flat (by decide +kernel) (by decide +kernel) (by decide +kernel) (by decide +kernel)
  have hfile : wheelFile "2wheel.proto" ∈ (wheelRequest "2wheel.proto").selectedFiles :=
    List.mem_cons_self
  have hheader : (headerFor (wheelRequest "2wheel.proto") (wheelFile "2wheel.proto")).file ∈ files := by
    rw [Generator.of_generate_can hgenerate, List.mem_flatMap]
    exact ⟨_, hfile, List.mem_cons_self⟩
  have hguard : (headerFor (wheelRequest "2wheel.proto") (wheelFile "2wheel.proto")).guard
      = "2WHEEL_CAN_PB_H" := by
    decide +kernel
  refine ⟨hnames, by decide +kernel, ⟨files, hgenerate, _, hheader, ?_⟩, by decide⟩
  rw [(legalNames_headerFor hnames hfile (by decide)).introduced, hguard]
  exact List.mem_cons_self

end Request

end Can

end DeviceGen
