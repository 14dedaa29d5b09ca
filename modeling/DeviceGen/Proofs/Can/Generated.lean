/-
The headers that are generated for a request.

If nothing is wrong with a request, each selected file gives a header and a source, and
both are made of the same messages: those that have a role and at least one field that can
be bound.  What can be said about these messages is collected here.  Their names and those
of their members are names of the file; and an enumeration that one of their members
chooses from is the one that the registry of the whole request knows by its name, so it is
declared in some file, and two messages never mean two enumerations by one name.
-/
import DeviceGen.Proofs.Bindings
import DeviceGen.Proofs.Generator.Failure
import DeviceGen.Proofs.Text.Lines

namespace DeviceGen

open DeviceGen.Descriptor (FileDescriptor)
open DeviceGen.Schema (Enumeration Registry ValueType)
open DeviceGen.Text (IsWord isWordChar)

/-! ### Headers -/

namespace Can

/-- What a header is made of. -/
structure Header where
  /-- The name of the file. -/
  name : String
  messages : List Message
  deriving DecidableEq, Repr

/-- The generated file. -/
def Header.file (h : Header) : Output.File := header h.name h.messages

/-- The macro that says that a header was read. -/
def Header.guard (h : Header) : String := C.guardName h.name

/-- The enumerations that a message chooses from. -/
def Message.enums (m : Message) : List Enumeration :=
  m.bindings.filterMap fun b => enumOf? b.representation

/-- The enumerations that the messages of a header choose from. -/
def Header.enums (h : Header) : List Enumeration := h.messages.flatMap Message.enums

/-- An enumeration that a message of one of these headers chooses from. -/
def Needed (headers : List Header) (e : Enumeration) : Prop := ∃ h ∈ headers, e ∈ h.enums

/-- A message of a schema file as it is packed, if it is. -/
def packed? (context : Context) (message : Schema.Message) : Option Message :=
  (message? context message).result.toOption.join

/-- The header for a schema file. -/
def headerOf (context : Context) (schema : Schema.File) : Header where
  name := Output.fileName headerName schema.stem context.selected
  messages := schema.messages.filterMap (packed? context)

/-- The source for a schema file. -/
def sourceOf (context : Context) (schema : Schema.File) : Output.File :=
  source (Output.fileName sourceName schema.stem context.selected) (headerOf context schema).name
    (headerOf context schema).messages

end Can

namespace Traced

/-- A loop that ends well has the answers of its turns, if these are known. -/
theorem of_each_ok {α β : Type} {f : α → Traced β} {g : α → β} :
    ∀ {l : List α} {bs : List β}, (∀ a ∈ l, ∀ b, (f a).result = .ok b → b = g a) →
      (each f l).result = .ok bs → bs = l.map g
  | [], bs, _, h => by
      cases h
      rfl
  | a :: l, bs, hg, h => by
      rw [each, result_bind] at h
      cases hfirst : (f a).result with
      | error e =>
          rw [hfirst] at h
          cases h
      | ok b =>
          rw [hfirst] at h
          replace h : (each f l >>= fun bs => pure (b :: bs)).result = .ok bs := h
          rw [result_bind] at h
          cases hrest : (each f l).result with
          | error e =>
              rw [hrest] at h
              cases h
          | ok rest =>
              rw [hrest] at h
              cases h
              have hl := of_each_ok (fun a' ha' => hg a' (List.mem_cons_of_mem a ha')) hrest
              rw [List.map_cons, ← hg a List.mem_cons_self b hfirst, ← hl]

end Traced

theorem exists_ok_of_isSome {β : Type} {x : Except Error β} (h : x.toOption.isSome = true) :
    ∃ b, x = .ok b := by
  cases x with
  | error e => cases h
  | ok b => exact ⟨b, rfl⟩

namespace Can

variable {context : Context} {schema : Schema.File}

/-- A schema file gives a header and a source. -/
theorem of_files_ok {outputs : List Output.File} (h : (files context schema).result = .ok outputs) :
    outputs = [(headerOf context schema).file, sourceOf context schema] := by
  unfold files at h
  rw [Traced.result_bind] at h
  cases hfound : (Traced.each (message? context) schema.messages).result with
  | error e =>
      rw [hfound] at h
      cases h
  | ok found =>
      rw [hfound] at h
      cases h
      have hpacked : found = schema.messages.map (packed? context) := by
        refine Traced.of_each_ok (fun m _ o ho => ?_) hfound
        rw [packed?, ho]
        rfl
      rw [hpacked, List.filterMap_map]
      rfl

end Can

/-! ### Messages and bindings -/

namespace Binding

variable {registry : Registry} {options : Options} {role : Schema.Role} {message : Schema.Message}

/-- A binding has the name of its field, and what it chooses from is known by its name. -/
theorem of_ofField {field : Schema.Field} {b : Binding}
    (h : ofField registry options role message field = .ok (some b)) :
    b.name = field.name
      ∧ ∀ e, Can.enumOf? b.representation = some e → registry.get? e.name = some e := by
  unfold ofField at h
  cases hr : field.type.representation registry message.name field.name with
  | error e =>
      rw [hr] at h
      cases h
  | ok r =>
      rw [hr] at h
      cases r with
      | none => cases h
      | some r =>
          cases h
          refine ⟨rfl, fun e he => ?_⟩
          replace he : Can.enumOf? r = some e := he
          cases htype : field.type with
          | enumeration name =>
              rw [htype, ValueType.representation, Registry.resolve] at hr
              cases hget : registry.get? name with
              | none =>
                  rw [hget] at hr
                  cases hr
              | some found =>
                  rw [hget] at hr
                  cases hr
                  cases he
                  have hname : found.name = name := by
                    simpa using List.find?_some hget
                  show registry.get? found.name = some found
                  rw [hname]
                  exact hget
          | message | other =>
              rw [htype] at hr
              cases hr
          | _ =>
              rw [htype] at hr
              cases hr
              cases he

end Binding

namespace Can

variable {context : Context} {message : Schema.Message} {m : Message}

/-- A message that is packed has a role and bindings, which are those of its fields. -/
theorem of_packed? (h : packed? context message = some m) :
    m.name = message.name ∧ m.isPacked = true
      ∧ Binding.ofFields context.registry context.options message.role message message.fields
        = .ok m.bindings := by
  have hresult : (message? context message).result = .ok (some m) := by
    unfold packed? at h
    cases hr : (message? context message).result with
    | error e =>
        rw [hr] at h
        cases h
    | ok o =>
        rw [hr] at h
        exact congrArg Except.ok h
  unfold message? at hresult
  split at hresult
  · cases hresult
  · next hrole =>
      rw [Traced.result_bind] at hresult
      cases hbindings : (context.bindings message).result with
      | error e =>
          rw [hbindings] at hresult
          cases hresult
      | ok bindings =>
          rw [hbindings] at hresult
          by_cases hempty : bindings.isEmpty = true
          · replace hresult : (if bindings.isEmpty = true then _ else _ : Traced _).result
              = .ok (some m) := hresult
            rw [if_pos hempty] at hresult
            cases hresult
          · replace hresult : (if bindings.isEmpty = true then _ else _ : Traced _).result
              = .ok (some m) := hresult
            rw [if_neg hempty] at hresult
            cases hresult
            refine ⟨rfl, ?_, hbindings⟩
            simpa [Message.isPacked, hempty] using hrole

/-- An enumeration that a packed message chooses from is known by its name. -/
theorem get?_of_mem_enums (h : packed? context message = some m) {e : Enumeration}
    (he : e ∈ m.enums) : context.registry.get? e.name = some e := by
  obtain ⟨-, -, hbindings⟩ := of_packed? h
  obtain ⟨b, hb, hchoice⟩ := List.mem_filterMap.mp he
  obtain ⟨field, -, hfield⟩ := Binding.of_mem_ofFields hbindings hb
  exact (Binding.of_ofField hfield).2 e hchoice

end Can

/-! ### Requests -/

namespace Descriptor.Request

/-- The context in which the files of a request are generated. -/
def context (request : Request) : Context :=
  Generator.contextOf (Schema.Model.ofRequest request)

/-- The headers for the selected files, in the order of the selection. -/
def headers (request : Request) : List Can.Header :=
  request.selectedFiles.map fun file =>
    Can.headerOf request.context (Schema.File.ofDescriptor file)

end Descriptor.Request

variable {request : Descriptor.Request} {files : List Output.File}

/-- What is generated are a header and a source for each selected file. -/
theorem Generator.of_generate_can (h : (Generator.can.generate request).result = .ok files) :
    files = request.selectedFiles.flatMap fun file =>
      [(Can.headerOf request.context (Schema.File.ofDescriptor file)).file,
        Can.sourceOf request.context (Schema.File.ofDescriptor file)] := by
  rw [result_generate] at h
  cases hselect : (Schema.Model.ofRequest request).select request.selected with
  | error e =>
      rw [hselect] at h
      cases h
  | ok schemas =>
      rw [hselect] at h
      replace h : ((Traced.each (Generator.can.files request.context) schemas).result
        >>= fun groups => Except.ok groups.flatten) = .ok files := h
      cases hgroups : (Traced.each (Generator.can.files request.context) schemas).result with
      | error e =>
          rw [hgroups] at h
          cases h
      | ok groups =>
          rw [hgroups] at h
          cases h
          have hfiles := Traced.of_each_ok
            (fun schema _ outputs houtputs => Can.of_files_ok houtputs) hgroups
          rw [hfiles, Schema.Model.select_eq request hselect, List.map_map]
          rfl

/-! ### Names -/

/-- Packages, messages, fields, enumerations and labels are named by identifiers; dots may stand
between the parts of a package.  Of identifiers no more is asked than that they are words. -/
structure Descriptor.Request.NamedByWords (request : Descriptor.Request) : Prop where
  package : ∀ file ∈ request.files, ∀ package, file.package? = some package →
    ∀ c ∈ package.toList, isWordChar c = true ∨ c = '.'
  message : ∀ file ∈ request.files, ∀ m ∈ file.messages, IsWord m.name
  field : ∀ file ∈ request.files, ∀ m ∈ file.messages, ∀ field ∈ m.fields, IsWord field.name
  enclosing : ∀ file ∈ request.files, ∀ path e, file.Declares path e → ∀ name ∈ path, IsWord name
  enumeration : ∀ file ∈ request.files, ∀ path e, file.Declares path e → IsWord e.name
  label : ∀ file ∈ request.files, ∀ path e, file.Declares path e →
    ∀ v ∈ e.values, IsWord v.label

/-- Where messages have nothing inside, the names are few. -/
theorem Descriptor.Request.NamedByWords.of_flat {request : Request}
    (hflat : ∀ file ∈ request.files, ∀ m ∈ file.messages, m.nested = [] ∧ m.enums = [])
    (hpackage : ∀ file ∈ request.files, ∀ package ∈ file.package?.toList, IsWord package)
    (hmessages : ∀ file ∈ request.files, ∀ m ∈ file.messages,
      IsWord m.name ∧ ∀ field ∈ m.fields, IsWord field.name)
    (henums : ∀ file ∈ request.files, ∀ e ∈ file.enums,
      IsWord e.name ∧ ∀ v ∈ e.values, IsWord v.label) : request.NamedByWords where
  package := fun file hfile package hname c hc =>
    Or.inl (hpackage file hfile package (by rw [hname]; exact List.mem_singleton_self package) c hc)
  message := fun file hfile m hm => (hmessages file hfile m hm).1
  field := fun file hfile m hm => (hmessages file hfile m hm).2
  enclosing := fun file hfile path e h => by
    rw [(h.of_flat (hflat file hfile)).1]
    simp
  enumeration := fun file hfile path e h => (henums file hfile e (h.of_flat (hflat file hfile)).2).1
  label := fun file hfile path e h => (henums file hfile e (h.of_flat (hflat file hfile)).2).2

/-- A message whose names do not break the lines that they are printed in. -/
structure Can.Message.Clear (m : Can.Message) : Prop where
  name : IsWord m.name
  members : ∀ b ∈ m.bindings, IsWord b.name
  enums : ∀ e ∈ m.enums, '\n' ∉ e.name.toList
  labels : ∀ e ∈ m.enums, ∀ v ∈ e.values, '\n' ∉ v.label.toList

theorem not_mem_dotted {c : Char} (hc : c ≠ '.') {names : List String}
    (h : ∀ name ∈ names, c ∉ name.toList) : c ∉ (dotted names).toList := by
  induction names with
  | nil => simp [dotted_nil]
  | cons name names ih =>
      rw [dotted_cons, String.toList_append, String.toList_append, List.mem_append,
        List.mem_append]
      rintro ((hdot | hname) | hnames)
      · exact hc (by simpa using hdot)
      · exact h name List.mem_cons_self hname
      · exact ih (fun other hother => h other (List.mem_cons_of_mem name hother)) hnames

namespace Descriptor.Request

variable (request)

theorem mem_files_of_mem_selectedFiles {file : FileDescriptor} (h : file ∈ request.selectedFiles) :
    file ∈ request.files := by
  obtain ⟨name, -, hfind⟩ := List.mem_filterMap.mp h
  exact List.mem_of_find?_eq_some hfind

variable {request}

/-- An enumeration that is known by its name is declared in some file. -/
theorem declared_of_get? {e : Enumeration} (h : request.context.registry.get? e.name = some e) :
    ∃ file ∈ request.files, ∃ path d, file.Declares path d
      ∧ e = Enumeration.ofDescriptor (dotted (file.packagePath ++ path)) d := by
  replace h : (Registry.ofFiles (Schema.Model.ofRequest request).files).get? e.name = some e := h
  rw [Registry.get?_ofFiles] at h
  obtain ⟨schema, hschema, he⟩ := List.mem_flatMap.mp (List.mem_of_find?_eq_some h)
  obtain ⟨file, hfile, rfl⟩ := List.mem_map.mp hschema
  obtain ⟨path, d, hdeclares, rfl⟩ := Schema.mem_enumsOf.mp he
  exact ⟨file, hfile, path, d, hdeclares, rfl⟩

/-- A header with the file it was generated for. -/
theorem of_mem_headers {h : Can.Header} (hh : h ∈ request.headers) :
    ∃ file ∈ request.selectedFiles,
      h = Can.headerOf request.context (Schema.File.ofDescriptor file) := by
  obtain ⟨file, hfile, rfl⟩ := List.mem_map.mp hh
  exact ⟨file, hfile, rfl⟩

/-- Each message of a header is a message of a file. -/
theorem of_mem_messages {h : Can.Header} (hh : h ∈ request.headers) {m : Can.Message}
    (hm : m ∈ h.messages) :
    ∃ file ∈ request.files, ∃ d ∈ file.messages,
      Can.packed? request.context (Schema.Message.ofDescriptor d) = some m := by
  obtain ⟨file, hfile, rfl⟩ := of_mem_headers hh
  obtain ⟨message, hmessage, hpacked⟩ := List.mem_filterMap.mp hm
  obtain ⟨d, hd, rfl⟩ := List.mem_map.mp hmessage
  exact ⟨file, mem_files_of_mem_selectedFiles request hfile, d, hd, hpacked⟩

/-- An enumeration of a header is the one that the request knows by its name. -/
theorem get?_of_needed {e : Enumeration} (he : Can.Needed request.headers e) :
    request.context.registry.get? e.name = some e := by
  obtain ⟨h, hh, hmem⟩ := he
  obtain ⟨m, hm, hmem⟩ := List.mem_flatMap.mp hmem
  obtain ⟨_, _, _, _, hpacked⟩ := of_mem_messages hh hm
  exact Can.get?_of_mem_enums hpacked hmem

/-- Headers mean one enumeration by one name. -/
theorem eq_of_needed {e e' : Enumeration} (he : Can.Needed request.headers e)
    (he' : Can.Needed request.headers e') (hname : e.name = e'.name) : e = e' := by
  have hget := get?_of_needed he
  rw [hname, get?_of_needed he'] at hget
  exact (Option.some.inj hget).symm

/-- The package does not break a line that it is printed in. -/
theorem NamedByWords.not_mem_package (hwords : request.NamedByWords) {file : FileDescriptor}
    (hfile : file ∈ request.files) : ∀ name ∈ file.packagePath, '\n' ∉ name.toList := by
  intro name hname
  unfold FileDescriptor.packagePath at hname
  cases hpackage : file.package? with
  | none => simp [hpackage] at hname
  | some package =>
      simp only [hpackage] at hname
      split at hname
      · cases hname
      · obtain rfl := List.mem_singleton.mp hname
        intro hline
        rcases hwords.package file hfile _ hpackage _ hline with hword | hdot
        · cases hword
        · cases hdot

/-- The full name of an enumeration does not break a line that it is printed in. -/
theorem NamedByWords.not_mem_enumName (hwords : request.NamedByWords) {file : FileDescriptor}
    (hfile : file ∈ request.files) {path : List String} {e : Descriptor.EnumDescriptor}
    (h : file.Declares path e) :
    '\n' ∉ (dotted (file.packagePath ++ path ++ [e.name])).toList := by
  refine not_mem_dotted (by decide) fun name hname => ?_
  rw [List.mem_append, List.mem_append] at hname
  rcases hname with (hpackage | hpath) | hown
  · exact hwords.not_mem_package hfile name hpackage
  · exact (hwords.enclosing file hfile path e h name hpath).not_mem (by decide)
  · rw [List.mem_singleton.mp hown]
    exact (hwords.enumeration file hfile path e h).not_mem (by decide)

theorem clear_of_mem_messages (hwords : request.NamedByWords) {h : Can.Header}
    (hh : h ∈ request.headers) {m : Can.Message} (hm : m ∈ h.messages) : m.Clear := by
  obtain ⟨file, hfile, d, hd, hpacked⟩ := of_mem_messages hh hm
  obtain ⟨hname, -, hbindings⟩ := Can.of_packed? hpacked
  have hdeclared {e : Enumeration} (he : e ∈ m.enums) :=
    declared_of_get? (Can.get?_of_mem_enums hpacked he)
  refine ⟨?_, ?_, ?_, ?_⟩
  · rw [hname]
    exact hwords.message file hfile d hd
  · intro b hb
    obtain ⟨field, hfield, hbinding⟩ := Binding.of_mem_ofFields hbindings hb
    obtain ⟨fd, hfd, rfl⟩ := List.mem_map.mp hfield
    rw [(Binding.of_ofField hbinding).1]
    exact hwords.field file hfile d hd fd hfd
  · intro e he
    obtain ⟨file, hfile, path, declaration, hdeclares, rfl⟩ := hdeclared he
    rw [Schema.name_ofDescriptor]
    exact hwords.not_mem_enumName hfile hdeclares
  · intro e he v hv
    obtain ⟨file, hfile, path, declaration, hdeclares, rfl⟩ := hdeclared he
    obtain ⟨value, hvalue, rfl⟩ := List.mem_map.mp hv
    exact (hwords.label file hfile path declaration hdeclares value hvalue).not_mem (by decide)

end Descriptor.Request

end DeviceGen
