/-
Headers that are included together.

A header stands in a guard of its own.  Included again, it leaves nothing but its comment;
included for the first time, whatever was included before, it leaves all of its structures,
and of the enumeration types that it needs those that nothing before it has declared.

What carries this through a row of inclusions is which macros are defined.  After some
headers the guard of a header is defined iff it is one of them, and the guard of an
enumeration type iff the type has been declared, which it is once a header has asked for it
(`Included`).
-/
import DeviceGen.Proofs.Can.Inclusion
import DeviceGen.Proofs.Descriptor.Made

namespace DeviceGen.Can

open DeviceGen.C (Preprocessor Typedef enumBase enumGuard enumType guarded typedefs)
open DeviceGen.Descriptor (EnumDescriptor EnumValueDescriptor FieldDescriptor FileDescriptor
  MessageDescriptor)
open DeviceGen.Schema (Enumeration)
open DeviceGen.Text (IsWord)

/-! ### A row of headers -/

/-- Headers whose names stay in their lines and whose guards tell them, and the types in them,
apart. -/
structure Compatible (headers : List Header) : Prop where
  packed : ∀ h ∈ headers, ∀ m ∈ h.messages, m.isPacked = true
  clear : ∀ h ∈ headers, ∀ m ∈ h.messages, m.Clear
  /-- No guard of a header is a guard of a type or a size. -/
  ending : ∀ h ∈ headers, h.guard.toList.getLast? = some 'H'
  guards : ∀ h ∈ headers, ∀ h' ∈ headers, h.guard = h'.guard → h = h'
  enums : Apart (Needed headers)

/-- What is known after the headers `before` have been read and `kept` is left of them. -/
structure Included (headers before : List Header) (s : Preprocessor) (kept : List String) :
    Prop where
  closed : s.taken = []
  guards : ∀ h ∈ headers, h.guard ∈ s.defined ↔ h ∈ before
  enums : EnumsDeclared (Needed headers) s.defined kept
  covers : ∀ h ∈ before, ∀ e ∈ h.enums, enumGuard e.name ∈ s.defined

section Row

variable {headers before : List Header} {s : Preprocessor} {kept : List String}

theorem Included.start : Included headers [] .start [] where
  closed := rfl
  guards := by simp [Preprocessor.start]
  enums := ⟨[], rfl, by simp, by simp [Preprocessor.start]⟩
  covers := by simp

theorem Included.keeps (hi : Included headers before s kept) : s.keeps = true := by
  unfold Preprocessor.keeps
  rw [hi.closed]
  rfl

/-- What the guard of a header protects is read once its macro is defined. -/
theorem advances_protected (hc : Compatible headers) {h : Header} (hh : h ∈ headers)
    (hs : s.keeps = true) :
    ∃ t part, Advances (Needed headers) s (includeLines ++ declarationLines [] h.messages ++ [""])
        t part
      ∧ (∀ e ∈ h.enums, enumGuard e.name ∈ t.defined)
      ∧ ∀ earlier, EnumsDeclared (Needed headers) s.defined earlier →
        Declared earlier h.messages part := by
  have hincludes : Advances (Needed headers) s includeLines s includeLines :=
    advances_plain hs plain_includeLines
  have hseen : Met s [] := fun name hname => nomatch hname
  obtain ⟨t, part, hadvances, hdefined, hdeclared⟩ :=
    advances_declarationLines hc.enums (hc.clear h hh)
      (fun m hm e he => ⟨h, hh, List.mem_flatMap.mpr ⟨m, hm, he⟩⟩) hseen hs
  have hlast : Advances (Needed headers) t [""] t [""] :=
    advances_plain (hadvances.keeps.trans hs) fun line hline =>
      List.mem_singleton.mp hline ▸ plain_empty
  refine ⟨t, _, (hincludes.append hadvances).append hlast, ?_, ?_⟩
  · intro e he
    obtain ⟨m, hm, he⟩ := List.mem_flatMap.mp he
    exact hdefined m hm e he
  · intro earlier hearlier
    have hafter := (hdeclared _ (hincludes.enums hearlier)).prepend quiet_includeLines
    exact hafter.append (by decide)

/-- A header leaves its comment once its guard is defined, whichever header defined it. -/
theorem Header.run_lines_of_defined {h : Header} (hclear : ∀ m ∈ h.messages, m.Clear)
    (hs : s.keeps = true) (hdefined : h.guard ∈ s.defined) :
    s.run h.lines = some (s, commentLines) := by
  have hcomment := Preprocessor.run_plain hs fun line hline =>
    (plain_commentLines line hline).directive
  have hblock := Preprocessor.run_guarded_of_defined
    ((isWord_guardName h.name).not_mem (by decide)) hdefined (Header.balanced_body hclear)
  exact Preprocessor.run_append_of hcomment hblock

/-- A header that was read before leaves its comment. -/
theorem Included.again (hc : Compatible headers) {h : Header} (hh : h ∈ headers)
    (hi : Included headers before s kept) (hbefore : h ∈ before) :
    s.run h.lines = some (s, commentLines)
      ∧ Included headers (before ++ [h]) s (kept ++ commentLines) := by
  have hrun := Header.run_lines_of_defined (hc.clear h hh) hi.keeps ((hi.guards h hh).mpr hbefore)
  refine ⟨hrun, hi.closed, ?_, ?_, ?_⟩
  · intro h' hh'
    rw [hi.guards h' hh', List.mem_append, List.mem_singleton]
    constructor
    · exact Or.inl
    · rintro (hmem | rfl)
      · exact hmem
      · exact hbefore
  · exact hi.enums.plain fun line hline => (plain_commentLines line hline).opening
  · intro h' hh' e he
    rcases List.mem_append.mp hh' with hmem | hmem
    · exact hi.covers h' hmem e he
    · rw [List.mem_singleton.mp hmem] at he
      exact hi.covers h hbefore e he

/-- A header whose guard is not defined leaves, besides its comment and its guard, what is left
of the lines that the guard protects. -/
theorem Header.run_lines_of_not_defined {h : Header} (hs : s.keeps = true)
    (hdefined : h.guard ∉ s.defined) {defined part : List String}
    (hrun : Preprocessor.run ⟨h.guard :: s.defined, true :: s.taken⟩
        (includeLines ++ declarationLines [] h.messages ++ [""])
      = some (⟨defined, true :: s.taken⟩, part)) :
    s.run h.lines
      = some (⟨defined, s.taken⟩, commentLines ++ (["#define " ++ h.guard] ++ part)) := by
  have hword := isWord_guardName h.name
  have hinner : Preprocessor.keeps ⟨s.defined, true :: s.taken⟩ = true := by
    simpa [Preprocessor.keeps] using hs
  have hcomment := Preprocessor.run_plain hs fun line hline =>
    (plain_commentLines line hline).directive
  have hdefine := Preprocessor.run_define hinner (directive?_guard hword)
  have hblock := Preprocessor.run_guarded_of_not_defined (hword.not_mem (by decide)) hdefined
    (Preprocessor.run_append_of hdefine hrun)
  exact Preprocessor.run_append_of hcomment hblock

/-- The guard of a header is no guard of a type, so nothing is declared by defining it. -/
theorem EnumsDeclared.enter {needed : Enumeration → Prop} {h : Header} {defined : List String}
    (hlast : h.guard.toList.getLast? = some 'H') (hdeclared : EnumsDeclared needed defined kept) :
    EnumsDeclared needed (h.guard :: defined)
      (kept ++ commentLines ++ ["#define " ++ h.guard]) := by
  have hcomment := hdeclared.plain fun line hline => (plain_commentLines line hline).opening
  refine (hcomment.plain fun line hline => ?_).define fun name heq => ?_
  · rw [List.mem_singleton.mp hline]
    exact ne_opening (by simp)
  · have hother := getLast?_enumGuard name
    rw [heq, hlast] at hother
    cases hother

/-- A header that is read for the first time leaves its structures. -/
theorem Included.first (hc : Compatible headers) {h : Header} (hh : h ∈ headers)
    (hi : Included headers before s kept) (hbefore : h ∉ before) :
    ∃ t part, s.run h.lines = some (t, part) ∧ Included headers (before ++ [h]) t (kept ++ part)
      ∧ Declared kept h.messages part := by
  have hguard : h.guard ∉ s.defined := fun hmem => hbefore ((hi.guards h hh).mp hmem)
  have hinner : Preprocessor.keeps ⟨h.guard :: s.defined, true :: s.taken⟩ = true := by
    simpa [Preprocessor.keeps] using hi.keeps
  obtain ⟨⟨defined, taken⟩, part, hpart, hcovered, hdeclared⟩ := advances_protected hc hh hinner
  cases hpart.taken
  have hearlier := hi.enums.enter (hc.ending h hh)
  refine ⟨⟨defined, s.taken⟩, _, Header.run_lines_of_not_defined hi.keeps hguard hpart.run,
    ⟨hi.closed, ?_, ?_, ?_⟩, ?_⟩
  · intro h' hh'
    rw [List.mem_append, List.mem_singleton]
    constructor
    · intro hmem
      rcases hpart.news _ hmem with hmem | hlast
      · rcases List.mem_cons.mp hmem with heq | hmem
        · exact Or.inr (hc.guards h' hh' h hh heq)
        · exact Or.inl ((hi.guards h' hh').mp hmem)
      · exact absurd (hc.ending h' hh') hlast
    · rintro (hmem | rfl)
      · exact hpart.mono _ (List.mem_cons_of_mem _ ((hi.guards h' hh').mpr hmem))
      · exact hpart.mono _ List.mem_cons_self
  · have henums := hpart.enums hearlier
    simp only [List.append_assoc] at henums
    exact henums
  · intro h' hh' e he
    rcases List.mem_append.mp hh' with hmem | hmem
    · exact hpart.mono _ (List.mem_cons_of_mem _ (hi.covers h' hmem e he))
    · rw [List.mem_singleton.mp hmem] at he
      exact hcovered e he
  · have hquiet : Quiet ["#define " ++ h.guard] := fun line hline => by
      rw [List.mem_singleton.mp hline]
      exact ne_structOpening (by simp)
    exact ((hdeclared _ hearlier).prepend hquiet).prepend quiet_commentLines

/-- A header in a row that may hold it before. -/
theorem Included.step (hc : Compatible headers) {h : Header} (hh : h ∈ headers)
    (hi : Included headers before s kept) :
    ∃ t part, s.run h.lines = some (t, part) ∧ Included headers (before ++ [h]) t (kept ++ part)
      ∧ (h ∈ before → part = commentLines)
      ∧ (h ∉ before → Declared kept h.messages part) := by
  by_cases hbefore : h ∈ before
  · obtain ⟨hrun, hnext⟩ := hi.again hc hh hbefore
    exact ⟨s, _, hrun, hnext, fun _ => rfl, fun hnot => absurd hbefore hnot⟩
  · obtain ⟨t, part, hrun, hnext, hdeclared⟩ := hi.first hc hh hbefore
    exact ⟨t, part, hrun, hnext, fun hmem => absurd hmem hbefore, fun _ => hdeclared⟩

/-- A row of headers after others. -/
theorem Included.run (hc : Compatible headers) {row : List Header} (hrow : ∀ h ∈ row, h ∈ headers)
    (hi : Included headers before s kept) :
    ∃ t more, s.run (row.flatMap Header.lines) = some (t, more)
      ∧ Included headers (before ++ row) t (kept ++ more) := by
  induction row generalizing before s kept with
  | nil =>
      refine ⟨s, [], rfl, ?_⟩
      rw [List.append_nil, List.append_nil]
      exact hi
  | cons h row ih =>
      obtain ⟨t, part, hrun, hnext, _⟩ := hi.step hc (hrow h List.mem_cons_self)
      obtain ⟨u, more, hrest, hlast⟩ := ih (fun g hg => hrow g (List.mem_cons_of_mem h hg)) hnext
      refine ⟨u, part ++ more, Preprocessor.run_append_of hrun hrest, ?_⟩
      rw [List.append_assoc, List.append_assoc] at hlast
      exact hlast

end Row

/-! ### The texts of headers -/

/-- The texts of headers, one after the other. -/
def joined (row : List Header) : String := String.join (row.map fun h => h.file.content)

/-- What is kept of a header that is read after the headers `before`, of which `earlier` is
kept. -/
def Leaves (before : List Header) (h : Header) (earlier part : List String) : Prop :=
  ∃ s t, C.evaluate (joined before) = some (s, earlier)
    ∧ s.run (Text.lines h.file.content) = some (t, part)

/-- Reading a row of headers works, and no declaration gets lost. -/
structure Survives (row : List Header) (s : Preprocessor) (kept : List String) : Prop where
  /-- `kept` is what is left of the texts. -/
  read : C.evaluate (joined row) = some (s, kept)
  /-- Every conditional is closed. -/
  closed : s.taken = []
  /-- A type that a message needs is declared once. -/
  once : ∀ e, Needed row e → (typedefs kept).filter (·.name = enumType e.name) = [typedefOf e]
  /-- A header leaves its comment if it was read before, and else the whole structures of its
  messages, in order, each after the types that it needs. -/
  parts : ∀ before h after, row = before ++ h :: after →
    ∃ earlier part later, kept = earlier ++ part ++ later ∧ Leaves before h earlier part
      ∧ (h ∈ before → part = commentLines)
      ∧ (h ∉ before → Declared earlier h.messages part)

theorem EnumsDeclared.once {needed : Enumeration → Prop} {defined lines : List String}
    (hapart : Apart needed) (h : EnumsDeclared needed defined lines) {e : Enumeration}
    (he : needed e) (hguard : enumGuard e.name ∈ defined) :
    (typedefs lines).filter (·.name = enumType e.name) = [typedefOf e] := by
  obtain ⟨es, hdeclares, hnodup, hmem⟩ := h
  -- types of one name have one guard
  have hname {e' : Enumeration} (he' : e' ∈ es) (htype : enumType e'.name = enumType e.name) :
      e' = e := by
    refine hapart e' e ((hmem e').mp he').1 he ?_
    have hbase : enumBase e'.name = enumBase e.name := String.append_left_inj _ |>.mp htype
    unfold enumGuard
    rw [hbase]
  obtain ⟨before, after, rfl⟩ := List.append_of_mem ((hmem e).mpr ⟨he, hguard⟩)
  obtain ⟨-, hafter, hbefore⟩ := List.nodup_append.mp hnodup
  have hnone {others : List Enumeration} (hsub : ∀ e' ∈ others, e' ∈ before ++ e :: after)
      (hnot : e ∉ others) : (others.map typedefOf).filter (·.name = enumType e.name) = [] := by
    rw [List.filter_eq_nil_iff]
    intro d hd heq
    obtain ⟨e', he', rfl⟩ := List.mem_map.mp hd
    exact hnot (hname (hsub e' he') (of_decide_eq_true heq) ▸ he')
  rw [hdeclares.typedefs, List.map_append, List.filter_append, List.map_cons,
    List.filter_cons_of_pos (by simp [typedefOf]), hnone, hnone]
  · rfl
  · exact fun e' he' => List.mem_append_right _ (List.mem_cons_of_mem e he')
  · exact (List.nodup_cons.mp hafter).1
  · exact fun e' he' => List.mem_append_left _ he'
  · exact fun hmem => hbefore e hmem e List.mem_cons_self rfl

namespace Compatible

variable {headers row : List Header}

/-- The texts of a row have the lines of its headers. -/
theorem lines_joined (hc : Compatible headers) (hrow : ∀ h ∈ row, h ∈ headers) :
    Text.lines (joined row) = row.flatMap Header.lines := by
  have htexts : row.map (fun h => h.file.content) = (row.map Header.lines).map Text.unlines := by
    rw [List.map_map]
    refine List.map_congr_left fun h hh => ?_
    rw [Header.content_file (hc.packed h (hrow h hh)), Function.comp_apply]
  unfold joined
  rw [htexts, Text.lines_join, List.flatMap_def]
  intro ls hls
  obtain ⟨h, hh, rfl⟩ := List.mem_map.mp hls
  exact Header.unbroken_lines (hc.clear h (hrow h hh))

theorem lines_content (hc : Compatible headers) {h : Header} (hh : h ∈ headers) :
    Text.lines h.file.content = h.lines := by
  have hrow : ∀ g ∈ [h], g ∈ headers := fun g hg => List.mem_singleton.mp hg ▸ hh
  have hlines := hc.lines_joined hrow
  simpa [joined] using hlines

/-- Compatible headers can be included in any order and any number of times. -/
theorem survives (hc : Compatible headers) (hrow : ∀ h, h ∈ row ↔ h ∈ headers) :
    ∃ s kept, Survives row s kept := by
  have hsub : ∀ h ∈ row, h ∈ headers := fun h hh => (hrow h).mp hh
  obtain ⟨s, kept, hrun, hall⟩ := Included.start.run hc hsub
  refine ⟨s, kept, ?_, hall.closed, ?_, ?_⟩
  · unfold C.evaluate
    rw [hc.lines_joined hsub, hrun]
  · rintro e ⟨h, hh, he⟩
    exact hall.enums.once hc.enums ⟨h, hsub h hh, he⟩ (hall.covers h hh e he)
  · rintro before h after rfl
    have hbefore : ∀ g ∈ before, g ∈ headers := fun g hg => hsub g (List.mem_append_left _ hg)
    have hh : h ∈ headers := hsub h (List.mem_append_right _ List.mem_cons_self)
    have hafter : ∀ g ∈ after, g ∈ headers := fun g hg =>
      hsub g (List.mem_append_right _ (List.mem_cons_of_mem h hg))
    obtain ⟨s₁, earlier, hrun₁, hi₁⟩ := Included.start.run hc hbefore
    obtain ⟨s₂, part, hrun₂, hi₂, hagain, hfirst⟩ := hi₁.step hc hh
    obtain ⟨s₃, later, hrun₃, _⟩ := hi₂.run hc hafter
    have hwhole := Preprocessor.run_append_of hrun₁ (Preprocessor.run_append_of hrun₂ hrun₃)
    rw [List.flatMap_append, List.flatMap_cons, hwhole] at hrun
    cases hrun
    refine ⟨earlier, part, later, (List.append_assoc _ _ _).symm, ⟨s₁, s₂, ?_, ?_⟩, hagain, hfirst⟩
    · unfold C.evaluate
      rw [hc.lines_joined hbefore, hrun₁]
    · rw [hc.lines_content hh, hrun₂]

end Compatible

/-! ### The headers of a request -/

section Headers

variable {request : Descriptor.Request} {files : List Output.File}

/-- The headers are the generated files that are no sources. -/
theorem filter_headers (h : (Generator.can.generate request).result = .ok files) :
    files.filter (fun f => f.name.toList.getLast? = some 'h')
      = request.headers.map Header.file := by
  have hheader (schema : Schema.File) :
      (headerOf request.context schema).file.name.toList.getLast? = some 'h' :=
    getLast?_fileName (by decide) _ _
  have hsource (schema : Schema.File) :
      (sourceOf request.context schema).name.toList.getLast? = some 'c' :=
    getLast?_fileName (by decide) _ _
  rw [Generator.of_generate_can h, Descriptor.Request.headers, List.map_map]
  induction request.selectedFiles with
  | nil => rfl
  | cons file selected ih =>
      rw [List.flatMap_cons, List.filter_append, ih, List.map_cons,
        List.filter_cons_of_pos (by rw [hheader]; rfl),
        List.filter_cons_of_neg (by rw [hsource]; decide)]
      rfl

/-- Headers of one request need only be told apart by their guards. -/
theorem compatible_headers (hwords : request.NamedByWords)
    (hguards : ∀ h ∈ request.headers, ∀ h' ∈ request.headers, h.guard = h'.guard → h = h')
    (henums : ∀ e e', Needed request.headers e → Needed request.headers e' →
      enumGuard e.name = enumGuard e'.name → e.name = e'.name) :
    Compatible request.headers where
  packed := fun h hh m hm => by
    obtain ⟨_, _, _, _, hpacked⟩ := Descriptor.Request.of_mem_messages hh hm
    exact (of_packed? hpacked).2.1
  clear := fun _ hh _ hm => Descriptor.Request.clear_of_mem_messages hwords hh hm
  ending := fun h hh => by
    obtain ⟨file, _, rfl⟩ := Descriptor.Request.of_mem_headers hh
    exact getLast?_guardName (getLast?_fileName (by decide) _ _)
  guards := hguards
  enums := fun e e' he he' hguard =>
    Descriptor.Request.eq_of_needed he he' (henums e e' he he' hguard)

/-- **Headers of one request can be included together.**  If the guards of the headers are
different, and so are those of the enumeration types in them, then whatever row of headers is
read that holds each of them, in any order and any number of times, no declaration gets lost
and none is made twice. -/
theorem headers_included_together (hwords : request.NamedByWords)
    (hgenerate : (Generator.can.generate request).result = .ok files)
    (hguards : ∀ h ∈ request.headers, ∀ h' ∈ request.headers, h.guard = h'.guard → h = h')
    (henums : ∀ e e', Needed request.headers e → Needed request.headers e' →
      enumGuard e.name = enumGuard e'.name → e.name = e'.name)
    {row : List Header} (hrow : ∀ h, h ∈ row ↔ h ∈ request.headers) :
    files.filter (fun f => f.name.toList.getLast? = some 'h') = request.headers.map Header.file
      ∧ ∃ s kept, Survives row s kept :=
  ⟨filter_headers hgenerate, (compatible_headers hwords hguards henums).survives hrow⟩

end Headers

/-- Two files with messages that choose from one enumeration, which the first declares. -/
def sampleRequest : Descriptor.Request :=
  .make ["a.proto", "b.proto"] none [
    FileDescriptor.make "a.proto" (some "fw")
      [MessageDescriptor.make "ACtl" [FieldDescriptor.make "mode" 1 14 (some ".fw.Mode")]]
      [EnumDescriptor.make "Mode" [EnumValueDescriptor.make "OFF" 0]],
    FileDescriptor.make "b.proto" (some "fw")
      [MessageDescriptor.make "BTlm" [FieldDescriptor.make "mode" 1 14 (some ".fw.Mode")]] []]

theorem namedByWords_sampleRequest : sampleRequest.NamedByWords :=
  .of_flat (by decide +kernel) (by decide +kernel) (by decide +kernel) (by decide +kernel)

theorem generate_sampleRequest :
    ∃ files, (Generator.can.generate sampleRequest).result = .ok files :=
  exists_ok_of_isSome (by decide +kernel)

/-- The enumeration that both messages choose from. -/
def sampleMode : Enumeration := ⟨".fw.Mode", [⟨"OFF", 0⟩]⟩

theorem needed_sampleRequest {e : Enumeration} : Needed sampleRequest.headers e ↔ e = sampleMode := by
  have hmode : sampleRequest.headers.flatMap Header.enums = [sampleMode, sampleMode] := by
    decide +kernel
  unfold Needed
  rw [← List.mem_flatMap, hmode]
  simp

theorem headers_included_together_sample :
    ∃ s kept, C.evaluate (joined (sampleRequest.headers.reverse ++ sampleRequest.headers))
        = some (s, kept)
      ∧ s.taken = []
      ∧ (typedefs kept).filter (·.name = "fw_Mode_t")
        = [⟨"fw_Mode_t", ["  fw_Mode_OFF = 0,"]⟩] := by
  obtain ⟨files, hgenerate⟩ := generate_sampleRequest
  have hguards : ∀ h ∈ sampleRequest.headers, ∀ h' ∈ sampleRequest.headers,
      h.guard = h'.guard → h = h' := by
    decide +kernel
  have hneeded : Needed (sampleRequest.headers.reverse ++ sampleRequest.headers) sampleMode := by
    obtain ⟨h, hh, he⟩ := needed_sampleRequest.mpr rfl
    exact ⟨h, List.mem_append_right _ hh, he⟩
  have hrow : ∀ h, h ∈ sampleRequest.headers.reverse ++ sampleRequest.headers
      ↔ h ∈ sampleRequest.headers := by
    simp
  obtain ⟨-, s, kept, hsurvives⟩ :=
    headers_included_together namedByWords_sampleRequest hgenerate hguards
      (fun e e' he he' _ => by rw [needed_sampleRequest.mp he, needed_sampleRequest.mp he']) hrow
  exact ⟨s, kept, hsurvives.read, hsurvives.closed, hsurvives.once _ hneeded⟩

end DeviceGen.Can
