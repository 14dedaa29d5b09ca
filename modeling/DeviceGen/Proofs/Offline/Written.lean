/-
What the offline command leaves behind.

The command makes one directory, the one for its output, and writes every file where its
name leads from there.  It makes no directories inside the output directory.  So a file
whose name has a slash in it cannot be written, and as the first file that cannot be
written ends the command, what is left is the files up to there.

The invariant of the loop is a listing: the set, the output directory, and in it the files
written so far.  Names of which none leads through another are needed to know that a file
never meets what was written before it.
-/
import Mathlib.Data.List.Basic
import Mathlib.Data.List.TakeWhile
import DeviceGen.Offline.Run
import DeviceGen.Proofs.FirstFault
import DeviceGen.Proofs.Offline.Direct
import DeviceGen.Proofs.Offline.Places

namespace DeviceGen.Offline

open Workspace

/-! ### Single operations -/

theorem Workspace.checkPath_eq {text : String} (hempty : text ≠ "") (hnul : '\x00' ∉ text.toList)
    (hshort : text.utf8ByteSize ≤ longestPath) : checkPath text = .ok (Path.ofString text) := by
  have hcontains : text.contains '\x00' = false := by
    rw [String.contains_char_eq]
    exact decide_eq_false hnul
  have hisEmpty : text.isEmpty = false := by simpa using hempty
  rw [checkPath, hcontains, hisEmpty, if_neg (by simp), if_neg (by simp),
    if_neg (Nat.not_lt.mpr hshort)]

theorem IsPlain.checkPath {name : String} (h : IsPlain name) :
    checkPath name = .ok ⟨false, [name], false⟩ := by
  have hcomponents := components_of_noSlash h.noSlash
  have hshort : name.utf8ByteSize ≤ longestPath := Nat.le_trans h.short (by decide)
  rw [checkPath_eq h.ne_empty h.noNul hshort, Path.ofString_eq, hcomponents]
  rw [hcomponents]
  simpa using h.ne_empty

variable {w : Workspace} {set out : String} {bytes : List UInt8}

theorem Workspace.read_plain (h : IsPlain set)
    (hfile : w.below.lookup [set] = some (.file bytes)) : w.read set = .ok bytes := by
  have hentry : w.entry? (w.current ++ [set]) = some (.file bytes) :=
    (entry?_below (by simp)).trans hfile
  simp [Workspace.read, h.checkPath, resolve_plain h, hentry, bind, Except.bind, Except.mapError]

/-- One thing is done after another. -/
theorem run_bind {α β : Type} (x : StateM Workspace α) (f : α → StateM Workspace β)
    (w : Workspace) : (x >>= f).run w = (f (x.run w).1).run (x.run w).2 := rfl

theorem run_change {attempt : Workspace → Except Fault Workspace} {changed : Workspace}
    (h : attempt w = .ok changed) : (change attempt).run w = (.ok (), changed) := by
  show change attempt w = _
  rw [change, h]

theorem run_change_of_error {attempt : Workspace → Except Fault Workspace} {fault : Fault}
    (h : attempt w = .error fault) : (change attempt).run w = (.error fault, w) := by
  show change attempt w = _
  rw [change, h]

/-- A directory is made where there is nothing yet, and nothing else happens. -/
theorem makeDirectories_plain (h : IsPlain out) (hnew : w.below.lookup [out] = none) :
    (makeDirectories fileSystem out).run w = (.ok (), w.put (w.current ++ [out]) .directory) := by
  have hentry : w.entry? (w.current ++ [out]) = none := (entry?_below (by simp)).trans hnew
  have hmake : w.makeDirectory out = .ok (w.put (w.current ++ [out]) .directory) := by
    simp [Workspace.makeDirectory, h.checkPath, resolve_plain h, hentry, bind, Except.bind,
      Except.mapError]
  have hrun : (fileSystem.makeDirectory out).run w
      = (.ok (), w.put (w.current ++ [out]) .directory) := run_change hmake
  unfold makeDirectories makeAlong
  rw [run_bind, hrun]
  rfl

/-! ### Writing one file -/

/-- A name that a file in a directory can have, the directories on the way included. -/
structure IsPlaceable (out name : String) : Prop where
  plain : ∀ part ∈ components name, IsPlain part
  short : (out ++ "/" ++ name).utf8ByteSize ≤ longestPath

instance (out name : String) : Decidable (IsPlaceable out name) :=
  decidable_of_iff ((∀ part ∈ components name, IsPlain part)
      ∧ (out ++ "/" ++ name).utf8ByteSize ≤ longestPath)
    ⟨fun ⟨h₁, h₂⟩ => ⟨h₁, h₂⟩, fun h => ⟨h.plain, h.short⟩⟩

theorem IsPlaceable.checkPath_join {name : String} (h : IsPlaceable out name)
    (hout : IsPlain out) :
    checkPath (Path.join out name) = .ok ⟨false, out :: components name, false⟩ := by
  have hparts : ∀ part ∈ components name, part ≠ "" := fun part hpart => (h.plain part hpart).ne_empty
  have hcomponents : components (out ++ "/" ++ name) = out :: components name :=
    components_behind hout.noSlash
  have hnul : '\x00' ∉ (out ++ "/" ++ name).toList := by
    intro hmem
    obtain ⟨part, hpart, hin⟩ := exists_mem_components hmem (by decide)
    rw [hcomponents] at hpart
    rcases List.mem_cons.mp hpart with rfl | hpart
    · exact hout.noNul hin
    · exact (h.plain part hpart).noNul hin
  have hempty : out ++ "/" ++ name ≠ "" := by
    intro heq
    have := congrArg String.toList heq
    simp [String.toList_append] at this
  rw [Path.join_eq hout.ne_empty hout.noSlash hparts, checkPath_eq hempty hnul h.short,
    Path.ofString_eq, hcomponents]
  rw [hcomponents]
  intro part hpart
  rcases List.mem_cons.mp hpart with rfl | hpart
  · exact hout.ne_empty
  · exact hparts part hpart

variable {name : String}

/-- A file is written into a directory if its name has no slash. -/
theorem Workspace.write_direct (hout : IsPlain out) (h : IsPlaceable out name)
    (hslash : '/' ∉ name.toList) (hdirectory : w.below.lookup [out] = some .directory)
    (hnew : w.below.lookup [out, name] = none) :
    w.write (Path.join out name) bytes = .ok (w.put (w.current ++ [out, name]) (.file bytes)) := by
  have hname : IsPlain name := h.plain name (by simp [components_of_noSlash hslash])
  have hentry : w.entry? (w.current ++ [out, name]) = none :=
    (entry?_below (by simp)).trans hnew
  have hcheck := h.checkPath_join hout
  rw [components_of_noSlash hslash] at hcheck
  simp [Workspace.write, hcheck, resolve_inside hout hname hdirectory, hentry, bind, Except.bind,
    Except.mapError]

/-- It is not if the name has one and there is nothing under its first part. -/
theorem Workspace.write_deeper (hout : IsPlain out) (h : IsPlaceable out name)
    (hslash : '/' ∈ name.toList) (hdirectory : w.below.lookup [out] = some .directory)
    (hmissing : ∀ first, [first] <+: components name → w.below.lookup [out, first] = none) :
    w.write (Path.join out name) bytes = .error (.system .notFound) := by
  obtain ⟨first, second, others, hcomponents⟩ := components_of_slash hslash
  have hfirst : IsPlain first := h.plain first (by simp [hcomponents])
  have hnone := hmissing first ⟨second :: others, by rw [hcomponents]; rfl⟩
  have hcheck := h.checkPath_join hout
  rw [hcomponents] at hcheck
  simp [Workspace.write, hcheck, resolve_deeper hout hfirst hdirectory hnone, bind, Except.bind,
    Except.mapError]

/-! ### Writing one file after another -/

/-- The bytes of a file's content. -/
def contentBytes (file : Output.File) : List UInt8 := file.content.toByteArray.data.toList

/-- Names that files below a directory can have together: none twice, and none on the way to
another. -/
structure AreCompatible (out : String) (names : List String) : Prop where
  placeable : ∀ name ∈ names, IsPlaceable out name
  distinct : names.Nodup
  apart : ∀ a ∈ names, ∀ b ∈ names, components a <+: components b → a = b

instance (out : String) (names : List String) : Decidable (AreCompatible out names) :=
  decidable_of_iff ((∀ name ∈ names, IsPlaceable out name) ∧ names.Nodup
      ∧ ∀ a ∈ names, ∀ b ∈ names, components a <+: components b → a = b)
    ⟨fun ⟨h₁, h₂, h₃⟩ => ⟨h₁, h₂, h₃⟩, fun h => ⟨h.placeable, h.distinct, h.apart⟩⟩

/-- The name of a file leads straight into the output directory. -/
def isDirect (file : Output.File) : Bool := decide ('/' ∉ file.name.toList)

/-- A set, the output directory, and files directly in it. -/
def listing (set out : String) (bytes : List UInt8) (written : List Output.File) :
    List (List String × Entry) :=
  ([set], .file bytes) :: ([out], .directory)
    :: written.map fun file => ([out, file.name], .file (contentBytes file))

theorem lookup_listing_out {written : List Output.File} (hne : out ≠ set) :
    (listing set out bytes written).lookup [out] = some .directory := by
  have hset : ([out] == [set]) = false := beq_false_of_ne (by simpa using hne)
  rw [listing, List.lookup_cons, hset, List.lookup_cons_self]

/-- Nothing is in the output directory but what was written. -/
theorem lookup_listing_new {written : List Output.File} (h : ∀ file ∈ written, file.name ≠ name) :
    (listing set out bytes written).lookup [out, name] = none := by
  rw [List.lookup_eq_none_iff]
  intro e he
  rw [bne_iff_ne]
  rintro heq
  simp only [listing, List.mem_cons, List.mem_map] at he
  rcases he with rfl | rfl | ⟨file, hfile, rfl⟩
  · simp at heq
  · simp at heq
  · simp only [List.cons.injEq, and_true, true_and] at heq
    exact h file hfile heq.symm

section Loop

variable {file : Output.File} {files : List Output.File}

/-- Printing changes nothing in a directory. -/
theorem below_printed (w : Workspace) (text : String) :
    { w with printed := text }.below = w.below := rfl

theorem run_writeFiles_cons {changed : Workspace}
    (h : w.write (Path.join out file.name) (contentBytes file) = .ok changed) :
    (writeFiles fileSystem out (file :: files)).run w
      = (writeFiles fileSystem out files).run { changed with
          printed := changed.printed ++ ("Generated " ++ Path.join out file.name ++ "\n") } := by
  have hrun : (fileSystem.write (Path.join out file.name) (contentBytes file)).run w
      = (.ok (), changed) := run_change h
  unfold contentBytes at hrun
  rw [writeFiles, run_bind, hrun]
  rfl

theorem run_writeFiles_of_error {fault : Fault}
    (h : w.write (Path.join out file.name) (contentBytes file) = .error fault) :
    (writeFiles fileSystem out (file :: files)).run w = (.error (.io fault), w) := by
  have hrun : (fileSystem.write (Path.join out file.name) (contentBytes file)).run w
      = (.error fault, w) := run_change_of_error h
  unfold contentBytes at hrun
  rw [writeFiles, run_bind, hrun]
  rfl

/-- What the first part of a name leads to is nothing that was written before. -/
theorem AreCompatible.name_ne_of_prefix {written : List Output.File} {first : String}
    (h : AreCompatible out ((written ++ file :: files).map (·.name)))
    (hwritten : ∀ g ∈ written, isDirect g = true) (hslash : '/' ∈ file.name.toList)
    (hfirst : [first] <+: components file.name) : ∀ g ∈ written, g.name ≠ first := by
  rintro g hg rfl
  have hdirect : '/' ∉ g.name.toList := of_decide_eq_true (hwritten g hg)
  rw [← components_of_noSlash hdirect] at hfirst
  have hsame : g.name = file.name :=
    h.apart g.name (List.mem_map.mpr ⟨g, by simp [hg], rfl⟩) file.name
      (List.mem_map.mpr ⟨file, by simp, rfl⟩) hfirst
  rw [hsame] at hdirect
  exact hdirect hslash

/-- The loop goes on as long as names lead straight into the output directory. -/
theorem writeFiles_listing (hout : IsPlain out) (hne : out ≠ set) :
    ∀ (outputs written : List Output.File) {w : Workspace},
      AreCompatible out ((written ++ outputs).map (·.name)) →
      (∀ g ∈ written, isDirect g = true) → w.below = listing set out bytes written →
      ((writeFiles fileSystem out outputs).run w).2.below
          = listing set out bytes (written ++ outputs.takeWhile isDirect)
        ∧ ((writeFiles fileSystem out outputs).run w).1
          = if outputs.all isDirect then .ok () else .error (.io (.system .notFound)) := by
  intro outputs
  induction outputs with
  | nil =>
      intro written w _ _ hbelow
      rw [List.takeWhile_nil, List.append_nil]
      exact ⟨hbelow, rfl⟩
  | cons file files ih =>
      intro written w hnames hwritten hbelow
      have hplaceable : IsPlaceable out file.name :=
        hnames.placeable _ (List.mem_map.mpr ⟨file, by simp, rfl⟩)
      have hdirectory : w.below.lookup [out] = some .directory := by
        rw [hbelow, lookup_listing_out hne]
      by_cases hslash : '/' ∈ file.name.toList
      · have hdirect : isDirect file = false := by simp [isDirect, hslash]
        have hmissing : ∀ first, [first] <+: components file.name →
            w.below.lookup [out, first] = none := by
          intro first hfirst
          rw [hbelow]
          exact lookup_listing_new (hnames.name_ne_of_prefix hwritten hslash hfirst)
        rw [run_writeFiles_of_error (write_deeper hout hplaceable hslash hdirectory hmissing)]
        simp [hdirect, hbelow]
      · have hdirect : isDirect file = true := by simp [isDirect, hslash]
        have hfresh : ∀ g ∈ written, g.name ≠ file.name := by
          have hnodup := hnames.distinct
          rw [List.map_append, List.nodup_append] at hnodup
          exact fun g hg => hnodup.2.2 g.name (List.mem_map.mpr ⟨g, hg, rfl⟩) file.name (by simp)
        have hnew : w.below.lookup [out, file.name] = none := by
          rw [hbelow]
          exact lookup_listing_new hfresh
        rw [run_writeFiles_cons (write_direct hout hplaceable hslash hdirectory hnew)]
        have hput : (w.put (w.current ++ [out, file.name]) (.file (contentBytes file))).below
            = listing set out bytes (written ++ [file]) := by
          rw [below_put (by simp) hnew, hbelow]
          simp [listing]
        have hwritten' : ∀ g ∈ written ++ [file], isDirect g = true := by
          intro g hg
          rcases List.mem_append.mp hg with hg | hg
          · exact hwritten g hg
          · rwa [List.mem_singleton.mp hg]
        have hnames' : AreCompatible out ((written ++ [file] ++ files).map (·.name)) := by
          rwa [List.append_assoc]
        obtain ⟨hlist, hresult⟩ := ih (written ++ [file]) hnames' hwritten'
          ((below_printed _ _).trans hput)
        rw [List.append_assoc] at hlist
        simp only [List.takeWhile_cons, hdirect, List.all_cons, Bool.true_and, if_true]
        exact ⟨hlist, hresult⟩

end Loop

/-! ### Whole runs -/

/-- Where a generated file belongs, as seen from the current directory, and its bytes. -/
def placed (out : String) (file : Output.File) : List String × List UInt8 :=
  (out :: components file.name, contentBytes file)

/-- Files whose names have no slash are where they belong. -/
theorem fileOf_listing {written : List Output.File} (h : ∀ g ∈ written, isDirect g = true) :
    (listing set out bytes written).filterMap fileOf
      = ([set], bytes) :: written.map (placed out) := by
  have hplaced : ∀ g ∈ written, (fileOf ([out, g.name], .file (contentBytes g)))
      = some (placed out g) := by
    intro g hg
    have hslash : '/' ∉ g.name.toList := of_decide_eq_true (h g hg)
    rw [placed, components_of_noSlash hslash, fileOf]
  show ([set], bytes) :: (written.map _).filterMap fileOf = _
  rw [List.filterMap_map]
  exact congrArg _ (List.filterMap_eq_map_iff_forall_eq_some.mpr hplaced)

variable {arguments files : List String} {parameter : Option String} {generator : Generator}
  {outputs : List Output.File}

/-- Up to the loop nothing goes wrong. -/
theorem run_perform (hset : IsPlain set) (hout : IsPlain out) (hne : out ≠ set)
    (hfresh : w.below = [([set], .file bytes)])
    (houtputs : (generated generator bytes files parameter).result = .ok outputs) :
    ∃ begun : Workspace, begun.below = listing set out bytes []
      ∧ (perform fileSystem (.generate generator set files parameter out)).run w
        = (writeFiles fileSystem out outputs).run begun := by
  have hread : w.read set = .ok bytes := read_plain hset (by rw [hfresh, List.lookup_cons_self])
  have hnew : w.below.lookup [out] = none := by
    rw [hfresh, List.lookup_cons, beq_false_of_ne (by simpa using hne)]
    rfl
  refine ⟨w.put (w.current ++ [out]) .directory, ?_, ?_⟩
  · rw [below_put (by simp) hnew, hfresh]
    rfl
  · have hrun : (fileSystem.read set).run w = (.ok bytes, w) := by
      show (w.read set, w) = _
      rw [hread]
    have hmake := makeDirectories_plain hout hnew
    have hreport : (fileSystem.report (generated generator bytes files parameter).events).run w
        = ((), w) := rfl
    simp only [perform, run_bind, hrun, hreport, houtputs, hmake]

theorem run_of_ok {command : Command} {after : Workspace}
    (harguments : Command.ofArguments arguments = .ok command)
    (h : (perform fileSystem command).run w = (.ok (), after)) :
    (run fileSystem arguments).run w = (⟨0, ""⟩, after) := by
  unfold run
  simp only [harguments]
  rw [run_bind, h]
  rfl

theorem run_of_error {command : Command} {after : Workspace} {e : Error}
    (harguments : Command.ofArguments arguments = .ok command)
    (h : (perform fileSystem command).run w = (.error e, after)) :
    (run fileSystem arguments).run w = (⟨1, complaint e⟩, after) := by
  unfold run
  simp only [harguments]
  rw [run_bind, h]
  rfl

/-- The loop decides what a run leaves and how it ends. -/
theorem run_generate (hset : IsPlain set) (hout : IsPlain out) (hne : out ≠ set)
    (hfresh : w.below = [([set], .file bytes)])
    (harguments : Command.ofArguments arguments
      = .ok (.generate generator set files parameter out))
    (houtputs : (generated generator bytes files parameter).result = .ok outputs)
    (hnames : AreCompatible out (outputs.map (·.name))) :
    ((run fileSystem arguments).run w).2.files
        = ([set], bytes) :: (outputs.takeWhile isDirect).map (placed out)
      ∧ ((run fileSystem arguments).run w).1
        = if outputs.all isDirect then ⟨0, ""⟩
          else ⟨1, complaint (.io (.system .notFound))⟩ := by
  obtain ⟨begun, hbegun, hperform⟩ := run_perform hset hout hne hfresh houtputs
  obtain ⟨hlist, hresult⟩ := writeFiles_listing hout hne outputs [] hnames (by simp) hbegun
  rw [← hperform] at hlist hresult
  have hfiles : ((perform fileSystem (.generate generator set files parameter out)).run w).2.files
      = ([set], bytes) :: (outputs.takeWhile isDirect).map (placed out) := by
    rw [files_eq, hlist]
    exact fileOf_listing fun g hg => List.mem_takeWhile_imp hg
  by_cases hall : outputs.all isDirect
  · rw [if_pos hall] at hresult
    rw [run_of_ok harguments (Prod.ext hresult rfl), if_pos hall]
    exact ⟨hfiles, rfl⟩
  · rw [if_neg hall] at hresult
    rw [run_of_error harguments (Prod.ext hresult rfl), if_neg hall]
    exact ⟨hfiles, rfl⟩

theorem all_isDirect_iff :
    outputs.all isDirect = true ↔ ∀ file ∈ outputs, '/' ∉ file.name.toList := by
  simp [isDirect]

/-- **The files up to the first one with a slash in its name are written, each with its
content, and no others**; the command ends well iff there is no such file, so it leaves
everything that it generated iff no name has a slash.  Otherwise it complains that
something was not found. -/
theorem run_writes_until_slash (hset : IsPlain set) (hout : IsPlain out) (hne : out ≠ set)
    (hfresh : w.below = [([set], .file bytes)])
    (harguments : Command.ofArguments arguments
      = .ok (.generate generator set files parameter out))
    (houtputs : (generated generator bytes files parameter).result = .ok outputs)
    (hnames : AreCompatible out (outputs.map (·.name))) :
    let ended := (run fileSystem arguments).run w
    ended.2.files = ([set], bytes) :: (outputs.takeWhile isDirect).map (placed out)
      ∧ ((∃ file ∈ outputs, '/' ∈ file.name.toList) →
        ended.1 = ⟨1, complaint (.io (.system .notFound))⟩)
      ∧ (ended.1 = ⟨0, ""⟩ ∧ ended.2.files = ([set], bytes) :: outputs.map (placed out)
        ↔ ∀ file ∈ outputs, '/' ∉ file.name.toList) := by
  intro ended
  obtain ⟨hfiles, houtcome⟩ :=
    run_generate hset hout hne hfresh harguments houtputs hnames
  by_cases hall : ∀ file ∈ outputs, '/' ∉ file.name.toList
  · have hdirect := all_isDirect_iff.mpr hall
    have hwhole : outputs.takeWhile isDirect = outputs :=
      List.takeWhile_eq_self_iff.mpr (List.all_eq_true.mp hdirect)
    rw [if_pos hdirect] at houtcome
    refine ⟨hfiles, ?_, fun _ => hall, fun _ => ⟨houtcome, by rw [hfiles, hwhole]⟩⟩
    rintro ⟨file, hfile, hslash⟩
    exact absurd hslash (hall file hfile)
  · rw [if_neg (all_isDirect_iff.not.mpr hall)] at houtcome
    refine ⟨hfiles, fun _ => houtcome, ?_, fun h => absurd h hall⟩
    rintro ⟨hwell, -⟩
    rw [houtcome] at hwell
    cases hwell

/-- A workspace with nothing but a set in its current directory. -/
def fresh (set : List UInt8) : Workspace :=
  ⟨[(["work"], .directory), (["work", "set.pb"], .file set)], ["work"], ""⟩

/-- The arguments for all widgets of the set there. -/
def widgetArguments : List String := ["widgets", "-d", "set.pb", "-o", "out"]

theorem ofArguments_widgetArguments :
    Command.ofArguments widgetArguments = .ok (.generate .widgets "set.pb" [] none "out") := by
  decide +kernel

theorem isPlain_set : IsPlain "set.pb" := by decide +kernel

theorem isPlain_out : IsPlain "out" := by decide +kernel

/-- Three files that declare nothing, of which only the first is in no directory. -/
def spreadSet : Descriptor.FileSet :=
  .field (Descriptor.Slot.ofRecords [Descriptor.FileDescriptor.make "a.proto" none [] [],
    Descriptor.FileDescriptor.make "left/msgs.proto" none [] [],
    Descriptor.FileDescriptor.make "right/msgs.proto" none [] []]) .empty

def spreadBytes : List UInt8 :=
  [0x0a, 9, 0x0a, 7, 0x61, 0x2e, 0x70, 0x72, 0x6f, 0x74, 0x6f,
    0x0a, 17, 0x0a, 15, 0x6c, 0x65, 0x66, 0x74, 0x2f, 0x6d, 0x73, 0x67, 0x73, 0x2e, 0x70, 0x72,
    0x6f, 0x74, 0x6f,
    0x0a, 18, 0x0a, 16, 0x72, 0x69, 0x67, 0x68, 0x74, 0x2f, 0x6d, 0x73, 0x67, 0x73, 0x2e, 0x70,
    0x72, 0x6f, 0x74, 0x6f]

def spreadNames : List String :=
  ["a.widgets.pb.tsx", "left/msgs.widgets.pb.tsx", "right/msgs.widgets.pb.tsx"]

/-- The names of the three widget files are not in each other's way, but have slashes. -/
theorem generated_spread :
    ∃ outputs, (generated .widgets spreadBytes [] none).result = .ok outputs
      ∧ outputs.map (·.name) = spreadNames
      ∧ AreCompatible "out" (outputs.map (·.name))
      ∧ (∃ file ∈ outputs, '/' ∈ file.name.toList)
      ∧ (outputs.takeWhile isDirect).map (fun file => (placed "out" file).1)
        = [["out", "a.widgets.pb.tsx"]] := by
  have hset : FileSet.decode spreadBytes = .ok spreadSet := by rfl
  have hlen : (Descriptor.encode (Request.ofFileSet spreadSet [] none)).length < 2 ^ 64 := by
    decide +kernel
  have hgenerate : ((Generator.widgets.generate
      (Request.ofFileSet spreadSet [] none)).result.toOption.any fun outputs =>
        decide (outputs.map (·.name) = spreadNames
          ∧ AreCompatible "out" (outputs.map (·.name))
          ∧ (∃ file ∈ outputs, '/' ∈ file.name.toList)
          ∧ (outputs.takeWhile isDirect).map (fun file => (placed "out" file).1)
            = [["out", "a.widgets.pb.tsx"]]
          ∧ ∀ f ∈ outputs, f.Fits)) = true := by
    decide +kernel
  obtain ⟨outputs, houtputs, htest⟩ := exists_ok_of_any hgenerate
  obtain ⟨hnames, hcompatible, hslash, hplaces, hfits⟩ := of_decide_eq_true htest
  have hfit : ∀ files, (Generator.widgets.generate (Request.ofFileSet spreadSet [] none)).result
      = .ok files → ∀ f ∈ files, f.Fits := by
    intro files hfiles
    rw [houtputs] at hfiles
    cases hfiles
    exact hfits
  exact ⟨outputs, (generated_eq_generate hset [] none hlen hfit).trans houtputs, hnames,
    hcompatible, hslash, hplaces⟩

theorem below_fresh (set : List UInt8) : (fresh set).below = [(["set.pb"], .file set)] := rfl

/-- Of the three files the first is written, and the second is not found. -/
theorem run_writes_until_slash_spread :
    ∃ outputs, (generated .widgets spreadBytes [] none).result = .ok outputs
      ∧ outputs.map (·.name) = spreadNames
      ∧ ((run fileSystem widgetArguments).run (fresh spreadBytes)).2.files.map Prod.fst
        = [["set.pb"], ["out", "a.widgets.pb.tsx"]]
      ∧ ((run fileSystem widgetArguments).run (fresh spreadBytes)).1
        = ⟨1, complaint (.io (.system .notFound))⟩ := by
  obtain ⟨outputs, houtputs, hnames, hcompatible, hslash, hplaces⟩ := generated_spread
  obtain ⟨hfiles, hfails, -⟩ := run_writes_until_slash isPlain_set isPlain_out (by decide)
    (below_fresh spreadBytes) ofArguments_widgetArguments houtputs hcompatible
  refine ⟨outputs, houtputs, hnames, ?_, hfails hslash⟩
  rw [hfiles, List.map_cons, List.map_map]
  exact congrArg _ hplaces

/-- A run may leave less than it generated, although the names of the files are not in each
other's way: two of the three files are to land in directories of their own. -/
theorem run_may_write_less :
    ∃ outputs, (generated .widgets spreadBytes [] none).result = .ok outputs
      ∧ AreCompatible "out" (outputs.map (·.name))
      ∧ ¬ (((run fileSystem widgetArguments).run (fresh spreadBytes)).1.code = 0
        ∧ ((run fileSystem widgetArguments).run (fresh spreadBytes)).2.files
          = (["set.pb"], spreadBytes) :: outputs.map (placed "out")) := by
  obtain ⟨outputs, houtputs, -, hcompatible, ⟨file, hfile, hslash⟩, -⟩ := generated_spread
  obtain ⟨-, houtcome⟩ := run_generate isPlain_set isPlain_out (by decide)
    (below_fresh spreadBytes) ofArguments_widgetArguments houtputs hcompatible
  rw [if_neg fun hall => all_isDirect_iff.mp hall file hfile hslash] at houtcome
  refine ⟨outputs, houtputs, hcompatible, ?_⟩
  rintro ⟨hcode, -⟩
  rw [houtcome] at hcode
  cases hcode

end DeviceGen.Offline
