/-
The header that a source includes.

The names of a header and of its source are made separately of the path of the schema file, and
the source includes the header by what follows the last slash of its name.  Both names end in a
part without a slash behind the same beginning, so header and source stand in the same directory,
and there the included name means the header (`Output.directory_fileName`).

A quotation mark in the path would end the included name early, and an end of line would break
the line in two.  Nothing else in a path matters, and nothing of the messages does: the line is
the first one of the source that includes a file by a quoted name.
-/
import DeviceGen.Proofs.Can.SourceLines
import DeviceGen.Proofs.Generator.Selection

namespace DeviceGen

/-! ### The names of files -/

namespace Output

/-- The directory of a file, with the slash at its end. -/
def directory (name : String) : String := Text.throughLast '/' name

/-- A file is found by its base name in its directory. -/
theorem directory_append_baseName (name : String) : directory name ++ baseName name = name :=
  Text.throughLast_append_afterLast '/' name

/-- What stands in the name of a file in front of the generator's own name. -/
def nameFront (stem : String) (selected : Nat) : String :=
  if selected ≤ 1 then "" else stem ++ "."

theorem fileName_eq (own stem : String) (selected : Nat) :
    fileName own stem selected = nameFront stem selected ++ own := by
  unfold fileName nameFront
  split
  · rw [String.empty_append]
  · rfl

/-- The generator's own name does not show in the directory. -/
theorem directory_fileName {own : String} (h : '/' ∉ own.toList) (stem : String) (selected : Nat) :
    directory (fileName own stem selected) = directory (nameFront stem selected) := by
  unfold directory
  rw [fileName_eq, Text.throughLast_append _ h]

/-- The name of a file has the characters of the path, of the generator's own name, and a dot. -/
theorem not_mem_fileName {c : Char} {own stem : String} (hown : c ∉ own.toList)
    (hstem : c ∉ stem.toList) (hdot : c ≠ '.') (selected : Nat) :
    c ∉ (fileName own stem selected).toList := by
  unfold fileName
  split
  · exact hown
  · simp [hown, hstem, hdot]

end Output

/-! ### The line that includes the header -/

/-- The file that a line includes by a name between quotation marks. -/
def C.included? (line : String) : Option String := do
  let cs ← "#include \"".toList.isPrefixOf? line.toList
  if cs.contains '"' then some (String.ofList (cs.takeWhile (· ≠ '"'))) else none

/-- The file that the first such line of a text includes. -/
def C.firstIncluded? (text : String) : Option String := (Text.lines text).findSome? included?

/-- The first file that a source includes by a quoted name is the header, if the name is looked
up in the directory of the source. -/
def Output.File.Includes (source header : Output.File) : Prop :=
  ∃ included, C.firstIncluded? source.content = some included
    ∧ Output.directory source.name ++ included = header.name

namespace Can

open DeviceGen.C (firstIncluded? included?)

theorem included?_includeLine {header : String} (h : '"' ∉ header.toList) :
    included? (includeLine header) = some header := by
  have hrest : "#include \"".toList.isPrefixOf? (includeLine header).toList
      = some (header.toList ++ ['"']) := by
    rw [List.isPrefixOf?_eq_some_iff_append_eq]
    simp [includeLine]
  unfold included?
  rw [hrest]
  show (if (header.toList ++ ['"']).contains '"' then _ else none) = _
  rw [if_pos (by simp), Text.takeWhile_append_separator h, String.ofList_toList]

/-- In front of the line that includes the header no other file is included by a quoted name. -/
theorem findSome?_preambleLines {headerFile : String} (h : '"' ∉ headerFile.toList) :
    (preambleLines headerFile).findSome? included? = some (Output.baseName headerFile) := by
  have hfixed : ["/**", "* Generated File, do not track!",
      "* Implements functions to pack and unpack data structures for CAN tx/rx.", "*/",
      "#include <string.h>", ""].findSome? included? = none := by decide
  have hinclude : included? (includeLine (Output.baseName headerFile)) = _ :=
    included?_includeLine (mt Text.mem_of_mem_afterLast h)
  show ([_, _, _, _, _, _] ++ includeLine (Output.baseName headerFile) :: helperLines).findSome?
    included? = _
  rw [List.findSome?_append, hfixed, Option.none_or, List.findSome?_cons, hinclude]

theorem firstIncluded?_source {headerFile : String} (hquote : '"' ∉ headerFile.toList)
    (hline : '\n' ∉ headerFile.toList) (name : String) (ms : List Message) :
    firstIncluded? (source name headerFile ms).content = some (Output.baseName headerFile) := by
  obtain ⟨rest, hcontent⟩ : ∃ rest, (source name headerFile ms).content
      = Text.unlines (preambleLines headerFile) ++ rest := ⟨_, String.append_assoc ..⟩
  unfold firstIncluded?
  rw [hcontent, Text.lines_unlines_append (unbroken_preambleLines hline),
    List.findSome?_append, findSome?_preambleLines hquote, Option.some_or]

/-- The header and the source of a schema file whose path can stand between quotation marks. -/
theorem includes_fileName {stem : String} (hquote : '"' ∉ stem.toList) (hline : '\n' ∉ stem.toList)
    (selected : Nat) (ms : List Message) :
    (source (Output.fileName sourceName stem selected)
        (Output.fileName headerName stem selected) ms).Includes
      (header (Output.fileName headerName stem selected) ms) := by
  have hheader {c : Char} (hown : c ∉ headerName.toList) (hdot : c ≠ '.')
      (hstem : c ∉ stem.toList) := Output.not_mem_fileName hown hstem hdot selected
  refine ⟨_, firstIncluded?_source (hheader (by decide) (by decide) hquote)
    (hheader (by decide) (by decide) hline) _ ms, ?_⟩
  calc Output.directory (Output.fileName sourceName stem selected)
        ++ Output.baseName (Output.fileName headerName stem selected)
    _ = Output.directory (Output.fileName headerName stem selected)
          ++ Output.baseName (Output.fileName headerName stem selected) := by
        have hsource : '/' ∉ sourceName.toList := by decide
        have hheader : '/' ∉ headerName.toList := by decide
        rw [Output.directory_fileName hsource, Output.directory_fileName hheader]
    _ = Output.fileName headerName stem selected := Output.directory_append_baseName _

end Can

/-! ### Whole runs -/

namespace Generator

open DeviceGen.Descriptor (FieldDescriptor FileDescriptor MessageDescriptor)

/-- **A source includes its own header.**  A run for packing gives two files for each selected
name, in the order of the selection: a header and then a source of the same messages.  If the name
can stand between quotation marks on one line, the file that the source includes is this header,
however many files are selected and whatever directories they are in. -/
theorem sources_include_headers {request : Descriptor.Request} {outputs : List Output.File}
    (h : (can.generate request).result = .ok outputs) :
    ∃ header source : String → Output.File,
      outputs = (request.selected.flatMap fun name => [header name, source name])
      ∧ ∀ name ∈ request.selected,
          [(header name).name, (source name).name]
              = can.fileNames request.selected.length name
          ∧ (∃ ms, header name = Can.header (header name).name ms
              ∧ source name = Can.source (source name).name (header name).name ms)
          ∧ ('"' ∉ name.toList → '\n' ∉ name.toList → (source name).Includes (header name)) := by
  obtain ⟨bound, -, rfl⟩ := can.generate_eq_ok.mp h
  let headerFile (name : String) := Output.fileName Can.headerName
    (Text.beforeEnding ".proto" name) request.selected.length
  let sourceFile (name : String) := Output.fileName Can.sourceName
    (Text.beforeEnding ".proto" name) request.selected.length
  let packed (name : String) := (bound name).filter Can.Message.isPacked
  refine ⟨fun name => Can.header (headerFile name) (packed name),
    fun name => Can.source (sourceFile name) (headerFile name) (packed name), rfl,
    fun name _ => ⟨rfl, ⟨packed name, rfl, rfl⟩, fun hquote hline => ?_⟩⟩
  exact Can.includes_fileName (mt Text.mem_of_mem_beforeEnding hquote)
    (mt Text.mem_of_mem_beforeEnding hline) request.selected.length (packed name)

/-- A request for two files of one name in different directories. -/
def sidesRequest : Descriptor.Request :=
  .make ["left/arm.v2/msgs.proto", "right/msgs.proto"] none
    [FileDescriptor.make "left/arm.v2/msgs.proto" none
        [MessageDescriptor.make "LeftCtl" [FieldDescriptor.make "x" 1 5 none]] [],
      FileDescriptor.make "right/msgs.proto" none
        [MessageDescriptor.make "RightTlm" [FieldDescriptor.make "x" 1 2 none]] []]

theorem sources_include_headers_sides :
    ∃ left left' right right' : Output.File,
      (can.generate sidesRequest).result = .ok [left, left', right, right']
        ∧ [left.name, left'.name] = ["left/arm.v2/msgs.can.pb.h", "left/arm.v2/msgs.can.pb.c"]
        ∧ [right.name, right'.name] = ["right/msgs.can.pb.h", "right/msgs.can.pb.c"]
        ∧ left'.Includes left ∧ right'.Includes right := by
  obtain ⟨outputs, h⟩ : ∃ outputs, (can.generate sidesRequest).result = .ok outputs :=
    exists_ok_of_isSome (by decide +kernel)
  obtain ⟨header, source, rfl, hpairs⟩ := sources_include_headers h
  have hselected : sidesRequest.selected = ["left/arm.v2/msgs.proto", "right/msgs.proto"] := rfl
  rw [hselected] at hpairs h
  simp only [List.forall_mem_cons, List.not_mem_nil, false_imp_iff, implies_true,
    and_true] at hpairs
  obtain ⟨⟨hleft, -, hleftIncludes⟩, hright, -, hrightIncludes⟩ := hpairs
  refine ⟨_, _, _, _, h, ?_, ?_, hleftIncludes (by decide) (by decide),
    hrightIncludes (by decide) (by decide)⟩
  · exact hleft.trans (by decide +kernel)
  · exact hright.trans (by decide +kernel)

end Generator

end DeviceGen
