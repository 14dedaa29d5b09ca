/-
Which label a panel shows for a number.

A panel looks labels up in a map that is built from an array of entries, and in such a map the last
entry for a number counts.  In an enumeration it is the first label of a number that counts.  The
array has no number twice, so both come to the same (`labels_resolve`).

The array is read here from its text, as any array of pairs of a number and a text, and not from
the values that it was printed for.  Labels may be any texts: what stands between quotation marks
is read as one of them, commas and brackets included.
-/
import Mathlib.Logic.Function.Basic
import DeviceGen.Proofs.FirstOccurrences
import DeviceGen.Proofs.Schema.Dump
import DeviceGen.Widgets

namespace DeviceGen.Widgets

open DeviceGen.Schema (EnumValue)
open DeviceGen.Text (Document Json quote)
open DeviceGen.Text.Json (IsDocument IsValue)

/-! ### Arrays of entries -/

/-- A number and the label for it. -/
abbrev LabelEntry := Int32 × String

/-- The entry that a document says: an array of a number and a text. -/
def LabelEntry.ofDocument : Document → Option LabelEntry
  | .array [number, label] => do return (← number.int32?, ← label.text?)
  | _ => none

/-- The entries that the text of an array says. -/
def readEntries (text : String) : Option (List LabelEntry) :=
  (Json.read text).bind (Document.list? LabelEntry.ofDocument)

/-- The labels by their numbers. -/
abbrev LabelMap := Int32 → Option String

/-- One more entry in a map, instead of an earlier one with the same number. -/
def LabelMap.put (map : LabelMap) (entry : LabelEntry) : LabelMap :=
  Function.update map entry.1 (some entry.2)

/-- The map that is built from entries, one after the other. -/
def LabelMap.ofEntries (entries : List LabelEntry) : LabelMap :=
  entries.foldl put fun _ => none

-- the second label for 1 takes the place of the first one
example : LabelMap.ofEntries [(1, "RUN"), (0, "IDLE"), (1, "RUNNING")] 1 = some "RUNNING" := by
  decide

/-- If no number occurs twice, then each entry is found, over what a map held before. -/
theorem LabelMap.foldl_put {entries : List LabelEntry} (h : (entries.map Prod.fst).Nodup)
    (map : LabelMap) (n : Int32) :
    entries.foldl put map n = ((entries.find? (·.1 = n)).map Prod.snd).or (map n) := by
  induction entries generalizing map with
  | nil => rfl
  | cons entry entries ih =>
      rw [List.map_cons, List.nodup_cons] at h
      obtain ⟨hnew, hrest⟩ := h
      rw [List.foldl_cons, ih hrest]
      unfold put
      by_cases hn : entry.1 = n
      · -- nothing behind the entry has its number
        subst hn
        have hnone : entries.find? (·.1 = entry.1) = none := by
          rw [List.find?_eq_none]
          intro other hother
          have hne : other.1 ≠ entry.1 := fun heq => hnew (List.mem_map.mpr ⟨other, hother, heq⟩)
          simpa using hne
        simp [hnone]
      · rw [Function.update_of_ne (Ne.symm hn)]
        simp [hn]

/-! ### First values of numbers -/

/-- The value that is kept for a number is the first one that has it. -/
theorem find?_firstOfEachNumber (seen : List Int32) (values : List EnumValue) (n : Int32) :
    (firstOfEachNumber seen values).find? (·.number = n)
      = if n ∈ seen then none else values.find? (·.number = n) := by
  induction values generalizing seen with
  | nil => simp [firstOfEachNumber]
  | cons value values ih =>
      rw [firstOfEachNumber]
      by_cases hseen : value.number ∈ seen
      · rw [if_pos (by simpa using hseen), ih]
        by_cases hn : n ∈ seen
        · rw [if_pos hn, if_pos hn]
        · have hne : value.number ≠ n := fun heq => hn (heq ▸ hseen)
          rw [if_neg hn, if_neg hn, List.find?_cons_of_neg (by simpa using hne)]
      · rw [if_neg (by simpa using hseen)]
        by_cases hn : value.number = n
        · subst hn
          simp [hseen]
        · have hmem : n ∈ value.number :: seen ↔ n ∈ seen := by simp [Ne.symm hn]
          rw [List.find?_cons_of_neg (by simpa using hn), ih, List.find?_cons_of_neg
            (by simpa using hn)]
          simp only [hmem]

/-- The numbers of the values that are kept are those of all values without repetitions. -/
theorem map_number_firstOfEachNumber (seen : List Int32) (values : List EnumValue) :
    (firstOfEachNumber seen values).map (·.number)
      = ((values.map (·.number)).filter (· ∉ seen)).eraseDups := by
  induction values generalizing seen with
  | nil => rfl
  | cons value values ih =>
      rw [firstOfEachNumber, List.map_cons]
      by_cases hseen : value.number ∈ seen
      · rw [if_pos (by simpa using hseen), List.filter_cons_of_neg (by simpa using hseen), ih]
      · rw [if_neg (by simpa using hseen), List.filter_cons_of_pos (by simpa using hseen),
          List.eraseDups_cons, List.map_cons, ih, filter_not_mem_cons]

/-! ### The text of an array -/

/-- The entry of a value. -/
def LabelEntry.ofValue (value : EnumValue) : LabelEntry := (value.number, value.label)

/-- The document of an entry. -/
def LabelEntry.toJson (entry : LabelEntry) : Json :=
  .array [.number entry.1.toInt, .text entry.2]

theorem LabelEntry.ofDocument_toDocument (entry : LabelEntry) :
    LabelEntry.ofDocument entry.toJson.toDocument = some entry := by
  show (do return (← Document.int32? (.number entry.1.toInt 0), ← Document.text? (.text entry.2))
    : Option LabelEntry) = some entry
  rw [Document.int32?_toInt]
  rfl

/-- The text of an entry says that entry. -/
theorem isValue_labelEntry (value : EnumValue) :
    IsValue (LabelEntry.ofValue value).toJson.toDocument (labelEntry value).toList := by
  have hnumber : IsValue (.number value.number.toInt 0) (toString value.number.toInt).toList :=
    Json.isValue_iff.mpr (.number (Json.isNumber_toString _))
  have hlabel : IsValue (.text value.label) (quote value.label).toList :=
    Json.isValue_iff.mpr (.text (Json.isText_quote _))
  have hrow := Json.isList_row (g := IsValue) '[' ']' (.cons hnumber (.cons hlabel .nil))
  have htext : (labelEntry value).toList
      = '[' :: (String.intercalate ", " [toString value.number.toInt, quote value.label]).toList
        ++ [']'] := by
    simp [labelEntry, String.intercalate_cons_cons]
  rw [htext]
  exact Json.isValue_iff.mpr (.array hrow)

/-- **The text of an array is read as its entries.** -/
theorem readEntries_labelEntries (values : List EnumValue) :
    readEntries ("[" ++ labelEntries values ++ "]")
      = some ((firstOfEachNumber [] values).map LabelEntry.ofValue) := by
  let entries := (firstOfEachNumber [] values).map LabelEntry.ofValue
  let array : Json := .array (entries.map LabelEntry.toJson)
  have hentries : List.Forall₂ (fun d part => IsValue d part.toList)
      (Json.toDocuments (entries.map LabelEntry.toJson))
      ((firstOfEachNumber [] values).map labelEntry) := by
    rw [Json.toDocuments_eq, List.map_map, List.map_map, List.forall₂_map_left_iff,
      List.forall₂_map_right_iff, List.forall₂_same]
    exact fun value _ => isValue_labelEntry value
  have htext : ("[" ++ labelEntries values ++ "]").toList
      = '[' :: (labelEntries values).toList ++ [']'] := by simp
  have hvalue : IsValue array.toDocument ("[" ++ labelEntries values ++ "]").toList := by
    rw [htext]
    exact Json.isValue_iff.mpr (.array (Json.isList_row '[' ']' hentries))
  have hread : Json.read ("[" ++ labelEntries values ++ "]") = some array.toDocument := by
    rw [Json.read_eq_some_iff]
    have hdocument := IsDocument.mk Json.areBlank_nil (.mk hvalue Json.areBlank_nil)
    rwa [List.nil_append, List.append_nil] at hdocument
  rw [readEntries, hread, Option.bind_some]
  exact Document.list?_map LabelEntry.ofDocument_toDocument entries

/-- **A number is shown by its first label.**  The array of labels is read as entries whose numbers
are those of the enumeration without repetitions, each at its first occurrence; and in the map that
is built from them, where a later entry takes the place of an earlier one with its number, a number
has the label of the first value with that number, and none if there is no such value. -/
theorem labels_resolve (values : List EnumValue) :
    ∃ entries, readEntries ("[" ++ labelEntries values ++ "]") = some entries
      ∧ (∀ n : Int32, LabelMap.ofEntries entries n
        = (values.find? (·.number = n)).map (·.label))
      ∧ entries.map Prod.fst = (values.map (·.number)).eraseDups
      ∧ (entries.map Prod.fst).Nodup := by
  have hnumbers : ((firstOfEachNumber [] values).map LabelEntry.ofValue).map Prod.fst
      = (values.map (·.number)).eraseDups := by
    rw [List.map_map]
    show (firstOfEachNumber [] values).map (·.number) = _
    rw [map_number_firstOfEachNumber]
    simp
  have hnodup :
      (((firstOfEachNumber [] values).map LabelEntry.ofValue).map Prod.fst).Nodup := by
    rw [hnumbers]
    exact nodup_eraseDups _
  refine ⟨_, readEntries_labelEntries values, fun n => ?_, hnumbers, hnodup⟩
  rw [LabelMap.ofEntries, LabelMap.foldl_put hnodup, Option.or_none, List.find?_map]
  show (((firstOfEachNumber [] values).find? (·.number = n)).map LabelEntry.ofValue).map Prod.snd
    = _
  rw [find?_firstOfEachNumber, if_neg List.not_mem_nil, Option.map_map]
  rfl

end DeviceGen.Widgets
