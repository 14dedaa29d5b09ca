/-
Which declarations of enumerations count.

All declarations of all files stand in one row, file by file.  The registry is filled in this order
and keeps a declaration if its name is new, so its names are those of the row without repetitions.
What is not kept is reported, and these are the declarations whose names stand somewhere in front of
them.  One list is carried through the row for both: the declarations that were met so far.
-/
import Mathlib.Data.Finset.Card
import DeviceGen.Proofs.FirstOccurrences
import DeviceGen.Proofs.Generator.Events
import DeviceGen.Proofs.Schema.Registry

namespace DeviceGen

/-- The event is that a declaration is left out. -/
def Event.isDuplicateEnum : Event → Bool
  | duplicateEnum _ _ => true
  | _ => false

/-- The event for a declaration that is left out, with the file that it stands in. -/
def Event.ofRepeated : String × Schema.Enumeration → Event
  | (file, e) => duplicateEnum e.name file

/-- Events of one kind have none of another kind among them. -/
theorem Event.filter_map_eq_nil {α : Type} {p : Event → Bool} {f : α → Event}
    (h : ∀ a, p (f a) = false) (as : List α) : (as.map f).filter p = [] := by
  rw [List.filter_eq_nil_iff, List.forall_mem_map]
  intro a _
  rw [h a]
  exact Bool.false_ne_true

namespace Schema.Registry

/-- The declarations in files whose names were declared in front of them, in order, each with the
name of its file. -/
def repetitions (files : List File) : List (String × Enumeration) :=
  let row := declarations files
  (row.zipIdx.filter fun (d, i) => (row.take i).any (·.2.name = d.2.name)).map Prod.fst

/-! ### Names -/

theorem enums_declare (registry : Registry) (e : Enumeration) :
    (registry.declare e).enums
      = if registry.declares e.name = true then registry.enums else registry.enums ++ [e] := by
  unfold declare
  by_cases h : registry.declares e.name = true
  · rw [dif_pos h, if_pos h]
  · rw [dif_neg h, if_neg h]

/-- The names of a registry are those that were declared, without repetitions. -/
theorem map_name_enums (es : List Enumeration) :
    (es.foldl declare empty).enums.map Enumeration.name
      = (es.map Enumeration.name).eraseDups := by
  induction es using List.reverseRecOn with
  | nil => rfl
  | append_singleton es e ih =>
      rw [List.foldl_append, List.foldl_cons, List.foldl_nil, enums_declare, List.map_append,
        List.eraseDups_append, ← ih]
      by_cases hdeclared : (es.foldl declare empty).declares e.name = true
      · have hmem : e.name ∈ es.map Enumeration.name := by
          rwa [declares, ih, List.contains_iff_mem, List.mem_eraseDups] at hdeclared
        rw [if_pos hdeclared, List.map_singleton, List.removeAll,
          List.filter_cons_of_neg (by simpa using hmem), List.filter_nil, List.eraseDups_nil,
          List.append_nil]
      · have hmem : e.name ∉ es.map Enumeration.name := by
          rwa [declares, ih, List.contains_iff_mem, List.mem_eraseDups] at hdeclared
        rw [if_neg hdeclared, List.map_append, List.map_singleton, List.removeAll,
          List.filter_cons_of_pos (by simpa using hmem)]
        rfl

theorem declares_foldl_iff {es : List Enumeration} {name : String} :
    (es.foldl declare empty).declares name = true ↔ name ∈ es.map Enumeration.name := by
  rw [declares, map_name_enums, List.contains_iff_mem, List.mem_eraseDups]

/-- The size of a registry is the number of different names. -/
theorem size_ofFiles (files : List File) :
    (ofFiles files).size = ((files.flatMap File.enums).map Enumeration.name).toFinset.card := by
  have hnames : (ofFiles files).enums.map Enumeration.name
      = ((files.flatMap File.enums).map Enumeration.name).eraseDups := by
    rw [ofFiles, map_name_enums, map_snd_declarations]
  calc (ofFiles files).size
    _ = ((ofFiles files).enums.map Enumeration.name).length := by rw [size, List.length_map]
    _ = ((ofFiles files).enums.map Enumeration.name).toFinset.card :=
        (List.toFinset_card_of_nodup (ofFiles files).distinct).symm
    _ = _ := by
        rw [hnames]
        refine congrArg Finset.card (Finset.ext fun name => ?_)
        simp

/-- A name that is not found is an error, and no other one is. -/
theorem resolve_eq_error_iff {registry : Registry} {name message field : String} {error : Error} :
    registry.resolve name message field = .error error
      ↔ registry.get? name = none ∧ error = .unresolvedEnum name message field := by
  unfold resolve
  cases registry.get? name with
  | none => simp [eq_comm]
  | some e => simp

/-! ### Repetitions -/

/-- Whether a name was met, or stands in a row in front of a place. -/
def isMetAt (met : List Enumeration) (row : List (String × Enumeration)) (name : String)
    (i : Nat) : Bool :=
  (met ++ (row.take i).map Prod.snd).any (·.name = name)

theorem isMetAt_zero (met : List Enumeration) (row : List (String × Enumeration)) (name : String) :
    isMetAt met row name 0 = met.any (·.name = name) := by
  simp [isMetAt]

/-- What stands first in a row is met by all that follows. -/
theorem isMetAt_succ (met : List Enumeration) (file : String) (e : Enumeration)
    (row : List (String × Enumeration)) (name : String) (i : Nat) :
    isMetAt met ((file, e) :: row) name (i + 1) = isMetAt (met ++ [e]) row name i := by
  simp [isMetAt]

/-- What a registry leaves out are the declarations whose names were met before. -/
theorem repeatedIn_eq (met : List Enumeration) (row : List (String × Enumeration)) :
    repeatedIn (met.foldl declare empty) row
      = (row.zipIdx.filter fun (d, i) => isMetAt met row d.2.name i).map Prod.fst := by
  induction row generalizing met with
  | nil => rfl
  | cons d row ih =>
      obtain ⟨file, e⟩ := d
      have hmet : (met.foldl declare empty).declare e = (met ++ [e]).foldl declare empty := by
        rw [List.foldl_append, List.foldl_cons, List.foldl_nil]
      have hfirst : (met.foldl declare empty).declares e.name = met.any (·.name = e.name) := by
        rw [Bool.eq_iff_iff, declares_foldl_iff]
        simp
      have hrest : ((row.zipIdx 1).filter fun (d, i) =>
            isMetAt met ((file, e) :: row) d.2.name i).map Prod.fst
          = (row.zipIdx.filter fun (d, i) => isMetAt (met ++ [e]) row d.2.name i).map Prod.fst := by
        rw [List.zipIdx_succ, List.filter_map, List.map_map]
        refine congrArg (List.map Prod.fst) (List.filter_congr ?_)
        rintro ⟨d, i⟩ -
        exact isMetAt_succ met file e row d.2.name i
      rw [repeatedIn, hmet, ih, hfirst, List.zipIdx_cons, List.filter_cons, ← hrest]
      simp only [isMetAt_zero]
      by_cases hany : (met.any (·.name = e.name)) = true
      · rw [if_pos hany, if_pos hany]
        rfl
      · rw [if_neg hany, if_neg hany]
        rfl

/-- **The declarations that are left out are the repetitions.** -/
theorem repeated_eq (files : List File) : repeated files = repetitions files := by
  have h := repeatedIn_eq [] (declarations files)
  rw [List.foldl_nil] at h
  rw [repeated, h, repetitions]
  refine congrArg (List.map Prod.fst) (List.filter_congr ?_)
  rintro ⟨d, i⟩ -
  show isMetAt [] (declarations files) d.2.name i = _
  rw [isMetAt, List.nil_append, List.any_map]
  rfl

/-- A model is warned of its repetitions. -/
theorem filter_warnings (model : Model) :
    (Generator.warnings model).filter Event.isDuplicateEnum
      = (repetitions model.files).map Event.ofRepeated := by
  have hrepeated : ((repeated model.files).map Event.ofRepeated).filter Event.isDuplicateEnum
      = (repeated model.files).map Event.ofRepeated := by
    rw [List.filter_eq_self, List.forall_mem_map]
    intro d _
    rfl
  have hcomplaints :
      ((Options.complaints model.parameter).map Event.optionIgnored).filter Event.isDuplicateEnum
        = [] := Event.filter_map_eq_nil (fun _ => rfl) _
  have hwarnings : Generator.warnings model
      = (repeated model.files).map Event.ofRepeated
        ++ (Options.complaints model.parameter).map Event.optionIgnored := rfl
  rw [hwarnings, List.filter_append, hrepeated, hcomplaints, List.append_nil, repeated_eq]

/-- A run warns of the repetitions in its files, if all selected files are there. -/
theorem filter_events_generate (generator : Generator) (request : Descriptor.Request) :
    (generator.generate request).events.filter Event.isDuplicateEnum
      = match (Model.ofRequest request).selection with
        | .error _ => []
        | .ok _ => (repetitions (Model.ofRequest request).files).map Event.ofRepeated := by
  have hbuilt : ((Model.ofRequest request).files.map Generator.builtEvent).filter
      Event.isDuplicateEnum = [] := Event.filter_map_eq_nil (fun _ => rfl) _
  rw [generator.events_generate, List.filter_append, hbuilt, List.nil_append]
  cases (Model.ofRequest request).selection with
  | error e => rfl
  | ok schemas =>
      have hgenerated (context : Context) : (Traced.each (generator.files context)
          schemas).events.filter Event.isDuplicateEnum = [] := by
        rw [List.filter_eq_nil_iff]
        intro e he
        cases Traced.ReportsOnly.each (@generator.reportsOnly_files context) schemas e he <;>
          exact Bool.false_ne_true
      dsimp only
      rw [List.filter_append, List.filter_append, List.filter_append, filter_warnings, hgenerated]
      split <;> simp [Event.isDuplicateEnum]

/-- **The first declaration of a name counts.**  A registry finds the first enumeration with a name
in the row of all enumerations of all files, or none if there is none; its size is the number of
different names; a field that refers to a name has an error iff the name is not found.  Warnings are
given, in order, of the declarations whose names were declared in front of them, each with the name
of the file that it stands in itself; and a run gives these warnings, once, if all selected files
are there, and none otherwise. -/
theorem first_declaration_counts (files : List File) :
    (∀ name, (ofFiles files).get? name = (files.flatMap File.enums).find? (·.name = name))
      ∧ (ofFiles files).size
        = ((files.flatMap File.enums).map Enumeration.name).toFinset.card
      ∧ (∀ name message field error, (ofFiles files).resolve name message field = .error error
        ↔ (ofFiles files).get? name = none ∧ error = .unresolvedEnum name message field)
      ∧ (∀ selected parameter,
        (Generator.warnings ⟨files, selected, parameter⟩).filter Event.isDuplicateEnum
          = (repetitions files).map Event.ofRepeated)
      ∧ ∀ (generator : Generator) (request : Descriptor.Request),
        (generator.generate request).events.filter Event.isDuplicateEnum
          = match (Model.ofRequest request).selection with
            | .error _ => []
            | .ok _ => (repetitions (Model.ofRequest request).files).map Event.ofRepeated :=
  ⟨get?_ofFiles files, size_ofFiles files, fun _ _ _ _ => resolve_eq_error_iff,
    fun selected parameter => filter_warnings ⟨files, selected, parameter⟩, filter_events_generate⟩

-- the second file declares a name of the first one twice
example : repetitions [⟨"a.proto", none, [], [⟨".E", []⟩, ⟨".F", []⟩]⟩,
      ⟨"b.proto", none, [], [⟨".E", [⟨"B", 5⟩]⟩, ⟨".G", []⟩, ⟨".E", []⟩]⟩]
    = [("b.proto", ⟨".E", [⟨"B", 5⟩]⟩), ("b.proto", ⟨".E", []⟩)] := by
  decide

end Schema.Registry

end DeviceGen
