/-
Where enumerations are declared.

An enumeration is declared by a file itself or inside a message, at any depth.  The
messages around it are its path, and its full name is the package, the path and its own
name, with a dot before each of them.  The list that the model keeps for a file holds
exactly the enumerations declared in it, under their full names.
-/
import DeviceGen.Schema.OfDescriptor

namespace DeviceGen

/-- Names with a dot before each of them. -/
def dotted (names : List String) : String := String.join (names.map ("." ++ ·))

theorem dotted_nil : dotted [] = "" := rfl

theorem dotted_cons (name : String) (names : List String) :
    dotted (name :: names) = "." ++ name ++ dotted names := by
  unfold dotted
  rw [List.map_cons, String.join_cons]

theorem dotted_append (names others : List String) :
    dotted (names ++ others) = dotted names ++ dotted others := by
  induction names with
  | nil => rw [List.nil_append, dotted_nil, String.empty_append]
  | cons name names ih =>
      rw [List.cons_append, dotted_cons, dotted_cons, ih]
      simp only [String.append_assoc]

namespace Descriptor

/-- `m.Encloses path e`: the enumeration stands inside the message, and `path` names the
messages around it from this one on inwards. -/
inductive MessageDescriptor.Encloses : MessageDescriptor → List String → EnumDescriptor → Prop where
  | own {m : MessageDescriptor} {e : EnumDescriptor} (mem : e ∈ m.enums) : Encloses m [m.name] e
  | nested {m inner : MessageDescriptor} {path : List String} {e : EnumDescriptor}
      (mem : inner ∈ m.nested) (encloses : Encloses inner path e) : Encloses m (m.name :: path) e

/-- `file.Declares path e`: the file declares the enumeration, inside the messages that
`path` names, or on its own if there are none. -/
inductive FileDescriptor.Declares : FileDescriptor → List String → EnumDescriptor → Prop where
  | top {file : FileDescriptor} {e : EnumDescriptor} (mem : e ∈ file.enums) : Declares file [] e
  | inside {file : FileDescriptor} {m : MessageDescriptor} {path : List String}
      {e : EnumDescriptor} (mem : m ∈ file.messages) (encloses : m.Encloses path e) :
      Declares file path e

/-- A file whose messages have nothing inside declares what it has on its own. -/
theorem FileDescriptor.Declares.of_flat {file : FileDescriptor}
    (hflat : ∀ m ∈ file.messages, m.nested = [] ∧ m.enums = []) {path : List String}
    {e : EnumDescriptor} (h : file.Declares path e) : path = [] ∧ e ∈ file.enums := by
  cases h with
  | top mem => exact ⟨rfl, mem⟩
  | inside hm encloses =>
      obtain ⟨hnested, henums⟩ := hflat _ hm
      cases encloses with
      | own mem =>
          rw [henums] at mem
          cases mem
      | nested mem _ =>
          rw [hnested] at mem
          cases mem

/-- The package of a file as the beginning of a full name; none if it is empty. -/
def FileDescriptor.packagePath (file : FileDescriptor) : List String :=
  match file.package? with
  | none => []
  | some package => if package = "" then [] else [package]

/-- The full name of an enumeration that a file declares. -/
def FileDescriptor.enumName (file : FileDescriptor) (path : List String) (e : EnumDescriptor) :
    String :=
  dotted (file.packagePath ++ path ++ [e.name])

end Descriptor

namespace Schema

open Descriptor

theorem fileScope_eq (file : FileDescriptor) : fileScope file = dotted file.packagePath := by
  unfold fileScope FileDescriptor.packagePath
  cases file.package? with
  | none => rfl
  | some package =>
      by_cases h : package = ""
      · subst h
        rfl
      · show _ = dotted (if package = "" then [] else [package])
        rw [if_neg h, dotted_cons, dotted_nil, String.append_empty]
        split
        · contradiction
        · next heq => exact absurd (Option.some.inj heq) h
        · next heq => rw [Option.some.inj heq]

theorem nestedEnums_eq (scope : String) (m : MessageDescriptor) :
    nestedEnums scope m = m.enums.map (Enumeration.ofDescriptor (fullName scope m.name))
      ++ m.nested.flatMap (nestedEnums (fullName scope m.name)) := by
  rw [nestedEnums]
  simp only [List.flatMap_subtype, List.unattach_attach]

theorem mem_nestedEnums {scope : String} {m : MessageDescriptor} {found : Enumeration} :
    found ∈ nestedEnums scope m ↔
      ∃ path e, m.Encloses path e ∧ found = Enumeration.ofDescriptor (scope ++ dotted path) e := by
  -- the induction is on the nesting, which the scope grows with
  fun_induction nestedEnums scope m with
  | case1 scope m inner ih =>
      have hinner : ∀ path, inner ++ dotted path = scope ++ dotted (m.name :: path) := by
        intro path
        show fullName scope m.name ++ dotted path = _
        rw [dotted_cons, fullName]
        simp only [String.append_assoc]
      have hown : inner = scope ++ dotted [m.name] := by
        rw [← hinner [], dotted_nil, String.append_empty]
      rw [List.mem_append]
      constructor
      · rintro (h | h)
        · obtain ⟨e, he, rfl⟩ := List.mem_map.mp h
          exact ⟨[m.name], e, .own he, by rw [hown]⟩
        · obtain ⟨⟨n, hn⟩, -, h⟩ := List.mem_flatMap.mp h
          obtain ⟨path, e, hpath, rfl⟩ := (ih n hn).mp h
          exact ⟨m.name :: path, e, .nested hn hpath, by rw [hinner]⟩
      · rintro ⟨path, e, hpath, rfl⟩
        cases hpath with
        | own he => exact Or.inl (List.mem_map.mpr ⟨e, he, by rw [hown]⟩)
        | @nested _ n path _ hn hpath =>
            refine Or.inr (List.mem_flatMap.mpr ⟨⟨n, hn⟩, List.mem_attach _ _, ?_⟩)
            exact (ih n hn).mpr ⟨path, e, hpath, by rw [hinner]⟩

/-- **The enumerations of a file are those declared in it at any depth.** -/
theorem mem_enumsOf {file : FileDescriptor} {found : Enumeration} :
    found ∈ enumsOf file ↔ ∃ path e, file.Declares path e
      ∧ found = Enumeration.ofDescriptor (dotted (file.packagePath ++ path)) e := by
  unfold enumsOf
  rw [List.mem_append, fileScope_eq]
  constructor
  · rintro (h | h)
    · obtain ⟨e, he, rfl⟩ := List.mem_map.mp h
      exact ⟨[], e, .top he, by rw [List.append_nil]⟩
    · obtain ⟨m, hm, h⟩ := List.mem_flatMap.mp h
      obtain ⟨path, e, hpath, rfl⟩ := mem_nestedEnums.mp h
      exact ⟨path, e, .inside hm hpath, by rw [dotted_append]⟩
  · rintro ⟨path, e, hdeclares, rfl⟩
    cases hdeclares with
    | top he => exact Or.inl (List.mem_map.mpr ⟨e, he, by rw [List.append_nil]⟩)
    | @inside m _ _ hm hpath =>
        refine Or.inr (List.mem_flatMap.mpr ⟨m, hm, ?_⟩)
        exact mem_nestedEnums.mpr ⟨path, e, hpath, by rw [dotted_append]⟩

theorem name_ofDescriptor (file : FileDescriptor) (path : List String) (e : EnumDescriptor) :
    (Enumeration.ofDescriptor (dotted (file.packagePath ++ path)) e).name
      = file.enumName path e := by
  show fullName _ _ = _
  unfold fullName FileDescriptor.enumName
  rw [dotted_append _ [e.name], dotted_cons, dotted_nil]
  simp only [String.append_empty, String.append_assoc]

end Schema

end DeviceGen
