/-
The enumerations of a request by their full names.

A field may refer to an enumeration of any file, also of one that no code is generated
for.  If a name is declared more than once, its first declaration counts; the others
are left out and named in warnings.
-/
import DeviceGen.Schema.Basic
import DeviceGen.Error

namespace DeviceGen.Schema

/-- Enumerations with different names, in the order of their declaration. -/
structure Registry where
  enums : List Enumeration
  distinct : (enums.map Enumeration.name).Nodup

namespace Registry

/-- The registry without enumerations. -/
def empty : Registry := ⟨[], List.nodup_nil⟩

/-- The enumeration with a name. -/
def get? (registry : Registry) (name : String) : Option Enumeration :=
  registry.enums.find? (·.name = name)

/-- Whether a name is declared. -/
def declares (registry : Registry) (name : String) : Bool :=
  (registry.enums.map Enumeration.name).contains name

/-- One more declaration, which counts unless its name is already declared. -/
def declare (registry : Registry) (e : Enumeration) : Registry :=
  if h : registry.declares e.name then registry
  else
    { enums := registry.enums ++ [e]
      distinct := by
        rw [List.map_append, List.nodup_append]
        refine ⟨registry.distinct, by simp, ?_⟩
        intro a ha b hb hab
        simp only [List.map_cons, List.map_nil, List.mem_singleton] at hb
        apply h
        rw [declares, List.contains_iff_mem]
        exact hb ▸ hab ▸ ha }

/-- The declarations of files, in order, each with the name of its file. -/
def declarations (files : List File) : List (String × Enumeration) :=
  files.flatMap fun file => file.enums.map fun e => (file.name, e)

/-- The enumerations of files. -/
def ofFiles (files : List File) : Registry :=
  ((declarations files).map Prod.snd).foldl declare empty

/-- The declarations that do not count, given the ones before them. -/
def repeatedIn (registry : Registry) : List (String × Enumeration) → List (String × Enumeration)
  | [] => []
  | (file, e) :: rest =>
    (if registry.declares e.name then [(file, e)] else []) ++ repeatedIn (registry.declare e) rest

/-- The declarations in files that do not count, each with the name of its file. -/
def repeated (files : List File) : List (String × Enumeration) :=
  repeatedIn empty (declarations files)

/-- The number of names. -/
def size (registry : Registry) : Nat := registry.enums.length

/-- The enumeration that a field of a message refers to by its full name. -/
def resolve (registry : Registry) (name message field : String) : Except Error Enumeration :=
  match registry.get? name with
  | some e => .ok e
  | none => .error (.unresolvedEnum name message field)

end Registry

end DeviceGen.Schema
