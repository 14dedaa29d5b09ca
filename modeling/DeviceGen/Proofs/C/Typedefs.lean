/-
The enumeration types that lines declare.

A declaration begins with a line that opens an enumeration and ends with the first line
after it that closes a brace and gives the name; what stands between are the enumerators.
Lines are scanned once, with the enumerators of the declaration that is open, if one is.
Where no declaration is open at the end, scanning lines one after the other finds the
declarations of the one and then those of the other.
-/

namespace DeviceGen.C

/-- An enumeration type by its name, with the lines of its enumerators. -/
structure Typedef where
  name : String
  enumerators : List String
  deriving DecidableEq, Repr

namespace Typedef

/-- The line that opens an enumeration. -/
def opening : String := "typedef enum \x7b"

/-- The name on a line that closes a declaration. -/
def closing? (line : String) : Option String :=
  match line.toList with
  | '}' :: ' ' :: cs => if cs.getLast? = some ';' then some (String.ofList cs.dropLast) else none
  | _ => none

/-- The lines that declare an enumeration type. -/
def lines (d : Typedef) : List String :=
  opening :: d.enumerators ++ ["\x7d " ++ d.name ++ ";"]

/-- Scans lines, given the enumerators of the open declaration, if there is one. -/
def scan : Option (List String) → List String → Option (List String) × List Typedef
  | current, [] => (current, [])
  | none, line :: lines => scan (if line = opening then some [] else none) lines
  | some enumerators, line :: lines =>
    match closing? line with
    | none => scan (some (enumerators ++ [line])) lines
    | some name => ((scan none lines).1, ⟨name, enumerators⟩ :: (scan none lines).2)

end Typedef

/-- The enumeration types that lines declare, in order. -/
def typedefs (lines : List String) : List Typedef := (Typedef.scan none lines).2

/-- Lines declare these enumeration types and leave no declaration open. -/
def Declares (lines : List String) (ds : List Typedef) : Prop :=
  Typedef.scan none lines = (none, ds)

namespace Typedef

theorem scan_append (current : Option (List String)) (lines others : List String) :
    scan current (lines ++ others)
      = ((scan (scan current lines).1 others).1,
        (scan current lines).2 ++ (scan (scan current lines).1 others).2) := by
  fun_induction scan current lines with
  | case1 current => rfl
  | case2 line lines ih => rw [List.cons_append, scan, ih]
  | case3 enumerators line lines hclosing ih =>
      rw [List.cons_append, scan, hclosing]
      exact ih
  | case4 enumerators line lines name hclosing ih =>
      rw [List.cons_append, scan, hclosing]
      simp only [ih, List.cons_append]

theorem closing?_name (name : String) : closing? ("\x7d " ++ name ++ ";") = some name := by
  simp [closing?]

/-- Enumerators are collected up to the line that closes the declaration. -/
theorem scan_enumerators {enumerators : List String} (h : ∀ line ∈ enumerators, closing? line = none)
    (earlier : List String) (name : String) :
    scan (some earlier) (enumerators ++ ["\x7d " ++ name ++ ";"])
      = (none, [⟨name, earlier ++ enumerators⟩]) := by
  induction enumerators generalizing earlier with
  | nil =>
      rw [List.nil_append, List.append_nil, scan, closing?_name]
      rfl
  | cons line enumerators ih =>
      rw [List.cons_append, scan, h line List.mem_cons_self]
      show scan (some (earlier ++ [line])) _ = _
      rw [ih fun l hl => h l (List.mem_cons_of_mem line hl), List.append_assoc]
      rfl

end Typedef

namespace Declares

variable {lines others : List String} {ds es : List Typedef}

theorem typedefs (h : Declares lines ds) : typedefs lines = ds := by
  unfold C.typedefs
  rw [h]

theorem append (h : Declares lines ds) (h' : Declares others es) :
    Declares (lines ++ others) (ds ++ es) := by
  unfold Declares at *
  rw [Typedef.scan_append, h, h']

/-- Lines none of which opens an enumeration declare none. -/
theorem of_plain (h : ∀ line ∈ lines, line ≠ Typedef.opening) : Declares lines [] := by
  induction lines with
  | nil => rfl
  | cons line lines ih =>
      unfold Declares
      rw [Typedef.scan, if_neg (h line List.mem_cons_self)]
      exact ih fun l hl => h l (List.mem_cons_of_mem line hl)

theorem of_typedef {d : Typedef} (h : ∀ line ∈ d.enumerators, Typedef.closing? line = none) :
    Declares d.lines [d] := by
  unfold Declares Typedef.lines
  rw [List.cons_append, Typedef.scan, if_pos rfl, Typedef.scan_enumerators h]
  rfl

end Declares

end DeviceGen.C
