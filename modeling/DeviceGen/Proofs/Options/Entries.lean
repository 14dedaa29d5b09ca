/-
How an entry of a parameter reads.

An entry has a key, and a value if an equals sign is in it.  The key is what stands before the first
equals sign and the value is what stands behind it, both without the blanks around them.
-/
import DeviceGen.Options
import DeviceGen.Proofs.Text.Blank
import DeviceGen.Proofs.Text.Segment

namespace DeviceGen.Options

open DeviceGen.Text (forall_ne_separator takeWhile_append_separator trim)

/-- An entry reads as a key and a value: the key is an identifier, and the value is on one line. -/
inductive Reads : List Char → String → Option String → Prop where
  | flag {entry : List Char} (hequals : '=' ∉ entry) (hkey : isKey (trim entry) = true) :
    Reads entry (String.ofList (trim entry)) none
  | assignment {before after : List Char} (hequals : '=' ∉ before)
    (hkey : isKey (trim before) = true) (hline : '\n' ∉ trim after) :
    Reads (before ++ '=' :: after) (String.ofList (trim before)) (some (String.ofList (trim after)))

theorem afterEquals?_eq_none {entry : List Char} (h : '=' ∉ entry) : afterEquals? entry = none := by
  induction entry with
  | nil => rfl
  | cons c cs ih =>
      rw [List.mem_cons, not_or] at h
      rw [afterEquals?, if_neg (Ne.symm h.1), ih h.2]

theorem afterEquals?_append {before : List Char} (h : '=' ∉ before) (after : List Char) :
    afterEquals? (before ++ '=' :: after) = some after := by
  induction before with
  | nil => rfl
  | cons c cs ih =>
      rw [List.mem_cons, not_or] at h
      rw [List.cons_append, afterEquals?, if_neg (Ne.symm h.1), ih h.2]

theorem assignment?_of_flag {entry : List Char} (h : '=' ∉ entry) :
    assignment? entry
      = if isKey (trim entry) then some (String.ofList (trim entry), none) else none := by
  rw [assignment?, List.takeWhile_eq_self_iff.mpr (forall_ne_separator h),
    afterEquals?_eq_none h]
  simp

theorem assignment?_append {before : List Char} (h : '=' ∉ before) (after : List Char) :
    assignment? (before ++ '=' :: after)
      = if isKey (trim before) ∧ '\n' ∉ trim after then
          some (String.ofList (trim before), some (String.ofList (trim after)))
        else none := by
  rw [assignment?, takeWhile_append_separator h, afterEquals?_append h]
  simp

/-- **The key and the value of an entry are what it reads as.** -/
theorem assignment?_eq_some_iff {entry : List Char} {key : String} {value : Option String} :
    assignment? entry = some (key, value) ↔ Reads entry key value := by
  constructor
  · intro h
    by_cases hequals : '=' ∈ entry
    · obtain ⟨before, after, rfl, hbefore⟩ := List.eq_append_cons_of_mem hequals
      rw [assignment?_append hbefore] at h
      split at h
      · cases h
        rename_i hparts
        exact .assignment hbefore hparts.1 hparts.2
      · cases h
    · rw [assignment?_of_flag hequals] at h
      split at h
      · cases h
        rename_i hkey
        exact .flag hequals hkey
      · cases h
  · intro h
    cases h with
    | flag hequals hkey => rw [assignment?_of_flag hequals, if_pos hkey]
    | assignment hequals hkey hline => rw [assignment?_append hequals, if_pos ⟨hkey, hline⟩]

end DeviceGen.Options
