/-
First occurrences.

Several passes over a list keep a thing only if its key is new, and carry along the keys that they
have seen.  The keys of what such a pass keeps are the keys of the list without repetitions, each at
its first occurrence (`List.eraseDups`), less those that were seen before.
-/
import Mathlib.Data.List.Nodup

namespace DeviceGen

variable {α : Type} [DecidableEq α]

theorem filter_not_mem_cons (a : α) (seen as : List α) :
    as.filter (· ∉ a :: seen) = (as.filter (· ∉ seen)).filter fun b => !b == a := by
  rw [List.filter_filter]
  refine List.filter_congr fun b _ => ?_
  by_cases hb : b = a <;> simp [hb]

/-- What is new after others is new after those of the others that are new themselves. -/
theorem eraseDups_filter_append (seen as others : List α) :
    ((as ++ others).filter (· ∉ seen)).eraseDups
      = (as.filter (· ∉ seen)).eraseDups
        ++ (others.filter (· ∉ (as.filter (· ∉ seen)).eraseDups ++ seen)).eraseDups := by
  rw [List.filter_append, List.eraseDups_append]
  congr 2
  unfold List.removeAll
  rw [List.filter_filter]
  refine List.filter_congr fun b _ => ?_
  by_cases hseen : b ∈ seen <;> by_cases hmem : b ∈ as <;> simp [hseen, hmem]

/-- Nothing occurs twice. -/
theorem nodup_eraseDups (as : List α) : as.eraseDups.Nodup := by
  induction hlength : as.length using Nat.strongRecOn generalizing as with
  | ind n ih =>
      cases as with
      | nil => simp
      | cons a as =>
          rw [List.eraseDups_cons, List.nodup_cons, List.mem_eraseDups]
          have hshorter : (as.filter fun b => !b == a).length < n := by
            have hle := List.length_filter_le (fun b => !b == a) as
            rw [List.length_cons] at hlength
            omega
          exact ⟨by simp, ih _ hshorter _ rfl⟩

end DeviceGen
