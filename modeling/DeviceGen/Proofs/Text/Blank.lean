/-
What is left of a text without the blanks around it, and what stands between separators.

Removing blanks at the end commutes with removing blanks at the front, so it makes no difference
whether a reader passes over the blanks first or finds them when it is done.
-/
import Mathlib.Data.List.DropRight
import DeviceGen.Text.Blank

namespace DeviceGen.Text

theorem pieces_eq_splitOn (separator : Char) (cs : List Char) :
    pieces separator cs = cs.splitOn separator := by
  induction cs with
  | nil => rfl
  | cons c cs ih =>
      rw [pieces, ih, List.splitOn_cons_eq_if_modifyHead]
      by_cases hc : c = separator
      · simp [hc]
      · cases hpieces : cs.splitOn separator with
        | nil => exact absurd hpieces (List.splitOn_ne_nil separator cs)
        | cons first others => simp [hc]

/-! ### Characters of a class -/

section Classes

variable {p : Char → Bool} {body rest : List Char}

/-- The characters of a class end where one that is not in it is next. -/
theorem dropWhile_append_of_boundary (hbody : ∀ c ∈ body, p c = true)
    (hrest : ∀ c ∈ rest.head?, p c = false) : (body ++ rest).dropWhile p = rest := by
  rw [List.dropWhile_append_of_pos hbody]
  cases rest with
  | nil => rfl
  | cons c cs => rw [List.dropWhile_cons_of_neg (by simp [hrest c rfl])]

theorem takeWhile_append_of_boundary (hbody : ∀ c ∈ body, p c = true)
    (hrest : ∀ c ∈ rest.head?, p c = false) : (body ++ rest).takeWhile p = body := by
  rw [List.takeWhile_append_of_pos hbody]
  cases rest with
  | nil => simp
  | cons c cs => simp [hrest c rfl]

end Classes

/-! ### Blanks around a text -/

/-- A text is what is left of it, with blanks around. -/
theorem exists_trim (cs : List Char) :
    ∃ before after, cs = before ++ trim cs ++ after
      ∧ (∀ c ∈ before, isBlank c = true) ∧ ∀ c ∈ after, isBlank c = true := by
  refine ⟨cs.takeWhile isBlank, ((cs.dropWhile isBlank).reverse.takeWhile isBlank).reverse, ?_,
    fun c hc => List.mem_takeWhile_imp hc, fun c hc => ?_⟩
  · rw [trim, List.append_assoc, ← List.reverse_append, List.takeWhile_append_dropWhile,
      List.reverse_reverse, List.takeWhile_append_dropWhile]
  · exact List.mem_takeWhile_imp (List.mem_reverse.mp hc)

/-- Nothing else than the blanks around a text is removed. -/
theorem trim_append {before cs after : List Char} (hbefore : ∀ c ∈ before, isBlank c = true)
    (hcs : ∀ c ∈ cs, isBlank c = false) (hafter : ∀ c ∈ after, isBlank c = true) :
    trim (before ++ cs ++ after) = cs := by
  rw [trim, List.append_assoc, List.dropWhile_append_of_pos hbefore]
  cases cs with
  | nil =>
      rw [List.nil_append, List.dropWhile_eq_nil_iff.mpr hafter]
      rfl
  | cons c cs =>
      have hc : ¬ isBlank c = true := by simp [hcs c List.mem_cons_self]
      have hend : ((c :: cs) ++ after).reverse.dropWhile isBlank = (c :: cs).reverse := by
        rw [List.reverse_append]
        refine dropWhile_append_of_boundary (fun d hd => hafter d (List.mem_reverse.mp hd)) ?_
        exact fun d hd => hcs d (List.mem_reverse.mp (List.mem_of_mem_head? hd))
      rw [List.cons_append, List.dropWhile_cons_of_neg hc, ← List.cons_append, hend,
        List.reverse_reverse]

theorem take_length_rdropWhile (p : Char → Bool) (cs : List Char) :
    cs.take (cs.rdropWhile p).length = cs.rdropWhile p :=
  (List.prefix_iff_eq_take.mp (List.rdropWhile_prefix p cs)).symm

theorem drop_length_rdropWhile (p : Char → Bool) (cs : List Char) :
    cs.drop (cs.rdropWhile p).length = cs.rtakeWhile p := by
  calc cs.drop (cs.rdropWhile p).length
      = (cs.rdropWhile p ++ cs.rtakeWhile p).drop (cs.rdropWhile p).length := by
        rw [List.rdropWhile_append_rtakeWhile]
    _ = cs.rtakeWhile p := List.drop_left

/-- Blanks at the end are removed from behind a character, and it goes only if it is one of them. -/
theorem rdropWhile_cons (p : Char → Bool) (c : Char) (cs : List Char) :
    (c :: cs).rdropWhile p = if (c :: cs).all p then [] else c :: cs.rdropWhile p := by
  by_cases hcs : ∀ d ∈ cs, p d = true
  · have hnil : cs.reverse.dropWhile p = [] := by simpa [List.dropWhile_eq_nil_iff] using hcs
    have hall : (c :: cs).all p = p c := by simpa using fun _ => hcs
    by_cases hc : p c = true <;>
      simp [List.rdropWhile, List.dropWhile_append, hnil, hall, hc]
  · have hne : cs.reverse.dropWhile p ≠ [] := by
      simpa [List.dropWhile_eq_nil_iff] using hcs
    simp [List.rdropWhile, List.dropWhile_append, hne, hcs]

/-- What is left of a text is left of it when only the blanks at its end are removed. -/
theorem trim_subset_rdropWhile (cs : List Char) : trim cs ⊆ cs.rdropWhile isBlank := by
  induction cs with
  | nil => exact List.Subset.refl _
  | cons c cs ih =>
      by_cases hc : isBlank c = true
      · have htrim : trim (c :: cs) = trim cs := by
          rw [trim, List.dropWhile_cons_of_pos hc, trim]
        rw [htrim, rdropWhile_cons]
        by_cases hall : (c :: cs).all isBlank = true
        · have hcs : cs.dropWhile isBlank = [] := by
            simp only [List.all_cons, Bool.and_eq_true, List.all_eq_true] at hall
            exact List.dropWhile_eq_nil_iff.mpr hall.2
          simp [trim, hcs]
        · rw [if_neg hall]
          exact List.subset_cons_of_subset c ih
      · rw [trim, List.dropWhile_cons_of_neg hc]
        exact List.Subset.refl _

end DeviceGen.Text
