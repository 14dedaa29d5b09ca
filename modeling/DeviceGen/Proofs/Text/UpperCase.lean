/-
What upper case makes of a name.

Upper case writes the capitals of all characters, and of its own it adds nothing but underscores:
one in front of each capital letter at which a new word begins.  No word begins with the first
character, or right behind an underscore.  So an underscore that is added never stands next to
another one, and without the underscores nothing is left to tell the result from plain capitals.

Capitals are looked up in tables, and a letter may have a capital of several characters.  What the
argument needs of the tables is that they have no empty capitals, and no underscore in one.
-/
import DeviceGen.Proofs.Text.Words
import Mathlib.Data.List.Chain

namespace DeviceGen.Text

/-! ### Capitals -/

namespace Letter

theorem mem_expansions_of_lookup {n : Nat} {codes : List Nat}
    (h : expansions.lookup n = some codes) : (n, codes) ∈ expansions := by
  obtain ⟨before, after, hsplit, -⟩ := List.lookup_eq_some_iff.mp h
  rw [hsplit]
  exact List.mem_append_right before List.mem_cons_self

theorem expansions_proper :
    ∀ e ∈ expansions, e.2 ≠ [] ∧ '_' ∉ e.2.map Char.ofNat := by decide +kernel

/-- No letter of the table is shifted to an underscore, which is 95. -/
theorem shifts_proper : ∀ s ∈ shifts,
    s.letters.last + s.distance < 95 ∨ 95 < s.letters.first + s.distance := by decide +kernel

theorem ofNat_eq_underscore {n : Nat} (h : Char.ofNat n = '_') : n = 95 := by
  by_cases hvalid : n.isValidChar
  · rw [Char.ofNat, dif_pos hvalid] at h
    exact congrArg Char.toNat h
  · rw [Char.ofNat, dif_neg hvalid] at h
    exact absurd h (by decide)

theorem capital_ne_nil (c : Char) : capital c ≠ [] := by
  unfold capital
  split
  · exact List.cons_ne_nil _ _
  · split
    · next codes hcodes =>
        have hproper := expansions_proper _ (mem_expansions_of_lookup hcodes)
        exact mt List.map_eq_nil_iff.mp hproper.1
    · split <;> exact List.cons_ne_nil _ _

/-- Only an underscore has an underscore as its capital, or in it. -/
theorem eq_underscore_of_mem_capital {c : Char} (h : '_' ∈ capital c) : c = '_' := by
  unfold capital at h
  split at h
  · next hlow =>
      have hc := forall_of_lt (P := fun c => c.toUpper = '_' → c = '_') (by decide) hlow
      exact hc (List.mem_singleton.mp h).symm
  · split at h
    · next codes hcodes =>
        exact absurd h (expansions_proper _ (mem_expansions_of_lookup hcodes)).2
    · split at h
      · next shift hshift =>
          have hproper := shifts_proper shift (List.mem_of_find?_eq_some hshift)
          have hletter := List.find?_some hshift
          simp only [Progression.contains, Bool.and_eq_true, decide_eq_true_eq] at hletter
          have hcode := ofNat_eq_underscore (List.mem_singleton.mp h).symm
          omega
      · exact (List.mem_singleton.mp h).symm

theorem capital_underscore : capital '_' = ['_'] := by decide

theorem eq_underscore_iff_of_mem_capital {c d : Char} (h : d ∈ capital c) : d = '_' ↔ c = '_' := by
  constructor
  · rintro rfl
    exact eq_underscore_of_mem_capital h
  · rintro rfl
    rwa [capital_underscore, List.mem_singleton] at h

end Letter

/-! ### Where words begin -/

theorem beginsWord_iff {previous c : Char} {rest : List Char} :
    beginsWord previous c rest = true ↔ Letter.isUpper c = true ∧ previous ≠ '_'
      ∧ (Letter.isUpper previous = true →
          ∃ next, rest.head? = some next ∧ Letter.isLower next = true) := by
  have hunderscore : Letter.isUpper '_' = false := by decide
  unfold beginsWord
  by_cases hprevious : Letter.isUpper previous = true
  · have hne : previous ≠ '_' := by
      rintro rfl
      rw [hunderscore] at hprevious
      cases hprevious
    simp [hprevious, hne, Option.any_eq_true]
  · simp [hprevious]

/-- A new word begins at a position: a capital letter stands there, and in front of it anything but
an underscore; but if that is a capital letter too, then a lowercase letter has to follow. -/
inductive WordBeginsAt (cs : List Char) : Nat → Prop where
  | mk {i : Nat} {previous c : Char} (behind : cs[i]? = some previous) (here : cs[i + 1]? = some c)
      (upper : Letter.isUpper c = true) (separate : previous ≠ '_')
      (last : Letter.isUpper previous = true →
        ∃ next, cs[i + 2]? = some next ∧ Letter.isLower next = true) :
      WordBeginsAt cs (i + 1)

/-- For each character whether an underscore is put in front of it, given the one before. -/
def gapsAfter (previous : Char) : List Char → List Bool
  | [] => []
  | c :: rest => beginsWord previous c rest :: gapsAfter c rest

/-- The capital of a character, behind an underscore or not. -/
def gapped (gap : Bool) (c : Char) : List Char := (if gap then ['_'] else []) ++ Letter.capital c

theorem length_gapsAfter (previous : Char) (cs : List Char) :
    (gapsAfter previous cs).length = cs.length := by
  induction cs generalizing previous with
  | nil => rfl
  | cons c cs ih => rw [gapsAfter, List.length_cons, List.length_cons, ih]

theorem upperSnakeAfter_eq_flatten (previous : Char) (cs : List Char) :
    upperSnakeAfter previous cs = (List.zipWith gapped (gapsAfter previous cs) cs).flatten := by
  induction cs generalizing previous with
  | nil => rfl
  | cons c cs ih => rw [upperSnakeAfter, gapsAfter, List.zipWith_cons_cons, List.flatten_cons, ih,
      gapped]

theorem getElem?_gapsAfter {previous : Char} {cs : List Char} {i : Nat} :
    (gapsAfter previous cs)[i]? = some true
      ↔ ∃ p c, (previous :: cs)[i]? = some p ∧ cs[i]? = some c
        ∧ beginsWord p c (cs.drop (i + 1)) = true := by
  induction cs generalizing previous i with
  | nil => simp [gapsAfter]
  | cons c cs ih =>
      cases i with
      | zero => simp [gapsAfter]
      | succ i =>
          rw [gapsAfter, List.getElem?_cons_succ, ih]
          rfl

/-- The gaps are where words begin. -/
theorem getElem?_gapsAfter_underscore {cs : List Char} {i : Nat} :
    (gapsAfter '_' cs)[i]? = some true ↔ WordBeginsAt cs i := by
  rw [getElem?_gapsAfter]
  constructor
  · rintro ⟨p, c, hp, hc, hbegins⟩
    obtain ⟨hupper, hseparate, hlast⟩ := beginsWord_iff.mp hbegins
    cases i with
    | zero => exact absurd (Option.some.inj hp).symm hseparate
    | succ i =>
        rw [List.head?_drop] at hlast
        exact .mk hp hc hupper hseparate hlast
  · rintro ⟨hp, hc, hupper, hseparate, hlast⟩
    refine ⟨_, _, hp, hc, beginsWord_iff.mpr ⟨hupper, hseparate, ?_⟩⟩
    rwa [List.head?_drop]

/-! ### Underscores next to each other -/

/-- At most one of two characters is an underscore. -/
def NotBoth (c d : Char) : Prop := ¬ (c = '_' ∧ d = '_')

theorem isChain_notBoth_iff {cs : List Char} : cs.IsChain NotBoth ↔ ¬ ['_', '_'] <:+: cs := by
  rw [List.isChain_iff_forall_rel_of_append_cons_cons]
  constructor
  · rintro h ⟨before, after, hcs⟩
    have hsplit : cs = before ++ '_' :: '_' :: after := by
      rw [← hcs, List.append_assoc]
      rfl
    exact h hsplit ⟨rfl, rfl⟩
  · rintro h _ _ before after hcs ⟨rfl, rfl⟩
    refine h ⟨before, after, ?_⟩
    rw [hcs, List.append_assoc]
    rfl

theorem isChain_capital (c : Char) : (Letter.capital c).IsChain NotBoth := by
  by_cases hc : c = '_'
  · rw [hc, Letter.capital_underscore]
    exact List.isChain_singleton '_'
  · rw [isChain_notBoth_iff]
    intro h
    exact hc (Letter.eq_underscore_of_mem_capital (h.subset List.mem_cons_self))

/-- In front of other characters a capital is like the character itself. -/
theorem isChain_capital_append_iff {c : Char} {cs : List Char} :
    (Letter.capital c ++ cs).IsChain NotBoth ↔ (c :: cs).IsChain NotBoth := by
  have hlast (d : Char) : (∀ x ∈ (Letter.capital c).getLast?, NotBoth x d) ↔ NotBoth c d := by
    rw [List.getLast?_eq_some_getLast (Letter.capital_ne_nil c)]
    simp [NotBoth, Letter.eq_underscore_iff_of_mem_capital (List.getLast_mem _)]
  rw [List.isChain_append, List.isChain_cons]
  constructor
  · rintro ⟨-, hcs, h⟩
    exact ⟨fun d hd => (hlast d).mp fun x hx => h x hx d hd, hcs⟩
  · rintro ⟨h, hcs⟩
    exact ⟨isChain_capital c, hcs, fun x hx d hd => (hlast d).mpr (h d hd) x hx⟩

/-- And so it is behind another character. -/
theorem notBoth_head?_capital_iff {previous c : Char} {cs : List Char} :
    (∀ d ∈ (Letter.capital c ++ cs).head?, NotBoth previous d) ↔ NotBoth previous c := by
  rw [List.head?_append_of_ne_nil _ (Letter.capital_ne_nil c),
    List.head?_eq_some_head (Letter.capital_ne_nil c)]
  simp [NotBoth, Letter.eq_underscore_iff_of_mem_capital (List.head_mem _)]

/-- Upper case has underscores next to each other iff the name has. -/
theorem isChain_upperSnakeAfter_iff (previous : Char) (cs : List Char) :
    (Letter.capital previous ++ upperSnakeAfter previous cs).IsChain NotBoth
      ↔ (previous :: cs).IsChain NotBoth := by
  induction cs generalizing previous with
  | nil => exact isChain_capital_append_iff
  | cons c cs ih =>
      rw [isChain_capital_append_iff, upperSnakeAfter, List.append_assoc]
      by_cases hbegins : beginsWord previous c cs = true
      · obtain ⟨hupper, hseparate, -⟩ := beginsWord_iff.mp hbegins
        have hc : c ≠ '_' := by
          rintro rfl
          exact absurd hupper (by decide)
        rw [if_pos hbegins, List.singleton_append, List.isChain_cons_cons, List.isChain_cons,
          notBoth_head?_capital_iff, ih, List.isChain_cons_cons]
        simp [NotBoth, hseparate, hc]
      · rw [if_neg hbegins, List.nil_append, List.isChain_cons, notBoth_head?_capital_iff, ih,
          List.isChain_cons_cons]

theorem infix_upperSnakeChars_iff (cs : List Char) :
    ['_', '_'] <:+: upperSnakeChars cs ↔ ['_', '_'] <:+: cs := by
  cases cs with
  | nil => rfl
  | cons c cs =>
      have h := isChain_upperSnakeAfter_iff c cs
      rw [isChain_notBoth_iff, isChain_notBoth_iff] at h
      exact not_iff_not.mp h

theorem head?_upperSnakeChars_iff (cs : List Char) :
    (upperSnakeChars cs).head? = some '_' ↔ cs.head? = some '_' := by
  cases cs with
  | nil => rfl
  | cons c cs =>
      rw [upperSnakeChars, List.head?_append_of_ne_nil _ (Letter.capital_ne_nil c),
        List.head?_eq_some_head (Letter.capital_ne_nil c), List.head?_cons, Option.some.injEq,
        Option.some.injEq, Letter.eq_underscore_iff_of_mem_capital (List.head_mem _)]

/-- Without underscores, upper case is nothing but capitals. -/
theorem filter_upperSnakeAfter (previous : Char) (cs : List Char) :
    (upperSnakeAfter previous cs).filter (· ≠ '_')
      = (cs.flatMap Letter.capital).filter (· ≠ '_') := by
  induction cs generalizing previous with
  | nil => rfl
  | cons c cs ih =>
      have hgap : (if beginsWord previous c cs then ['_'] else []).filter (· ≠ '_') = [] := by
        split <;> rfl
      rw [upperSnakeAfter, List.filter_append, List.filter_append, hgap, List.nil_append, ih,
        List.flatMap_cons, List.filter_append]

/-- **Upper case only adds underscores.**  It consists of the capitals of all characters, and of one
underscore in front of each capital letter at which a new word begins.  So there are underscores
next to each other, or in front, iff the name has them there already; and without underscores the
result is the same as the capitals alone. -/
theorem upperSnake_only_separates (name : String) :
    (∃ gaps : List Bool, gaps.length = name.toList.length
      ∧ (∀ i, gaps[i]? = some true ↔ WordBeginsAt name.toList i)
      ∧ (upperSnake name).toList = (List.zipWith gapped gaps name.toList).flatten)
    ∧ (['_', '_'] <:+: (upperSnake name).toList ↔ ['_', '_'] <:+: name.toList)
    ∧ ((upperSnake name).toList.head? = some '_' ↔ name.toList.head? = some '_')
    ∧ (upperSnake name).toList.filter (· ≠ '_')
      = (name.toList.flatMap Letter.capital).filter (· ≠ '_') := by
  have hchars : (upperSnake name).toList = upperSnakeChars name.toList := String.toList_ofList
  rw [hchars]
  refine ⟨⟨gapsAfter '_' name.toList, length_gapsAfter _ _,
    fun _ => getElem?_gapsAfter_underscore, ?_⟩, infix_upperSnakeChars_iff _,
    head?_upperSnakeChars_iff _, ?_⟩
  · rw [upperSnakeChars_eq, upperSnakeAfter_eq_flatten]
  · rw [upperSnakeChars_eq, filter_upperSnakeAfter]

-- words begin in front of the `T`s, but not of `_C`; the sharp s has a capital of two characters
example : upperSnake "ADCTlm" = "ADC_TLM" ∧ upperSnake "Pump_CtlßT" = "PUMP_CTLSS_T" := by
  decide +kernel

end DeviceGen.Text
