/-
Runs that stop at the first fault.

Every loop of a generator stops at the first thing that is wrong.  `Reports` says this of
a result and a list of things to look at: the result is an error iff one of the things
is faulty, and then it is the error of the first one.  The statement composes the way
runs do.  One run after another looks at the things of both, in order, so the law of
nested loops is put together from the law of what is innermost.
-/
import DeviceGen.Traced

namespace DeviceGen

variable {α β γ δ : Type}

/-- A result that passes a test is there. -/
theorem exists_ok_of_any {x : Except Error α} {test : α → Bool} (h : x.toOption.any test = true) :
    ∃ a, x = .ok a ∧ test a = true := by
  cases x with
  | error e => cases h
  | ok a => exact ⟨a, rfl, h⟩

/-- The first member of a list with a property. -/
def IsFirst (P : α → Prop) (l : List α) (a : α) : Prop :=
  ∃ before after, l = before ++ a :: after ∧ P a ∧ ∀ b ∈ before, ¬ P b

namespace IsFirst

variable {P : α → Prop} {l m : List α} {a b : α}

theorem not_forall (h : IsFirst P l a) : ¬ ∀ b ∈ l, ¬ P b := by
  obtain ⟨before, after, rfl, ha, -⟩ := h
  intro hnone
  exact hnone a (by simp) ha

theorem append_left (h : IsFirst P l a) (m : List α) : IsFirst P (l ++ m) a := by
  obtain ⟨before, after, rfl, ha, hbefore⟩ := h
  exact ⟨before, after ++ m, by simp, ha, hbefore⟩

theorem append_right (hl : ∀ b ∈ l, ¬ P b) (h : IsFirst P m a) : IsFirst P (l ++ m) a := by
  obtain ⟨before, after, rfl, ha, hbefore⟩ := h
  refine ⟨l ++ before, after, by simp, ha, ?_⟩
  intro b hb
  rcases List.mem_append.mp hb with hb | hb
  · exact hl b hb
  · exact hbefore b hb

/-- There is only one first member. -/
theorem unique (ha : IsFirst P l a) (hb : IsFirst P l b) : a = b := by
  obtain ⟨before, after, rfl, hPa, hbefore⟩ := ha
  obtain ⟨before', after', heq, hPb, hbefore'⟩ := hb
  rcases List.append_eq_append_iff.mp heq with ⟨mid, hmid, htail⟩ | ⟨mid, hmid, htail⟩
  · cases mid with
    | nil => exact (List.cons.inj htail).1
    | cons c mid =>
        -- `a` would stand before the first member `b`
        obtain ⟨rfl, -⟩ := List.cons.inj htail
        exact absurd hPa (hbefore' a (by simp [hmid]))
  · cases mid with
    | nil => exact (List.cons.inj htail).1.symm
    | cons c mid =>
        obtain ⟨rfl, -⟩ := List.cons.inj htail
        exact absurd hPb (hbefore b (by simp [hmid]))

end IsFirst

/-- The result is the error of the first faulty thing, and no error if there is none. -/
inductive Reports (P : α → Prop) (fault : α → Error) (l : List α) : Except Error β → Prop where
  | ok {b : β} (none : ∀ a ∈ l, ¬ P a) : Reports P fault l (.ok b)
  | error {a : α} (first : IsFirst P l a) : Reports P fault l (.error (fault a))

namespace Reports

variable {P : α → Prop} {fault : α → Error} {l m : List α}

/-- Nothing to look at, nothing to report. -/
theorem nil (b : β) : Reports P fault [] (.ok b) := .ok (by simp)

theorem append_bind {x : Except Error β} {f : β → Except Error γ} (hx : Reports P fault l x)
    (hf : ∀ b, x = .ok b → Reports P fault m (f b)) : Reports P fault (l ++ m) (x >>= f) := by
  cases hx with
  | error first => exact .error (first.append_left m)
  | @ok b hnone =>
      have hrest := hf b rfl
      show Reports P fault (l ++ m) (f b)
      generalize f b = y at hrest ⊢
      cases hrest with
      | ok hrest =>
          refine .ok fun a ha => ?_
          rcases List.mem_append.mp ha with ha | ha
          · exact hnone a ha
          · exact hrest a ha
      | error first => exact .error (first.append_right hnone)

/-- What comes after cannot fail, so nothing more is looked at. -/
theorem bind_ok {x : Except Error β} {f : β → Except Error γ} (hx : Reports P fault l x)
    (hf : ∀ b, ∃ c, f b = .ok c) : Reports P fault l (x >>= f) := by
  have := hx.append_bind (m := []) (f := f) fun b _ => by
    obtain ⟨c, hc⟩ := hf b
    rw [hc]
    exact nil c
  rwa [List.append_nil] at this

/-- An error is exactly the error of the first fault. -/
theorem error_iff {x : Except Error β} (h : Reports P fault l x) (e : Error) :
    x = .error e ↔ ∃ a, IsFirst P l a ∧ e = fault a := by
  cases h with
  | ok hnone =>
      constructor
      · intro h
        cases h
      · rintro ⟨a, ha, -⟩
        exact absurd hnone ha.not_forall
  | @error a first =>
      constructor
      · intro h
        cases h
        exact ⟨a, first, rfl⟩
      · rintro ⟨b, hb, rfl⟩
        rw [first.unique hb]

theorem ok_iff {x : Except Error β} (h : Reports P fault l x) :
    (∃ b, x = .ok b) ↔ ∀ a ∈ l, ¬ P a := by
  cases h with
  | @ok b hnone => exact ⟨fun _ => hnone, fun _ => ⟨b, rfl⟩⟩
  | error first =>
      constructor
      · rintro ⟨b, hb⟩
        cases hb
      · intro hnone
        exact absurd hnone first.not_forall

/-! Two things can go wrong in turn, each with faults of its own. -/

variable {Q : δ → Prop} {fault' : δ → Error} {l' : List δ}

/-- The first kind of fault goes before the second. -/
theorem bind_error_iff {x : Except Error β} {f : β → Except Error γ} (hx : Reports P fault l x)
    (hf : ∀ b, x = .ok b → Reports Q fault' l' (f b)) (e : Error) :
    x >>= f = .error e ↔ (∃ a, IsFirst P l a ∧ e = fault a)
      ∨ (∀ a ∈ l, ¬ P a) ∧ ∃ d, IsFirst Q l' d ∧ e = fault' d := by
  cases hresult : x with
  | error e' =>
      rw [hresult] at hx
      have hnone : ¬ ∀ a ∈ l, ¬ P a := by
        intro hnone
        obtain ⟨b, hb⟩ := hx.ok_iff.mpr hnone
        cases hb
      have hfirst := hx.error_iff e
      rw [Except.error.injEq] at hfirst
      show (Except.error e' : Except Error γ) = .error e ↔ _
      rw [Except.error.injEq, hfirst]
      exact ⟨Or.inl, fun h => h.resolve_right fun h => hnone h.1⟩
  | ok b =>
      rw [hresult] at hx
      have hnone := hx.ok_iff.mp ⟨b, rfl⟩
      show f b = _ ↔ _
      rw [(hf b hresult).error_iff]
      constructor
      · intro h
        exact Or.inr ⟨hnone, h⟩
      · rintro (⟨a, ha, -⟩ | ⟨-, h⟩)
        · exact absurd hnone ha.not_forall
        · exact h

theorem bind_ok_iff {x : Except Error β} {f : β → Except Error γ} (hx : Reports P fault l x)
    (hf : ∀ b, x = .ok b → Reports Q fault' l' (f b)) :
    (∃ c, x >>= f = .ok c) ↔ (∀ a ∈ l, ¬ P a) ∧ ∀ d ∈ l', ¬ Q d := by
  rw [← hx.ok_iff]
  cases hresult : x with
  | error e =>
      constructor
      · rintro ⟨c, hc⟩
        cases hc
      · rintro ⟨⟨b, hb⟩, -⟩
        cases hb
  | ok b =>
      rw [← (hf b hresult).ok_iff]
      exact ⟨fun h => ⟨⟨b, rfl⟩, h⟩, And.right⟩

end Reports

namespace Traced

@[simp] theorem result_pure (a : α) : (pure a : Traced α).result = .ok a := rfl

@[simp] theorem result_ofExcept (x : Except Error α) : (ofExcept x).result = x := rfl

@[simp] theorem result_log (events : List Event) : (log events).result = .ok () := rfl

@[simp] theorem result_bind (x : Traced α) (f : α → Traced β) :
    (x >>= f).result = x.result >>= fun a => (f a).result := by
  show (andThen x f).result = _
  unfold andThen
  cases x.result <;> rfl

/-- A loop reports the first fault of its first faulty turn. -/
theorem reports_each {P : γ → Prop} {fault : γ → Error} {things : δ → List γ} {g : δ → α}
    {f : α → Traced β} :
    ∀ {l : List δ}, (∀ d ∈ l, Reports P fault (things d) (f (g d)).result) →
      Reports P fault (l.flatMap things) (each f (l.map g)).result
  | [], _ => Reports.nil _
  | d :: l, h => by
      have hrest := reports_each fun d' hd' => h d' (List.mem_cons_of_mem d hd')
      rw [List.flatMap_cons, List.map_cons, each, result_bind]
      refine (h d List.mem_cons_self).append_bind fun b _ => ?_
      rw [result_bind]
      exact hrest.bind_ok fun bs => ⟨b :: bs, rfl⟩

end Traced

end DeviceGen
