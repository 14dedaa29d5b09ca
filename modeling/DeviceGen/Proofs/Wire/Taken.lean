/-
The bytes that a reader has taken.

`Reads` starts from bytes and says what a reader answers to them.  `Takes` is the way
back: whenever a reader has answered, it has taken some bytes from the front, they have
a certain form, and it answers the same to them whatever follows.  The last part is not
obvious, because readers of lengths look at all unread bytes; it is what allows bytes to
be put together, or new ones to be put in between, without reading anything again.

A loop has no such form as long as fuel is in the way.  `Turns` is the loop without
fuel: a turn that answers something takes at least one byte, so the fuel that the loop
is given is never used up (`collect_eq_ok_iff`), and what a loop over things has taken
is a row of things.
-/
import DeviceGen.Proofs.Wire.Reads

namespace DeviceGen.Wire

@[simp] theorem Input.ofBytes_bytes (input : Input) : Input.ofBytes input.bytes = input :=
  Input.ext rfl

@[simp] theorem Input.bytes_ofBytes (bytes : List UInt8) : (Input.ofBytes bytes).bytes = bytes :=
  rfl

namespace Reader

variable {α β : Type}

/-- Every answer comes from bytes of a form at the front of the input, and is the answer to
these bytes whatever follows them. -/
def Takes (r : Reader α) (form : List UInt8 → α → Prop) : Prop :=
  ∀ ⦃input rest : Input⦄ ⦃a : α⦄, r input = .ok (a, rest) →
    ∃ taken, input.bytes = taken ++ rest.bytes ∧ form taken a ∧ Reads r taken a

/-- A reader that understands two beginnings of the same bytes finds the same in both. -/
theorem Reads.unique {r : Reader α} {xs ys s t : List UInt8} {a b : α} (hx : Reads r xs a)
    (hy : Reads r ys b) (h : xs ++ s = ys ++ t) : xs = ys ∧ a = b ∧ s = t := by
  have hrun := hx s
  rw [h, hy t] at hrun
  cases hrun
  exact ⟨List.append_cancel_right h, rfl, rfl⟩

/-- What comes after a part that was understood is understood by the reader that follows. -/
theorem Reads.of_bind {r : Reader α} {f : α → Reader β} {xs ys : List UInt8} {a : α} {b : β}
    (hr : Reads r xs a) (h : Reads (r >>= f) (xs ++ ys) b) : Reads (f a) ys b := by
  intro rest
  have hrun := h rest
  rwa [List.append_assoc, bind_ok (hr (ys ++ rest))] at hrun

namespace Takes

variable {r : Reader α} {P Q : List UInt8 → α → Prop}

theorem mono (h : Takes r P) (himp : ∀ bytes a, P bytes a → Q bytes a) : Takes r Q := by
  intro input rest a hr
  obtain ⟨taken, hbytes, hP, hreads⟩ := h hr
  exact ⟨taken, hbytes, himp taken a hP, hreads⟩

theorem pure (a : α) : Takes (Pure.pure a : Reader α) fun bytes b => bytes = [] ∧ b = a := by
  intro input rest b h
  cases h
  exact ⟨[], rfl, ⟨rfl, rfl⟩, fun _ => rfl⟩

theorem fail (cause : Cause) : Takes (Reader.fail cause : Reader α) P := by
  intro input rest a h
  cases h

/-- What two readers take one after the other. -/
theorem bind {f : α → Reader β} {R : α → List UInt8 → β → Prop} (hr : Takes r P)
    (hf : ∀ a, Takes (f a) (R a)) :
    Takes (r >>= f) fun bytes b => ∃ xs ys a, bytes = xs ++ ys ∧ P xs a ∧ R a ys b := by
  intro input rest b h
  obtain ⟨a, middle, ha, hb⟩ := of_bind_ok h
  obtain ⟨xs, hxs, hP, hreads⟩ := hr ha
  obtain ⟨ys, hys, hR, hreads'⟩ := hf a hb
  refine ⟨xs ++ ys, ?_, ⟨xs, ys, a, rfl, hP, hR⟩, hreads.bind hreads'⟩
  rw [hxs, hys, List.append_assoc]

/-- An answer that is only changed afterwards comes from the same bytes. -/
theorem bind_pure (hr : Takes r P) (f : α → β) :
    Takes (r >>= fun a => Pure.pure (f a)) fun bytes b => ∃ a, P bytes a ∧ b = f a := by
  refine (hr.bind fun a => Takes.pure (f a)).mono ?_
  rintro bytes b ⟨xs, ys, a, rfl, hP, rfl, rfl⟩
  exact ⟨a, by rwa [List.append_nil], rfl⟩

theorem inside (h : Takes r P) (place : Place) : Takes (Reader.inside place r) P := by
  intro input rest a hr
  obtain ⟨taken, hbytes, hP, hreads⟩ := h (of_inside_ok hr)
  exact ⟨taken, hbytes, hP, hreads.inside place⟩

/-- Bytes that are taken as a whole have the form of what is taken. -/
theorem form_of_run (h : Takes r P) {bytes : List UInt8} {a : α}
    (hrun : r (Input.ofBytes bytes) = .ok (a, Input.ofBytes [])) : P bytes a := by
  obtain ⟨taken, htaken, hP, -⟩ := h hrun
  rw [Input.bytes_ofBytes, Input.bytes_ofBytes, List.append_nil] at htaken
  rwa [htaken]

/-- What a reader understands has the form of what it takes. -/
theorem form_of_reads (h : Takes r P) {bytes : List UInt8} {a : α} (hreads : Reads r bytes a) :
    P bytes a := by
  have hrun := hreads []
  rw [List.append_nil] at hrun
  exact h.form_of_run hrun

end Takes

theorem takes_take (n : Nat) : Takes (take n) fun bytes a => bytes = a ∧ bytes.length = n := by
  intro input rest a h
  unfold take Input.take? at h
  by_cases hn : n ≤ input.size
  · rw [if_pos hn] at h
    cases h
    have hlen : (input.bytes.take n).length = n := by
      rw [List.length_take, ← input.size_eq]
      omega
    have hreads := reads_take (input.bytes.take n)
    rw [hlen] at hreads
    exact ⟨input.bytes.take n, (List.take_append_drop n input.bytes).symm, ⟨rfl, hlen⟩, hreads⟩
  · rw [if_neg hn] at h
    cases h

/-! ### Loops without fuel -/

/-- A step that is taken again and again answers `as` and then nothing more. -/
inductive Turns (step : Reader (Option α)) : Input → List α → Input → Prop where
  | stop {input rest : Input} (last : step input = .ok (none, rest)) : Turns step input [] rest
  | turn {input middle rest : Input} {a : α} {as : List α}
      (first : step input = .ok (some a, middle)) (others : Turns step middle as rest) :
      Turns step input (a :: as) rest

/-- Every answer of a step takes at least one byte. -/
def Shrinks (step : Reader (Option α)) : Prop :=
  ∀ ⦃input rest : Input⦄ ⦃a : α⦄, step input = .ok (some a, rest) → rest.size < input.size

variable {step : Reader (Option α)}

private theorem turns_of_collectWithin (hshrinks : Shrinks step) :
    ∀ (fuel : Nat) {input rest : Input} {as : List α}, input.size < fuel →
      collectWithin step fuel input = .ok (as, rest) → Turns step input as rest := by
  intro fuel
  induction fuel with
  | zero =>
      intro input rest as hsize
      exact absurd hsize (Nat.not_lt_zero _)
  | succ fuel ih =>
      intro input rest as hsize h
      rw [collectWithin] at h
      obtain ⟨answer, middle, hstep, h⟩ := of_bind_ok h
      cases answer with
      | none =>
          cases h
          exact .stop hstep
      | some a =>
          obtain ⟨bs, last, hbs, h⟩ := of_bind_ok h
          cases h
          have := hshrinks hstep
          exact .turn hstep (ih (by omega) hbs)

private theorem collectWithin_of_turns (hshrinks : Shrinks step) {input rest : Input}
    {as : List α} (h : Turns step input as rest) :
    ∀ fuel, input.size < fuel → collectWithin step fuel input = .ok (as, rest) := by
  induction h with
  | stop last =>
      intro fuel hsize
      obtain ⟨fuel, rfl⟩ : ∃ n, fuel = n + 1 := ⟨fuel - 1, by omega⟩
      exact collectWithin_none last
  | turn first others ih =>
      intro fuel hsize
      obtain ⟨fuel, rfl⟩ : ∃ n, fuel = n + 1 := ⟨fuel - 1, by omega⟩
      have := hshrinks first
      rw [collectWithin_some first, bind_ok (ih fuel (by omega))]
      rfl

/-- **The fuel of a loop is never used up.** -/
theorem collect_eq_ok_iff (hshrinks : Shrinks step) {input rest : Input} {as : List α} :
    collect step input = .ok (as, rest) ↔ Turns step input as rest :=
  ⟨turns_of_collectWithin hshrinks _ (Nat.lt_succ_self _),
    fun h => collectWithin_of_turns hshrinks h _ (Nat.lt_succ_self _)⟩

/-- A reader that takes bytes leaves fewer unread. -/
theorem Takes.size_lt {r : Reader α} {P : List UInt8 → α → Prop} (hr : Takes r P)
    (hne : ∀ bytes a, P bytes a → bytes ≠ []) {input rest : Input} {a : α}
    (h : r input = .ok (a, rest)) : rest.size < input.size := by
  obtain ⟨taken, hbytes, hP, -⟩ := hr h
  have hpos := List.length_pos_iff.mpr (hne taken a hP)
  rw [input.size_eq, rest.size_eq, hbytes, List.length_append]
  omega

private theorem turns_of_row {bytes : List UInt8} {as : List α} {last : List UInt8}
    (hlast : Reads step last none) (rest : List UInt8) (hrow : Row step bytes (as.map some)) :
    Turns step (Input.ofBytes (bytes ++ (last ++ rest))) as (Input.ofBytes rest) := by
  induction as generalizing bytes with
  | nil =>
      cases hrow
      exact .stop (hlast rest)
  | cons a as ih =>
      cases hrow with
      | @cons bytes more _ _ first nonempty others =>
          rw [List.append_assoc]
          exact .turn (first _) (ih others)

/-- A loop understands a row of answers and what its last turn answers none to. -/
theorem Row.reads_collect (hshrinks : Shrinks step) {bytes last : List UInt8} {as : List α}
    (hrow : Row step bytes (as.map some)) (hlast : Reads step last none) :
    Reads (collect step) (bytes ++ last) as := by
  intro rest
  rw [List.append_assoc]
  exact (collect_eq_ok_iff hshrinks).mpr (turns_of_row hlast rest hrow)

/-- A loop takes the bytes of its answers and of the last turn, which answers none. -/
theorem Takes.collect {P : List UInt8 → Option α → Prop} (hstep : Takes step P)
    (hne : ∀ bytes answer, P bytes answer → bytes ≠ []) :
    Takes (Reader.collect step) fun bytes _ => ∃ parts last,
      bytes = List.flatten parts ++ last ∧ (∀ part ∈ parts, ∃ a, P part (some a))
        ∧ P last none := by
  have hshrinks : Shrinks step := fun _ _ _ h => hstep.size_lt hne h
  have hturns : ∀ {input rest : Input} {as : List α}, Turns step input as rest →
      ∃ parts last, input.bytes = List.flatten parts ++ (last ++ rest.bytes)
        ∧ (∀ part ∈ parts, ∃ a, P part (some a)) ∧ P last none
        ∧ Row step parts.flatten (as.map some) ∧ Reads step last none := by
    intro input rest as h
    induction h with
    | stop last =>
        obtain ⟨taken, htaken, hP, hreads⟩ := hstep last
        exact ⟨[], taken, htaken, by simp, hP, Row.nil, hreads⟩
    | @turn _ _ _ a _ first others ih =>
        obtain ⟨taken, htaken, hP, hreads⟩ := hstep first
        obtain ⟨parts, last, hbytes, hparts, hlast, hrow, hend⟩ := ih
        refine ⟨taken :: parts, last, ?_, ?_, hlast, Row.cons hreads (hne _ _ hP) hrow, hend⟩
        · rw [htaken, hbytes, List.flatten_cons, List.append_assoc]
        · intro part hpart
          rcases List.mem_cons.mp hpart with rfl | hpart
          · exact ⟨a, hP⟩
          · exact hparts part hpart
  intro input rest as h
  obtain ⟨parts, last, hbytes, hparts, hlast, hrow, hend⟩ :=
    hturns ((collect_eq_ok_iff hshrinks).mp h)
  refine ⟨parts.flatten ++ last, ?_, ⟨parts, last, rfl, hparts, hlast⟩,
    hrow.reads_collect hshrinks hend⟩
  rw [hbytes, List.append_assoc]

/-! ### What loops over things have taken -/

variable {thing : Reader α} {P : List UInt8 → α → Prop}

theorem of_turn_some {mark : Nat} {input rest : Input} {a : α}
    (h : turn mark thing input = .ok (some a, rest)) :
    thing input = .ok (a, rest) := by
  obtain ⟨size, middle, hsize, h⟩ := of_bind_ok h
  cases hsize
  split at h
  · cases h
  · obtain ⟨b, last, hthing, h⟩ := of_bind_ok h
    cases h
    exact hthing

theorem of_turn_none {mark : Nat} {input rest : Input}
    (h : turn mark thing input = .ok (none, rest)) : input = rest ∧ rest.size ≤ mark := by
  obtain ⟨size, middle, hsize, h⟩ := of_bind_ok h
  cases hsize
  split at h
  · rename_i hle
    cases h
    exact ⟨rfl, hle⟩
  · obtain ⟨b, last, -, h⟩ := of_bind_ok h
    cases h

private theorem row_of_turns {mark : Nat} (hthing : Takes thing P)
    (hne : ∀ bytes a, P bytes a → bytes ≠ []) {input rest : Input} {as : List α}
    (h : Turns (turn mark thing) input as rest) :
    rest.size ≤ mark ∧ ∃ taken, input.bytes = taken ++ rest.bytes ∧ Row thing taken as := by
  induction h with
  | stop last =>
      obtain ⟨rfl, hle⟩ := of_turn_none last
      exact ⟨hle, [], rfl, Row.nil⟩
  | turn first others ih =>
      obtain ⟨hle, more, hmore, hrow⟩ := ih
      obtain ⟨taken, htaken, hP, hreads⟩ := hthing (of_turn_some first)
      refine ⟨hle, taken ++ more, ?_, Row.cons hreads (hne _ _ hP) hrow⟩
      rw [htaken, hmore, List.append_assoc]

/-- A loop over things stops behind the mark or at it, and has taken a row. -/
theorem row_of_downTo {mark : Nat} (hthing : Takes thing P)
    (hne : ∀ bytes a, P bytes a → bytes ≠ []) {input rest : Input} {as : List α}
    (h : downTo mark thing input = .ok (as, rest)) :
    rest.size ≤ mark ∧ ∃ taken, input.bytes = taken ++ rest.bytes ∧ Row thing taken as := by
  rw [downTo_eq] at h
  have hshrinks : Shrinks (turn mark thing) :=
    fun _ _ _ hturn => hthing.size_lt hne (of_turn_some hturn)
  exact row_of_turns hthing hne ((collect_eq_ok_iff hshrinks).mp h)

/-- **Bytes are read to their end iff they are a row of things.** -/
theorem toEnd_eq_ok_iff (hthing : Takes thing P) (hne : ∀ bytes a, P bytes a → bytes ≠ [])
    {bytes : List UInt8} {as : List α} {rest : Input} :
    toEnd thing (Input.ofBytes bytes) = .ok (as, rest)
      ↔ Row thing bytes as ∧ rest = Input.ofBytes [] := by
  constructor
  · intro h
    obtain ⟨hle, taken, htaken, hrow⟩ := row_of_downTo hthing hne h
    have hnil : rest.bytes = [] := by
      rw [rest.size_eq] at hle
      exact List.length_eq_zero_iff.mp (Nat.le_zero.mp hle)
    rw [hnil, List.append_nil] at htaken
    rw [Input.bytes_ofBytes] at htaken
    exact ⟨htaken ▸ hrow, Input.ext hnil⟩
  · rintro ⟨hrow, rfl⟩
    exact hrow.toEnd

end Reader

end DeviceGen.Wire
