/-
What it means that a reader understands bytes.

A reader may look at all unread bytes, and the readers of lengths do.  So that facts
about readers can be put one after the other, they are stated for every possible
continuation: `Reads r bs a` says that `r` takes exactly `bs` from the front and answers
`a`, whatever follows, and `Stops r bs c` that it fails with the cause `c`, whatever
follows.  `Row` and `Breaks` are the same two facts for a thing that is read again and
again, and the loops that read a row are taken apart here and nowhere else.
-/
import DeviceGen.Wire.Delimited

namespace DeviceGen.Wire

namespace Input

@[simp] theorem size_ofBytes (bytes : List UInt8) : (ofBytes bytes).size = bytes.length := rfl

end Input

namespace Reader

variable {α β : Type}

/-! ### Running readers -/

theorem pure_run (a : α) (input : Input) : (pure a : Reader α) input = .ok (a, input) := rfl

theorem bind_ok {r : Reader α} {f : α → Reader β} {input rest : Input} {a : α}
    (h : r input = .ok (a, rest)) : (r >>= f) input = f a rest := by
  show (r input >>= fun p => f p.1 p.2) = f a rest
  rw [h]
  rfl

theorem bind_error {r : Reader α} {f : α → Reader β} {input : Input} {e : Failure}
    (h : r input = .error e) : (r >>= f) input = .error e := by
  show (r input >>= fun p => f p.1 p.2) = .error e
  rw [h]
  rfl

theorem map_ok {r : Reader α} (f : α → β) {input rest : Input} {a : α}
    (h : r input = .ok (a, rest)) : (f <$> r) input = .ok (f a, rest) := by
  rw [map_eq_pure_bind, bind_ok h]
  rfl

theorem map_error {r : Reader α} (f : α → β) {input : Input} {e : Failure}
    (h : r input = .error e) : (f <$> r) input = .error e := by
  rw [map_eq_pure_bind, bind_error h]

/-- A reader that answers after another has answered comes from two answers. -/
theorem of_bind_ok {r : Reader α} {f : α → Reader β} {input rest : Input} {b : β}
    (h : (r >>= f) input = .ok (b, rest)) :
    ∃ a middle, r input = .ok (a, middle) ∧ f a middle = .ok (b, rest) := by
  cases hr : r input with
  | error e =>
      rw [bind_error hr] at h
      cases h
  | ok p =>
      obtain ⟨a, middle⟩ := p
      rw [bind_ok hr] at h
      exact ⟨a, middle, rfl, h⟩

theorem of_map_ok {r : Reader α} {f : α → β} {input rest : Input} {b : β}
    (h : (f <$> r) input = .ok (b, rest)) : ∃ a, r input = .ok (a, rest) ∧ b = f a := by
  cases hr : r input with
  | error e =>
      rw [map_error f hr] at h
      cases h
  | ok p =>
      rw [map_ok f hr] at h
      cases h
      exact ⟨p.1, rfl, rfl⟩

theorem inside_ok {place : Place} {r : Reader α} {input rest : Input} {a : α}
    (h : r input = .ok (a, rest)) : inside place r input = .ok (a, rest) := by
  unfold inside
  rw [h]
  rfl

theorem inside_error {place : Place} {r : Reader α} {input : Input} {e : Failure}
    (h : r input = .error e) : inside place r input = .error (e.inside place) := by
  unfold inside
  rw [h]
  rfl

theorem of_inside_ok {place : Place} {r : Reader α} {input rest : Input} {a : α}
    (h : inside place r input = .ok (a, rest)) : r input = .ok (a, rest) := by
  cases hr : r input with
  | error e =>
      rw [inside_error hr] at h
      cases h
  | ok p =>
      rw [inside_ok hr] at h
      exact h

theorem remaining_run (input : Input) : remaining input = .ok (input.size, input) := rfl

theorem take_run (bytes rest : List UInt8) :
    take bytes.length (Input.ofBytes (bytes ++ rest)) = .ok (bytes, Input.ofBytes rest) := by
  unfold take
  rw [Input.take?_append]

/-! ### Bytes that are understood -/

/-- The reader takes exactly `bytes` from the front, whatever follows, and answers `a`. -/
def Reads (r : Reader α) (bytes : List UInt8) (a : α) : Prop :=
  ∀ rest, r (Input.ofBytes (bytes ++ rest)) = .ok (a, Input.ofBytes rest)

theorem Reads.bind {r : Reader α} {f : α → Reader β} {xs ys : List UInt8} {a : α} {b : β}
    (hr : Reads r xs a) (hf : Reads (f a) ys b) : Reads (r >>= f) (xs ++ ys) b := by
  intro rest
  rw [List.append_assoc, bind_ok (hr (ys ++ rest))]
  exact hf rest

/-- An answer that is only changed afterwards takes the same bytes. -/
theorem Reads.map {r : Reader α} {bytes : List UInt8} {a : α} (h : Reads r bytes a)
    (f : α → β) : Reads (f <$> r) bytes (f a) :=
  fun rest => map_ok f (h rest)

theorem Reads.inside {r : Reader α} {bytes : List UInt8} {a : α} (h : Reads r bytes a)
    (place : Place) : Reads (Reader.inside place r) bytes a :=
  fun rest => inside_ok (h rest)

theorem reads_take (bytes : List UInt8) : Reads (take bytes.length) bytes bytes :=
  fun rest => take_run bytes rest

/-! ### Bytes that are refused -/

/-- The reader fails with `cause` on `bytes`, whatever follows. -/
def Stops (r : Reader α) (bytes : List UInt8) (cause : Cause) : Prop :=
  ∀ rest, ∃ path, r (Input.ofBytes (bytes ++ rest)) = .error ⟨path, cause⟩

theorem stops_fail (cause : Cause) (bytes : List UInt8) :
    Stops (fail cause : Reader α) bytes cause :=
  fun _ => ⟨[], rfl⟩

theorem Stops.bind {r : Reader α} {bytes : List UInt8} {cause : Cause} (h : Stops r bytes cause)
    (f : α → Reader β) : Stops (r >>= f) bytes cause := by
  intro rest
  obtain ⟨path, hpath⟩ := h rest
  exact ⟨path, bind_error hpath⟩

theorem Reads.bind_stops {r : Reader α} {f : α → Reader β} {xs ys : List UInt8} {a : α}
    {cause : Cause} (hr : Reads r xs a) (hf : Stops (f a) ys cause) :
    Stops (r >>= f) (xs ++ ys) cause := by
  intro rest
  obtain ⟨path, hpath⟩ := hf rest
  refine ⟨path, ?_⟩
  rw [List.append_assoc, bind_ok (hr (ys ++ rest))]
  exact hpath

theorem Stops.map {r : Reader α} {bytes : List UInt8} {cause : Cause} (h : Stops r bytes cause)
    (f : α → β) : Stops (f <$> r) bytes cause := by
  intro rest
  obtain ⟨path, hpath⟩ := h rest
  exact ⟨path, map_error f hpath⟩

theorem Stops.inside {r : Reader α} {bytes : List UInt8} {cause : Cause}
    (h : Stops r bytes cause) (place : Place) : Stops (Reader.inside place r) bytes cause := by
  intro rest
  obtain ⟨path, hpath⟩ := h rest
  exact ⟨path ++ [place], inside_error hpath⟩

/-! ### Rows

A row is a list of things one after the other.  None of them is empty, so a row has at
most as many things as bytes, and the fuel that `collect` gives its loop is enough.
-/

/-- The bytes are those of the things, one after the other. -/
inductive Row (thing : Reader α) : List UInt8 → List α → Prop where
  | nil : Row thing [] []
  | cons {bytes more : List UInt8} {a : α} {as : List α} (first : Reads thing bytes a)
      (nonempty : bytes ≠ []) (others : Row thing more as) : Row thing (bytes ++ more) (a :: as)

/-- The bytes begin with a row that is followed by something at which reading fails. -/
def Breaks (thing : Reader α) (bytes : List UInt8) (cause : Cause) : Prop :=
  ∃ row bad as, bytes = row ++ bad ∧ Row thing row as ∧ bad ≠ [] ∧ Stops thing bad cause

variable {thing : Reader α}

theorem Row.single {bytes : List UInt8} {a : α} (h : Reads thing bytes a) (hne : bytes ≠ []) :
    Row thing bytes [a] := by
  have := Row.cons h hne Row.nil
  rwa [List.append_nil] at this

theorem Row.append {xs ys : List UInt8} {as bs : List α} (hx : Row thing xs as)
    (hy : Row thing ys bs) : Row thing (xs ++ ys) (as ++ bs) := by
  induction hx with
  | nil => exact hy
  | cons first nonempty others ih =>
      rw [List.append_assoc, List.cons_append]
      exact Row.cons first nonempty ih

/-- Things that are written one after the other are a row. -/
theorem Row.flatMap {γ : Type} {write : γ → List UInt8} {answer : γ → α} :
    ∀ {cs : List γ}, (∀ c ∈ cs, Reads thing (write c) (answer c)) → (∀ c ∈ cs, write c ≠ []) →
      Row thing (cs.flatMap write) (cs.map answer)
  | [], _, _ => Row.nil
  | c :: cs, hreads, hne => by
      rw [List.flatMap_cons, List.map_cons]
      exact Row.cons (hreads c (by simp)) (hne c (by simp))
        (Row.flatMap (fun d hd => hreads d (by simp [hd])) (fun d hd => hne d (by simp [hd])))

theorem Breaks.append {bytes : List UInt8} {cause : Cause} (h : Breaks thing bytes cause)
    (more : List UInt8) : Breaks thing (bytes ++ more) cause := by
  obtain ⟨row, bad, as, rfl, hrow, hne, hstops⟩ := h
  refine ⟨row, bad ++ more, as, by rw [List.append_assoc], hrow, by simp [hne], ?_⟩
  intro rest
  rw [List.append_assoc]
  exact hstops (more ++ rest)

theorem Row.breaks {row bytes : List UInt8} {as : List α} {cause : Cause}
    (hrow : Row thing row as) (h : Breaks thing bytes cause) :
    Breaks thing (row ++ bytes) cause := by
  obtain ⟨row', bad, bs, rfl, hrow', hne, hstops⟩ := h
  exact ⟨row ++ row', bad, as ++ bs, by rw [List.append_assoc], hrow.append hrow', hne, hstops⟩

theorem Stops.breaks {bytes : List UInt8} {cause : Cause} (h : Stops thing bytes cause)
    (hne : bytes ≠ []) : Breaks thing bytes cause :=
  ⟨[], bytes, [], rfl, Row.nil, hne, h⟩

/-! ### The loop over a row -/

/-- One turn of the loop that reads things while more than `mark` bytes are unread. -/
def turn (mark : Nat) (thing : Reader α) : Reader (Option α) := do
  if (← remaining) ≤ mark then return none
  else return some (← thing)

theorem downTo_eq (mark : Nat) (thing : Reader α) : downTo mark thing = collect (turn mark thing) :=
  rfl

theorem turn_end {mark : Nat} {input : Input} (h : input.size ≤ mark) :
    turn mark thing input = .ok (none, input) := by
  unfold turn
  rw [bind_ok (remaining_run input), if_pos h]
  rfl

theorem turn_more {mark : Nat} {input : Input} (h : mark < input.size) :
    turn mark thing input = (thing >>= fun a => pure (some a)) input := by
  unfold turn
  rw [bind_ok (remaining_run input), if_neg (Nat.not_le.mpr h)]

theorem collectWithin_none {step : Reader (Option α)} {input rest : Input} {fuel : Nat}
    (h : step input = .ok (none, rest)) :
    collectWithin step (fuel + 1) input = .ok ([], rest) := by
  rw [collectWithin, bind_ok h]
  rfl

theorem collectWithin_some {step : Reader (Option α)} {input rest : Input} {a : α} {fuel : Nat}
    (h : step input = .ok (some a, rest)) :
    collectWithin step (fuel + 1) input
      = (collectWithin step fuel >>= fun as => pure (a :: as)) rest := by
  rw [collectWithin, bind_ok h]

theorem collectWithin_error {step : Reader (Option α)} {input : Input} {e : Failure} {fuel : Nat}
    (h : step input = .error e) : collectWithin step (fuel + 1) input = .error e := by
  rw [collectWithin, bind_error h]

/-- A row before the mark is read to its last thing, and reading goes on behind it. -/
private theorem collectWithin_row (mark : Nat) {bytes : List UInt8} {as : List α}
    (hrow : Row thing bytes as) :
    ∀ (rest : List UInt8) (fuel : Nat), mark ≤ rest.length → bytes.length ≤ fuel →
      ∃ left, fuel - bytes.length ≤ left ∧
        collectWithin (turn mark thing) fuel (Input.ofBytes (bytes ++ rest))
          = (collectWithin (turn mark thing) left >>= fun bs => pure (as ++ bs))
              (Input.ofBytes rest) := by
  induction hrow with
  | nil =>
      intro rest fuel hmark hfuel
      refine ⟨fuel, by simp, ?_⟩
      show _ = (collectWithin (turn mark thing) fuel >>= pure) _
      rw [bind_pure]
      rfl
  | @cons bytes more a as first nonempty others ih =>
      intro rest fuel hmark hfuel
      have hpos : 0 < bytes.length := List.length_pos_iff.mpr nonempty
      rw [List.length_append] at hfuel
      obtain ⟨fuel, rfl⟩ : ∃ n, fuel = n + 1 := ⟨fuel - 1, by omega⟩
      obtain ⟨left, hleft, hloop⟩ := ih rest fuel hmark (by omega)
      refine ⟨left, by rw [List.length_append]; omega, ?_⟩
      have hturn : turn mark thing (Input.ofBytes (bytes ++ (more ++ rest)))
          = .ok (some a, Input.ofBytes (more ++ rest)) := by
        rw [turn_more (by simp; omega), bind_ok (first (more ++ rest))]
        rfl
      rw [List.append_assoc, collectWithin_some hturn]
      show (collectWithin (turn mark thing) fuel (Input.ofBytes (more ++ rest)) >>= _) = _
      rw [hloop]
      show (((collectWithin (turn mark thing) left >>= fun bs => pure (as ++ bs))
        >>= fun bs => pure (a :: bs)) : Reader (List α)) (Input.ofBytes rest) = _
      rw [bind_assoc]
      rfl

/-- **A row is read to its end and not beyond.** -/
theorem Row.downTo {bytes : List UInt8} {as : List α} (h : Row thing bytes as)
    (rest : List UInt8) :
    Reader.downTo rest.length thing (Input.ofBytes (bytes ++ rest))
      = .ok (as, Input.ofBytes rest) := by
  obtain ⟨left, hleft, hloop⟩ := collectWithin_row rest.length h rest
    ((bytes ++ rest).length + 1) (Nat.le_refl _) (by simp; omega)
  rw [downTo_eq, collect, Input.size_ofBytes, hloop]
  obtain ⟨left, rfl⟩ : ∃ n, left = n + 1 := ⟨left - 1, by simp at hleft; omega⟩
  rw [bind_ok (collectWithin_none (turn_end (by simp)))]
  simp [pure_run]

theorem Row.toEnd {bytes : List UInt8} {as : List α} (h : Row thing bytes as) :
    Reader.toEnd thing (Input.ofBytes bytes) = .ok (as, Input.ofBytes []) := by
  have := h.downTo []
  rwa [List.append_nil] at this

/-- **A row that breaks before the mark is not read.** -/
theorem Breaks.downTo {bytes : List UInt8} {cause : Cause} (h : Breaks thing bytes cause)
    (rest : List UInt8) :
    ∃ path, Reader.downTo rest.length thing (Input.ofBytes (bytes ++ rest))
      = .error ⟨path, cause⟩ := by
  obtain ⟨row, bad, as, rfl, hrow, hne, hstops⟩ := h
  have hpos : 0 < bad.length := List.length_pos_iff.mpr hne
  obtain ⟨path, hpath⟩ := hstops rest
  have hsize : (row ++ (bad ++ rest)).length = row.length + bad.length + rest.length := by
    simp [Nat.add_assoc]
  obtain ⟨left, hleft, hloop⟩ := collectWithin_row rest.length hrow (bad ++ rest)
    ((row ++ (bad ++ rest)).length + 1) (by simp) (by omega)
  refine ⟨path, ?_⟩
  rw [downTo_eq, collect, Input.size_ofBytes, List.append_assoc row, hloop]
  obtain ⟨left, rfl⟩ : ∃ n, left = n + 1 := ⟨left - 1, by omega⟩
  have hturn : turn rest.length thing (Input.ofBytes (bad ++ rest)) = .error ⟨path, cause⟩ := by
    rw [turn_more (by simp; omega), bind_error hpath]
  rw [bind_error (collectWithin_error hturn)]

theorem Breaks.toEnd {bytes : List UInt8} {cause : Cause} (h : Breaks thing bytes cause) :
    ∃ path, Reader.toEnd thing (Input.ofBytes bytes) = .error ⟨path, cause⟩ := by
  have := h.downTo []
  rwa [List.append_nil] at this

/-! ### Where the things of a row come from -/

private theorem mem_collectWithin {step : Reader (Option α)} :
    ∀ (fuel : Nat) {input rest : Input} {as : List α},
      collectWithin step fuel input = .ok (as, rest) →
      ∀ a ∈ as, ∃ i j, step i = .ok (some a, j) := by
  intro fuel
  induction fuel with
  | zero =>
      intro input rest as h a ha
      cases h
      simp at ha
  | succ fuel ih =>
      intro input rest as h a ha
      rw [collectWithin] at h
      obtain ⟨answer, middle, hstep, h⟩ := of_bind_ok h
      cases answer with
      | none =>
          cases h
          simp at ha
      | some b =>
          obtain ⟨bs, last, hbs, h⟩ := of_bind_ok h
          cases h
          rcases List.mem_cons.mp ha with rfl | ha
          · exact ⟨input, middle, hstep⟩
          · exact ih hbs a ha

/-- Everything in a row was read by the reader of its things. -/
theorem mem_downTo {mark : Nat} {input rest : Input} {as : List α}
    (h : downTo mark thing input = .ok (as, rest)) : ∀ a ∈ as, ∃ i j, thing i = .ok (a, j) := by
  intro a ha
  obtain ⟨i, j, hturn⟩ := mem_collectWithin _ h a ha
  obtain ⟨size, middle, hsize, hturn⟩ := of_bind_ok hturn
  cases hsize
  split at hturn
  · cases hturn
  · obtain ⟨b, last, hthing, hturn⟩ := of_bind_ok hturn
    cases hturn
    exact ⟨i, j, hthing⟩

theorem mem_delimited {input rest : Input} {as : List α}
    (h : delimited thing input = .ok (as, rest)) : ∀ a ∈ as, ∃ i j, thing i = .ok (a, j) := by
  obtain ⟨length, i, -, h⟩ := of_bind_ok h
  obtain ⟨size, j, hsize, h⟩ := of_bind_ok h
  cases hsize
  split at h
  · cases h
  · obtain ⟨things, k, hthings, h⟩ := of_bind_ok h
    obtain ⟨size, l, hsize, h⟩ := of_bind_ok h
    cases hsize
    split at h
    · cases h
    · cases h
      exact mem_downTo hthings

end Reader

end DeviceGen.Wire
