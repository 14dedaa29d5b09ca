/-
What a plugin has written when it ends.

`serve` says in one go what happens between an inlet and an outlet.  A plugin goes step by
step: the request comes in pieces and the response leaves in pieces, and how they are cut
is not up to the plugin.  The steps are described here without `serve`, and it is shown
that the pieces do not matter: however a process goes on, it can end in one way only, and
that is what `serve` says.

The invariant is what can be foreseen of a process: while it reads, what `serve` makes of
all that has come and will come; while it writes, what the outlet makes of all that was
written and is to be written.
-/
import Mathlib.Logic.Relation
import DeviceGen.Plugin
import DeviceGen.Proofs.Generator.Failure
import DeviceGen.Proofs.Request.RoundTrip
import DeviceGen.Proofs.Response.RoundTrip

namespace DeviceGen

/-! ### Errors that are not about reading or writing -/

/-- Reading a request from bytes that are there is not a matter of input or output. -/
theorem Request.decode_ne_io (bytes : List UInt8) (fault : Fault) :
    Request.decode bytes ≠ .error (.io fault) := by
  cases hread : Descriptor.decode .request bytes with
  | error failure =>
      rw [Request.decode_eq_of_fail hread]
      simp
  | ok request =>
      rw [Request.decode_eq_of_read hread]
      unfold Request.checkVersion
      split
      · simp
      · split <;> simp

/-- A run over bytes that are there fails for what they say, not for input or output. -/
theorem Generator.run_ne_io (generator : Generator) (bytes : List UInt8) (fault : Fault) :
    (generator.run bytes).result ≠ .error (.io fault) := by
  rw [Generator.result_run]
  cases hdecode : Request.decode bytes with
  | error e =>
      intro h
      cases h
      exact Request.decode_ne_io bytes fault hdecode
  | ok request =>
      intro h
      cases hgenerate : (generator.generate request).result with
      | error e =>
          simp only [bind, Except.bind, hgenerate, Except.map] at h
          cases h
          rcases Generator.error_of_generate hgenerate with ⟨name, he⟩ | ⟨place, he⟩ <;> cases he
      | ok files =>
          simp only [bind, Except.bind, hgenerate, Except.map] at h
          cases h

namespace Plugin

/-! ### Outlets -/

/-- An outlet takes as many bytes. -/
def Outlet.Holds (outlet : Outlet) (n : Nat) : Prop := ∀ k ∈ outlet.capacity, n ≤ k

/-- An outlet that does not take as many has a capacity below that. -/
theorem Outlet.exists_of_not_holds {outlet : Outlet} {n : Nat} (h : ¬ outlet.Holds n) :
    ∃ k, outlet.capacity = some k ∧ k < n := by
  simpa [Outlet.Holds] using h

section Outlets

variable {outlet : Outlet} {bytes : List UInt8}

/-- Bytes that an outlet takes are written, and the flush decides. -/
theorem deliver_of_holds (h : outlet.Holds bytes.length) :
    outlet.deliver bytes = match outlet.flush with
      | some fault => ⟨bytes, .error (.io fault)⟩
      | none => ⟨bytes, .ok ()⟩ := by
  have hroom : outlet.capacity.any (· < bytes.length) = false := by
    cases hcapacity : outlet.capacity with
    | none => rfl
    | some k =>
        have hk : bytes.length ≤ k := h k hcapacity
        simpa using hk
  unfold Outlet.deliver
  rw [hroom]
  rfl

/-- Of more bytes than an outlet takes the first are written, as many as it takes. -/
theorem deliver_of_full {k : Nat} (hcapacity : outlet.capacity = some k) (hk : k < bytes.length) :
    outlet.deliver bytes = ⟨bytes.take k, .error (.io outlet.full)⟩ := by
  unfold Outlet.deliver
  rw [hcapacity]
  simp [hk]

end Outlets

/-! ### Steps -/

/-- How far a plugin has come. -/
inductive Progress where
  /-- A part of the request has come, and the rest is coming. -/
  | reading (received coming : List UInt8)
  /-- A part of the response was written, and the rest is left. -/
  | writing (written left : List UInt8)
  | flushing (written : List UInt8)
  | ended (delivery : Delivery)

/-- What a plugin may do next.  A piece of the request or the response is never empty, and
no piece of the response is larger than what the outlet still takes. -/
inductive Step (generator : Generator) (inlet : Inlet) (outlet : Outlet) :
    Progress → Progress → Prop where
  | receive {received piece coming : List UInt8} (hpiece : piece ≠ []) :
      Step generator inlet outlet (.reading received (piece ++ coming))
        (.reading (received ++ piece) coming)
  | breakOff {received : List UInt8} {fault : Fault} (hfault : inlet.fault = some fault) :
      Step generator inlet outlet (.reading received []) (.ended ⟨[], .error (.io fault)⟩)
  | refuse {received : List UInt8} {e : Error} (hend : inlet.fault = none)
      (hrun : (generator.run received).result = .error e) :
      Step generator inlet outlet (.reading received []) (.ended ⟨[], .error e⟩)
  | answer {received response : List UInt8} (hend : inlet.fault = none)
      (hrun : (generator.run received).result = .ok response) :
      Step generator inlet outlet (.reading received []) (.writing [] response)
  | send {written piece left : List UInt8} (hpiece : piece ≠ [])
      (hroom : outlet.Holds (written ++ piece).length) :
      Step generator inlet outlet (.writing written (piece ++ left))
        (.writing (written ++ piece) left)
  | overflow {written left : List UInt8} (hleft : left ≠ [])
      (hfull : outlet.capacity = some written.length) :
      Step generator inlet outlet (.writing written left)
        (.ended ⟨written, .error (.io outlet.full)⟩)
  | finish {written : List UInt8} :
      Step generator inlet outlet (.writing written []) (.flushing written)
  | flush {written : List UInt8} (hflush : outlet.flush = none) :
      Step generator inlet outlet (.flushing written) (.ended ⟨written, .ok ()⟩)
  | flushFails {written : List UInt8} {fault : Fault} (hflush : outlet.flush = some fault) :
      Step generator inlet outlet (.flushing written) (.ended ⟨written, .error (.io fault)⟩)

/-- What a plugin does in any number of steps. -/
abbrev Steps (generator : Generator) (inlet : Inlet) (outlet : Outlet) :
    Progress → Progress → Prop :=
  Relation.ReflTransGen (Step generator inlet outlet)

/-! ### What can be foreseen -/

section Processes

variable {generator : Generator} {inlet : Inlet} {outlet : Outlet} {p q : Progress}

/-- What a plugin will have done in the end. -/
def foreseen (generator : Generator) (inlet : Inlet) (outlet : Outlet) : Progress → Delivery
  | .reading received coming => serve generator ⟨received ++ coming, inlet.fault⟩ outlet
  | .writing written left => outlet.deliver (written ++ left)
  | .flushing written => outlet.deliver written
  | .ended delivery => delivery

/-- No more was written than the outlet takes. -/
def Fits (outlet : Outlet) : Progress → Prop
  | .writing written _ => outlet.Holds written.length
  | .flushing written => outlet.Holds written.length
  | .reading _ _ => True
  | .ended _ => True

theorem serve_of_fault {bytes : List UInt8} {fault : Fault} :
    serve generator ⟨bytes, some fault⟩ outlet = ⟨[], .error (.io fault)⟩ := rfl

/-- A request that came whole is answered by a run. -/
theorem serve_of_run {bytes : List UInt8} :
    serve generator ⟨bytes, none⟩ outlet = match (generator.run bytes).result with
      | .error e => ⟨[], .error e⟩
      | .ok response => outlet.deliver response := by
  have hresult : (respond generator ⟨bytes, none⟩).result = (generator.run bytes).result := by
    unfold respond
    simp only [Traced.result_bind, Traced.result_ofExcept, Traced.result_log]
    rfl
  unfold serve
  cases hrun : (generator.run bytes).result <;> simp only [hresult, hrun]

/-- No step changes what can be foreseen, or writes more than the outlet takes. -/
theorem Step.foreseen_eq (h : Step generator inlet outlet p q) (hfits : Fits outlet p) :
    foreseen generator inlet outlet q = foreseen generator inlet outlet p ∧ Fits outlet q := by
  cases h with
  | receive hpiece =>
      simp only [foreseen, List.append_assoc]
      exact ⟨trivial, trivial⟩
  | breakOff hfault =>
      simp only [foreseen, hfault, serve_of_fault]
      exact ⟨trivial, trivial⟩
  | refuse hend hrun =>
      simp only [foreseen, hend, serve_of_run, List.append_nil, hrun]
      exact ⟨trivial, trivial⟩
  | answer hend hrun =>
      simp only [foreseen, hend, serve_of_run, List.append_nil, hrun, List.nil_append]
      exact ⟨trivial, fun k _ => Nat.zero_le k⟩
  | send hpiece hroom =>
      simp only [foreseen, List.append_assoc]
      exact ⟨trivial, hroom⟩
  | @overflow written left hleft hfull =>
      have hlong : written.length < (written ++ left).length := by
        have := List.length_pos_iff.mpr hleft
        rw [List.length_append]
        omega
      simp only [foreseen, deliver_of_full hfull hlong, List.take_left]
      exact ⟨trivial, trivial⟩
  | finish =>
      simp only [foreseen, List.append_nil]
      exact ⟨trivial, hfits⟩
  | flush hflush =>
      simp only [foreseen, deliver_of_holds hfits, hflush]
      exact ⟨trivial, trivial⟩
  | flushFails hflush =>
      simp only [foreseen, deliver_of_holds hfits, hflush]
      exact ⟨trivial, trivial⟩

/-- Nor does any number of steps. -/
theorem Steps.foreseen_eq (h : Steps generator inlet outlet p q) (hfits : Fits outlet p) :
    foreseen generator inlet outlet q = foreseen generator inlet outlet p ∧ Fits outlet q := by
  induction h with
  | refl => exact ⟨rfl, hfits⟩
  | tail _ hstep ih =>
      obtain ⟨hsame, hfits'⟩ := hstep.foreseen_eq ih.2
      exact ⟨hsame.trans ih.1, hfits'⟩

/-! ### Every process can end -/

theorem ends_flushing {written : List UInt8} (h : outlet.Holds written.length) :
    Steps generator inlet outlet (.flushing written) (.ended (outlet.deliver written)) := by
  rw [deliver_of_holds h]
  cases hflush : outlet.flush with
  | none => exact .single (.flush hflush)
  | some fault => exact .single (.flushFails hflush)

/-- Byte by byte the response leaves until there is nothing left or no room. -/
theorem ends_writing {left : List UInt8} : ∀ {written : List UInt8}, outlet.Holds written.length →
    Steps generator inlet outlet (.writing written left)
      (.ended (outlet.deliver (written ++ left))) := by
  induction left with
  | nil =>
      intro written h
      rw [List.append_nil]
      exact .head .finish (ends_flushing h)
  | cons byte left ih =>
      intro written h
      by_cases hroom : outlet.Holds (written ++ [byte]).length
      · have hrest := ih hroom
        rw [List.append_assoc] at hrest
        exact .head (.send (by simp) hroom) hrest
      · obtain ⟨k, hcapacity, hk⟩ := Outlet.exists_of_not_holds hroom
        have hfull : k = written.length := by
          have hle := h k hcapacity
          rw [List.length_append, List.length_singleton] at hk
          omega
        subst hfull
        have hlong : written.length < (written ++ byte :: left).length := by simp
        rw [deliver_of_full hcapacity hlong, List.take_left]
        exact .single (.overflow (by simp) hcapacity)

theorem ends_received (received : List UInt8) :
    Steps generator inlet outlet (.reading received [])
      (.ended (serve generator ⟨received, inlet.fault⟩ outlet)) := by
  cases hfault : inlet.fault with
  | some fault => exact .single (.breakOff hfault)
  | none =>
      rw [serve_of_run]
      cases hrun : (generator.run received).result with
      | error e => exact .single (.refuse hfault hrun)
      | ok response =>
          exact .head (.answer hfault hrun) (ends_writing fun k _ => Nat.zero_le k)

/-- Whatever the pieces were so far, what is foreseen can come true. -/
theorem ends (hfits : Fits outlet p) :
    Steps generator inlet outlet p (.ended (foreseen generator inlet outlet p)) := by
  cases p with
  | ended delivery => exact .refl
  | flushing written => exact ends_flushing hfits
  | writing written left => exact ends_writing hfits
  | reading received coming =>
      by_cases hcoming : coming = []
      · simp only [hcoming, foreseen, List.append_nil]
        exact ends_received received
      · have hall : Step generator inlet outlet (.reading received (coming ++ []))
            (.reading (received ++ coming) []) := .receive hcoming
        rw [List.append_nil] at hall
        exact .head hall (ends_received (received ++ coming))

/-- A process that begins with nothing ends as `serve` says, and in no other way. -/
theorem steps_iff (delivery : Delivery) :
    Steps generator inlet outlet (.reading [] inlet.bytes) (.ended delivery)
      ↔ delivery = serve generator inlet outlet := by
  constructor
  · intro h
    exact (h.foreseen_eq trivial).1
  · rintro rfl
    exact ends (p := .reading [] inlet.bytes) trivial

end Processes

/-! ### All or nothing -/

/-- An outlet has the first bytes of a response, as many as it takes. -/
theorem written_deliver (outlet : Outlet) (response : List UInt8) :
    (outlet.deliver response).written
      = response.take (min (outlet.capacity.getD response.length) response.length) := by
  by_cases hholds : outlet.Holds response.length
  · have hmin : min (outlet.capacity.getD response.length) response.length = response.length := by
      cases hcapacity : outlet.capacity with
      | none => exact Nat.min_self _
      | some k => exact Nat.min_eq_right (hholds k hcapacity)
    rw [hmin, List.take_length, deliver_of_holds hholds]
    cases outlet.flush <;> rfl
  · obtain ⟨k, hcapacity, hk⟩ := Outlet.exists_of_not_holds hholds
    rw [deliver_of_full hcapacity hk, hcapacity, Option.getD_some, Nat.min_eq_left (by omega)]

/-- Delivering ends well iff there is room for everything and the flush does not fail, and
otherwise with a fault. -/
theorem result_deliver (outlet : Outlet) (response : List UInt8) :
    ((outlet.deliver response).result = .ok () ↔ outlet.Holds response.length ∧ outlet.flush = none)
      ∧ ((outlet.deliver response).result = .ok ()
        ∨ ∃ fault, (outlet.deliver response).result = .error (.io fault)) := by
  by_cases hholds : outlet.Holds response.length
  · rw [deliver_of_holds hholds]
    cases outlet.flush <;> simp [hholds]
  · obtain ⟨k, hcapacity, hk⟩ := Outlet.exists_of_not_holds hholds
    rw [deliver_of_full hcapacity hk]
    simp [hholds]

/-- **Nothing is written unless the whole response is there, and then as much of it as the
outlet takes.**  If the inlet fails or the run ends with an error, so does the plugin, with
the same error and not a byte written; the errors of runs are never about reading or
writing.  Otherwise the first bytes of the response are written, and the plugin ends well
iff they are all of it and the flush does not fail; all else ends with a fault.  How the
request and the response are cut into pieces makes no difference. -/
theorem serve_whole_or_nothing (generator : Generator) (inlet : Inlet) (outlet : Outlet) :
    (∀ fault ∈ inlet.fault, serve generator inlet outlet = ⟨[], .error (.io fault)⟩)
      ∧ (∀ e, inlet.fault = none ∧ (generator.run inlet.bytes).result = .error e →
        serve generator inlet outlet = ⟨[], .error e⟩ ∧ ∀ fault, e ≠ .io fault)
      ∧ (∀ response, inlet.fault = none ∧ (generator.run inlet.bytes).result = .ok response →
        (serve generator inlet outlet).written
            = response.take (min (outlet.capacity.getD response.length) response.length)
          ∧ ((serve generator inlet outlet).result = .ok ()
            ↔ (∀ k ∈ outlet.capacity, response.length ≤ k) ∧ outlet.flush = none)
          ∧ ((serve generator inlet outlet).result = .ok ()
            ∨ ∃ fault, (serve generator inlet outlet).result = .error (.io fault)))
      ∧ ∀ delivery, Steps generator inlet outlet (.reading [] inlet.bytes) (.ended delivery)
          ↔ delivery = serve generator inlet outlet := by
  obtain ⟨bytes, fault⟩ := inlet
  refine ⟨?_, ?_, ?_, steps_iff⟩
  · rintro fault' rfl
    exact serve_of_fault
  · rintro e ⟨rfl, hrun⟩
    rw [serve_of_run, hrun]
    refine ⟨rfl, ?_⟩
    rintro fault' rfl
    exact generator.run_ne_io bytes fault' hrun
  · rintro response ⟨rfl, hrun⟩
    rw [serve_of_run, hrun]
    exact ⟨written_deliver outlet response, result_deliver outlet response⟩

/-- A request for the file `a`, which declares nothing, and nothing else. -/
def emptyFileRequest : List UInt8 := [0x0a, 1, 0x61, 0x7a, 3, 0x0a, 1, 0x61]

/-- The response is longer than the three bytes that there is room for, so these three are
written and the plugin fails; if the inlet fails too, nothing is written. -/
theorem serve_whole_or_nothing_sample :
    ∃ response, (Generator.widgets.run emptyFileRequest).result = .ok response
      ∧ 3 < response.length
      ∧ (serve .widgets ⟨emptyFileRequest, none⟩ ⟨some 3, .custom "full", none⟩).written
        = response.take 3
      ∧ (serve .widgets ⟨emptyFileRequest, none⟩ ⟨some 3, .custom "full", none⟩).result ≠ .ok ()
      ∧ (serve .widgets ⟨emptyFileRequest, none⟩ ⟨some response.length, .custom "full", none⟩).result
        = .ok ()
      ∧ serve .widgets ⟨emptyFileRequest, some (.custom "gone")⟩ ⟨some 3, .custom "full", none⟩
        = ⟨[], .error (.io (.custom "gone"))⟩ := by
  have hlong : ((Generator.widgets.run emptyFileRequest).result.toOption.any
      fun response => decide (3 < response.length)) = true := by
    decide +kernel
  obtain ⟨response, hrun, htest⟩ := exists_ok_of_any hlong
  have hlen : 3 < response.length := of_decide_eq_true htest
  obtain ⟨-, -, hresponse, -⟩ :=
    serve_whole_or_nothing .widgets ⟨emptyFileRequest, none⟩ ⟨some 3, .custom "full", none⟩
  obtain ⟨hwritten, hresult, -⟩ := hresponse response ⟨rfl, hrun⟩
  obtain ⟨-, -, hresponse', -⟩ := serve_whole_or_nothing .widgets ⟨emptyFileRequest, none⟩
    ⟨some response.length, .custom "full", none⟩
  obtain ⟨-, hresult', -⟩ := hresponse' response ⟨rfl, hrun⟩
  obtain ⟨hfault, -⟩ := serve_whole_or_nothing .widgets
    ⟨emptyFileRequest, some (.custom "gone")⟩ ⟨some 3, .custom "full", none⟩
  refine ⟨response, hrun, hlen, ?_, ?_, ?_, hfault _ rfl⟩
  · rwa [Option.getD_some, Nat.min_eq_left (by omega)] at hwritten
  · intro hok
    have hle := (hresult.mp hok).1 3 rfl
    omega
  · refine hresult'.mpr ⟨?_, rfl⟩
    rintro k hk
    exact Nat.le_of_eq (Option.some.inj hk)

end Plugin

end DeviceGen
