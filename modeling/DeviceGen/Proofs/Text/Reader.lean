/-
Readers of characters, and exactly what they read.

A grammar says of each thing how it is written.  A reader is exact for a grammar if it finds what
is written at the front of a text, whatever stands behind it, and finds nothing else.  There is
one restriction on what stands behind: a number goes on as long as there are digits.  So a reader
is exact before certain next characters, which matter where two readers follow each other.

Readers are put together in a few ways, and each way has its law, which says for which grammar
the result is exact.
-/
import Mathlib.Data.List.TakeWhile

namespace DeviceGen.Text

/-- Reads something from the front of characters, or fails. -/
abbrev Reader (α : Type) := StateT (List Char) Option α

/-- How things are written. -/
abbrev Grammar (α : Type) := α → List Char → Prop

/-! ### What comes next -/

/-- The next character, if there is one, can be any. -/
def anyNext (_ : Option Char) : Prop := True

/-- The next character, if there is one, is none of those. -/
def noNext (p : Char → Bool) (next : Option Char) : Prop := ∀ c ∈ next, p c = false

theorem noNext_none (p : Char → Bool) : noNext p none := fun _ h => nomatch h

/-- The next character is of neither kind iff it is none of one and none of the other. -/
theorem noNext_or {p q : Char → Bool} {next : Option Char} :
    noNext (fun c => p c || q c) next ↔ noNext p next ∧ noNext q next := by
  simp only [noNext, Bool.or_eq_false_iff, forall_and]

theorem noNext_cons {p : Char → Bool} {c : Char} (h : p c = false) (cs : List Char) :
    noNext p (c :: cs).head? := by
  rintro d ⟨⟩
  exact h

namespace Reader

variable {α β : Type}

/-- The reader finds what is written, and nothing else. -/
structure Exact (r : Reader α) (g : Grammar α) (next : Option Char → Prop) : Prop where
  reads : ∀ {a cs rest}, g a cs → next rest.head? → r (cs ++ rest) = some (a, rest)
  of_reads : ∀ {input a rest}, r input = some (a, rest) → ∃ cs, input = cs ++ rest ∧ g a cs

variable {r : Reader α} {g g' : Grammar α} {next next' : Option Char → Prop}

theorem Exact.congr (h : r.Exact g next) (hg : ∀ a cs, g a cs ↔ g' a cs) : r.Exact g' next where
  reads hwritten hnext := h.reads ((hg _ _).mpr hwritten) hnext
  of_reads hread := by
    obtain ⟨cs, hinput, hwritten⟩ := h.of_reads hread
    exact ⟨cs, hinput, (hg _ _).mp hwritten⟩

theorem Exact.before (h : r.Exact g next) (next' : Option Char → Prop)
    (hnext : ∀ c, next' c → next c) : r.Exact g next' where
  reads hwritten hc := h.reads hwritten (hnext _ hc)
  of_reads := h.of_reads

theorem Exact.anywhere (h : r.Exact g anyNext) (next' : Option Char → Prop) : r.Exact g next' :=
  h.before next' fun _ _ => trivial

/-! ### Single characters and words -/

/-- The next character, if it is one of those. -/
def satisfy (p : Char → Bool) : Reader Char
  | [] => none
  | c :: cs => if p c then some (c, cs) else none

theorem exact_satisfy (p : Char → Bool) :
    (satisfy p).Exact (fun c cs => p c = true ∧ cs = [c]) anyNext where
  reads := by
    rintro c _ rest ⟨hc, rfl⟩ -
    exact if_pos hc
  of_reads := by
    intro input c rest h
    cases input with
    | nil => cases h
    | cons d input =>
        rw [satisfy] at h
        by_cases hd : p d = true
        · rw [if_pos hd] at h
          cases h
          exact ⟨[c], rfl, hd, rfl⟩
        · rw [if_neg hd] at h
          cases h

/-- Insists on a word. -/
def word (w : List Char) : Reader Unit := fun cs =>
  if w.isPrefixOf cs then some ((), cs.drop w.length) else none

theorem exact_word (w : List Char) : (word w).Exact (fun _ cs => cs = w) anyNext where
  reads := by
    rintro _ cs rest hcs -
    have hprefix : w.isPrefixOf (w ++ rest) = true :=
      List.isPrefixOf_iff_prefix.mpr (List.prefix_append w rest)
    rw [hcs, word, if_pos hprefix, List.drop_left]
  of_reads := by
    intro input _ rest h
    unfold word at h
    by_cases hprefix : w.isPrefixOf input = true
    · rw [if_pos hprefix] at h
      obtain ⟨others, rfl⟩ := List.isPrefixOf_iff_prefix.mp hprefix
      rw [List.drop_left] at h
      cases h
      exact ⟨w, rfl, rfl⟩
    · rw [if_neg hprefix] at h
      cases h

/-- As many characters as there are of a kind. -/
def run (p : Char → Bool) : Reader (List Char) := fun cs =>
  some (cs.takeWhile p, cs.dropWhile p)

theorem exact_run (p : Char → Bool) :
    (run p).Exact (fun found cs => cs = found ∧ ∀ c ∈ found, p c = true) (noNext p) where
  reads := by
    rintro found _ rest ⟨rfl, hfound⟩ hnext
    have hrest : rest.takeWhile p = [] ∧ rest.dropWhile p = rest := by
      cases rest with
      | nil => exact ⟨rfl, rfl⟩
      | cons c rest =>
          have hc : ¬ p c = true := by
            rw [hnext c rfl]
            exact Bool.false_ne_true
          exact ⟨List.takeWhile_cons_of_neg hc, List.dropWhile_cons_of_neg hc⟩
    unfold run
    rw [List.takeWhile_append_of_pos hfound, List.dropWhile_append_of_pos hfound, hrest.1, hrest.2,
      List.append_nil]
  of_reads := by
    rintro input found rest ⟨⟩
    exact ⟨_, List.takeWhile_append_dropWhile.symm, rfl, fun c hc => List.mem_takeWhile_imp hc⟩

/-! ### One after the other -/

theorem exact_pure (a : α) : (pure a : Reader α).Exact (fun b cs => b = a ∧ cs = []) anyNext where
  reads := by
    rintro _ _ rest ⟨rfl, rfl⟩ -
    rfl
  of_reads := by
    rintro input _ _ ⟨⟩
    exact ⟨[], rfl, rfl, rfl⟩

/-- Something that may be missing, without a character for it. -/
def given (a? : Option α) : Reader α := fun cs => a?.map (·, cs)

theorem exact_given (a? : Option α) :
    (given a?).Exact (fun a cs => a? = some a ∧ cs = []) anyNext where
  reads := by
    rintro a _ rest ⟨rfl, rfl⟩ -
    rfl
  of_reads := by
    intro input a rest h
    obtain ⟨b, hb, hpair⟩ := Option.map_eq_some_iff.mp h
    cases hpair
    exact ⟨[], rfl, hb, rfl⟩

theorem exact_fail : (failure : Reader α).Exact (fun _ _ => False) anyNext where
  reads h := h.elim
  of_reads h := nomatch h

/-- What is read second may depend on what was read first, and its beginning has to be one that
the first reader can stop before. -/
theorem Exact.bind {f : α → Reader β} {k : α → Grammar β} (hr : r.Exact g next)
    (hf : ∀ a, (f a).Exact (k a) next')
    (hnext : ∀ a b cs rest, k a b cs → next' rest.head? → next (cs ++ rest).head?) :
    (r >>= f).Exact (fun b cs => ∃ a front back, g a front ∧ k a b back ∧ cs = front ++ back)
      next' where
  reads := by
    rintro b _ rest ⟨a, front, back, hfront, hback, rfl⟩ hrest
    show (r (front ++ back ++ rest) >>= fun p => f p.1 p.2) = _
    rw [List.append_assoc, hr.reads hfront (hnext a b back rest hback hrest)]
    exact (hf a).reads hback hrest
  of_reads := by
    intro input b rest h
    replace h : (r input >>= fun p => f p.1 p.2) = some (b, rest) := h
    obtain ⟨⟨a, middle⟩, hfirst, hsecond⟩ := Option.bind_eq_some_iff.mp h
    obtain ⟨front, rfl, hfront⟩ := hr.of_reads hfirst
    obtain ⟨back, rfl, hback⟩ := (hf a).of_reads hsecond
    exact ⟨front ++ back, (List.append_assoc ..).symm, a, front, back, hfront, hback, rfl⟩

/-- After a reader that can stop anywhere, anything can be read. -/
theorem Exact.andThen {f : α → Reader β} {k : α → Grammar β} (hr : r.Exact g anyNext)
    (hf : ∀ a, (f a).Exact (k a) next) :
    (r >>= f).Exact (fun b cs => ∃ a front back, g a front ∧ k a b back ∧ cs = front ++ back)
      next :=
  hr.bind hf fun _ _ _ _ _ _ => trivial

/-- What was read is looked at afterwards, and may be refused. -/
theorem Exact.filterMap (hr : r.Exact g next) (f : α → Option β) :
    (r >>= fun a => given (f a)).Exact (fun b cs => ∃ a, g a cs ∧ f a = some b) next := by
  have hf (a : α) := (exact_given (f a)).anywhere next
  refine (hr.bind hf ?_).congr fun b cs => ⟨?_, ?_⟩
  · rintro a b _ rest ⟨-, rfl⟩ hnext
    exact hnext
  · rintro ⟨a, front, _, ha, ⟨hb, rfl⟩, rfl⟩
    exact ⟨a, by rwa [List.append_nil], hb⟩
  · rintro ⟨a, ha, hb⟩
    exact ⟨a, cs, [], ha, ⟨hb, rfl⟩, (List.append_nil cs).symm⟩

/-- What was read is changed afterwards. -/
theorem Exact.map (hr : r.Exact g next) (f : α → β) :
    (r >>= fun a => pure (f a)).Exact (fun b cs => ∃ a, g a cs ∧ f a = b) next :=
  (hr.filterMap fun a => some (f a)).congr fun b cs => by simp only [Option.some.injEq]

/-! ### One or the other -/

/-- One of two readers, by the next character. -/
def ifNext (p : Char → Bool) (yes no : Reader α) : Reader α := fun cs =>
  if cs.head?.any p then yes cs else no cs

theorem Exact.ifNext {p : Char → Bool} {yes no : Reader α} (hyes : yes.Exact g next)
    (hno : no.Exact g' next)
    (hstarts : ∀ a cs, g a cs → ∃ c others, cs = c :: others ∧ p c = true)
    (hothers : ∀ a cs rest, g' a cs → next rest.head? → noNext p (cs ++ rest).head?) :
    (ifNext p yes no).Exact (fun a cs => g a cs ∨ g' a cs) next where
  reads := by
    rintro a cs rest (h | h) hnext
    · obtain ⟨c, others, rfl, hp⟩ := hstarts a cs h
      exact (if_pos hp).trans (hyes.reads h hnext)
    · have hany : (cs ++ rest).head?.any p = false := by
        have hhead := hothers a cs rest h hnext
        cases hc : (cs ++ rest).head? with
        | none => rfl
        | some c => exact hhead c hc
      rw [Reader.ifNext, hany]
      exact hno.reads h hnext
  of_reads := by
    intro input a rest h
    unfold Reader.ifNext at h
    split at h
    · obtain ⟨cs, hinput, hcs⟩ := hyes.of_reads h
      exact ⟨cs, hinput, .inl hcs⟩
    · obtain ⟨cs, hinput, hcs⟩ := hno.of_reads h
      exact ⟨cs, hinput, .inr hcs⟩

theorem Exact.ite {c : Prop} [Decidable c] {yes no : Reader α} (hyes : yes.Exact g next)
    (hno : no.Exact g' next) :
    (if c then yes else no).Exact (fun a cs => (c ∧ g a cs) ∨ (¬ c ∧ g' a cs)) next := by
  by_cases hc : c
  · rw [if_pos hc]
    exact hyes.congr fun a cs => by simp only [hc, true_and, not_true, false_and, or_false]
  · rw [if_neg hc]
    exact hno.congr fun a cs => by simp only [hc, true_and, not_false_iff, false_and, false_or]

/-- One of many readers, by the next character, which is left to it. -/
def byFirst (r : Char → Reader α) : Reader α
  | [] => none
  | c :: cs => r c (c :: cs)

theorem exact_byFirst {r : Char → Reader α} {k : Char → Grammar α}
    (h : ∀ c, (r c).Exact (k c) next) (hsound : ∀ c a cs, k c a cs → g a cs)
    (hcomplete : ∀ a cs, g a cs → ∃ c others, cs = c :: others ∧ k c a cs) :
    (byFirst r).Exact g next where
  reads := by
    intro a cs rest ha hnext
    obtain ⟨c, others, rfl, hc⟩ := hcomplete a cs ha
    exact (h c).reads hc hnext
  of_reads := by
    intro input a rest hread
    cases input with
    | nil => cases hread
    | cons c input =>
        obtain ⟨cs, hinput, ha⟩ := (h c).of_reads hread
        exact ⟨cs, hinput, hsound c a cs ha⟩

/-! ### As often as there is something -/

/-- A reader that is given as many turns as there are characters, and one more. -/
def unbounded (r : Nat → Reader α) : Reader α := fun cs => r (cs.length + 1) cs

/-- Turns that are exact for what takes so many turns are exact for all if no thing takes more
turns than characters. -/
theorem exact_unbounded {r : Nat → Reader α} {g : Nat → Grammar α}
    (h : ∀ turns, (r turns).Exact (g turns) next)
    (hturns : ∀ n a cs, g n a cs → ∀ turns, cs.length < turns → g turns a cs) :
    (unbounded r).Exact (fun a cs => ∃ n, g n a cs) next where
  reads := by
    rintro a cs rest ⟨n, hn⟩ hnext
    refine (h _).reads (hturns n a cs hn _ ?_) hnext
    rw [List.length_append]
    omega
  of_reads := by
    intro input a rest hread
    obtain ⟨cs, hinput, hcs⟩ := (h _).of_reads hread
    exact ⟨cs, hinput, _, hcs⟩

end Reader

end DeviceGen.Text
