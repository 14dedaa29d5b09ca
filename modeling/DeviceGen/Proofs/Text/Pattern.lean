/-
Patterns, and the parts of a text that they find.

A pattern is matched together with what has to follow it.  Where there are several ways to match a
part they are tried in order, and the first one with which the rest can be matched is taken: as
many characters as there are before fewer, or as few as there are before more.  What was found on
a way that leads nowhere is forgotten.

Taking as many characters as there are is final if the rest can be matched behind all of them
whenever it can be matched behind some (`run_most`).  Taking as few as needed ends where the
characters at the end begin, if the rest is matched by those characters (`run_fewest`).
-/
import DeviceGen.Proofs.Text.Blank

namespace DeviceGen.Text

/-- Parts of a text with their numbers, the last one first. -/
abbrev Groups := List (Nat × List Char)

/-- A place in a text, and what is found before it. -/
structure Cursor where
  position : Nat
  /-- What is behind the place. -/
  rest : List Char
  found : Groups

namespace Cursor

/-- Whether a character of a class is next. -/
def sees (here : Cursor) (p : Char → Bool) : Bool := here.rest.head?.any p

/-- The place behind so many characters. -/
def forth (here : Cursor) (n : Nat) : Cursor :=
  ⟨here.position + n, here.rest.drop n, here.found⟩

/-- The place behind the characters that are in a class. -/
def skip (here : Cursor) (p : Char → Bool) : Cursor := here.forth (here.rest.takeWhile p).length

/-- The same place, with the text from an earlier place to it found. -/
def withGroup (there : Cursor) (number : Nat) (here : Cursor) : Cursor :=
  { there with
    found := (number, here.rest.take (there.position - here.position)) :: there.found }

theorem sees_iff {here : Cursor} {p : Char → Bool} :
    here.sees p = true ↔ ∃ c cs, here.rest = c :: cs ∧ p c = true := by
  rw [sees]
  cases here.rest with
  | nil => simp
  | cons c cs => simp

@[simp] theorem forth_rest (here : Cursor) (n : Nat) :
    (here.forth n).rest = here.rest.drop n := rfl

@[simp] theorem forth_found (here : Cursor) (n : Nat) : (here.forth n).found = here.found := rfl

@[simp] theorem skip_found (here : Cursor) (p : Char → Bool) :
    (here.skip p).found = here.found := rfl

@[simp] theorem skip_rest (here : Cursor) (p : Char → Bool) :
    (here.skip p).rest = here.rest.dropWhile p := by
  calc here.rest.drop (here.rest.takeWhile p).length
      = (here.rest.takeWhile p ++ here.rest.dropWhile p).drop (here.rest.takeWhile p).length := by
        rw [List.takeWhile_append_dropWhile]
    _ = here.rest.dropWhile p := List.drop_left

@[simp] theorem withGroup_rest (there : Cursor) (number : Nat) (here : Cursor) :
    (there.withGroup number here).rest = there.rest := rfl

/-- A group is what stands between two places. -/
theorem withGroup_found {here there : Cursor} {n : Nat}
    (h : there.position = here.position + n) (number : Nat) :
    (there.withGroup number here).found = (number, here.rest.take n) :: there.found := by
  rw [withGroup, h, Nat.add_sub_cancel_left]

/-- No characters are passed over in front of one that is not in the class. -/
theorem skip_eq_self {here : Cursor} {p : Char → Bool} (h : ¬ here.sees p = true) :
    here.skip p = here := by
  obtain ⟨position, rest, found⟩ := here
  cases rest with
  | nil => rfl
  | cons c cs =>
      have hc : ¬ p c = true := h
      simp [skip, forth, hc]

end Cursor

/-- A pattern.  Characters are repeated by their class. -/
inductive Pattern where
  /-- The beginning of the text. -/
  | start
  /-- The end of the text. -/
  | finish
  /-- A character of a class. -/
  | one (p : Char → Bool)
  /-- Characters of a class, as many as there are if that can be. -/
  | most (p : Char → Bool)
  /-- Characters of a class, as few as can be. -/
  | fewest (p : Char → Bool)
  /-- A pattern or nothing, and the pattern if that can be. -/
  | maybe (pattern : Pattern)
  /-- A pattern whose text is found under a number. -/
  | group (number : Nat) (pattern : Pattern)
  | seq (first second : Pattern)

namespace Pattern

instance : Append Pattern := ⟨seq⟩

variable {α : Type}

/-- What is found behind as many characters of a class as can be. -/
def tryMost (p : Char → Bool) (next : Cursor → Option α) (found : Groups) :
    Nat → List Char → Option α
  | position, [] => next ⟨position, [], found⟩
  | position, c :: cs =>
    if p c then (tryMost p next found (position + 1) cs).or (next ⟨position, c :: cs, found⟩)
    else next ⟨position, c :: cs, found⟩

/-- What is found behind as few characters of a class as can be. -/
def tryFewest (p : Char → Bool) (next : Cursor → Option α) (found : Groups) :
    Nat → List Char → Option α
  | position, [] => next ⟨position, [], found⟩
  | position, c :: cs =>
    (next ⟨position, c :: cs, found⟩).or
      (if p c then tryFewest p next found (position + 1) cs else none)

/-- What is found at a place by a pattern and what follows it. -/
def run : Pattern → (Cursor → Option α) → Cursor → Option α
  | start, next, here => if here.position = 0 then next here else none
  | finish, next, here => if here.rest = [] then next here else none
  | one p, next, here => if here.sees p then next (here.forth 1) else none
  | most p, next, here => tryMost p next here.found here.position here.rest
  | fewest p, next, here => tryFewest p next here.found here.position here.rest
  | maybe pattern, next, here => (pattern.run next here).or (next here)
  | group number pattern, next, here =>
    pattern.run (fun there => next (there.withGroup number here)) here
  | seq first second, next, here => first.run (second.run next) here

/-- What a pattern finds at the first place from which it matches, of this place and the ones
behind it. -/
def findFrom (pattern : Pattern) : Nat → List Char → Option Groups
  | position, [] => pattern.run (some ·.found) ⟨position, [], []⟩
  | position, c :: cs =>
    (pattern.run (some ·.found) ⟨position, c :: cs, []⟩).or (findFrom pattern (position + 1) cs)

/-- What a pattern finds in a text. -/
def find? (pattern : Pattern) (cs : List Char) : Option Groups := pattern.findFrom 0 cs

@[simp] theorem run_append (first second : Pattern) (next : Cursor → Option α) (here : Cursor) :
    (first ++ second).run next here = first.run (second.run next) here := rfl

/-- A pattern that matches at the beginning only is not found anywhere else. -/
theorem find?_of_anchored {pattern : Pattern}
    (h : ∀ next here, here.position ≠ 0 → pattern.run (α := Groups) next here = none)
    (cs : List Char) : pattern.find? cs = pattern.run (some ·.found) ⟨0, cs, []⟩ := by
  have hfrom : ∀ position cs, position ≠ 0 → pattern.findFrom position cs = none := by
    intro position cs hposition
    induction cs generalizing position with
    | nil => exact h _ _ hposition
    | cons c cs ih =>
        rw [findFrom, h _ _ hposition, Option.none_or]
        exact ih (position + 1) (Nat.succ_ne_zero position)
  cases cs with
  | nil => rfl
  | cons c cs => rw [find?, findFrom, hfrom _ _ Nat.one_ne_zero, Option.or_none]

/-- As many characters are taken as there are, unless the rest is matched behind fewer only. -/
theorem run_most {p : Char → Bool} {next : Cursor → Option α}
    (h : ∀ here, next (here.skip p) = none → next here = none) (here : Cursor) :
    (most p).run next here = next (here.skip p) := by
  obtain ⟨position, rest, found⟩ := here
  rw [run]
  induction rest generalizing position with
  | nil => rfl
  | cons c cs ih =>
      rw [tryMost]
      by_cases hc : p c = true
      · have hskip : Cursor.skip ⟨position, c :: cs, found⟩ p
            = Cursor.skip ⟨position + 1, cs, found⟩ p := by
          simp [Cursor.skip, Cursor.forth, hc, Nat.add_comm, Nat.add_left_comm]
        rw [if_pos hc, ih, ← hskip]
        cases hnext : next (Cursor.skip ⟨position, c :: cs, found⟩ p) with
        | none => rw [Option.none_or, h _ hnext]
        | some a => rw [Option.some_or]
      · rw [if_neg hc, Cursor.skip, List.takeWhile_cons_of_neg hc]
        rfl

/-- All characters of a class are taken if the rest is not matched in front of one. -/
theorem run_most_of_head {p : Char → Bool} {next : Cursor → Option α}
    (h : ∀ here, here.sees p = true → next here = none) (here : Cursor) :
    (most p).run next here = next (here.skip p) := by
  refine run_most (fun there hskip => ?_) here
  by_cases hsees : there.sees p = true
  · exact h there hsees
  · rwa [Cursor.skip_eq_self hsees] at hskip

/-- As few characters are taken as can be if those that follow have to be in a class: the ones
at the end that are in that class are left. -/
theorem run_fewest {p q : Char → Bool} {next : Cursor → Option α}
    (h : ∀ here, (next here).isSome = here.rest.all q) (here : Cursor) :
    (fewest p).run next here
      = if (here.rest.rdropWhile q).all p then next (here.forth (here.rest.rdropWhile q).length)
        else none := by
  obtain ⟨position, rest, found⟩ := here
  rw [run]
  induction rest generalizing position with
  | nil => rfl
  | cons c cs ih =>
      have hhere := h ⟨position, c :: cs, found⟩
      rw [tryFewest]
      by_cases hall : (c :: cs).all q = true
      · obtain ⟨a, ha⟩ := Option.isSome_iff_exists.mp (hhere.trans hall)
        simp [ha, rdropWhile_cons, hall, Cursor.forth]
      · have hnone : next ⟨position, c :: cs, found⟩ = none := by
          rw [← Option.not_isSome_iff_eq_none, hhere]
          exact hall
        rw [hnone, Option.none_or, rdropWhile_cons, if_neg hall, ih]
        by_cases hc : p c = true
        · simp [hc, Cursor.forth, Nat.add_comm, Nat.add_left_comm]
        · simp [hc]

end Pattern

end DeviceGen.Text
