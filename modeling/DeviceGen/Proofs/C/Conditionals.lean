/-
What conditionals leave of a text.

Generated headers stand between `#ifndef` and `#endif`, and the first thing they do is to
define the macro that was asked for.  Reading lines with these three directives needs two
things to be remembered: which macros are defined, and for each conditional that is still
open whether its lines are kept.  A line is kept if the lines of all open conditionals are.

Reading composes: what is kept of lines one after the other is what is kept of the first and
then of the others, read in the state that the first leave behind.  A guarded block is kept
if its macro is not defined, and vanishes without a trace if it is, whatever is in it, as
long as its own conditionals are closed.
-/
import DeviceGen.Proofs.Text.Lines
import DeviceGen.Proofs.Text.Segment

namespace DeviceGen.C

/-! ### Directives -/

/-- The directives that conditionals are made of. -/
inductive Directive where
  /-- Opens a conditional, whose lines are kept if the macro is not defined. -/
  | ifndef (macroName : String)
  /-- Defines a macro. -/
  | define (macroName : String)
  /-- Closes the innermost open conditional. -/
  | endif
  deriving DecidableEq, Repr

/-- What stands behind a keyword at the beginning of a line, up to the next blank. -/
def wordAfter? (keyword line : String) : Option String :=
  if keyword.toList.isPrefixOf line.toList then
    some (String.ofList ((line.toList.drop keyword.toList.length).takeWhile (· ≠ ' ')))
  else none

/-- The directive on a line, if it has one. -/
def directive? (line : String) : Option Directive :=
  (wordAfter? "#ifndef " line).map .ifndef
    <|> (wordAfter? "#define " line).map .define
    <|> (wordAfter? "#endif" line).map fun _ => .endif

theorem wordAfter?_append (keyword rest : String) :
    wordAfter? keyword (keyword ++ rest)
      = some (String.ofList (rest.toList.takeWhile (· ≠ ' '))) := by
  unfold wordAfter?
  rw [String.toList_append,
    if_pos (List.isPrefixOf_iff_prefix.mpr (List.prefix_append _ _)), List.drop_left]

/-- A line that begins differently has no such word. -/
theorem wordAfter?_none {keyword line : String}
    (h : line.toList.take keyword.toList.length ≠ keyword.toList) :
    wordAfter? keyword line = none := by
  unfold wordAfter?
  rw [if_neg]
  intro hprefix
  exact h (List.prefix_iff_eq_take.mp (List.isPrefixOf_iff_prefix.mp hprefix)).symm

/-- A word after a keyword is found whole, up to a blank or the end of the line. -/
theorem wordAfter?_word (keyword : String) {name : String} (h : ' ' ∉ name.toList)
    {rest : String} (hrest : rest = "" ∨ rest.toList.head? = some ' ') :
    wordAfter? keyword (keyword ++ (name ++ rest)) = some name := by
  have hstop : rest.toList.takeWhile (· ≠ ' ') = [] := by
    rcases hrest with rfl | hrest
    · rfl
    · cases hcs : rest.toList with
      | nil => rfl
      | cons c cs =>
          rw [hcs, List.head?_cons, Option.some.injEq] at hrest
          simp [hrest]
  rw [wordAfter?_append, String.toList_append,
    List.takeWhile_append_of_pos (Text.forall_ne_separator h), hstop, List.append_nil,
    String.ofList_toList]

theorem directive?_ifndef {name : String} (h : ' ' ∉ name.toList) :
    directive? ("#ifndef " ++ name) = some (.ifndef name) := by
  have hword := wordAfter?_word "#ifndef " h (Or.inl rfl)
  rw [String.append_empty] at hword
  unfold directive?
  rw [hword]
  rfl

/-- A macro may have a value after a blank. -/
theorem directive?_define {name : String} (h : ' ' ∉ name.toList) {value : String}
    (hvalue : value = "" ∨ value.toList.head? = some ' ') :
    directive? ("#define " ++ (name ++ value)) = some (.define name) := by
  have hother : wordAfter? "#ifndef " ("#define " ++ (name ++ value)) = none :=
    wordAfter?_none (by simp)
  unfold directive?
  rw [hother, wordAfter?_word "#define " h hvalue]
  rfl

theorem directive?_endif (rest : String) : directive? ("#endif" ++ rest) = some .endif := by
  have hifndef : wordAfter? "#ifndef " ("#endif" ++ rest) = none := wordAfter?_none (by simp)
  have hdefine : wordAfter? "#define " ("#endif" ++ rest) = none := wordAfter?_none (by simp)
  unfold directive?
  rw [hifndef, hdefine, wordAfter?_append]
  rfl

/-- Directives begin with a number sign. -/
theorem directive?_none {line : String} (h : line.toList.head? ≠ some '#') :
    directive? line = none := by
  have hnone (keyword : String) (hkeyword : keyword.toList.head? = some '#') :
      wordAfter? keyword line = none := by
    unfold wordAfter?
    rw [if_neg]
    intro hprefix
    obtain ⟨rest, hrest⟩ := List.isPrefixOf_iff_prefix.mp hprefix
    apply h
    rw [← hrest, List.head?_append, hkeyword]
    rfl
  unfold directive?
  rw [hnone _ (by decide), hnone _ (by decide), hnone _ (by decide)]
  rfl

/-! ### Reading lines -/

/-- What is remembered between two lines. -/
structure Preprocessor where
  /-- The macros that are defined. -/
  defined : List String
  /-- For each open conditional, innermost first, whether its lines are kept. -/
  taken : List Bool
  deriving DecidableEq, Repr

namespace Preprocessor

/-- Before the first line nothing is defined and nothing is open. -/
def start : Preprocessor := ⟨[], []⟩

/-- Opens a conditional whose lines are kept unless a macro is defined. -/
def enter (s : Preprocessor) (name : String) : Preprocessor :=
  ⟨s.defined, decide (name ∉ s.defined) :: s.taken⟩

/-- Whether lines are kept. -/
def keeps (s : Preprocessor) : Bool := s.taken.all id

/-- Reads a line: what is remembered after it, and the line if it is kept.  Nothing can be
closed that is not open. -/
def step (s : Preprocessor) (line : String) : Option (Preprocessor × List String) :=
  match directive? line with
  | some (.ifndef name) => some (s.enter name, [])
  | some (.define name) =>
    if s.keeps then some (⟨name :: s.defined, s.taken⟩, [line]) else some (s, [])
  | some .endif =>
    match s.taken with
    | [] => none
    | _ :: outer => some (⟨s.defined, outer⟩, [])
  | none => some (s, if s.keeps then [line] else [])

/-- Reads lines in order: what is remembered after them, and those that are kept. -/
def run (s : Preprocessor) : List String → Option (Preprocessor × List String)
  | [] => some (s, [])
  | line :: lines => do
    let (s, kept) ← s.step line
    let (s, others) ← run s lines
    return (s, kept ++ others)

end Preprocessor

/-- Lines that are there only if a macro is not defined. -/
def guarded (name : String) (lines : List String) : List String :=
  ("#ifndef " ++ name) :: lines ++ ["#endif /* " ++ name ++ " */"]

/-- Lines that close all conditionals they open, and no others. -/
inductive Balanced : List String → Prop where
  | nil : Balanced []
  | plain {line : String} {lines : List String} (h : directive? line = none)
      (rest : Balanced lines) : Balanced (line :: lines)
  | define {line name : String} {lines : List String} (h : directive? line = some (.define name))
      (rest : Balanced lines) : Balanced (line :: lines)
  | guarded {name : String} {inner lines : List String} (h : ' ' ∉ name.toList)
      (block : Balanced inner) (rest : Balanced lines) : Balanced (guarded name inner ++ lines)

/-- What is remembered after a text, and the lines that are kept of it. -/
def evaluate (text : String) : Option (Preprocessor × List String) :=
  Preprocessor.start.run (Text.lines text)

namespace Preprocessor

variable {s t : Preprocessor} {lines others kept : List String} {name : String}

theorem run_cons {line : String} (h : s.step line = some (t, kept)) (rest : List String) :
    s.run (line :: rest) = (t.run rest).map fun p => (p.1, kept ++ p.2) := by
  rw [run, h]
  show (t.run rest).bind _ = _
  cases t.run rest <;> rfl

theorem sublist_of_step {line : String} (h : s.step line = some (t, kept)) :
    kept.Sublist [line] := by
  unfold step at h
  split at h
  · cases h
    exact List.nil_sublist _
  · split at h <;> cases h
    · exact List.Sublist.refl _
    · exact List.nil_sublist _
  · split at h <;> cases h
    exact List.nil_sublist _
  · cases h
    split
    · exact List.Sublist.refl _
    · exact List.nil_sublist _

theorem run_append (s : Preprocessor) (lines others : List String) :
    s.run (lines ++ others) = (s.run lines).bind fun p =>
      (p.1.run others).map fun q => (q.1, p.2 ++ q.2) := by
  induction lines generalizing s with
  | nil =>
      rw [List.nil_append, run, Option.bind_some]
      simp
  | cons line lines ih =>
      cases hstep : s.step line with
      | none => simp [run, hstep]
      | some p =>
          obtain ⟨t, kept⟩ := p
          rw [List.cons_append, run_cons hstep, run_cons hstep, ih]
          cases t.run lines with
          | none => rfl
          | some p =>
              simp [Function.comp_def]

/-- Two runs one after the other. -/
theorem run_append_of {u : Preprocessor} {more : List String} (h : s.run lines = some (t, kept))
    (h' : t.run others = some (u, more)) : s.run (lines ++ others) = some (u, kept ++ more) := by
  rw [run_append, h, Option.bind_some, h']
  rfl

/-- Lines are left out, but none is changed. -/
theorem sublist_of_run (h : s.run lines = some (t, kept)) : kept.Sublist lines := by
  induction lines generalizing s kept with
  | nil =>
      cases h
      exact List.nil_sublist []
  | cons line lines ih =>
      cases hstep : s.step line with
      | none => simp [run, hstep] at h
      | some p =>
          rw [run_cons hstep] at h
          obtain ⟨⟨u, others⟩, hrest, heq⟩ := Option.map_eq_some_iff.mp h
          cases heq
          exact (sublist_of_step hstep).append (ih hrest)

/-- Lines without directives are kept as they are, if lines are kept. -/
theorem run_plain (hs : s.keeps = true) (h : ∀ line ∈ lines, directive? line = none) :
    s.run lines = some (s, lines) := by
  induction lines with
  | nil => rfl
  | cons line lines ih =>
      have hstep : s.step line = some (s, [line]) := by
        rw [step, h line List.mem_cons_self]
        simp [hs]
      rw [run_cons hstep, ih fun l hl => h l (List.mem_cons_of_mem line hl)]
      rfl

theorem run_define {line : String} (hs : s.keeps = true)
    (h : directive? line = some (.define name)) :
    s.run [line] = some (⟨name :: s.defined, s.taken⟩, [line]) := by
  have hstep : s.step line = some (⟨name :: s.defined, s.taken⟩, [line]) := by
    rw [step, h]
    simp [hs]
  rw [run_cons hstep]
  rfl

/-! ### Guarded lines -/

theorem step_ifndef (s : Preprocessor) (h : ' ' ∉ name.toList) :
    s.step ("#ifndef " ++ name) = some (s.enter name, []) := by
  rw [step, directive?_ifndef h]

theorem step_endif (defined : List String) (taken : List Bool) (keep : Bool) (name : String) :
    step ⟨defined, keep :: taken⟩ ("#endif /* " ++ name ++ " */")
      = some (⟨defined, taken⟩, []) := by
  have hline : "#endif /* " ++ name ++ " */" = "#endif" ++ (" /* " ++ name ++ " */") := by
    simp only [← String.append_assoc]
    rfl
  rw [step, hline, directive?_endif]

/-- A guarded block is entered, read and left. -/
theorem run_guarded (h : ' ' ∉ name.toList) {defined : List String}
    (hrun : (s.enter name).run lines = some (⟨defined, (s.enter name).taken⟩, kept)) :
    s.run (guarded name lines) = some (⟨defined, s.taken⟩, kept) := by
  have hend : run ⟨defined, (s.enter name).taken⟩ ["#endif /* " ++ name ++ " */"]
      = some (⟨defined, s.taken⟩, []) :=
    run_cons (step_endif defined s.taken _ name) []
  unfold guarded
  rw [List.cons_append, run_cons (step_ifndef s h), run_append_of hrun hend]
  simp

/-- Where no lines are kept, balanced lines change nothing. -/
theorem run_dropped (h : Balanced lines) (hs : s.keeps = false) : s.run lines = some (s, []) := by
  induction h generalizing s with
  | nil => rfl
  | @plain line lines hline rest ih =>
      have hstep : s.step line = some (s, []) := by
        rw [step, hline]
        simp [hs]
      rw [run_cons hstep, ih hs]
      rfl
  | @define line name lines hline rest ih =>
      have hstep : s.step line = some (s, []) := by
        rw [step, hline]
        simp [hs]
      rw [run_cons hstep, ih hs]
      rfl
  | @guarded name inner lines hname block rest ihblock ihrest =>
      have hinner : (s.enter name).keeps = false := by
        unfold keeps enter at *
        rw [List.all_cons, hs, Bool.and_false]
      exact run_append_of (run_guarded hname (ihblock hinner)) (ihrest hs)

/-- **A guarded block vanishes once its macro is defined.** -/
theorem run_guarded_of_defined (h : ' ' ∉ name.toList) (hdefined : name ∈ s.defined)
    (hlines : Balanced lines) : s.run (guarded name lines) = some (s, []) := by
  refine run_guarded h (run_dropped hlines ?_)
  simp [keeps, enter, hdefined]

/-- A guarded block is read like any other lines as long as its macro is not defined. -/
theorem run_guarded_of_not_defined (h : ' ' ∉ name.toList) (hdefined : name ∉ s.defined)
    {defined : List String}
    (hrun : run ⟨s.defined, true :: s.taken⟩ lines = some (⟨defined, true :: s.taken⟩, kept)) :
    s.run (guarded name lines) = some (⟨defined, s.taken⟩, kept) := by
  have henter : s.enter name = ⟨s.defined, true :: s.taken⟩ := by
    simp [enter, hdefined]
  refine run_guarded h ?_
  rw [henter]
  exact hrun

end Preprocessor

theorem Balanced.append {lines others : List String} (h : Balanced lines) (h' : Balanced others) :
    Balanced (lines ++ others) := by
  induction h with
  | nil => exact h'
  | plain hline rest ih => exact .plain hline ih
  | define hline rest ih => exact .define hline ih
  | guarded hname block rest ihblock ih =>
      rw [List.append_assoc]
      exact .guarded hname block ih

/-- Lines without directives are balanced. -/
theorem Balanced.of_plain {lines : List String} (h : ∀ line ∈ lines, directive? line = none) :
    Balanced lines := by
  induction lines with
  | nil => exact .nil
  | cons line lines ih =>
      exact .plain (h line List.mem_cons_self) (ih fun l hl => h l (List.mem_cons_of_mem line hl))

end DeviceGen.C
