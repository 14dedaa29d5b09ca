/-
What a parameter says.

The entries that are not blank are read one by one, each for itself: an entry chooses something, or
there is one thing to say against it (`outcome_verdict`).  What they choose is laid on top of the
default in order.  An entry that chooses something else, or nothing, leaves a choice as it is, so
the last entry that makes the choice decides it (`decides_foldl`), however many there are before it
and whatever comes after.
-/
import Mathlib.Data.List.Forall2
import Mathlib.Data.List.ReduceOption
import DeviceGen.Proofs.Options.Patterns

namespace DeviceGen.Options

open DeviceGen.Text (pieces_eq_splitOn trim)

/-! ### Single entries -/

/-- The entry chooses something. -/
inductive Chooses : List Char → Setting → Prop where
  | clientModule {entry : List Char} {path : String}
    (hreads : Reads entry "client_module" (some path)) (hne : path ≠ "")
    (hchars : ∀ c ∈ path.toList, isPathChar c = true) :
    Chooses entry (.clientModule path)
  | keep {entry : List Char} (hreads : Reads entry "keep_case" none) :
    Chooses entry (.keepCase true)
  | keepTrue {entry : List Char} (hreads : Reads entry "keep_case" (some "true")) :
    Chooses entry (.keepCase true)
  | keepFalse {entry : List Char} (hreads : Reads entry "keep_case" (some "false")) :
    Chooses entry (.keepCase false)

/-- What there is to say against an entry.  The key is shown if nothing is known by it, and else the
whole entry. -/
inductive Draws : List Char → Complaint → Prop where
  | malformed {entry : List Char} (hreads : ∀ key value, ¬ Reads entry key value) :
    Draws entry (.malformed (String.ofList entry))
  | noModulePath {entry : List Char} {value : Option String}
    (hreads : Reads entry "client_module" value)
    (hnone : ∀ path, ¬ Chooses entry (.clientModule path)) :
    Draws entry (.noModulePath (String.ofList entry))
  | noTruthValue {entry : List Char} {value : Option String}
    (hreads : Reads entry "keep_case" value)
    (hnone : ∀ keep, ¬ Chooses entry (.keepCase keep)) :
    Draws entry (.noTruthValue (String.ofList entry))
  | unknownKey {entry : List Char} {key : String} {value : Option String}
    (hreads : Reads entry key value) (hmodule : key ≠ "client_module") (hkeep : key ≠ "keep_case") :
    Draws entry (.unknownKey key)

/-- An entry chooses something, or it does not and there is one thing to say against it. -/
inductive Outcome : List Char → Option Complaint → Prop where
  | chosen {entry : List Char} {setting : Setting} (h : Chooses entry setting) : Outcome entry none
  | rejected {entry : List Char} {complaint : Complaint}
    (hnone : ∀ setting, ¬ Chooses entry setting) (h : Draws entry complaint) :
    Outcome entry (some complaint)

theorem isModulePath_toList_iff {path : String} :
    isModulePath path.toList = true ↔ path ≠ "" ∧ ∀ c ∈ path.toList, isPathChar c = true := by
  simp [isModulePath]

/-- The verdict on an entry that reads as a key and a value. -/
theorem Reads.verdict_eq {entry : List Char} {key : String} {value : Option String}
    (h : Reads entry key value) : verdict entry = setting (String.ofList entry) key value := by
  rw [verdict, assignment?_eq_some_iff.mpr h]

/-- The verdict on an entry says what it chooses. -/
theorem verdict_eq_ok_iff {entry : List Char} {s : Setting} :
    verdict entry = .ok s ↔ Chooses entry s := by
  constructor
  · intro h
    cases hread : assignment? entry with
    | none =>
        rw [verdict, hread] at h
        cases h
    | some pair =>
        obtain ⟨key, value⟩ := pair
        have hreads := assignment?_eq_some_iff.mp hread
        rw [hreads.verdict_eq] at h
        unfold setting at h
        split at h
        · split at h
          · cases h
            rename_i hpath
            obtain ⟨hne, hchars⟩ := isModulePath_toList_iff.mp hpath
            exact .clientModule hreads hne hchars
          · cases h
        · cases h
        · cases h
          exact .keep hreads
        · cases h
          exact .keepTrue hreads
        · cases h
          exact .keepFalse hreads
        · cases h
        · cases h
  · intro h
    cases h with
    | clientModule hreads hne hchars =>
        rw [hreads.verdict_eq]
        exact if_pos (isModulePath_toList_iff.mpr ⟨hne, hchars⟩)
    | keep hreads => exact hreads.verdict_eq
    | keepTrue hreads => exact hreads.verdict_eq
    | keepFalse hreads => exact hreads.verdict_eq

/-- A verdict against an entry says what there is to say against it. -/
theorem draws_of_verdict {entry : List Char} {c : Complaint} (h : verdict entry = .error c) :
    Draws entry c := by
  have hnone : ∀ s, ¬ Chooses entry s := by
    intro s hs
    rw [verdict_eq_ok_iff.mpr hs] at h
    cases h
  cases hread : assignment? entry with
  | none =>
      rw [verdict, hread] at h
      cases h
      refine .malformed fun key value hreads => ?_
      rw [assignment?_eq_some_iff.mpr hreads] at hread
      cases hread
  | some pair =>
      obtain ⟨key, value⟩ := pair
      have hreads := assignment?_eq_some_iff.mp hread
      rw [hreads.verdict_eq] at h
      by_cases hmodule : key = "client_module"
      · subst hmodule
        have hc : c = .noModulePath (String.ofList entry) := by
          unfold setting at h
          cases value with
          | none => exact (Except.error.inj h).symm
          | some path =>
              by_cases hpath : isModulePath path.toList = true
              · simp [hpath] at h
              · simpa [hpath] using h.symm
        rw [hc]
        exact .noModulePath hreads fun path => hnone (.clientModule path)
      · by_cases hkeep : key = "keep_case"
        · subst hkeep
          have hc : c = .noTruthValue (String.ofList entry) := by
            cases value with
            | none => cases h
            | some text =>
                unfold setting at h
                split at h <;> simp_all
          rw [hc]
          exact .noTruthValue hreads fun keep => hnone (.keepCase keep)
        · have hc : c = .unknownKey key := by
            simpa [setting, hmodule, hkeep] using h.symm
          rw [hc]
          exact .unknownKey hreads hmodule hkeep

/-- Each entry comes to an outcome. -/
theorem outcome_verdict (entry : List Char) :
    Outcome entry (match verdict entry with | .error c => some c | .ok _ => none) := by
  cases h : verdict entry with
  | ok s => exact .chosen (verdict_eq_ok_iff.mp h)
  | error c =>
      refine .rejected (fun s hs => ?_) (draws_of_verdict h)
      rw [verdict_eq_ok_iff.mpr hs] at h
      cases h

/-! ### Choices -/

/-- What decides between choices: the last entry that makes one, or else the default. -/
inductive Decides {α : Type} (chooses : List Char → α → Prop) (otherwise : α) :
    List (List Char) → α → Prop where
  | last {before after : List (List Char)} {entry : List Char} {a : α} (h : chooses entry a)
    (hafter : ∀ other ∈ after, ∀ b, ¬ chooses other b) :
    Decides chooses otherwise (before ++ entry :: after) a
  | otherwise {entries : List (List Char)} (hnone : ∀ entry ∈ entries, ∀ a, ¬ chooses entry a) :
    Decides chooses otherwise entries otherwise

/-- An entry that makes no choice decides nothing. -/
theorem Decides.concat {α : Type} {chooses : List Char → α → Prop} {otherwise a : α}
    {entries : List (List Char)} {entry : List Char} (h : Decides chooses otherwise entries a)
    (hentry : ∀ b, ¬ chooses entry b) : Decides chooses otherwise (entries ++ [entry]) a := by
  cases h with
  | last h hafter =>
      rw [List.append_assoc, List.cons_append]
      refine .last h fun other hother => ?_
      rcases List.mem_append.mp hother with hother | hother
      · exact hafter other hother
      · rwa [List.mem_singleton.mp hother]
  | otherwise hnone =>
      refine .otherwise fun other hother => ?_
      rcases List.mem_append.mp hother with hother | hother
      · exact hnone other hother
      · rwa [List.mem_singleton.mp hother]

/-- The last entry that makes a choice decides it, if no other setting changes what was chosen. -/
theorem decides_foldl {α : Type} {get : Options → α} {put : α → Setting}
    (hput : ∀ options a, get (choose options (put a)) = a)
    (hother : ∀ options s, (∀ a, s ≠ put a) → get (choose options s) = get options)
    (entries : List (List Char)) :
    Decides (fun entry a => Chooses entry (put a)) (get default) entries
      (get ((entries.filterMap fun entry => (verdict entry).toOption).foldl choose default)) := by
  induction entries using List.reverseRecOn with
  | nil => exact .otherwise (by simp)
  | append_singleton entries entry ih =>
      rw [List.filterMap_append, List.foldl_append]
      cases hverdict : verdict entry with
      | error c =>
          have hnone : ∀ a, ¬ Chooses entry (put a) := by
            intro a ha
            rw [verdict_eq_ok_iff.mpr ha] at hverdict
            cases hverdict
          have hstep (options : Options) :
              ([entry].filterMap fun entry => (verdict entry).toOption).foldl choose options
                = options := by simp [hverdict, Except.toOption]
          rw [hstep]
          exact ih.concat hnone
      | ok s =>
          have hstep (options : Options) :
              ([entry].filterMap fun entry => (verdict entry).toOption).foldl choose options
                = choose options s := by simp [hverdict, Except.toOption]
          rw [hstep]
          by_cases hs : ∃ a, s = put a
          · obtain ⟨a, rfl⟩ := hs
            rw [hput]
            exact .last (verdict_eq_ok_iff.mp hverdict) (by simp)
          · have hnone : ∀ a, ¬ Chooses entry (put a) := by
              intro a ha
              rw [verdict_eq_ok_iff.mpr ha] at hverdict
              exact hs ⟨a, (Except.ok.inj hverdict).symm⟩
            rw [hother _ s (not_exists.mp hs)]
            exact ih.concat hnone

/-! ### Parameters -/

/-- **A parameter is read entry by entry.**  Matching the entries one after another with the pattern
comes to the options and complaints of the parameter.  The pattern finds a key and a value in an
entry iff the entry reads as them.  The last entry that chooses a module decides which it is, and
the last one that chooses a truth value decides about the keys.  Each entry has an outcome, and the
complaints are those among the outcomes, in order. -/
theorem parameter_grammar (parameter : String) :
    matchAll parameter = (ofParameter (some parameter), complaints (some parameter))
      ∧ (∀ entry key value, captures? entry = some (key, value) ↔ Reads entry key value)
      ∧ Decides (fun entry path => Chooses entry (.clientModule path)) "../mqclient"
        (parts parameter) (ofParameter (some parameter)).clientModule
      ∧ Decides (fun entry keep => Chooses entry (.keepCase keep)) false
        (parts parameter) (ofParameter (some parameter)).keepCase
      ∧ ∃ outcomes, List.Forall₂ Outcome (parts parameter) outcomes
        ∧ complaints (some parameter) = outcomes.reduceOption := by
  have hentries : entries (some parameter) = parts parameter := entries_eq parameter
  refine ⟨matchAll_eq parameter, fun entry key value => captures?_eq_some_iff, ?_, ?_, ?_⟩
  · rw [ofParameter, settings, hentries]
    refine @decides_foldl String Options.clientModule .clientModule (fun _ _ => rfl)
      (fun options s hs => ?_) (parts parameter)
    cases s with
    | clientModule path => exact absurd rfl (hs path)
    | keepCase keep => rfl
  · rw [ofParameter, settings, hentries]
    refine @decides_foldl Bool Options.keepCase .keepCase (fun _ _ => rfl)
      (fun options s hs => ?_) (parts parameter)
    cases s with
    | clientModule path => rfl
    | keepCase keep => exact absurd rfl (hs keep)
  · refine ⟨(parts parameter).map fun entry =>
      match verdict entry with | .error c => some c | .ok _ => none, ?_, ?_⟩
    · rw [List.forall₂_map_right_iff, List.forall₂_same]
      exact fun entry _ => outcome_verdict entry
    · rw [complaints, hentries, List.reduceOption, List.filterMap_map]
      rfl

example : matchAll "client_module\u3000= a/b\t,colour=blue,keep_case==,\u00a0, keep_case"
    = (⟨"a/b", true⟩, [.unknownKey "colour", .noTruthValue "keep_case=="]) := by decide +kernel

end DeviceGen.Options
