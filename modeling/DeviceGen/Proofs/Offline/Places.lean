/-
Names of files, and what is below the current directory.

A name with slashes leads through directories.  Names that have no empty part and no part
made of dots lead where their parts say, and nowhere else; that is all that is needed of
the texts of paths.  Of a workspace nothing matters but what is below its current
directory (`Workspace.below`): what is found at a place there, what a change leaves
there, and which files are listed.
-/
import DeviceGen.Offline.Directories
import DeviceGen.Proofs.Text.Blank

namespace DeviceGen

namespace Offline

/-! ### Names -/

/-- What stands between the slashes of a name. -/
def components (name : String) : List String := (name.toList.splitOn '/').map String.ofList

/-- A name that the file system accepts for something in a directory. -/
structure IsPlain (name : String) : Prop where
  ne_empty : name ≠ ""
  ne_dot : name ≠ "."
  ne_dots : name ≠ ".."
  noSlash : '/' ∉ name.toList
  noNul : '\x00' ∉ name.toList
  short : name.utf8ByteSize ≤ Workspace.longestName

instance (name : String) : Decidable (IsPlain name) :=
  decidable_of_iff (name ≠ "" ∧ name ≠ "." ∧ name ≠ ".." ∧ '/' ∉ name.toList
      ∧ '\x00' ∉ name.toList ∧ name.utf8ByteSize ≤ Workspace.longestName)
    ⟨fun ⟨h₁, h₂, h₃, h₄, h₅, h₆⟩ => ⟨h₁, h₂, h₃, h₄, h₅, h₆⟩,
      fun h => ⟨h.ne_empty, h.ne_dot, h.ne_dots, h.noSlash, h.noNul, h.short⟩⟩

theorem components_of_noSlash {name : String} (h : '/' ∉ name.toList) : components name = [name] := by
  rw [components, List.splitOn_eq_singleton h, List.map_singleton, String.ofList_toList]

theorem components_behind {directory name : String} (h : '/' ∉ directory.toList) :
    components (directory ++ "/" ++ name) = directory :: components name := by
  have htext : (directory ++ "/" ++ name).toList = directory.toList ++ '/' :: name.toList := by
    simp [String.toList_append]
  rw [components, htext, List.splitOn_append_cons_self_of_not_mem h, List.map_cons,
    String.ofList_toList, components]

/-- A name with a slash has more than one part. -/
theorem components_of_slash {name : String} (h : '/' ∈ name.toList) :
    ∃ first second others, components name = first :: second :: others := by
  obtain ⟨xs, ys, hname⟩ := List.append_of_mem h
  have hsplit : name.toList.splitOn '/' = xs.splitOn '/' ++ ys.splitOn '/' := by
    rw [hname, List.splitOn_append_cons_self]
  rw [components, hsplit]
  cases hxs : xs.splitOn '/' with
  | nil => exact absurd hxs (List.splitOn_ne_nil '/' xs)
  | cons first firsts =>
      cases hrest : firsts ++ ys.splitOn '/' with
      | nil => exact absurd (List.append_eq_nil_iff.mp hrest).2 (List.splitOn_ne_nil '/' ys)
      | cons second others => exact ⟨_, _, _, by rw [List.cons_append, hrest]; rfl⟩

theorem exists_mem_splitOn {separator c : Char} (hc : c ≠ separator) :
    ∀ {cs : List Char}, c ∈ cs → ∃ piece ∈ cs.splitOn separator, c ∈ piece
  | d :: ds, h => by
      rw [List.splitOn_cons_eq_if_modifyHead]
      by_cases hd : d = separator
      · have hmem : c ∈ ds := (List.mem_cons.mp h).resolve_left fun heq => hc (heq.trans hd)
        obtain ⟨piece, hpiece, hin⟩ := exists_mem_splitOn hc hmem
        exact ⟨piece, by simp [hd, hpiece], hin⟩
      · rw [if_neg (by simpa using hd)]
        cases hsplit : ds.splitOn separator with
        | nil => exact absurd hsplit (List.splitOn_ne_nil separator ds)
        | cons first others =>
            rw [List.modifyHead_cons]
            rcases List.mem_cons.mp h with rfl | hmem
            · exact ⟨c :: first, by simp, by simp⟩
            · obtain ⟨piece, hpiece, hin⟩ := exists_mem_splitOn hc hmem
              rw [hsplit] at hpiece
              rcases List.mem_cons.mp hpiece with rfl | hpiece
              · exact ⟨d :: piece, by simp, by simp [hin]⟩
              · exact ⟨piece, by simp [hpiece], hin⟩

/-- What is in a name is in one of its parts, or is a slash. -/
theorem exists_mem_components {name : String} {c : Char} (h : c ∈ name.toList) (hc : c ≠ '/') :
    ∃ part ∈ components name, c ∈ part.toList := by
  obtain ⟨piece, hpiece, hin⟩ := exists_mem_splitOn hc h
  exact ⟨String.ofList piece, List.mem_map.mpr ⟨piece, hpiece, rfl⟩, by rwa [String.toList_ofList]⟩

/-- A text without empty parts starts nowhere but here and ends in its last part. -/
theorem Path.ofString_eq {text : String} (h : ∀ part ∈ components text, part ≠ "") :
    Path.ofString text = ⟨false, components text, false⟩ := by
  have hpieces : [] ∉ text.toList.splitOn '/' := by
    intro hmem
    exact h "" (List.mem_map.mpr ⟨[], hmem, rfl⟩) rfl
  have habsolute : text.toList.head? ≠ some '/' := by
    intro hhead
    obtain ⟨cs, hcs⟩ := List.head?_eq_some_iff.mp hhead
    rw [hcs, List.splitOn_cons_eq_if_modifyHead] at hpieces
    simp at hpieces
  have hdirectory : text.toList.getLast? ≠ some '/' := by
    intro hlast
    obtain ⟨cs, hcs⟩ := List.getLast?_eq_some_iff.mp hlast
    rw [hcs, List.splitOn_append_cons_self] at hpieces
    simp at hpieces
  have hfilter : (text.toList.splitOn '/').filter (!·.isEmpty) = text.toList.splitOn '/' := by
    rw [List.filter_eq_self]
    intro piece hpiece
    cases piece with
    | nil => exact absurd hpiece hpieces
    | cons c cs => rfl
  unfold Path.ofString
  rw [Text.pieces_eq_splitOn, hfilter]
  simp [habsolute, hdirectory, components]

/-- A name is joined to a directory by a slash. -/
theorem Path.join_eq {directory name : String} (hempty : directory ≠ "")
    (hslash : '/' ∉ directory.toList) (hname : ∀ part ∈ components name, part ≠ "") :
    Path.join directory name = directory ++ "/" ++ name := by
  have habsolute : name.toList.head? ≠ some '/' := by
    have hpath := congrArg Path.absolute (Path.ofString_eq hname)
    simpa [Path.ofString] using hpath
  unfold Path.join
  rw [if_neg habsolute]
  cases hlast : directory.toList.getLast? with
  | none =>
      have hnil : directory.toList = [] := List.getLast?_eq_none_iff.mp hlast
      exact absurd (String.toList_inj.mp hnil) hempty
  | some c =>
      obtain ⟨cs, hcs⟩ := List.getLast?_eq_some_iff.mp hlast
      have hc : c ≠ '/' := by
        rintro rfl
        exact hslash (by simp [hcs])
      split
      · rename_i hnone
        cases hnone
      · rename_i hsome
        exact absurd (Option.some.inj hsome) hc
      · rfl

/-! ### What is below the current directory -/

namespace Workspace

/-- An entry as seen from the current directory, if it is below it. -/
def seen (w : Workspace) (e : List String × Entry) : Option (List String × Entry) :=
  if w.isBelowCurrent e.1 then some (e.1.drop w.current.length, e.2) else none

/-- What is below the current directory, with its places as seen from there. -/
def below (w : Workspace) : List (List String × Entry) := w.entries.filterMap w.seen

variable {w : Workspace} {place : List String}

theorem seen_append (hplace : place ≠ []) (entry : Entry) :
    w.seen (w.current ++ place, entry) = some (place, entry) := by
  have hlength : 0 < place.length := List.length_pos_iff.mpr hplace
  simp [seen, isBelowCurrent, hlength]

/-- What is seen at a place is at the place behind the current directory. -/
theorem of_seen {e : List String × Entry} {entry : Entry} (h : w.seen e = some (place, entry)) :
    e = (w.current ++ place, entry) := by
  unfold seen isBelowCurrent at h
  split at h
  · rename_i hbelow
    rw [Bool.and_eq_true, List.isPrefixOf_iff_prefix] at hbelow
    obtain ⟨rest, hrest⟩ := hbelow.1
    cases h
    rw [← hrest, List.drop_left, hrest]
  · cases h

/-- What is at a place below the current directory. -/
theorem entry?_below (hplace : place ≠ []) :
    w.entry? (w.current ++ place) = w.below.lookup place := by
  unfold entry? below
  rw [if_neg (by simp [hplace])]
  induction w.entries with
  | nil => rfl
  | cons e entries ih =>
      by_cases hhere : e.1 = w.current ++ place
      · obtain ⟨here, entry⟩ := e
        obtain rfl : here = w.current ++ place := hhere
        rw [List.lookup_cons_self, List.filterMap_cons_some (seen_append hplace entry),
          List.lookup_cons_self]
      · have hskip : (e :: entries).lookup (w.current ++ place)
            = entries.lookup (w.current ++ place) := by
          rw [List.lookup_cons, beq_false_of_ne (Ne.symm hhere)]
        rw [hskip, ih]
        cases hseen : w.seen e with
        | none => rw [List.filterMap_cons_none hseen]
        | some p =>
            obtain ⟨place', entry⟩ := p
            have hne : place ≠ place' := by
              rintro rfl
              exact hhere (congrArg Prod.fst (of_seen hseen))
            rw [List.filterMap_cons_some hseen, List.lookup_cons, beq_false_of_ne hne]

/-- Something new below the current directory comes behind everything else there. -/
theorem below_put (hplace : place ≠ []) (hnew : w.below.lookup place = none) (entry : Entry) :
    (w.put (w.current ++ place) entry).below = w.below ++ [(place, entry)] := by
  have hall : ∀ e ∈ w.entries, decide (e.1 ≠ w.current ++ place) = true := by
    rw [← entry?_below hplace, entry?, if_neg (by simp [hplace]), List.lookup_eq_none_iff] at hnew
    intro e he
    have hne := hnew e he
    rw [bne_iff_ne] at hne
    exact decide_eq_true (Ne.symm hne)
  show (w.entries.filter (·.1 ≠ w.current ++ place) ++ [(w.current ++ place, entry)]).filterMap
    w.seen = _
  rw [List.filter_eq_self.mpr hall, List.filterMap_append,
    List.filterMap_cons_some (seen_append hplace entry), List.filterMap_nil]
  rfl

/-- An entry with its bytes, if it is a file. -/
def fileOf : List String × Entry → Option (List String × List UInt8)
  | (place, .file bytes) => some (place, bytes)
  | (_, .directory) => none

/-- The files that are listed are those below the current directory. -/
theorem files_eq (w : Workspace) : w.files = w.below.filterMap fileOf := by
  unfold files below
  rw [List.filterMap_filterMap]
  congr 1
  funext ⟨place, entry⟩
  by_cases hbelow : w.isBelowCurrent place
  · cases entry <;> simp [seen, hbelow, fileOf]
  · cases entry <;> simp [seen, hbelow]

/-! ### Where paths lead -/

theorem child_plain {directory : List String} {name : String} (h : IsPlain name) :
    child directory name = directory ++ [name] := by
  rw [child, if_neg h.ne_dot, if_neg h.ne_dots]

theorem enter_directory {name : String} (h : IsPlain name)
    (hdirectory : w.below.lookup (place ++ [name]) = some .directory) :
    w.enter (w.current ++ place) name = .ok (w.current ++ (place ++ [name])) := by
  have hentry : w.entry? (w.current ++ (place ++ [name])) = some .directory :=
    (entry?_below (by simp)).trans hdirectory
  rw [enter, if_neg (Nat.not_lt.mpr h.short), child_plain h, List.append_assoc]
  simp only [hentry]

theorem enter_missing {name : String} (h : IsPlain name)
    (hmissing : w.below.lookup (place ++ [name]) = none) :
    w.enter (w.current ++ place) name = .error .notFound := by
  have hentry : w.entry? (w.current ++ (place ++ [name])) = none :=
    (entry?_below (by simp)).trans hmissing
  rw [enter, if_neg (Nat.not_lt.mpr h.short), child_plain h, List.append_assoc]
  simp only [hentry]

theorem enter_current {name : String} (h : IsPlain name)
    (hdirectory : w.below.lookup [name] = some .directory) :
    w.enter w.current name = .ok (w.current ++ [name]) := by
  have henter : w.enter (w.current ++ []) name = .ok (w.current ++ ([] ++ [name])) :=
    enter_directory h hdirectory
  rwa [List.append_nil, List.nil_append] at henter

/-- A plain name leads to a place in the current directory. -/
theorem resolve_plain {name : String} (h : IsPlain name) :
    w.resolve ⟨false, [name], false⟩ = .ok (w.current ++ [name]) := by
  have hshort : ¬ longestName < name.utf8ByteSize := Nat.not_lt.mpr h.short
  simp [resolve, walk, start, bind, Except.bind, pure, Except.pure, hshort, child_plain h]

/-- Two plain names lead to a place in a directory, if the first is one. -/
theorem resolve_inside {out name : String} (hout : IsPlain out) (h : IsPlain name)
    (hdirectory : w.below.lookup [out] = some .directory) :
    w.resolve ⟨false, [out, name], false⟩ = .ok (w.current ++ [out, name]) := by
  have henter := enter_current hout hdirectory
  have hshort : ¬ longestName < name.utf8ByteSize := Nat.not_lt.mpr h.short
  simp [resolve, walk, start, bind, Except.bind, pure, Except.pure, henter, hshort, child_plain h]

/-- More names lead nowhere if there is nothing under the second. -/
theorem resolve_deeper {out first second : String} {others : List String} (hout : IsPlain out)
    (h : IsPlain first) (hdirectory : w.below.lookup [out] = some .directory)
    (hmissing : w.below.lookup [out, first] = none) :
    w.resolve ⟨false, out :: first :: second :: others, false⟩ = .error .notFound := by
  have henter := enter_current hout hdirectory
  have hstop : w.enter (w.current ++ [out]) first = .error .notFound :=
    enter_missing h hmissing
  cases hlast : (second :: others).getLast? with
  | none => simp at hlast
  | some last => simp [resolve, walk, start, bind, Except.bind, henter, hstop, hlast]

end Workspace

end Offline

end DeviceGen
