/-
Requests that come in two parts.

Bytes of two requests one after the other are bytes of a request: the files of both are
there, in order, and of the parameter and of each component of the version the later one
counts.  The version is checked only once everything is read.  So it is the merged version
that may be too old, and a part that would be refused alone may well be accepted with
another one behind it, or spoil one before it.
-/
import DeviceGen.Proofs.Descriptor.Merge
import DeviceGen.Proofs.Request.RoundTrip

namespace DeviceGen

open DeviceGen.Descriptor (Data Version)

/-- An earlier version with the components that a later one gives. -/
def Descriptor.Version.merge : Version → Version → Version
  | .field (.optional major) (.field (.optional minor) (.field (.optional patch)
      (.field (.optional suffix) .empty))),
    .field (.optional major') (.field (.optional minor') (.field (.optional patch')
      (.field (.optional suffix') .empty))) =>
    .field (.optional (major' <|> major)) (.field (.optional (minor' <|> minor))
      (.field (.optional (patch' <|> patch)) (.field (.optional (suffix' <|> suffix)) .empty)))

/-- A version is there if one of two is, and merged if both are. -/
def Descriptor.Version.merge? : Option Version → Option Version → Option Version
  | none, later => later
  | some earlier, none => some earlier
  | some earlier, some later => some (earlier.merge later)

namespace Request

theorem read_eq_ok_iff {bytes : List UInt8} {request : Descriptor.Request} :
    read bytes = .ok request ↔ Descriptor.decode .request bytes = .ok request := by
  unfold read
  cases Descriptor.decode .request bytes with
  | error failure => exact ⟨fun h => (nomatch h), fun h => (nomatch h)⟩
  | ok r => exact ⟨fun h => congrArg _ (Except.ok.inj h), fun h => congrArg _ (Except.ok.inj h)⟩

/-- A request that was read passes the check iff it names no compiler that is too old. -/
theorem decode_eq_ok_iff_of_read {bytes : List UInt8} {request : Descriptor.Request}
    (h : read bytes = .ok request) :
    decode bytes = .ok request ↔ ∀ version ∈ request.version?, 3 ≤ version.major := by
  rw [decode_eq_of_read (read_eq_ok_iff.mp h)]
  exact ⟨fun hcheck => (of_checkVersion_ok hcheck).2, checkVersion_ok⟩

/-! ### Merged requests -/

theorem selected_merge : ∀ r s : Descriptor.Request,
    Descriptor.Request.selected (Data.merge r s) = r.selected ++ s.selected
  | .field (.list _) _, .field (.list _) _ => rfl

theorem parameter_merge : ∀ r s : Descriptor.Request,
    Descriptor.Request.parameter (Data.merge r s) = (s.parameter <|> r.parameter)
  | .field _ (.field (.optional _) _), .field _ (.field (.optional _) _) => rfl

theorem merge_version : ∀ v w : Version, Data.merge v w = v.merge w
  | .field (.optional _) (.field (.optional _) (.field (.optional _) (.field (.optional _) .empty))),
    .field (.optional _) (.field (.optional _) (.field (.optional _) (.field (.optional _) .empty))) =>
    rfl

theorem version?_merge : ∀ r s : Descriptor.Request,
    Descriptor.Request.version? (Data.merge r s) = Version.merge? r.version? s.version?
  | .field _ (.field _ (.field .absent _)), .field _ (.field _ (.field _ _)) => rfl
  | .field _ (.field _ (.field (.present _) _)), .field _ (.field _ (.field .absent _)) => rfl
  | .field _ (.field _ (.field (.present v) _)), .field _ (.field _ (.field (.present w) _)) =>
    congrArg some (merge_version v w)

theorem files_merge : ∀ r s : Descriptor.Request,
    Descriptor.Request.files (Data.merge r s) = r.files ++ s.files
  | .field _ (.field _ (.field _ (.field files _))), .field _ (.field _ (.field _ (.field others _))) =>
    Data.records_merge files others

/-- **Two requests one after the other are read as one request**, with the files of both and
of everything else what came last; and it is accepted iff the version that comes out is not
too old. -/
theorem decode_concatenated {xs ys : List UInt8} {r s : Descriptor.Request}
    (hx : read xs = .ok r) (hy : read ys = .ok s) :
    ∃ both, read (xs ++ ys) = .ok both
      ∧ both.selected = r.selected ++ s.selected
      ∧ both.files = r.files ++ s.files
      ∧ both.parameter = (s.parameter <|> r.parameter)
      ∧ both.version? = Version.merge? r.version? s.version?
      ∧ (decode (xs ++ ys) = .ok both ↔ ∀ version ∈ both.version?, 3 ≤ version.major) := by
  have hboth : read (xs ++ ys) = .ok (Data.merge r s) :=
    read_eq_ok_iff.mpr
      (Descriptor.decode_append (by decide) (read_eq_ok_iff.mp hx) (read_eq_ok_iff.mp hy))
  exact ⟨Data.merge r s, hboth, selected_merge r s, files_merge r s, parameter_merge r s,
    version?_merge r s, decode_eq_ok_iff_of_read hboth⟩

/-- A request of version 2.9 for the file `a`, with a parameter. -/
def earlyPart : Descriptor.Request :=
  .field (.list ["a"]) (.field (.optional (some "p")) (.field
    (.present (.field (.optional (some 2)) (.field (.optional (some 9))
      (.field (.optional none) (.field (.optional none) .empty)))))
    (.field .nil .empty)))

/-- A request for the file `b`, of which only the first component of a version is known. -/
def latePart : Descriptor.Request :=
  .field (.list ["b"]) (.field (.optional none) (.field
    (.present (.field (.optional (some 3)) (.field (.optional none)
      (.field (.optional none) (.field (.optional none) .empty)))))
    (.field .nil .empty)))

/-- The first part alone is refused, and both together are a request of version 3.9. -/
theorem decode_concatenated_parts :
    read [0x0a, 1, 0x61, 0x12, 1, 0x70, 0x1a, 4, 8, 2, 16, 9] = .ok earlyPart
      ∧ read [0x0a, 1, 0x62, 0x1a, 2, 8, 3] = .ok latePart
      ∧ decode [0x0a, 1, 0x61, 0x12, 1, 0x70, 0x1a, 4, 8, 2, 16, 9]
        = .error (.unsupportedVersion 2 9 0)
      ∧ ∃ both, decode ([0x0a, 1, 0x61, 0x12, 1, 0x70, 0x1a, 4, 8, 2, 16, 9]
          ++ [0x0a, 1, 0x62, 0x1a, 2, 8, 3]) = .ok both
        ∧ both.selected = ["a", "b"] ∧ both.parameter = some "p"
        ∧ both.version?.map Version.minor = some 9 := by
  have hearly : read [0x0a, 1, 0x61, 0x12, 1, 0x70, 0x1a, 4, 8, 2, 16, 9] = .ok earlyPart := by
    rfl
  have hlate : read [0x0a, 1, 0x62, 0x1a, 2, 8, 3] = .ok latePart := by rfl
  obtain ⟨both, -, hselected, -, hparameter, hversion, hdecode⟩ :=
    decode_concatenated hearly hlate
  refine ⟨hearly, hlate, by rfl, both, hdecode.mpr ?_, hselected, hparameter, ?_⟩
  · rw [hversion]
    decide
  · rw [hversion]
    decide

end Request

end DeviceGen
