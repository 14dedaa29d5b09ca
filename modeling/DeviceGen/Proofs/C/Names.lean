/-
Names on lines.

In generated lines a name has a place of its own: behind a directive, between a type and a
semicolon, in front of an equals sign or of a parenthesis, or after the brace that closes a
type.  The first character of a line tells which of these it can be, so at most one of the
readers finds a name on it.  They find a name whole if it has no blank in it, and the name of a
function if it has no parenthesis either.
-/
import DeviceGen.Proofs.C.Conditionals
import DeviceGen.Proofs.C.Identifiers
import DeviceGen.Proofs.C.Typedefs
import DeviceGen.Proofs.Text.Segment

namespace DeviceGen

namespace C

/-! ### Readers -/

/-- The macro that a line asks for or defines. -/
def macro? (line : String) : Option String :=
  match directive? line with
  | some (.ifndef name) => some name
  | some (.define name) => some name
  | some .endif => none
  | none => none

/-- The member that a line of a structure declares. -/
def member? (line : String) : Option String :=
  match line.toList with
  | ' ' :: ' ' :: cs =>
    if cs.getLast? = some ';' then some (String.ofList (Text.charsAfterLast ' ' cs.dropLast))
    else none
  | _ => none

/-- The enumerator that a line of an enumeration declares. -/
def enumerator? (line : String) : Option String :=
  match line.toList with
  | ' ' :: ' ' :: cs =>
    if cs.getLast? = some ',' then some (String.ofList (cs.takeWhile (· ≠ ' '))) else none
  | _ => none

/-- The function that the characters of a line declare or begin to define. -/
def functionChars? : List Char → Option String
  | [] => none
  | c :: cs =>
    if c.isAlpha && cs.contains '(' then
      some (String.ofList (Text.charsAfterLast ' ' ((c :: cs).takeWhile (· ≠ '('))))
    else none

/-- The function that a line declares or begins to define. -/
def function? (line : String) : Option String := functionChars? line.toList

/-- The name that a line introduces. -/
def name? (line : String) : Option String :=
  macro? line <|> Typedef.closing? line <|> member? line <|> enumerator? line <|> function? line

/-- The names that a text introduces, in order; a guard is asked for and then defined. -/
def namesIn (text : String) : List String := (Text.lines text).filterMap name?

/-- The functions that a text declares or defines, in order. -/
def functionsIn (text : String) : List String := (Text.lines text).filterMap function?

/-! ### Lines that a reader passes over -/

section First

variable {line : String} {c : Char}

theorem macro?_eq_none (h : line.toList.head? ≠ some '#') : macro? line = none := by
  unfold macro?
  rw [directive?_none h]

theorem closing?_eq_none (h : line.toList.head? ≠ some '}') : Typedef.closing? line = none := by
  unfold Typedef.closing?
  split
  · next heq =>
      rw [heq] at h
      exact absurd rfl h
  · rfl

theorem member?_eq_none (h : line.toList.head? ≠ some ' ') : member? line = none := by
  unfold member?
  split
  · next heq =>
      rw [heq] at h
      exact absurd rfl h
  · rfl

theorem enumerator?_eq_none (h : line.toList.head? ≠ some ' ') : enumerator? line = none := by
  unfold enumerator?
  split
  · next heq =>
      rw [heq] at h
      exact absurd rfl h
  · rfl

theorem function?_eq_none (h : line.toList.head? = some c) (hc : c.isAlpha = false) :
    function? line = none := by
  obtain ⟨cs, hcs⟩ := List.head?_eq_some_iff.mp h
  unfold function?
  rw [hcs, functionChars?, hc, Bool.false_and]
  rfl

theorem name?_hash (h : line.toList.head? = some '#') : name? line = macro? line := by
  unfold name?
  rw [closing?_eq_none (by simp [h]), member?_eq_none (by simp [h]),
    enumerator?_eq_none (by simp [h]), function?_eq_none h (by decide)]
  cases macro? line <;> rfl

theorem name?_brace (h : line.toList.head? = some '}') : name? line = Typedef.closing? line := by
  unfold name?
  rw [macro?_eq_none (by simp [h]), member?_eq_none (by simp [h]),
    enumerator?_eq_none (by simp [h]), function?_eq_none h (by decide)]
  cases Typedef.closing? line <;> rfl

theorem name?_blank (h : line.toList.head? = some ' ') :
    name? line = (member? line <|> enumerator? line) := by
  unfold name?
  rw [macro?_eq_none (by simp [h]), closing?_eq_none (by simp [h]),
    function?_eq_none h (by decide)]
  cases member? line <;> cases enumerator? line <;> rfl

theorem name?_letter (h : line.toList.head? = some c) (hc : c.isAlpha = true) :
    name? line = function? line := by
  have hne {d : Char} (hd : d.isAlpha = false) : line.toList.head? ≠ some d := by
    rw [h, Ne, Option.some.injEq]
    rintro rfl
    rw [hc] at hd
    cases hd
  unfold name?
  rw [macro?_eq_none (hne (by decide)), closing?_eq_none (hne (by decide)),
    member?_eq_none (hne (by decide)), enumerator?_eq_none (hne (by decide))]
  cases function? line <;> rfl

end First

/-! ### Names that are found -/

variable {name : String}

theorem name?_ifndef (h : ' ' ∉ name.toList) : name? ("#ifndef " ++ name) = some name := by
  rw [name?_hash (by simp), macro?, directive?_ifndef h]

theorem name?_define (h : ' ' ∉ name.toList) {value : String}
    (hvalue : value = "" ∨ value.toList.head? = some ' ') :
    name? ("#define " ++ (name ++ value)) = some name := by
  rw [name?_hash (by simp), macro?, directive?_define h hvalue]

theorem name?_guard (h : ' ' ∉ name.toList) : name? ("#define " ++ name) = some name := by
  have hdefine := name?_define h (Or.inl rfl)
  rwa [String.append_empty] at hdefine

theorem name?_endif (rest : String) : name? ("#endif" ++ rest) = none := by
  rw [name?_hash (by simp), macro?, directive?_endif]

theorem name?_closing (name : String) : name? ("\x7d " ++ name ++ ";") = some name := by
  rw [name?_brace (by simp), Typedef.closing?_name]

theorem member?_declaration (type : String) (h : ' ' ∉ name.toList) :
    member? ("  " ++ type ++ " " ++ name ++ ";") = some name := by
  have hline : ("  " ++ type ++ " " ++ name ++ ";").toList
      = ' ' :: ' ' :: (type.toList ++ ' ' :: name.toList ++ [';']) := by
    simp
  unfold member?
  rw [hline]
  simp only [List.getLast?_concat, List.dropLast_concat, if_pos]
  rw [Text.charsAfterLast_append _ h, String.ofList_toList]

theorem name?_declaration (type : String) (h : ' ' ∉ name.toList) :
    name? ("  " ++ type ++ " " ++ name ++ ";") = some name := by
  rw [name?_blank (by simp), member?_declaration type h]
  rfl

theorem name?_enumerator (value : String) (h : ' ' ∉ name.toList) :
    name? ("  " ++ name ++ " = " ++ value ++ ",") = some name := by
  have hline : ("  " ++ name ++ " = " ++ value ++ ",").toList
      = ' ' :: ' ' :: (name.toList ++ (' ' :: '=' :: ' ' :: value.toList) ++ [',']) := by
    simp
  -- the line ends in a comma, so it declares no member
  have hmember : member? ("  " ++ name ++ " = " ++ value ++ ",") = none := by
    unfold member?
    rw [hline]
    simp only [List.getLast?_concat]
    rfl
  have henumerator : enumerator? ("  " ++ name ++ " = " ++ value ++ ",") = some name := by
    unfold enumerator?
    rw [hline]
    simp only [List.getLast?_concat, if_pos]
    rw [List.append_assoc, List.cons_append, Text.takeWhile_append_separator h,
      String.ofList_toList]
  rw [name?_blank (by simp), hmember, henumerator]
  rfl

/-- The name of a function stands between the type of its result and a parenthesis. -/
theorem function?_append {type : String} {c : Char} (hfirst : type.toList.head? = some c)
    (hc : c.isAlpha = true) (htype : '(' ∉ type.toList) (hblank : ' ' ∉ name.toList)
    (hname : '(' ∉ name.toList) (rest : String) :
    function? (type ++ " " ++ name ++ "(" ++ rest) = some name := by
  obtain ⟨cs, hcs⟩ := List.head?_eq_some_iff.mp hfirst
  have hline : (type ++ " " ++ name ++ "(" ++ rest).toList
      = c :: (cs ++ ' ' :: name.toList ++ '(' :: rest.toList) := by
    simp [hcs]
  have hfront : '(' ∉ type.toList ++ ' ' :: name.toList := by simp [htype, hname]
  have htaken : (c :: (cs ++ ' ' :: name.toList ++ '(' :: rest.toList)).takeWhile (· ≠ '(')
      = type.toList ++ ' ' :: name.toList := by
    rw [← List.cons_append, ← List.cons_append, ← hcs, Text.takeWhile_append_separator hfront]
  unfold function?
  rw [hline, functionChars?, htaken, Text.charsAfterLast_append _ hblank, String.ofList_toList]
  simp [hc]

/-- What stands behind the name of a function in its head. -/
def Routine.parameters (direction : Direction) (message : String) : String :=
  match direction with
  | .pack => "const " ++ message ++ "_t *msg, uint8_t *buf, size_t len)"
  | .unpack => message ++ "_t *msg, const uint8_t *buf, size_t len)"

theorem Routine.head_eq (direction : Direction) (message : String) :
    head direction message
      = "int" ++ " " ++ direction.function message ++ "(" ++ parameters direction message := by
  cases direction with
  | pack =>
      show ("int" ++ " " ++ "pack_") ++ message ++ ("(" ++ "const ") ++ message
        ++ "_t *msg, uint8_t *buf, size_t len)" = _
      simp only [Direction.function, parameters, String.append_assoc]
  | unpack =>
      show ("int" ++ " " ++ "unpack_") ++ message ++ "(" ++ message
        ++ "_t *msg, const uint8_t *buf, size_t len)" = _
      simp only [Direction.function, parameters, String.append_assoc]

theorem name?_head (direction : Direction) {message : String} (h : IsIdentifier message)
    (rest : String) :
    name? (Routine.head direction message ++ rest) = some (direction.function message)
      ∧ function? (Routine.head direction message ++ rest) = some (direction.function message) := by
  have hword := (h.function direction).isWord
  have hline : Routine.head direction message ++ rest = "int" ++ " " ++ direction.function message
      ++ "(" ++ (Routine.parameters direction message ++ rest) := by
    rw [Routine.head_eq, String.append_assoc]
  have hfirst : "int".toList.head? = some 'i' := by decide
  have hfunction := function?_append hfirst (by decide) (by decide) (hword.not_mem (by decide))
    (hword.not_mem (by decide)) (Routine.parameters direction message ++ rest)
  rw [hline]
  refine ⟨?_, hfunction⟩
  rw [name?_letter (c := 'i') (by simp) (by decide), hfunction]

end C

end DeviceGen
