/-
Texts cut at a separator.

What has no separator in it is found again in front of the first one and behind the last one.
What follows the last separator and what goes up to it are together the whole text, and a part
without a separator that is put behind a text changes the first of them and not the second.
-/
import DeviceGen.Text.Segment

namespace DeviceGen.Text

/-- Everything up to the last `separator` and with it, or nothing if there is none. -/
def charsThroughLast (separator : Char) (cs : List Char) : List Char :=
  (cs.reverse.dropWhile (· ≠ separator)).reverse

/-- A text up to the last `separator` and with it, or nothing if there is none. -/
def throughLast (separator : Char) (text : String) : String :=
  String.ofList (charsThroughLast separator text.toList)

variable {separator : Char} {name : List Char}

theorem forall_ne_separator (h : separator ∉ name) :
    ∀ c ∈ name, decide (c ≠ separator) = true := by
  intro c hc
  rw [decide_eq_true_eq]
  rintro rfl
  exact h hc

/-! ### The first separator -/

theorem takeWhile_append_separator (h : separator ∉ name) (cs : List Char) :
    (name ++ separator :: cs).takeWhile (· ≠ separator) = name := by
  rw [List.takeWhile_append_of_pos (forall_ne_separator h)]
  simp

/-! ### The last separator -/

private theorem reverse_ne_separator (h : separator ∉ name) :
    ∀ c ∈ name.reverse, decide (c ≠ separator) = true :=
  forall_ne_separator (mt List.mem_reverse.mp h)

theorem charsAfterLast_append (cs : List Char) (h : separator ∉ name) :
    charsAfterLast separator (cs ++ separator :: name) = name := by
  unfold charsAfterLast
  rw [List.reverse_append, List.reverse_cons, List.append_assoc,
    List.takeWhile_append_of_pos (reverse_ne_separator h)]
  simp

/-- What has no separator in it does not get in front of the last one. -/
theorem charsThroughLast_append (cs : List Char) (h : separator ∉ name) :
    charsThroughLast separator (cs ++ name) = charsThroughLast separator cs := by
  unfold charsThroughLast
  rw [List.reverse_append, List.dropWhile_append_of_pos (reverse_ne_separator h)]

theorem throughLast_append (text : String) {tail : String} (h : separator ∉ tail.toList) :
    throughLast separator (text ++ tail) = throughLast separator text := by
  unfold throughLast
  rw [String.toList_append, charsThroughLast_append _ h]

/-- The two parts of a text that is cut at its last separator. -/
theorem throughLast_append_afterLast (separator : Char) (text : String) :
    throughLast separator text ++ afterLast separator text = text := by
  unfold throughLast afterLast charsThroughLast charsAfterLast
  rw [← String.ofList_append, ← List.reverse_append, List.takeWhile_append_dropWhile,
    List.reverse_reverse, String.ofList_toList]

theorem mem_of_mem_afterLast {text : String} {c : Char}
    (h : c ∈ (afterLast separator text).toList) : c ∈ text.toList := by
  unfold afterLast charsAfterLast at h
  rw [String.toList_ofList, List.mem_reverse] at h
  exact List.mem_reverse.mp ((List.takeWhile_sublist _).mem h)

theorem mem_of_mem_beforeEnding {ending text : String} {c : Char}
    (h : c ∈ (beforeEnding ending text).toList) : c ∈ text.toList := by
  unfold beforeEnding charsBeforeEnding at h
  rw [String.toList_ofList] at h
  split at h
  · exact List.mem_of_mem_take h
  · exact h

end DeviceGen.Text
