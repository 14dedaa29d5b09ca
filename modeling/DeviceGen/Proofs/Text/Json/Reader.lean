/-
A reader of JSON.

The reader goes through a text from the front, and what it finds is what the grammar says that
the text is: every document, however it is written, and nothing else (`read_eq_some_iff`).  So a
text is never two documents.

Documents are read with a number of levels that they may be nested, and the law for each number
follows from that for one less.  As each level has brackets of its own, no document is nested
deeper than it has characters (`IsNested.of_length_lt`).
-/
import DeviceGen.Proofs.Text.Json.Scalar

namespace DeviceGen.Text.Json

open Reader

variable {α : Type} {g g' : Grammar α} {closing : Char}

/-! ### Documents inside documents

What is written in one way is written in another if everything inside is; and everything inside
is shorter by the brackets at least. -/

theorem IsPiece.mono {a : α} {cs : List Char} (h : IsPiece g a cs)
    (hg : ∀ v, v.length ≤ cs.length → g a v → g' a v) : IsPiece g' a cs := by
  obtain ⟨hwritten, hblank⟩ := h
  refine .mk (hg _ ?_ hwritten) hblank
  rw [List.length_append]
  omega

theorem IsSeparated.mono {as : List α} {cs : List Char} (h : IsSeparated g closing as cs)
    (hg : ∀ a v, v.length < cs.length → g a v → g' a v) : IsSeparated g' closing as cs := by
  induction h with
  | last piece =>
      refine .last (piece.mono fun v hv => hg _ v ?_)
      rw [List.length_append, List.length_singleton]
      omega
  | more piece blank rest ih =>
      simp only [List.length_append, List.length_cons] at hg
      refine .more (piece.mono fun v hv => hg _ v ?_) blank (ih fun a v hv => hg a v ?_)
      · omega
      · omega

theorem IsList.mono {opening : Char} {as : List α} {cs : List Char}
    (h : IsList opening closing g as cs) (hg : ∀ a v, v.length < cs.length → g a v → g' a v) :
    IsList opening closing g' as cs := by
  cases h with
  | empty blank => exact .empty blank
  | filled blank separated =>
      refine .filled blank (separated.mono fun a v hv => hg a v ?_)
      simp only [List.length_append, List.length_cons]
      omega

variable {w w' : Grammar Document}

theorem IsMember.mono {member : String × Document} {cs : List Char} (h : IsMember w member cs)
    (hw : ∀ d v, v.length ≤ cs.length → w d v → w' d v) : IsMember w' member cs := by
  obtain ⟨key, blank, hvalue⟩ := h
  refine .mk key blank (hw _ _ ?_ hvalue)
  simp only [List.length_append, List.length_cons]
  omega

theorem IsMade.mono {d : Document} {cs : List Char} (h : IsMade w d cs)
    (hw : ∀ d v, v.length < cs.length → w d v → w' d v) : IsMade w' d cs := by
  cases h with
  | null => exact .null
  | true => exact .true
  | false => exact .false
  | number isNumber => exact .number isNumber
  | text isText => exact .text isText
  | array isList => exact .array (isList.mono hw)
  | object isList =>
      exact .object (isList.mono fun _ v hv hmember => hmember.mono fun d u hu =>
        hw d u (Nat.lt_of_le_of_lt hu hv))

/-- A document is not nested deeper than it has characters. -/
theorem IsNested.of_length_lt {depth : Nat} {d : Document} {cs : List Char}
    (h : IsNested depth d cs) {levels : Nat} (hlevels : cs.length < levels) :
    IsNested levels d cs := by
  induction levels generalizing depth d cs with
  | zero => exact absurd hlevels (Nat.not_lt_zero _)
  | succ levels ih =>
      cases depth with
      | zero => exact h.elim
      | succ depth => exact IsMade.mono h fun d v hv hd => ih hd (by omega)

/-- **A document is made up of documents.** -/
theorem isValue_iff {d : Document} {cs : List Char} : IsValue d cs ↔ IsMade IsValue d cs := by
  constructor
  · rintro ⟨_ | depth, h⟩
    · exact h.elim
    · exact h.mono fun d v _ hd => ⟨depth, hd⟩
  · intro h
    exact ⟨cs.length + 1, h.mono fun d v hv ⟨depth, hd⟩ => hd.of_length_lt hv⟩

/-! ### Arrays and objects -/

/-- Things with commas between them, and the bracket behind the last one. -/
def separatedWithin (thing : Reader α) (closing : Char) : (turns : Nat) → Reader (List α)
  | 0 => failure
  | turns + 1 => do
    let a ← piece thing
    ifNext (· = ',')
      (do
        word [',']
        skipBlanks
        let as ← separatedWithin thing closing turns
        return a :: as)
      (do word [closing]; return [a])

/-- Any number of things between brackets. -/
def list (opening closing : Char) (thing : Reader α) : Reader (List α) := do
  word [opening]
  skipBlanks
  ifNext (· = closing) (do word [closing]; return []) (unbounded (separatedWithin thing closing))

/-- A key and what stands under it. -/
def member (thing : Reader Document) : Reader (String × Document) := do
  let key ← piece quoted
  word [':']
  skipBlanks
  let d ← thing
  return (key, d)

/-- What is behind blanks. -/
theorem exact_afterBlanks {r : Reader α} {next : Option Char → Prop} (hr : r.Exact g next)
    (hstarts : ∀ a cs, g a cs → ∃ c others, cs = c :: others ∧ isBlank c = false) :
    (do skipBlanks; r : Reader α).Exact
      (fun a cs => ∃ blanks back, AreBlank blanks ∧ g a back ∧ cs = blanks ++ back) next := by
  refine (exact_skipBlanks.bind (fun _ => hr) ?_).congr fun a cs => ⟨?_, ?_⟩
  · rintro _ a cs rest ha -
    obtain ⟨c, others, rfl, hc⟩ := hstarts a cs ha
    exact noNext_cons hc _
  · rintro ⟨_, blanks, back, hblanks, ha, rfl⟩
    exact ⟨blanks, back, hblanks, ha, rfl⟩
  · rintro ⟨blanks, back, hblanks, ha, rfl⟩
    exact ⟨(), blanks, back, hblanks, ha, rfl⟩

/-- The first character of something that stands in a list. -/
def startsThing (c : Char) : Bool := !isBlank c && c ≠ ']' && c ≠ '\x7d'

/-- Everything that is written starts with a character that can start something in a list. -/
def Starts (g : Grammar α) : Prop :=
  ∀ a cs, g a cs → ∃ c others, cs = c :: others ∧ startsThing c = true

/-- A character that is neither a blank nor belongs to a number. -/
def endsThing : Option Char → Prop := fun next => noNext isNumeric next ∧ noNext isBlank next

theorem isNumeric_of_isBlank {c : Char} (h : isBlank c = true) : isNumeric c = false := by
  simp only [isBlank, Bool.or_eq_true, decide_eq_true_eq] at h
  rcases h with ((rfl | rfl) | rfl) | rfl <;> decide

theorem exact_thing {thing : Reader α} (hthing : thing.Exact g (noNext isNumeric)) :
    (piece thing).Exact (IsPiece g) endsThing :=
  exact_piece hthing fun _ hc _ h => Option.some.inj h ▸ isNumeric_of_isBlank hc

section List

variable {thing : Reader α} {opening : Char}

theorem Starts.piece (hstarts : Starts g) : Starts (IsPiece g) := by
  rintro a _ ⟨hwritten, -⟩
  obtain ⟨c, others, rfl, hc⟩ := hstarts a _ hwritten
  exact ⟨c, _, rfl, hc⟩

theorem Starts.separated (hstarts : Starts g) : Starts (IsSeparated g closing) := by
  rintro _ _ (hpiece | ⟨hpiece, -, -⟩)
  · obtain ⟨c, others, rfl, hc⟩ := hstarts.piece _ _ hpiece
    exact ⟨c, _, rfl, hc⟩
  · obtain ⟨c, others, rfl, hc⟩ := hstarts.piece _ _ hpiece
    exact ⟨c, _, rfl, hc⟩

/-- What can stand in a list does not start with a blank. -/
theorem Starts.noBlank (hstarts : Starts g) {a : α} {cs : List Char} (h : g a cs) :
    ∃ c others, cs = c :: others ∧ isBlank c = false := by
  obtain ⟨c, others, rfl, hc⟩ := hstarts a cs h
  simp only [startsThing, Bool.and_eq_true, Bool.not_eq_true'] at hc
  exact ⟨c, others, rfl, hc.1.1⟩

theorem exact_separatedWithin (hthing : thing.Exact g (noNext isNumeric)) (hstarts : Starts g)
    (hclosing : closing ≠ ',' ∧ isNumeric closing = false ∧ isBlank closing = false)
    (turns : Nat) :
    (separatedWithin thing closing turns).Exact
      (fun as cs => as.length ≤ turns ∧ IsSeparated g closing as cs) anyNext := by
  induction turns with
  | zero =>
      refine exact_fail.congr fun as cs => ⟨False.elim, ?_⟩
      rintro ⟨hlength, _ | _⟩ <;> exact absurd hlength (Nat.not_succ_le_zero _)
  | succ turns ih =>
      have hothers (a : α) := exact_behind [','] (exact_afterBlanks (ih.map fun as => a :: as)
        fun as cs ⟨_, h, _⟩ => hstarts.separated.noBlank h.2)
      have hmore (a : α) := (hothers a).ifNext (exact_wordFor [closing] [a]) (p := (· = ','))
        (fun as cs ⟨_, _, hcs⟩ => ⟨',', _, hcs, rfl⟩)
        fun as cs rest ⟨_, hcs⟩ _ => hcs ▸ noNext_cons (decide_eq_false hclosing.1) rest
      refine ((exact_thing hthing).bind hmore ?_).congr fun as cs => ⟨?_, ?_⟩
      · rintro a as cs rest (⟨_, -, rfl⟩ | ⟨-, rfl⟩) -
        · exact ⟨noNext_cons rfl _, noNext_cons rfl _⟩
        · exact ⟨noNext_cons hclosing.2.1 _, noNext_cons hclosing.2.2 _⟩
      · rintro ⟨a, front, _, ha, ⟨_, ⟨blanks, body, hblanks, ⟨as, ⟨hlength, has⟩, rfl⟩, rfl⟩, rfl⟩
          | ⟨rfl, rfl⟩, rfl⟩
        · have hwritten := IsSeparated.more ha hblanks has
          exact ⟨Nat.succ_le_succ hlength, hwritten⟩
        · exact ⟨Nat.succ_le_succ (Nat.zero_le _), .last ha⟩
      · rintro ⟨hlength, ha | ⟨ha, hblanks, has⟩⟩
        · exact ⟨_, _, _, ha, .inr ⟨rfl, rfl⟩, rfl⟩
        · replace hlength := Nat.le_of_succ_le_succ hlength
          exact ⟨_, _, _, ha, .inl ⟨_, ⟨_, _, hblanks, ⟨_, ⟨hlength, has⟩, rfl⟩, rfl⟩, rfl⟩, rfl⟩

theorem IsSeparated.length_le {as : List α} {cs : List Char} (h : IsSeparated g closing as cs) :
    as.length ≤ cs.length := by
  induction h with
  | last piece =>
      rw [List.length_append, List.length_singleton, List.length_singleton]
      omega
  | more piece blank rest ih =>
      simp only [List.length_append, List.length_cons]
      omega

theorem exact_list (opening closing : Char) (hthing : thing.Exact g (noNext isNumeric))
    (hstarts : Starts g)
    (hclosing : closing ≠ ',' ∧ isNumeric closing = false ∧ isBlank closing = false
      ∧ startsThing closing = false) :
    (list opening closing thing).Exact (IsList opening closing g) anyNext := by
  have hseparated := exact_unbounded (exact_separatedWithin hthing hstarts
    ⟨hclosing.1, hclosing.2.1, hclosing.2.2.1⟩) fun n as cs h turns hturns =>
      ⟨Nat.le_of_lt (Nat.lt_of_le_of_lt h.2.length_le hturns), h.2⟩
  have hbody := (exact_wordFor [closing] []).ifNext hseparated (p := (· = closing)) ?_ ?_
  · have hstarted := exact_afterBlanks hbody ?_
    · refine (exact_behind [opening] hstarted).congr fun as cs => ⟨?_, ?_⟩
      · rintro ⟨_, ⟨blanks, body, hblanks, ⟨rfl, rfl⟩ | ⟨_, -, hbody⟩, rfl⟩, rfl⟩
        · exact .empty hblanks
        · have hwritten : IsList opening closing g as _ := .filled hblanks hbody
          exact hwritten
      · rintro (hblanks | ⟨hblanks, hbody⟩)
        · exact ⟨_, ⟨_, _, hblanks, .inl ⟨rfl, rfl⟩, rfl⟩, rfl⟩
        · exact ⟨_, ⟨_, _, hblanks, .inr ⟨_, hbody.length_le, hbody⟩, rfl⟩, rfl⟩
    · rintro as _ (⟨-, rfl⟩ | ⟨_, -, hbody⟩)
      · exact ⟨closing, [], rfl, hclosing.2.2.1⟩
      · exact hstarts.separated.noBlank hbody
  · rintro as _ ⟨-, rfl⟩
    exact ⟨closing, [], rfl, decide_eq_true rfl⟩
  · rintro as _ rest ⟨_, -, hbody⟩ -
    obtain ⟨c, others, rfl, hc⟩ := hstarts.separated _ _ hbody
    refine noNext_cons (decide_eq_false ?_) _
    rintro rfl
    rw [hclosing.2.2.2] at hc
    cases hc

end List

section Documents

variable {w : Grammar Document} {thing : Reader Document}

theorem exact_member (hthing : thing.Exact w (noNext isNumeric)) (hstarts : Starts w) :
    (member thing).Exact (IsMember w) (noNext isNumeric) := by
  have hkey := exact_piece exact_quoted fun _ _ => trivial
  have hvalue (key : String) := exact_behind [':'] (exact_afterBlanks
    (hthing.map fun d => (key, d)) fun _ cs ⟨d, hd, _⟩ => hstarts.noBlank hd)
  refine (hkey.bind hvalue ?_).congr fun m cs => ⟨?_, ?_⟩
  · rintro key _ _ rest ⟨_, -, rfl⟩ -
    exact ⟨trivial, noNext_cons rfl _⟩
  · rintro ⟨key, k, _, hk, ⟨_, ⟨blanks, v, hblanks, ⟨d, hd, rfl⟩, rfl⟩, rfl⟩, rfl⟩
    have hwritten := IsMember.mk hk hblanks hd
    exact hwritten
  · rintro ⟨hk, hblanks, hd⟩
    exact ⟨_, _, _, hk, ⟨_, ⟨_, _, hblanks, ⟨_, hd, rfl⟩, rfl⟩, rfl⟩, rfl⟩

/-- A document made up of documents that are read by another reader.  The first character says
which kind of document it is. -/
def made (thing : Reader Document) : Reader Document := byFirst fun c =>
  if c = '"' then do let t ← quoted; return .text t
  else if c = '[' then do let items ← list '[' ']' thing; return .array items
  else if c = '\x7b' then do
    let members ← list '\x7b' '\x7d' (member thing)
    return .object members
  else if c = 'n' then do word ['n', 'u', 'l', 'l']; return .null
  else if c = 't' then do word ['t', 'r', 'u', 'e']; return .boolean true
  else if c = 'f' then do word ['f', 'a', 'l', 's', 'e']; return .boolean false
  else do let n ← numeral; return .number n.1 n.2

/-- A document that is nested less deep than a number of levels. -/
def nested : (levels : Nat) → Reader Document
  | 0 => failure
  | levels + 1 => made (nested levels)

/-- A whole text. -/
def document : Reader Document := do
  skipBlanks
  piece (unbounded nested)

/-- **The document that a text says, if it says one.** -/
def read (text : String) : Option Document :=
  match document text.toList with
  | some (d, []) => some d
  | _ => none

theorem IsText.starts {t : String} {cs : List Char} (h : IsText t cs) :
    ∃ others, cs = '"' :: others := by
  obtain ⟨_⟩ := h
  exact ⟨_, rfl⟩

theorem IsList.starts {opening : Char} {as : List α} {cs : List Char}
    (h : IsList opening closing g as cs) : ∃ others, cs = opening :: others := by
  cases h with
  | empty _ => exact ⟨_, rfl⟩
  | filled _ _ => exact ⟨_, rfl⟩

/-- The first character of a number. -/
def startsNumber (c : Char) : Bool := c = '-' || c.isDigit

theorem IsNumber.starts {n : Int × Int} {cs : List Char} (h : IsNumber n cs) :
    ∃ c others, cs = c :: others ∧ startsNumber c = true := by
  obtain ⟨hsign, ⟨rfl, hdigits, -⟩, -, -⟩ := h
  obtain ⟨d, others, rfl, hd⟩ := hdigits.head
  cases hsign with
  | none => exact ⟨d, _, rfl, Bool.or_eq_true_iff.mpr (.inr hd)⟩
  | minus => exact ⟨'-', _, rfl, rfl⟩

theorem startsThing_of_startsNumber {c : Char} (h : startsNumber c = true) :
    startsThing c = true := by
  have hne (d : Char) (hd : startsNumber d = false) : c ≠ d := by
    rintro rfl
    rw [hd] at h
    cases h
  have hblank : isBlank c = false := by
    simp only [isBlank, Bool.or_eq_false_iff, decide_eq_false_iff_not]
    exact ⟨⟨⟨hne _ rfl, hne _ rfl⟩, hne _ rfl⟩, hne _ rfl⟩
  simp only [startsThing, hblank, Bool.not_false, Bool.true_and, Bool.and_eq_true,
    decide_eq_true_eq]
  exact ⟨hne _ rfl, hne _ rfl⟩

theorem starts_isMember : Starts (IsMember w) := by
  rintro _ _ ⟨⟨hkey, -⟩, -, -⟩
  obtain ⟨others, rfl⟩ := hkey.starts
  exact ⟨'"', _, rfl, rfl⟩

theorem exact_made (hthing : thing.Exact w (noNext isNumeric)) (hstarts : Starts w) :
    (made thing).Exact (IsMade w) (noNext isNumeric) := by
  have htext := (exact_quoted.map Document.text).anywhere (noNext isNumeric)
  have harray := ((exact_list '[' ']' hthing hstarts (by decide)).map Document.array).anywhere
    (noNext isNumeric)
  have hobject := ((exact_list '\x7b' '\x7d' (exact_member hthing hstarts) starts_isMember
    (by decide)).map Document.object).anywhere (noNext isNumeric)
  have hword (w : List Char) (d : Document) := (exact_wordFor w d).anywhere (noNext isNumeric)
  have hnumber := exact_numeral.map fun n => Document.number n.1 n.2
  refine exact_byFirst (fun c => htext.ite (c := c = '"') (harray.ite (c := c = '[')
    (hobject.ite (c := c = '\x7b') ((hword _ _).ite (c := c = 'n') ((hword _ _).ite (c := c = 't')
      ((hword _ _).ite (c := c = 'f') hnumber)))))) ?_ ?_
  · rintro c d cs (⟨_, t, ht, rfl⟩ | ⟨_, ⟨_, items, hitems, rfl⟩ | ⟨_, ⟨_, ms, hms, rfl⟩ |
      ⟨_, ⟨_, rfl, rfl⟩ | ⟨_, ⟨_, rfl, rfl⟩ | ⟨_, ⟨_, rfl, rfl⟩ | ⟨_, n, hn, rfl⟩⟩⟩⟩⟩⟩)
    · exact .text ht
    · exact .array hitems
    · exact .object hms
    · exact .null
    · exact .true
    · exact .false
    · exact .number hn
  · intro d cs hmade
    cases hmade with
    | text ht =>
        obtain ⟨others, rfl⟩ := ht.starts
        exact ⟨'"', others, rfl, .inl ⟨rfl, _, ht, rfl⟩⟩
    | array hitems =>
        obtain ⟨others, rfl⟩ := hitems.starts
        exact ⟨'[', others, rfl, .inr ⟨by decide, .inl ⟨rfl, _, hitems, rfl⟩⟩⟩
    | object hms =>
        obtain ⟨others, rfl⟩ := hms.starts
        exact ⟨'\x7b', others, rfl, .inr ⟨by decide, .inr ⟨by decide, .inl ⟨rfl, _, hms, rfl⟩⟩⟩⟩
    | null =>
        exact ⟨'n', _, rfl, .inr ⟨by decide, .inr ⟨by decide, .inr ⟨by decide,
          .inl ⟨rfl, rfl, rfl⟩⟩⟩⟩⟩
    | true =>
        exact ⟨'t', _, rfl, .inr ⟨by decide, .inr ⟨by decide, .inr ⟨by decide, .inr ⟨by decide,
          .inl ⟨rfl, rfl, rfl⟩⟩⟩⟩⟩⟩
    | false =>
        exact ⟨'f', _, rfl, .inr ⟨by decide, .inr ⟨by decide, .inr ⟨by decide, .inr ⟨by decide,
          .inr ⟨by decide, .inl ⟨rfl, rfl, rfl⟩⟩⟩⟩⟩⟩⟩
    | @number m e _ hn =>
        obtain ⟨c, others, rfl, hc⟩ := hn.starts
        have hne (d : Char) (hd : startsNumber d = false) : ¬ c = d := by
          rintro rfl
          rw [hd] at hc
          cases hc
        exact ⟨c, others, rfl, .inr ⟨hne _ rfl, .inr ⟨hne _ rfl, .inr ⟨hne _ rfl,
          .inr ⟨hne _ rfl, .inr ⟨hne _ rfl, .inr ⟨hne _ rfl, (m, e), hn, rfl⟩⟩⟩⟩⟩⟩⟩

theorem starts_isMade : Starts (IsMade w) := by
  intro d cs hmade
  cases hmade with
  | text ht =>
      obtain ⟨others, rfl⟩ := ht.starts
      exact ⟨'"', others, rfl, rfl⟩
  | array hitems =>
      obtain ⟨others, rfl⟩ := hitems.starts
      exact ⟨'[', others, rfl, rfl⟩
  | object hms =>
      obtain ⟨others, rfl⟩ := hms.starts
      exact ⟨'\x7b', others, rfl, rfl⟩
  | null => exact ⟨'n', _, rfl, rfl⟩
  | true => exact ⟨'t', _, rfl, rfl⟩
  | false => exact ⟨'f', _, rfl, rfl⟩
  | number hn =>
      obtain ⟨c, others, rfl, hc⟩ := hn.starts
      exact ⟨c, others, rfl, startsThing_of_startsNumber hc⟩

theorem starts_isNested (levels : Nat) : Starts (IsNested levels) := by
  cases levels with
  | zero => exact fun _ _ h => h.elim
  | succ levels => exact starts_isMade

theorem exact_nested (levels : Nat) :
    (nested levels).Exact (IsNested levels) (noNext isNumeric) := by
  induction levels with
  | zero => exact exact_fail.anywhere _
  | succ levels ih => exact exact_made ih (starts_isNested levels)

theorem exact_value : (unbounded nested).Exact IsValue (noNext isNumeric) :=
  exact_unbounded exact_nested fun _ _ _ h _ hturns => h.of_length_lt hturns

theorem exact_document : document.Exact IsDocument endsThing := by
  refine (exact_afterBlanks (exact_thing exact_value) ?_).congr fun d cs => ⟨?_, ?_⟩
  · rintro d _ ⟨⟨levels, h⟩, blank⟩
    exact (starts_isNested levels).piece.noBlank (.mk h blank)
  · rintro ⟨blanks, back, hblanks, hback, rfl⟩
    exact .mk hblanks hback
  · rintro ⟨hblanks, hback⟩
    exact ⟨_, _, hblanks, hback, rfl⟩

/-- **A document is read from a text iff the text is that document by the grammar.** -/
theorem read_eq_some_iff {text : String} {d : Document} :
    read text = some d ↔ IsDocument d text.toList := by
  constructor
  · intro h
    unfold read at h
    split at h
    · next found hfound =>
        obtain rfl := Option.some.inj h
        obtain ⟨cs, hcs, hd⟩ := exact_document.of_reads hfound
        rw [hcs, List.append_nil]
        exact hd
    · cases h
  · intro h
    have hend : endsThing ([] : List Char).head? := ⟨noNext_none _, noNext_none _⟩
    have hread := exact_document.reads h hend
    rw [List.append_nil] at hread
    rw [read, hread]

-- blanks, a power of ten and a character by its code, none of which is ever printed
example : read " [1.5e3, \"\\u00e9\"]\n" = some (.array [.number 15 2, .text "é"]) := by cbv

/-- No text is two documents. -/
theorem IsDocument.unique {cs : List Char} {d d' : Document} (h : IsDocument d cs)
    (h' : IsDocument d' cs) : d = d' := by
  rw [← String.toList_ofList (l := cs)] at h h'
  exact Option.some.inj ((read_eq_some_iff.mpr h).symm.trans (read_eq_some_iff.mpr h'))

end Documents

end DeviceGen.Text.Json
