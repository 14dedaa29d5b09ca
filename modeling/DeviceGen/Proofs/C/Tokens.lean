/-
The tokens of generated code.

Code is a row of words and marks.  Blanks only keep words apart, and comments and directives say
nothing to the code.  A word goes on as long as there are letters, digits and underscores, so what
the tokens of a text are depends on the character behind it; behind most marks anything can stand.
Texts that are put together have the tokens of their parts if no part ends in the middle of a word
that the next one continues (`Spells.append`).
-/
import DeviceGen.Proofs.Text.Lines
import DeviceGen.Proofs.Text.Reader

namespace DeviceGen.C

open DeviceGen.Text (IsWord anyNext isWordChar noNext unlines)

/-! ### Tokens -/

/-- Marks between words. -/
inductive Mark where
  | openParen
  | closeParen
  | openBracket
  | closeBracket
  | openBrace
  | closeBrace
  | semicolon
  | comma
  | question
  | colon
  | equals
  | star
  | ampersand
  | minus
  | plus
  | bar
  | less
  | shiftLeft
  | shiftRight
  | unequal
  | arrow
  | other (c : Char)
  deriving DecidableEq, Repr

/-- The mark of one character. -/
def Mark.ofChar : Char → Mark
  | '(' => openParen
  | ')' => closeParen
  | '[' => openBracket
  | ']' => closeBracket
  | '\x7b' => openBrace
  | '\x7d' => closeBrace
  | ';' => semicolon
  | ',' => comma
  | '?' => question
  | ':' => colon
  | '=' => equals
  | '*' => star
  | '&' => ampersand
  | '-' => minus
  | '+' => plus
  | '|' => bar
  | '<' => less
  | c => other c

/-- The mark of two characters. -/
def Mark.ofPair? : Char → Char → Option Mark
  | '<', '<' => some shiftLeft
  | '>', '>' => some shiftRight
  | '!', '=' => some unequal
  | '-', '>' => some arrow
  | _, _ => none

/-- A name, a keyword or a number; or a mark. -/
inductive Token where
  | word (cs : List Char)
  | mark (m : Mark)
  deriving DecidableEq, Repr

/-- What the next character is read as. -/
inductive Mode where
  | code
  /-- The second character of a mark or of the end of a comment. -/
  | second
  /-- The second character of the beginning of a comment. -/
  | opening
  | comment
  | directive
  deriving DecidableEq, Repr

theorem Mark.ofPair?_eq_none {c : Char} (h : ['<', '>', '!', '-'].contains c = false) (d : Char) :
    Mark.ofPair? c d = none := by
  unfold Mark.ofPair?
  split <;> first | rfl | cases h

/-- How the character behind `c` is read, given what that is. -/
def Mode.behind (c : Char) (next : Option Char) : Mode → Mode
  | code =>
    if c = '#' then directive
    else if c = '/' ∧ next = some '*' then opening
    else if (next.bind (Mark.ofPair? c)).isSome then second
    else code
  | second => code
  | opening => comment
  | comment => if c = '*' ∧ next = some '/' then second else comment
  | directive => if c = '\n' then code else directive

namespace Token

/-- A character of a word in front of tokens; it is a part of the first one if that is the rest of
its word. -/
def glue (c : Char) : Bool → List Token → List Token
  | true, word cs :: ts => word (c :: cs) :: ts
  | _, ts => word [c] :: ts

/-- A character in front of the tokens that follow. -/
def put (c : Char) (next : Option Char) (ts : List Token) : Mode → List Token
  | .code =>
    if isWordChar c then glue c (next.any isWordChar) ts
    else if c = ' ' ∨ c = '\n' ∨ c = '#' ∨ (c = '/' ∧ next = some '*') then ts
    else mark ((next.bind (Mark.ofPair? c)).getD (Mark.ofChar c)) :: ts
  | _ => ts

/-- The tokens in characters. -/
def scan : Mode → List Char → List Token
  | _, [] => []
  | mode, c :: cs => put c cs.head? (scan (mode.behind c cs.head?) cs) mode

/-- The tokens in a text. -/
def ofText (text : String) : List Token := scan .code text.toList

/-- Characters that can be the first of two. -/
def openers : List Char := ['#', '/', '<', '>', '!', '-']

/-- Whether code goes on behind a character, and whatever it goes on with. -/
def standsAlone (c : Char) : Mode → Bool
  | .code => !isWordChar c && !openers.contains c
  | .second => true
  | .directive => c = '\n'
  | .opening | .comment => false

/-- Whether the last token in characters is complete, whatever stands behind it. -/
def closes : Mode → List Char → Bool
  | mode, [] => mode = .code
  | mode, [c] => standsAlone c mode
  | mode, c :: d :: cs => closes (mode.behind c d) (d :: cs)

theorem scan_cons (mode : Mode) (c : Char) (cs : List Char) :
    scan mode (c :: cs) = put c cs.head? (scan (mode.behind c cs.head?) cs) mode := by
  cases mode <;> rfl

/-- Only few marks can be the first of two characters, or the beginning of something else. -/
theorem behind_of_not_contains {c : Char}
    (h : openers.contains c = false) (next : Option Char) :
    next.bind (Mark.ofPair? c) = none ∧ Mode.code.behind c next = .code := by
  simp only [openers, List.contains_eq_mem, List.mem_cons, List.not_mem_nil, or_false,
    decide_eq_false_iff_not, not_or] at h
  have hpair := Mark.ofPair?_eq_none (c := c) (by simp [h])
  have hnone : next.bind (Mark.ofPair? c) = none := by
    cases next with
    | none => rfl
    | some d => exact hpair d
  refine ⟨hnone, ?_⟩
  simp [Mode.behind, hnone, h]

theorem behind_of_isWordChar {c : Char} (hc : isWordChar c = true) (next : Option Char) :
    Mode.code.behind c next = .code := by
  have hmarks : openers.all (fun d => !isWordChar d) = true := by decide
  refine (behind_of_not_contains ?_ next).2
  rw [Bool.eq_false_iff, Ne, List.contains_iff_mem]
  intro hmem
  have hmark := List.all_eq_true.mp hmarks c hmem
  rw [hc] at hmark
  cases hmark

theorem behind_of_standsAlone {mode : Mode} {c : Char} (h : standsAlone c mode = true)
    (next : Option Char) : mode.behind c next = .code := by
  cases mode with
  | code =>
      rw [standsAlone, Bool.and_eq_true, Bool.not_eq_true', Bool.not_eq_true'] at h
      exact (behind_of_not_contains h.2 next).2
  | second => rfl
  | directive => exact if_pos (of_decide_eq_true h)
  | opening | comment => cases h

theorem put_of_standsAlone {mode : Mode} {c : Char} (h : standsAlone c mode = true)
    (next : Option Char) (ts : List Token) : put c next ts mode = put c none [] mode ++ ts := by
  cases mode with
  | code =>
      rw [standsAlone, Bool.and_eq_true, Bool.not_eq_true', Bool.not_eq_true'] at h
      have hslash : c ≠ '/' := by
        rintro rfl
        exact absurd h.2 (by decide)
      have hword : ¬ isWordChar c = true := Bool.eq_false_iff.mp h.1
      unfold put
      rw [if_neg hword, if_neg hword, (behind_of_not_contains h.2 next).1]
      simp only [hslash, false_and, or_false]
      split <;> rfl
  | second | directive => rfl
  | opening | comment => cases h

theorem exists_scan_word {c : Char} (hc : isWordChar c = true) (cs : List Char) :
    ∃ w ts, scan .code (c :: cs) = word w :: ts := by
  rw [scan_cons, put, if_pos hc]
  unfold glue
  split <;> exact ⟨_, _, rfl⟩

/-- A character makes of more tokens what it makes of the first ones. -/
theorem put_append (c d : Char) (cs : List Char) (us : List Token) (mode : Mode) :
    put c (some d) (scan (mode.behind c (some d)) (d :: cs) ++ us) mode
      = put c (some d) (scan (mode.behind c (some d)) (d :: cs)) mode ++ us := by
  cases mode with
  | code =>
      unfold put
      by_cases hc : isWordChar c = true
      · rw [if_pos hc, if_pos hc, behind_of_isWordChar hc, Option.any_some]
        cases hd : isWordChar d with
        | false => rfl
        | true =>
            obtain ⟨w, ts, hscan⟩ := exists_scan_word hd cs
            rw [hscan]
            rfl
      · rw [if_neg hc, if_neg hc]
        by_cases hblank : c = ' ' ∨ c = '\n' ∨ c = '#' ∨ (c = '/' ∧ some d = some '*')
        · rw [if_pos hblank, if_pos hblank]
        · rw [if_neg hblank, if_neg hblank, List.cons_append]
  | second | opening | comment | directive => rfl

theorem scan_append {mode : Mode} {cs : List Char} (h : closes mode cs = true) (rest : List Char) :
    scan mode (cs ++ rest) = scan mode cs ++ scan .code rest := by
  fun_induction closes mode cs with
  | case1 mode =>
      rw [of_decide_eq_true h]
      rfl
  | case2 mode c =>
      rw [List.singleton_append, scan_cons, scan_cons, behind_of_standsAlone h,
        put_of_standsAlone h, behind_of_standsAlone h]
      rfl
  | case3 mode c d cs ih =>
      rw [List.cons_append, scan_cons, scan_cons, List.cons_append, List.head?_cons,
        List.head?_cons, ← List.cons_append, ih h, put_append]

/-- A directive goes on to the end of its line. -/
theorem scan_directive {cs : List Char} (h : '\n' ∉ cs) (rest : List Char) :
    scan .directive (cs ++ '\n' :: rest) = scan .code rest := by
  induction cs with
  | nil => rfl
  | cons c cs ih =>
      rw [List.mem_cons, not_or] at h
      rw [List.cons_append, scan_cons, Mode.behind, if_neg (Ne.symm h.1), ih h.2]
      rfl

end Token

/-! ### Spelling -/

/-- What tokens are written as, in front of certain characters. -/
def Spells (cs : List Char) (ts : List Token) (next : Option Char → Prop) : Prop :=
  ∀ rest, next rest.head? → Token.scan .code (cs ++ rest) = ts ++ Token.scan .code rest

namespace Spells

variable {cs ds : List Char} {ts us : List Token} {next next' : Option Char → Prop}

theorem before (h : Spells cs ts next) (hnext : ∀ c, next' c → next c) : Spells cs ts next' :=
  fun rest hrest => h rest (hnext _ hrest)

theorem anywhere (h : Spells cs ts anyNext) : Spells cs ts next := h.before fun _ _ => trivial

theorem empty : Spells "".toList [] next := fun _ _ => rfl

/-- What is second has to begin with something that the first can stand before. -/
theorem append (h : Spells cs ts next) (h' : Spells ds us next')
    (hnext : ∀ rest, next' rest.head? → next (ds ++ rest).head?) :
    Spells (cs ++ ds) (ts ++ us) next' := by
  intro rest hrest
  rw [List.append_assoc, h _ (hnext rest hrest), h' rest hrest, List.append_assoc]

/-- Behind some tokens anything can stand. -/
theorem andThen (h : Spells cs ts anyNext) (h' : Spells ds us next') :
    Spells (cs ++ ds) (ts ++ us) next' := h.append h' fun _ _ => trivial

/-- A word is followed by something else than letters, digits and underscores. -/
theorem followed {d : Char} (h : Spells cs ts (noNext isWordChar))
    (h' : Spells (d :: ds) us next') (hd : isWordChar d = false) :
    Spells (cs ++ d :: ds) (ts ++ us) next' :=
  h.append h' fun _ _ => Text.noNext_cons hd _

theorem word (hword : ∀ c ∈ cs, isWordChar c = true) (hne : cs ≠ []) :
    Spells cs [.word cs] (noNext isWordChar) := by
  intro rest hrest
  induction cs with
  | nil => exact absurd rfl hne
  | cons c cs ih =>
      have hc := hword c List.mem_cons_self
      have hcs : ∀ d ∈ cs, isWordChar d = true := fun d hd => hword d (List.mem_cons_of_mem c hd)
      rw [List.cons_append, Token.scan_cons, Token.behind_of_isWordChar hc, Token.put, if_pos hc]
      cases cs with
      | nil =>
          have hapart : rest.head?.any isWordChar = false := by
            cases hhead : rest.head? with
            | none => rfl
            | some d => exact hrest d hhead
          rw [List.nil_append, hapart]
          rfl
      | cons d cs =>
          rw [ih hcs (List.cons_ne_nil d cs), List.cons_append, List.head?_cons, Option.any_some,
            hcs d List.mem_cons_self]
          rfl

/-- A text that is given is looked through. -/
theorem of_closes (h : Token.closes .code cs = true) : Spells cs (Token.scan .code cs) anyNext :=
  fun rest _ => Token.scan_append h rest

theorem literal (h : Token.closes .code cs = true ∧ Token.scan .code cs = ts) :
    Spells (String.ofList cs).toList ts anyNext := by
  rw [String.toList_ofList, ← h.2]
  exact of_closes h.1

end Spells

/-- A line is followed by its end. -/
theorem Spells.line {line : String} {lines : List String} {ts us : List Token}
    (h : Spells line.toList ts (noNext isWordChar))
    (h' : Spells (unlines lines).toList us anyNext) :
    Spells (unlines (line :: lines)).toList (ts ++ us) anyNext := by
  have hend : Spells ['\n'] [] anyNext := .of_closes (by decide)
  have hfirst := h.followed hend (by decide)
  rw [List.append_nil] at hfirst
  rw [Text.unlines_cons, String.toList_append, String.toList_append]
  exact hfirst.andThen h'

/-- A line with a directive says nothing. -/
theorem Spells.behindDirective {line : String} {lines : List String} {ts : List Token}
    (hhash : line.toList.head? = some '#') (hline : '\n' ∉ line.toList)
    (h : Spells (unlines lines).toList ts anyNext) :
    Spells (unlines (line :: lines)).toList ts anyNext := by
  obtain ⟨cs, hcs⟩ := List.head?_eq_some_iff.mp hhash
  rw [hcs, List.mem_cons, not_or] at hline
  have hdirective : Spells ('#' :: cs ++ ['\n']) [] anyNext := by
    intro rest _
    rw [List.append_assoc]
    exact Token.scan_directive hline.2 rest
  rw [Text.unlines_cons, String.toList_append, String.toList_append, hcs]
  exact hdirective.andThen h

theorem spells_unlines_nil : Spells (unlines []).toList [] anyNext := fun _ _ => rfl

/-- What a text is written for are its tokens. -/
theorem Spells.ofText {text : String} {ts : List Token} (h : Spells text.toList ts anyNext) :
    Token.ofText text = ts := by
  have htokens := h [] trivial
  have hnil : Token.scan .code [] = [] := rfl
  rwa [List.append_nil, hnil, List.append_nil] at htokens

end DeviceGen.C
