/-
Reading blanks, numbers and texts of JSON.

Each piece of the grammar has its reader here, put together as the piece is, and the law for each
says that it is exact for that piece of the grammar, and before what.  A text says itself where it
ends; a number ends before the first character that cannot belong to one.
-/
import DeviceGen.Proofs.Text.Json.Grammar

namespace DeviceGen.Text.Json

open Reader

variable {α : Type}

/-! ### Blanks -/

/-- Steps over blanks. -/
def skipBlanks : Reader Unit := do
  let _ ← run isBlank
  return ()

/-- Something, and the blanks behind it. -/
def piece (r : Reader α) : Reader α := do
  let a ← r
  skipBlanks
  return a

theorem exact_skipBlanks : skipBlanks.Exact (fun _ cs => AreBlank cs) (noNext isBlank) := by
  refine ((exact_run isBlank).map fun _ => ()).congr fun _ cs => ⟨?_, fun h => ?_⟩
  · rintro ⟨_, ⟨rfl, h⟩, -⟩
    exact h
  · exact ⟨cs, ⟨rfl, h⟩, rfl⟩

/-- A reader that stops before blanks also reads a piece. -/
theorem exact_piece {r : Reader α} {g : Grammar α} {next : Option Char → Prop}
    (hr : r.Exact g next) (hblank : ∀ c, isBlank c = true → next (some c)) :
    (piece r).Exact (IsPiece g) fun c => next c ∧ noNext isBlank c := by
  have hrest (a : α) := (exact_skipBlanks.map fun _ => a).before
    (fun c => next c ∧ noNext isBlank c) fun _ h => h.2
  refine (hr.bind hrest ?_).congr fun a cs => ⟨?_, ?_⟩
  · rintro a _ blanks rest ⟨_, hblanks, -⟩ hnext
    cases blanks with
    | nil => exact hnext.1
    | cons c blanks => exact hblank c (hblanks c List.mem_cons_self)
  · rintro ⟨_, front, blanks, ha, ⟨_, hblanks, rfl⟩, rfl⟩
    exact .mk ha hblanks
  · rintro ⟨ha, hblanks⟩
    exact ⟨a, _, _, ha, ⟨(), hblanks, rfl⟩, rfl⟩

/-! ### Numbers -/

/-- At least one digit. -/
def digits : Reader (List Char) := do
  let ds ← run Char.isDigit
  given (if ds = [] then none else some ds)

/-- The digits in front of the point. -/
def whole : Reader (List Char) := do
  let ds ← digits
  given (if ds.head? = some '0' ∧ ds ≠ ['0'] then none else some ds)

/-- The sign of a number. -/
def sign : Reader Bool :=
  ifNext (· = '-') (do word ['-']; return true) (return false)

/-- The digits behind the point. -/
def fraction : Reader (List Char) :=
  ifNext (· = '.') (do word ['.']; digits) (return [])

/-- The sign of a power of ten. -/
def powerSign : Reader Bool :=
  ifNext (· = '+') (do word ['+']; return false) sign

/-- A power of ten. -/
def power : Reader Int :=
  ifNext isPowerLetter
    (do
      let _ ← satisfy isPowerLetter
      let negative ← powerSign
      let ds ← digits
      return signed negative (value ds))
    (return 0)

/-- A number. -/
def numeral : Reader (Int × Int) := do
  let negative ← sign
  let ds ← whole
  let behind ← fraction
  let exponent ← power
  return (signed negative (value (ds ++ behind)), exponent - behind.length)

/-- A character that a number goes on with. -/
def isNumeric (c : Char) : Bool := c.isDigit || c = '.' || isPowerLetter c

theorem AreDigits.head {ds : List Char} (h : AreDigits ds) :
    ∃ d others, ds = d :: others ∧ d.isDigit = true := by
  cases ds with
  | nil => exact absurd rfl h.1
  | cons d others => exact ⟨d, others, rfl, h.2 d List.mem_cons_self⟩

/-- A digit is none of the characters that are no digits. -/
theorem noNext_digit {p : Char → Bool} (hp : ∀ c, p c = true → c.isDigit = false) {d : Char}
    (hd : d.isDigit = true) (cs : List Char) : noNext p (d :: cs).head? := by
  refine noNext_cons (Bool.eq_false_iff.mpr fun hpd => ?_) cs
  rw [hp d hpd] at hd
  cases hd

theorem isDigit_of_isPowerLetter {c : Char} (h : isPowerLetter c = true) : c.isDigit = false := by
  obtain h | h := Bool.or_eq_true_iff.mp h
  · rw [of_decide_eq_true h]
    rfl
  · rw [of_decide_eq_true h]
    rfl

theorem exact_digits :
    digits.Exact (fun ds cs => cs = ds ∧ AreDigits ds) (noNext Char.isDigit) := by
  refine ((exact_run Char.isDigit).filterMap _).congr fun ds cs => ⟨?_, ?_⟩
  · rintro ⟨found, ⟨rfl, hall⟩, hne⟩
    by_cases h : cs = []
    · rw [if_pos h] at hne
      cases hne
    · rw [if_neg h] at hne
      cases hne
      exact ⟨rfl, h, hall⟩
  · rintro ⟨rfl, hne, hall⟩
    exact ⟨cs, ⟨rfl, hall⟩, if_neg hne⟩

theorem exact_whole : whole.Exact IsWhole (noNext Char.isDigit) := by
  refine (exact_digits.filterMap _).congr fun ds cs => ⟨?_, ?_⟩
  · rintro ⟨found, ⟨rfl, hdigits⟩, hzero⟩
    by_cases h : cs.head? = some '0' ∧ cs ≠ ['0']
    · rw [if_pos h] at hzero
      cases hzero
    · rw [if_neg h] at hzero
      cases hzero
      exact ⟨rfl, hdigits, fun hhead => by_contra fun hne => h ⟨hhead, hne⟩⟩
  · rintro ⟨rfl, hdigits, hzero⟩
    exact ⟨cs, ⟨rfl, hdigits⟩, if_neg fun h => h.2 (hzero h.1)⟩

/-- A word that says something. -/
theorem exact_wordFor (w : List Char) (a : α) :
    (do word w; return a : Reader α).Exact (fun b cs => b = a ∧ cs = w) anyNext :=
  ((exact_word w).map fun _ => a).congr fun _ _ =>
    ⟨fun ⟨_, hcs, hb⟩ => ⟨hb.symm, hcs⟩, fun ⟨hb, hcs⟩ => ⟨(), hcs, hb.symm⟩⟩

/-- Something behind a word. -/
theorem exact_behind (w : List Char) {r : Reader α} {g : Grammar α} {next : Option Char → Prop}
    (hr : r.Exact g next) :
    (do word w; r : Reader α).Exact (fun a cs => ∃ back, g a back ∧ cs = w ++ back) next :=
  ((exact_word w).andThen fun _ => hr).congr fun _ _ =>
    ⟨fun ⟨_, _, back, hw, ha, hcs⟩ => ⟨back, ha, by rw [hcs, hw]⟩,
      fun ⟨back, ha, hcs⟩ => ⟨(), w, back, rfl, ha, hcs⟩⟩

theorem exact_sign : sign.Exact IsSign (noNext (· = '-')) := by
  refine (((exact_wordFor ['-'] true).anywhere _).ifNext
    ((exact_pure false).anywhere _) ?_ ?_).congr fun negative cs => ⟨?_, ?_⟩
  · rintro _ _ ⟨-, rfl⟩
    exact ⟨'-', [], rfl, rfl⟩
  · rintro _ _ rest ⟨-, rfl⟩ hnext
    exact hnext
  · rintro (⟨rfl, rfl⟩ | ⟨rfl, rfl⟩)
    · exact .minus
    · exact .none
  · rintro (_ | _)
    · exact .inr ⟨rfl, rfl⟩
    · exact .inl ⟨rfl, rfl⟩

theorem exact_fraction :
    fraction.Exact IsFraction (noNext fun c => c.isDigit || c = '.') := by
  have hdigits := (exact_behind ['.'] exact_digits).before
    (noNext fun c => c.isDigit || c = '.') fun _ h => (noNext_or.mp h).1
  refine (hdigits.ifNext ((exact_pure []).anywhere _) ?_ ?_).congr
    fun ds cs => ⟨?_, ?_⟩
  · rintro ds _ ⟨_, -, rfl⟩
    exact ⟨'.', _, rfl, rfl⟩
  · rintro ds _ rest ⟨-, rfl⟩ hnext
    exact (noNext_or.mp hnext).2
  · rintro (⟨_, ⟨rfl, hds⟩, rfl⟩ | ⟨rfl, rfl⟩)
    · exact .some hds
    · exact .none
  · rintro (_ | hds)
    · exact .inr ⟨rfl, rfl⟩
    · exact .inl ⟨ds, ⟨rfl, hds⟩, rfl⟩

theorem exact_powerSign : powerSign.Exact IsPowerSign (noNext fun c => c = '+' || c = '-') := by
  have hsign := exact_sign.before (noNext fun c => c = '+' || c = '-') fun _ h =>
    (noNext_or.mp h).2
  refine (((exact_wordFor ['+'] false).anywhere _).ifNext hsign ?_ ?_).congr
    fun negative cs => ⟨?_, ?_⟩
  · rintro _ _ ⟨-, rfl⟩
    exact ⟨'+', [], rfl, rfl⟩
  · rintro _ _ rest (_ | _) hnext
    · exact (noNext_or.mp hnext).1
    · exact noNext_cons rfl _
  · rintro (⟨rfl, rfl⟩ | (_ | _))
    · exact .plus
    · exact .none
    · exact .minus
  · rintro (_ | _ | _)
    · exact .inr .none
    · exact .inl ⟨rfl, rfl⟩
    · exact .inr .minus

theorem exact_power : power.Exact IsPower (noNext fun c => c.isDigit || isPowerLetter c) := by
  have hdigits := exact_digits.before
    (noNext fun c => c.isDigit || isPowerLetter c) fun _ h => (noNext_or.mp h).1
  have hsigned := exact_powerSign.bind
    (fun negative => hdigits.map fun ds => signed negative (value ds)) (by
      rintro negative _ ds rest ⟨_, ⟨rfl, hds⟩, -⟩ -
      obtain ⟨d, others, rfl, hd⟩ := hds.head
      refine noNext_digit (fun c hc => ?_) hd _
      obtain hc | hc := Bool.or_eq_true_iff.mp hc <;> rw [of_decide_eq_true hc] <;> rfl)
  have hletter := (exact_satisfy isPowerLetter).andThen fun _ => hsigned
  refine (hletter.ifNext ((exact_pure 0).anywhere _) ?_ ?_).congr
    fun e cs => ⟨?_, ?_⟩
  · rintro e _ ⟨letter, _, _, ⟨hletter, rfl⟩, -, rfl⟩
    exact ⟨letter, _, rfl, hletter⟩
  · rintro e _ rest ⟨-, rfl⟩ hnext
    exact (noNext_or.mp hnext).2
  · rintro (⟨letter, _, _, ⟨hletter, rfl⟩, ⟨negative, sign, _, hsign, ⟨ds, ⟨rfl, hds⟩, rfl⟩, rfl⟩,
      rfl⟩ | ⟨rfl, rfl⟩)
    · exact .some hletter hsign hds
    · exact .none
  · rintro (_ | ⟨hletter, hsign, hds⟩)
    · exact .inr ⟨rfl, rfl⟩
    · exact .inl ⟨_, _, _, ⟨hletter, rfl⟩, ⟨_, _, _, hsign, ⟨_, ⟨rfl, hds⟩, rfl⟩, rfl⟩, rfl⟩

/-- What follows the digits of a number does not begin with a digit or a point. -/
theorem IsPower.noNext {e : Int} {cs rest : List Char} (h : IsPower e cs)
    (hrest : noNext isNumeric rest.head?) :
    Text.noNext (fun c => c.isDigit || c = '.') (cs ++ rest).head? := by
  cases h with
  | none => exact (noNext_or.mp hrest).1
  | @some letter _ _ _ hletter _ _ =>
      refine noNext_cons (Bool.or_eq_false_iff.mpr ⟨isDigit_of_isPowerLetter hletter, ?_⟩) _
      obtain h | h := Bool.or_eq_true_iff.mp hletter <;> rw [of_decide_eq_true h] <;> rfl

theorem exact_numeral : numeral.Exact IsNumber (noNext isNumeric) := by
  have hpower (negative : Bool) (ds behind : List Char) :=
    (exact_power.before (noNext isNumeric) fun _ h => by
      obtain ⟨hbefore, hpower⟩ := noNext_or.mp h
      exact noNext_or.mpr ⟨(noNext_or.mp hbefore).1, hpower⟩).map fun exponent =>
        (signed negative (value (ds ++ behind)), exponent - behind.length)
  have hfraction (negative : Bool) (ds : List Char) :=
    exact_fraction.bind (hpower negative ds) (by
      rintro behind _ p rest ⟨_, hp, -⟩ hrest
      exact hp.noNext hrest)
  have hwhole (negative : Bool) := exact_whole.bind (hfraction negative) (by
    rintro ds _ _ rest ⟨behind, f, p, hf, ⟨_, hp, -⟩, rfl⟩ hrest
    cases hf with
    | none => exact (noNext_or.mp (hp.noNext hrest)).1
    | some hds => exact noNext_cons rfl _)
  refine (exact_sign.bind hwhole ?_).congr fun n cs => ⟨?_, ?_⟩
  · rintro negative _ _ rest ⟨ds, _, _, ⟨rfl, hds, -⟩, -, rfl⟩ -
    obtain ⟨d, others, rfl, hd⟩ := hds.head
    exact noNext_digit (fun c hc => by rw [of_decide_eq_true hc]; rfl) hd _
  · rintro ⟨negative, s, _, hs, ⟨ds, w, _, hw, ⟨behind, f, p, hf, ⟨e, hp, rfl⟩, rfl⟩, rfl⟩, rfl⟩
    exact .mk hs hw hf hp
  · rintro ⟨hs, hw, hf, hp⟩
    exact ⟨_, _, _, hs, ⟨_, _, _, hw, ⟨_, _, _, hf, ⟨_, hp, rfl⟩, rfl⟩, rfl⟩, rfl⟩

/-! ### Texts -/

/-- A hexadecimal digit. -/
def hexadecimal : Reader Nat := do
  let c ← satisfy fun _ => true
  given (hexValue? c)

/-- The code of a character. -/
def code : Reader Nat := do
  word ['u']
  let i ← hexadecimal
  let j ← hexadecimal
  let k ← hexadecimal
  let l ← hexadecimal
  return ((i * 16 + j) * 16 + k) * 16 + l

/-- A character by its code, or by two codes. -/
def codedChar : Reader Char := do
  let m ← code
  if isHigh m then
    word ['\\']
    let n ← code
    given (if isLow n then some (pairChar m n) else none)
  else given (if isLow m then none else some (Char.ofNat m))

/-- A character by the letter that stands for it. -/
def escapedChar : Reader Char := do
  let letter ← satisfy fun _ => true
  given (escapes.lookup letter)

/-- A character between quotation marks. -/
def character : Reader Char :=
  ifNext (· = '\\') (do word ['\\']; ifNext (· = 'u') codedChar escapedChar) (satisfy isPlain)

/-- Things up to a mark, which is read as well. -/
def rowWithin (thing : Reader α) (mark : Char) : (turns : Nat) → Reader (List α)
  | 0 => failure
  | turns + 1 =>
    ifNext (· = mark) (do word [mark]; return [])
      (do
        let a ← thing
        let as ← rowWithin thing mark turns
        return a :: as)

/-- A text between quotation marks. -/
def quoted : Reader String := do
  word ['"']
  let cs ← unbounded (rowWithin character '"')
  return String.ofList cs

theorem exact_hexadecimal :
    hexadecimal.Exact (fun n cs => ∃ c, cs = [c] ∧ hexValue? c = some n) anyNext :=
  ((exact_satisfy fun _ => true).filterMap hexValue?).congr fun _ _ =>
    ⟨fun ⟨c, ⟨_, hcs⟩, hn⟩ => ⟨c, hcs, hn⟩, fun ⟨c, hcs, hn⟩ => ⟨c, ⟨rfl, hcs⟩, hn⟩⟩

theorem exact_code : code.Exact IsCode anyNext := by
  have hlast (i j k : Nat) := exact_hexadecimal.map fun l => ((i * 16 + j) * 16 + k) * 16 + l
  have hdigits := exact_hexadecimal.andThen fun i => exact_hexadecimal.andThen fun j =>
    exact_hexadecimal.andThen fun k => hlast i j k
  refine (exact_behind ['u'] hdigits).congr fun n cs => ⟨?_, ?_⟩
  · rintro ⟨_, ⟨i, _, _, ⟨a, rfl, ha⟩, ⟨j, _, _, ⟨b, rfl, hb⟩, ⟨k, _, _, ⟨c, rfl, hc⟩,
      ⟨l, ⟨d, rfl, hd⟩, rfl⟩, rfl⟩, rfl⟩, rfl⟩, rfl⟩
    exact .mk ha hb hc hd
  · rintro ⟨ha, hb, hc, hd⟩
    exact ⟨_, ⟨_, _, _, ⟨_, rfl, ha⟩, ⟨_, _, _, ⟨_, rfl, hb⟩, ⟨_, _, _, ⟨_, rfl, hc⟩,
      ⟨_, ⟨_, rfl, hd⟩, rfl⟩, rfl⟩, rfl⟩, rfl⟩, rfl⟩

theorem exact_codedChar : codedChar.Exact IsCoded anyNext := by
  have hpair (m : Nat) := exact_behind ['\\']
    (exact_code.filterMap fun n => if isLow n then some (pairChar m n) else none)
  have hrest (m : Nat) := (hpair m).ite (c := isHigh m = true)
    (exact_given (if isLow m then none else some (Char.ofNat m)))
  refine (exact_code.andThen hrest).congr fun c cs => ⟨?_, ?_⟩
  · rintro ⟨m, front, _, hm, ⟨hhigh, _, ⟨n, hn, hc⟩, rfl⟩ | ⟨hhigh, hc, rfl⟩, rfl⟩
    · by_cases hlow : isLow n = true
      · rw [if_pos hlow] at hc
        obtain rfl := Option.some.inj hc
        exact .pair hm hn hhigh hlow
      · rw [if_neg hlow] at hc
        cases hc
    · by_cases hlow : isLow m = true
      · rw [if_pos hlow] at hc
        cases hc
      · rw [if_neg hlow] at hc
        obtain rfl := Option.some.inj hc
        rw [List.append_nil]
        exact .one hm (Bool.eq_false_iff.mpr hhigh) (Bool.eq_false_iff.mpr hlow)
  · rintro (⟨hm, hhigh, hlow⟩ | ⟨hm, hn, hhigh, hlow⟩)
    · refine ⟨_, cs, [], hm, .inr ⟨Bool.eq_false_iff.mp hhigh, ?_, rfl⟩, (List.append_nil cs).symm⟩
      rw [hlow]
      rfl
    · exact ⟨_, _, _, hm, .inl ⟨hhigh, _, ⟨_, hn, if_pos hlow⟩, rfl⟩, rfl⟩

theorem IsCoded.head {c : Char} {cs : List Char} (h : IsCoded c cs) :
    ∃ others, cs = 'u' :: others := by
  cases h with
  | one hcode =>
      cases hcode
      exact ⟨_, rfl⟩
  | pair hcode =>
      cases hcode
      exact ⟨_, rfl⟩

theorem exact_escapedChar :
    escapedChar.Exact (fun c cs => ∃ letter, cs = [letter] ∧ escapes.lookup letter = some c)
      anyNext :=
  ((exact_satisfy fun _ => true).filterMap _).congr fun _ _ =>
    ⟨fun ⟨letter, ⟨_, hcs⟩, hc⟩ => ⟨letter, hcs, hc⟩,
      fun ⟨letter, hcs, hc⟩ => ⟨letter, ⟨rfl, hcs⟩, hc⟩⟩

theorem exact_character : character.Exact IsChar anyNext := by
  have hbehind := exact_behind ['\\'] (exact_codedChar.ifNext exact_escapedChar
    (p := (· = 'u')) (fun c cs h => ?_) fun c cs rest h _ => ?_)
  · refine (hbehind.ifNext (exact_satisfy isPlain) ?_ ?_).congr fun c cs => ⟨?_, ?_⟩
    · rintro c _ ⟨back, -, rfl⟩
      exact ⟨'\\', back, rfl, rfl⟩
    · rintro c _ rest ⟨hplain, rfl⟩ -
      refine noNext_cons (decide_eq_false fun h => ?_) rest
      rw [h] at hplain
      exact absurd hplain (by decide)
    · rintro (⟨back, hback | ⟨letter, rfl, hfound⟩, rfl⟩ | ⟨hplain, rfl⟩)
      · exact .coded hback
      · exact .escape hfound
      · exact .plain hplain
    · rintro (hplain | hfound | hcoded)
      · exact .inr ⟨hplain, rfl⟩
      · exact .inl ⟨_, .inr ⟨_, rfl, hfound⟩, rfl⟩
      · exact .inl ⟨_, .inl hcoded, rfl⟩
  · obtain ⟨others, rfl⟩ := h.head
    exact ⟨'u', others, rfl, rfl⟩
  · obtain ⟨letter, rfl, hfound⟩ := h
    refine noNext_cons (decide_eq_false fun h => ?_) rest
    rw [h] at hfound
    cases hfound

/-! A row takes a turn for each of its things, and each thing has a character. -/

section Row

variable {thing : Reader α} {g : Grammar α} {mark : Char}

theorem exact_rowWithin (hthing : thing.Exact g anyNext)
    (hstarts : ∀ a cs, g a cs → ∃ c others, cs = c :: others ∧ c ≠ mark) (turns : Nat) :
    (rowWithin thing mark turns).Exact (fun as cs => as.length < turns ∧ IsRow g mark as cs)
      anyNext := by
  induction turns with
  | zero =>
      exact exact_fail.congr fun as cs => ⟨False.elim, fun h => absurd h.1 (Nat.not_lt_zero _)⟩
  | succ turns ih =>
      have hmore := hthing.andThen fun a => ih.map fun as => a :: as
      refine ((exact_wordFor [mark] []).ifNext hmore ?_ ?_).congr fun as cs => ⟨?_, ?_⟩
      · rintro as _ ⟨-, rfl⟩
        exact ⟨mark, [], rfl, decide_eq_true rfl⟩
      · rintro as _ rest ⟨a, front, back, ha, -, rfl⟩ -
        obtain ⟨c, others, rfl, hc⟩ := hstarts a front ha
        exact noNext_cons (decide_eq_false hc) _
      · rintro (⟨rfl, rfl⟩ | ⟨a, front, back, ha, ⟨as, ⟨hlength, has⟩, rfl⟩, rfl⟩)
        · exact ⟨Nat.succ_pos _, .nil⟩
        · exact ⟨Nat.succ_lt_succ hlength, .cons ha has⟩
      · rintro ⟨hlength, _ | ⟨ha, has⟩⟩
        · exact .inl ⟨rfl, rfl⟩
        · exact .inr ⟨_, _, _, ha, ⟨_, ⟨Nat.lt_of_succ_lt_succ hlength, has⟩, rfl⟩, rfl⟩

theorem IsRow.length_le (hstarts : ∀ a cs, g a cs → ∃ c others, cs = c :: others ∧ c ≠ mark)
    {as : List α} {cs : List Char} (h : IsRow g mark as cs) : as.length ≤ cs.length := by
  induction h with
  | nil => exact Nat.zero_le _
  | cons first rest ih =>
      obtain ⟨c, others, rfl, -⟩ := hstarts _ _ first
      simp only [List.length_cons, List.length_append]
      omega

theorem exact_row (mark : Char) (hthing : thing.Exact g anyNext)
    (hstarts : ∀ a cs, g a cs → ∃ c others, cs = c :: others ∧ c ≠ mark) :
    (unbounded (rowWithin thing mark)).Exact (IsRow g mark) anyNext := by
  refine (exact_unbounded (exact_rowWithin hthing hstarts) ?_).congr fun as cs => ⟨?_, fun h => ?_⟩
  · rintro n as cs ⟨-, h⟩ turns hturns
    exact ⟨Nat.lt_of_le_of_lt (h.length_le hstarts) hturns, h⟩
  · rintro ⟨n, -, h⟩
    exact h
  · exact ⟨as.length + 1, Nat.lt_succ_self _, h⟩

end Row

theorem IsChar.starts {c : Char} {cs : List Char} (h : IsChar c cs) :
    ∃ d others, cs = d :: others ∧ d ≠ '"' := by
  cases h with
  | plain hplain =>
      refine ⟨c, [], rfl, fun h => ?_⟩
      rw [h] at hplain
      exact absurd hplain (by decide)
  | escape _ => exact ⟨'\\', _, rfl, by decide⟩
  | coded _ => exact ⟨'\\', _, rfl, by decide⟩

/-- **A text between quotation marks is read as what it says**, whatever stands behind it. -/
theorem exact_quoted : quoted.Exact IsText anyNext := by
  have hrow := exact_row '"' exact_character fun _ _ h => h.starts
  refine (exact_behind ['"'] (hrow.map String.ofList)).congr fun t cs => ⟨?_, ?_⟩
  · rintro ⟨_, ⟨as, hrow, rfl⟩, rfl⟩
    exact .mk hrow
  · rintro ⟨hrow⟩
    exact ⟨_, ⟨_, hrow, rfl⟩, rfl⟩

end DeviceGen.Text.Json
