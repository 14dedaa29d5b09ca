/-
Printed functions are read back.

Each statement of a function that copies a message is read from its tokens as what was printed,
and so is the function with its name, its parameters, the check of the length and what it returns.

Expressions are printed without parentheses, so those are read back that need none: operands, which
are members, bytes, words and casts of operands, and the two kinds of expressions over them.  What
an operand is does not depend on the tokens behind it, as long as a mark is the first of them that
an operand cannot go on with.
-/
import DeviceGen.Proofs.C.Printed

namespace DeviceGen.C

open TokenReader (listed whole)
open Phrase (choice more more_operator ofWord operation operation_cons operators readers)

/-! ### What is printed -/

/-- An expression that other ones take as a part. -/
def Expr.isOperand : Expr → Bool
  | member _ | byte _ | get _ _ => true
  | cast _ e => e.isOperand
  | oneIf _ | nonzero _ => false

/-- An expression that needs no parentheses; only bytes are compared. -/
def Expr.isPlain : Expr → Bool
  | oneIf e => e.isOperand
  | nonzero (byte _) => true
  | nonzero _ => false
  | e => e.isOperand

/-- The expression of a statement. -/
def Stmt.value : Stmt → Expr
  | put _ _ e | setByte _ e | setMember _ e => e

/-- A byte of the buffer, as it is read. -/
def bytePhrase (offset : Nat) : Phrase := .item (.name "buf") (.number offset false)

/-- An expression, as it is read. -/
def Expr.phrase : Expr → Phrase
  | member name => .member (.name "msg") name
  | byte offset => bytePhrase offset
  | get word offset => .call ("get_" ++ word.text) (.address (bytePhrase offset))
  | cast type e => .cast type.text e.phrase
  | oneIf e => .conditional e.phrase (.number 1 true) (.number 0 true)
  | nonzero e => .binary .unequal e.phrase (.number 0 true)

/-- A statement, as it is read. -/
def Stmt.command : Stmt → Command
  | put word offset e => .call ("put_" ++ word.text) [.address (bytePhrase offset), e.phrase]
  | setByte offset e => .assign (bytePhrase offset) e.phrase
  | setMember name e => .assign (.member (.name "msg") name) e.phrase

namespace Routine

/-- The check of the length, as it is read. -/
def check (size : String) : Command :=
  .giveIf (.binary .less (.name "len") (.name size)) (.negate (.number 1 false))

/-- What a function returns at its end, as it is read. -/
def ending (size : String) : Command := .give (.cast "int" (.name size))

/-- What a function begins with, as it is read. -/
def signature (direction : Direction) (message : String) : Signature where
  result := "int"
  name := direction.function message
  parameters := [⟨message ++ "_t", true, "msg"⟩, ⟨"uint8_t", true, "buf"⟩,
    ⟨"size_t", false, "len"⟩]

/-- A function, as it is read. -/
def function (routine : Routine) : Function where
  toSignature := signature routine.direction routine.message
  body := check (sizeMacro routine.message) :: routine.body.map Stmt.command
    ++ [ending (sizeMacro routine.message)]

end Routine

/-! ### Phrases -/

/-- A mark that no operand goes on with. -/
def Mark.endsOperand (m : Mark) : Bool :=
  !([.openParen, .openBracket, .arrow] : List Mark).contains m

/-- A mark that no phrase goes on with. -/
def Mark.endsPhrase (m : Mark) : Bool :=
  m.endsOperand && m ≠ .question && operators.all fun level => level.lookup m = none

/-- Tokens that are read as an operand, if enough things may be inside of each other. -/
structure Reads (ts : List Token) (e : Phrase) : Prop where
  operand : ∀ {depth : Nat} {m : Mark}, ts.length ≤ depth → m.endsOperand = true → ∀ rest,
    (readers depth).1 (ts ++ .mark m :: rest) = some (e, .mark m :: rest)

variable {ts : List Token} {e : Phrase} {m : Mark} {x : String}

namespace Mark

theorem endsOperand_of_endsPhrase (hm : m.endsPhrase = true) : m.endsOperand = true := by
  rw [endsPhrase, Bool.and_eq_true, Bool.and_eq_true] at hm
  exact hm.1.1

theorem ne_question (hm : m.endsPhrase = true) : m ≠ .question := by
  rw [endsPhrase, Bool.and_eq_true, Bool.and_eq_true] at hm
  exact of_decide_eq_true hm.1.2

theorem lookup_eq_none (hm : m.endsPhrase = true) :
    ∀ level ∈ operators, level.lookup m = none := by
  rw [endsPhrase, Bool.and_eq_true, List.all_eq_true] at hm
  exact fun level hlevel => of_decide_eq_true (hm.2 level hlevel)

end Mark

theorem more_end {level : List (Mark × Operator)} (hm : level.lookup m = none)
    (next : TokenReader Phrase) (turns : Nat) (rest : List Token) :
    more level next turns e (.mark m :: rest) = some (e, .mark m :: rest) := by
  cases turns with
  | zero => rfl
  | succ turns => rw [more, hm]

section Operations

variable {next : TokenReader Phrase} {us rest : List Token} {a b : Phrase} {o : Mark}
  {operator : Operator} {level : List (Mark × Operator)}
  {before after : List (List (Mark × Operator))}

/-- An operand is an operation if no operator follows. -/
theorem operation_end (levels : List (List (Mark × Operator)))
    (hnext : next ts = some (e, .mark m :: rest)) (hm : ∀ level ∈ levels, level.lookup m = none) :
    operation next levels ts = some (e, .mark m :: rest) := by
  induction levels with
  | nil => exact hnext
  | cons level levels ih =>
      rw [List.forall_mem_cons] at hm
      rw [operation_cons, ih hm.2, Option.bind_some]
      exact more_end hm.1 _ _ _

/-- Two operands with an operator between them. -/
theorem operation_operator (ha : next ts = some (a, .mark o :: us))
    (ho : level.lookup o = some operator) (hafter : ∀ level ∈ after, level.lookup o = none)
    (hb : next us = some (b, .mark m :: rest))
    (hm : ∀ level' ∈ before ++ level :: after, level'.lookup m = none) :
    operation next (before ++ level :: after) ts
      = some (.binary operator a b, .mark m :: rest) := by
  induction before with
  | nil =>
      rw [List.nil_append, List.forall_mem_cons] at hm
      rw [List.nil_append, operation_cons, operation_end after ha hafter, Option.bind_some,
        List.length_cons, more_operator ho, operation_end after hb hm.2, Option.bind_some]
      exact more_end hm.1 _ _ _
  | cons level' before ih =>
      rw [List.cons_append, List.forall_mem_cons] at hm
      rw [List.cons_append, operation_cons, ih hm.2, Option.bind_some]
      exact more_end hm.1 _ _ _

end Operations

/-- A phrase is an operation if no question follows. -/
theorem choice_end {next whole : TokenReader Phrase} {rest : List Token}
    (hoperation : operation next operators ts = some (e, .mark m :: rest))
    (hm : m.endsPhrase = true) : choice next whole ts = some (e, .mark m :: rest) := by
  simp [choice, hoperation,
    TokenReader.takes_other (Mark.ne_question hm)]

namespace Reads

/-- An operand is a phrase. -/
theorem phrase (h : Reads ts e) {depth : Nat} (hdepth : ts.length < depth)
    (hm : m.endsPhrase = true) (rest : List Token) :
    (readers depth).2 (ts ++ .mark m :: rest) = some (e, .mark m :: rest) := by
  obtain ⟨depth, rfl⟩ := Nat.exists_eq_add_one_of_ne_zero (Nat.ne_zero_of_lt hdepth)
  have hread := h.operand (Nat.le_of_lt hdepth) (Mark.endsOperand_of_endsPhrase hm) rest
  exact choice_end (operation_end operators hread (Mark.lookup_eq_none hm)) hm

/-- Two operands are a phrase with an operator between them. -/
theorem operation {us rest : List Token} {a b : Phrase} {o : Mark} {operator : Operator}
    {level : List (Mark × Operator)} (before : List (List (Mark × Operator)))
    {after : List (List (Mark × Operator))} (hlevels : operators = before ++ level :: after)
    (ho : level.lookup o = some operator) (hafter : ∀ level ∈ after, level.lookup o = none)
    (hends : o.endsOperand = true) (ha : Reads ts a) (hb : Reads us b) {depth : Nat}
    (hts : ts.length < depth) (hus : us.length < depth) (hm : m.endsPhrase = true) :
    (readers depth).2 (ts ++ .mark o :: (us ++ .mark m :: rest))
      = some (.binary operator a b, .mark m :: rest) := by
  obtain ⟨depth, rfl⟩ := Nat.exists_eq_add_one_of_ne_zero (Nat.ne_zero_of_lt hts)
  have hfirst := ha.operand (Nat.le_of_lt hts) hends (us ++ .mark m :: rest)
  have hsecond := hb.operand (Nat.le_of_lt hus) (Mark.endsOperand_of_endsPhrase hm) rest
  have hnone := Mark.lookup_eq_none hm
  rw [hlevels] at hnone
  have hoperation := operation_operator hfirst ho hafter hsecond hnone
  rw [← hlevels] at hoperation
  exact choice_end hoperation hm

/-- A choice between two operands. -/
theorem conditional {us vs rest : List Token} {c a b : Phrase} (hc : Reads ts c)
    (ha : Reads us a) (hb : Reads vs b) {depth : Nat} (hts : ts.length ≤ depth + 1)
    (hus : us.length < depth) (hvs : vs.length < depth) (hm : m.endsPhrase = true) :
    (readers (depth + 1)).2
        (ts ++ .mark .question :: (us ++ .mark .colon :: (vs ++ .mark m :: rest)))
      = some (.conditional c a b, .mark m :: rest) := by
  have hoperand := hc.operand hts (m := .question) (by decide)
    (us ++ .mark .colon :: (vs ++ .mark m :: rest))
  have hcondition := operation_end operators hoperand (by decide)
  have hfirst := ha.phrase hus (m := .colon) (by decide) (vs ++ .mark m :: rest)
  have hsecond := hb.phrase hvs hm rest
  show choice (readers (depth + 1)).1 (readers depth).2 _ = _
  simp [choice, hcondition, hfirst, hsecond]

/-- What an operand begins with tells how the others are read, which have less inside of them. -/
theorem of_cons {t : Token} (h : ∀ {depth : Nat} {m : Mark}, ts.length ≤ depth →
      m.endsOperand = true → ∀ rest,
        Phrase.operand (readers depth).1 (readers depth).2 (t :: (ts ++ .mark m :: rest))
          = some (e, .mark m :: rest)) : Reads (t :: ts) e := by
  refine ⟨fun {depth m} hdepth hm rest => ?_⟩
  obtain ⟨depth, rfl⟩ := Nat.exists_eq_add_one_of_ne_zero (Nat.ne_zero_of_lt hdepth)
  exact h (Nat.le_of_succ_le_succ hdepth) hm rest

/-- A number that is marked as unsigned, or is not. -/
theorem of_number? {n : Nat} {unsigned : Bool}
    (hfirst : x.toList.head?.any Char.isDigit = true) (h : number? x.toList = some (n, unsigned)) :
    Reads [wordToken x] (.number n unsigned) := by
  refine .of_cons fun {depth m} _ _ rest => ?_
  show ofWord (readers depth).2 x.toList (.mark m :: rest) = _
  rw [ofWord, if_pos hfirst, h]
  rfl

theorem number (n : Nat) : Reads [wordToken (toString n)] (.number n false) := by
  have hall : ∀ c ∈ (toString n).toList, c.isDigit = true :=
    fun c hc => Text.isDigit_of_mem_toString hc
  refine of_number? ?_ ?_
  · cases hcs : (toString n).toList with
    | nil => exact absurd hcs (Text.toList_toString_ne_nil n)
    | cons c cs => exact hall c (hcs ▸ List.mem_cons_self)
  · rw [number?, if_pos (List.all_eq_true.mpr hall), Text.toList_toString,
      Nat.ofDigitChars_ten_toDigits]

end Reads

/-- A name that is no number and no operator. -/
theorem ofWord_name {whole : TokenReader Phrase} (h : IsIdentifier x) (hx : x ≠ "sizeof") :
    ofWord whole x.toList = Phrase.ofName whole x := by
  obtain ⟨-, c, hc, hdigit⟩ := isIdentifier_iff.mp h
  have hfirst : ¬ x.toList.head?.any Char.isDigit = true := by
    rw [hc, Option.any_some, hdigit]
    exact Bool.false_ne_true
  rw [ofWord, if_neg hfirst, if_neg (mt String.toList_inj.mp hx), String.ofList_toList]

namespace Reads

section Names

variable (h : IsIdentifier x) (hx : x ≠ "sizeof")

include h hx

theorem name : Reads [wordToken x] (.name x) := by
  refine .of_cons fun {depth m} _ hm rest => ?_
  have hends : m ≠ .openParen ∧ m ≠ .openBracket ∧ m ≠ .arrow := by
    simpa [Mark.endsOperand] using hm
  show ofWord (readers depth).2 x.toList (.mark m :: rest) = _
  rw [ofWord_name h hx, Phrase.ofName_name hends.1 hends.2.1 hends.2.2]

theorem member (y : String) :
    Reads [wordToken x, .mark .arrow, wordToken y] (.member (.name x) y) := by
  refine .of_cons fun {depth m} _ _ rest => ?_
  show ofWord (readers depth).2 x.toList (.mark .arrow :: wordToken y :: .mark m :: rest) = _
  rw [ofWord_name h hx, Phrase.ofName_member]

theorem item (hindex : Reads ts e) :
    Reads (wordToken x :: .mark .openBracket :: (ts ++ [.mark .closeBracket]))
      (.item (.name x) e) := by
  refine .of_cons fun {depth m} hdepth _ rest => ?_
  simp only [List.length_append, List.length_cons, List.length_nil] at hdepth
  have hread := hindex.phrase (m := .closeBracket) (by omega : ts.length < depth) (by decide)
    (.mark m :: rest)
  rw [List.cons_append, List.append_assoc]
  show ofWord (readers depth).2 x.toList
    (.mark .openBracket :: (ts ++ .mark .closeBracket :: .mark m :: rest)) = _
  rw [ofWord_name h hx, Phrase.ofName_item hread]

theorem call (hargument : Reads ts e) :
    Reads (wordToken x :: .mark .openParen :: (ts ++ [.mark .closeParen])) (.call x e) := by
  refine .of_cons fun {depth m} hdepth _ rest => ?_
  simp only [List.length_append, List.length_cons, List.length_nil] at hdepth
  have hread := hargument.phrase (m := .closeParen) (by omega : ts.length < depth) (by decide)
    (.mark m :: rest)
  rw [List.cons_append, List.append_assoc]
  show ofWord (readers depth).2 x.toList
    (.mark .openParen :: (ts ++ .mark .closeParen :: .mark m :: rest)) = _
  rw [ofWord_name h hx, Phrase.ofName_call hread]

end Names

theorem address (h : Reads ts e) : Reads (.mark .ampersand :: ts) (.address e) := by
  refine .of_cons fun {depth m} hdepth hm rest => ?_
  have hread := h.operand hdepth hm rest
  show (Phrase.address <$> (readers depth).1) (ts ++ .mark m :: rest) = _
  rw [TokenReader.run_map, hread, Option.map_some]

theorem cast (hx : isType x.toList = true) (h : Reads ts e) :
    Reads (.mark .openParen :: wordToken x :: .mark .closeParen :: ts) (.cast x e) := by
  refine .of_cons fun {depth m} hdepth hm rest => ?_
  simp only [List.length_cons] at hdepth
  have hread := h.operand (by omega : ts.length ≤ depth) hm rest
  simp [Phrase.operand, hx, hread]

end Reads

/-! ### Expressions -/

theorem CType.isType_text (type : CType) : isType type.text.toList = true := by
  cases type with
  | enumeration enumName =>
      rw [CType.text, isType, enumType, String.toList_append, Bool.or_eq_true]
      exact .inr (List.isSuffixOf_iff_suffix.mpr (List.suffix_append _ _))
  | _ => decide +kernel

theorem reads_byteTokens (offset : Nat) : Reads (byteTokens offset) (bytePhrase offset) :=
  .item (by decide) (by decide) (.number offset)

namespace Expr

theorem reads {e : Expr} (h : e.isOperand = true) : Reads e.tokens e.phrase := by
  induction e with
  | member name => exact .member (by decide) (by decide) name
  | byte offset => exact reads_byteTokens offset
  | get word offset =>
      exact .call (by cases word <;> decide) (by cases word <;> decide)
        (reads_byteTokens offset).address
  | cast type e ih => exact (ih h).cast type.isType_text
  | oneIf e | nonzero e => cases h

theorem readers_tokens {e : Expr} (h : e.isPlain = true) {depth : Nat}
    (hdepth : e.tokens.length < depth) (hm : m.endsPhrase = true) (rest : List Token) :
    (readers depth).2 (e.tokens ++ .mark m :: rest) = some (e.phrase, .mark m :: rest) := by
  have hone : Reads [wordToken "1u"] (.number 1 true) :=
    .of_number? (by decide +kernel) (by decide +kernel)
  have hzero : Reads [wordToken "0u"] (.number 0 true) :=
    .of_number? (by decide +kernel) (by decide +kernel)
  cases e with
  | oneIf e =>
      rw [tokens, List.length_append] at hdepth
      obtain ⟨depth, rfl⟩ := Nat.exists_eq_add_one_of_ne_zero (Nat.ne_zero_of_lt hdepth)
      simp only [List.length_cons, List.length_nil] at hdepth
      rw [tokens, List.append_assoc]
      exact (reads h).conditional hone hzero (by omega) (by simp; omega) (by simp; omega) hm
  | nonzero e =>
      have hoperand : e.isOperand = true := by
        cases e with
        | byte offset => rfl
        | _ => cases h
      rw [tokens, List.length_append] at hdepth
      simp only [List.length_cons, List.length_nil] at hdepth
      rw [tokens, List.append_assoc]
      exact Reads.operation (operators.take 1) rfl rfl (by decide) (by decide)
        (reads hoperand) hzero (by omega) (by simp; omega) hm
  | member name | byte offset | get word offset | cast type e =>
      exact (reads h).phrase hdepth hm rest

/-- An expression is read as what was printed. -/
theorem read_tokens {e : Expr} (h : e.isPlain = true) (hm : m.endsPhrase = true)
    (rest : List Token) :
    Phrase.read (e.tokens ++ .mark m :: rest) = some (e.phrase, .mark m :: rest) :=
  e.readers_tokens h (by simp) hm rest

end Expr

/-! ### Statements -/

namespace Command

variable {us rest : List Token}

theorem readGive_semicolon (h : Phrase.read ts = some (e, .mark .semicolon :: rest)) :
    readGive ts = some (e, rest) := by
  simp [readGive, h]

theorem read_give (h : Phrase.read ts = some (e, .mark .semicolon :: rest)) :
    Command.read (wordToken "return" :: ts) = some (.give e, rest) := by
  show (Command.give <$> readGive) ts = _
  rw [TokenReader.run_map, readGive_semicolon h, Option.map_some]

theorem read_giveIf {condition : Phrase}
    (hcondition : Phrase.read ts
      = some (condition, .mark .closeParen :: .mark .openBrace :: wordToken "return" :: us))
    (h : Phrase.read us = some (e, .mark .semicolon :: .mark .closeBrace :: rest)) :
    Command.read (wordToken "if" :: .mark .openParen :: ts) = some (.giveIf condition e, rest) := by
  show readGiveIf (.mark .openParen :: ts) = _
  simp [readGiveIf, hcondition, readGive_semicolon h]

theorem read_call {es : List Phrase} (hreturn : x ≠ "return") (hif : x ≠ "if")
    (h : listed Phrase.read ts.length ts = some (es, .mark .semicolon :: rest)) :
    Command.read (wordToken x :: .mark .openParen :: ts) = some (.call x es, rest) := by
  rw [Command.read, if_neg (mt String.toList_inj.mp hreturn), if_neg (mt String.toList_inj.mp hif),
    String.ofList_toList]
  simp [readNamed, h]

theorem readAssign_equals {target : Phrase} (htarget : Reads ts target)
    (h : Phrase.read us = some (e, .mark .semicolon :: rest)) :
    readAssign (ts ++ .mark .equals :: us) = some (.assign target e, rest) := by
  have hread : Phrase.readOperand (ts ++ .mark .equals :: us)
      = some (target, .mark .equals :: us) := htarget.operand (by simp) (by decide) us
  simp [readAssign, h, hread]

end Command

/-- A statement is read as what was printed. -/
theorem Stmt.read_piece {s : Stmt} (h : s.value.isPlain = true) :
    whole Command.read s.piece = some s.command := by
  refine TokenReader.whole_of_run ?_
  cases s with
  | put word offset e =>
      have hplace : Phrase.read (.mark .ampersand :: byteTokens offset
          ++ .mark .comma :: (e.tokens ++ [.mark .closeParen, .mark .semicolon]))
          = some (.address (bytePhrase offset),
            .mark .comma :: (e.tokens ++ [.mark .closeParen, .mark .semicolon])) :=
        (reads_byteTokens offset).address.phrase (by simp) (by decide) _
      have hvalue := e.read_tokens h (m := .closeParen) (by decide) [.mark .semicolon]
      rw [piece, tokens, List.append_assoc, List.append_assoc]
      refine Command.read_call (by cases word <;> decide) (by cases word <;> decide) ?_
      exact TokenReader.listed_comma hplace (TokenReader.listed_last hvalue _)
  | setByte offset e =>
      have hvalue := e.read_tokens h (m := .semicolon) (by decide) []
      rw [piece, tokens, List.append_assoc]
      exact Command.readAssign_equals (reads_byteTokens offset) hvalue
  | setMember name e =>
      have hvalue := e.read_tokens h (m := .semicolon) (by decide) []
      exact Command.readAssign_equals (.member (x := "msg") (by decide) (by decide) name) hvalue

/-! ### Functions -/

namespace Parameter

variable {y : String}

theorem read_pointer (hx : x ≠ "const") (rest : List Token) :
    Parameter.read (wordToken x :: .mark .star :: wordToken y :: rest)
      = some (⟨x, true, y⟩, rest) := by
  simp [Parameter.read, TokenReader.takesWord_other hx]

theorem read_const (rest : List Token) :
    Parameter.read (wordToken "const" :: wordToken x :: .mark .star :: wordToken y :: rest)
      = some (⟨x, true, y⟩, rest) := by
  have hconst (ts : List Token) :
      TokenReader.takesWord "const" (wordToken "const" :: ts) = some (true, ts) := rfl
  simp [Parameter.read, hconst]

theorem read_value (hx : x ≠ "const") (rest : List Token) :
    Parameter.read (wordToken x :: wordToken y :: rest) = some (⟨x, false, y⟩, rest) := by
  simp [Parameter.read, TokenReader.takesWord_other hx]

end Parameter

theorem Function.read_body {signature : Signature} {body : List Command} {us : List Token}
    (hstatic : x ≠ "static") (hinline : x ≠ "inline")
    (hsignature : Signature.read (wordToken x :: ts) = some (signature, .mark .openBrace :: us))
    (hbody : Function.readBody us = some (body, [])) :
    Function.read (wordToken x :: ts) = some (⟨signature, body⟩, []) := by
  simp [Function.read, TokenReader.takesWord_other, hstatic, hinline, hsignature, hbody]

namespace Routine

variable {size : String}

theorem read_check (h : IsIdentifier size) (hsize : size ≠ "sizeof") :
    whole Command.read (checkTokens size) = some (check size) := by
  have hcondition : Phrase.read ((checkTokens size).drop 2)
      = some (.binary .less (.name "len") (.name size), (checkTokens size).drop 5) :=
    Reads.operation (operators.take 2) (m := .closeParen) rfl rfl (by decide) (by decide)
      (.name (by decide) (by decide)) (.name h hsize) (by simp [checkTokens])
      (by simp [checkTokens]) (by decide)
  have hvalue : Phrase.read ((checkTokens size).drop 8)
      = some (.negate (.number 1 false), (checkTokens size).drop 10) := by rfl
  exact TokenReader.whole_of_run (Command.read_giveIf hcondition hvalue)

theorem read_end (h : IsIdentifier size) (hsize : size ≠ "sizeof") :
    whole Command.read (endTokens size) = some (ending size) := by
  have hvalue : Phrase.read ((endTokens size).drop 1)
      = some (.cast "int" (.name size), [.mark .semicolon]) :=
    ((Reads.name h hsize).cast (by decide +kernel)).phrase (by simp [endTokens]) (by decide) []
  exact TokenReader.whole_of_run (Command.read_give hvalue)

theorem sizeMacro_ne_sizeof (message : String) : sizeMacro message ≠ "sizeof" := by
  intro h
  have hlast := congrArg (fun text : String => text.toList.getLast?) h
  simp [sizeMacro, List.getLast?_append] at hlast

theorem structure_ne_const (message : String) : message ++ "_t" ≠ "const" := by
  intro h
  have hlast := congrArg (fun text : String => text.toList.drop (text.toList.length - 2)) h
  simp at hlast

/-- The parameters are read with the parenthesis behind them. -/
theorem listed_parameters (direction : Direction) (message : String) (turns : Nat)
    (rest : List Token) :
    listed Parameter.read (turns + 3) (parameterTokens direction message ++ rest)
      = some ([⟨message ++ "_t", true, "msg"⟩, ⟨"uint8_t", true, "buf"⟩,
        ⟨"size_t", false, "len"⟩], rest) := by
  have hlength : listed Parameter.read (turns + 1)
      (wordToken "size_t" :: wordToken "len" :: .mark .closeParen :: rest)
      = some ([⟨"size_t", false, "len"⟩], rest) :=
    TokenReader.listed_last (Parameter.read_value (by decide) _) turns
  cases direction with
  | pack =>
      have hbuffer := TokenReader.listed_comma
        (Parameter.read_pointer (x := "uint8_t") (y := "buf") (by decide) _) hlength
      exact TokenReader.listed_comma (Parameter.read_const _) hbuffer
  | unpack =>
      have hbuffer := TokenReader.listed_comma
        (Parameter.read_const (x := "uint8_t") (y := "buf") _) hlength
      exact TokenReader.listed_comma (Parameter.read_pointer (structure_ne_const message) _) hbuffer

theorem read_signature (direction : Direction) (message : String) (rest : List Token) :
    Signature.read (headTokens direction message ++ rest)
      = some (signature direction message, rest) := by
  obtain ⟨turns, hturns⟩ : ∃ turns,
      (parameterTokens direction message ++ rest).length = turns + 3 := by
    cases direction <;> exact ⟨_, rfl⟩
  have hparameters := listed_parameters direction message turns rest
  rw [← hturns] at hparameters
  simp [-List.length_append, Signature.read, headTokens, hparameters, signature]

variable {routine : Routine}

theorem mapM_bodyPieces (hmessage : IsIdentifier routine.message)
    (hplain : ∀ s ∈ routine.body, s.value.isPlain = true) :
    routine.bodyPieces.mapM (whole Command.read) = some routine.function.body := by
  have hsize := sizeMacro_ne_sizeof routine.message
  have hbody {stmts : List Stmt} (h : ∀ s ∈ stmts, s.value.isPlain = true) :
      (stmts.map Stmt.piece).mapM (whole Command.read) = some (stmts.map Stmt.command) := by
    induction stmts with
    | nil => rfl
    | cons s stmts ih =>
        rw [List.forall_mem_cons] at h
        rw [List.map_cons, List.mapM_cons, Stmt.read_piece h.1, ih h.2]
        rfl
  rw [bodyPieces, List.mapM_append, List.mapM_cons, List.mapM_cons,
    read_check hmessage.sizeMacro hsize, hbody hplain, read_end hmessage.sizeMacro hsize]
  rfl

/-- A function is read as what was printed. -/
theorem read_tokens (hmessage : IsIdentifier routine.message)
    (hplain : ∀ s ∈ routine.body, s.value.isPlain = true) :
    whole Function.read routine.tokens = some routine.function := by
  have hbody : Function.readBody (routine.bodyPieces.flatten ++ [.mark .closeBrace])
      = some (routine.function.body, []) := by
    rw [Function.readBody, if_pos List.getLast?_concat, List.dropLast_concat,
      pieces_flatten routine.isPiece_bodyPieces, mapM_bodyPieces hmessage hplain, Option.map_some]
  have hsignature := read_signature routine.direction routine.message
    (.mark .openBrace :: (routine.bodyPieces.flatten ++ [.mark .closeBrace]))
  have hread := Function.read_body (x := "int") (by decide) (by decide) hsignature hbody
  rw [tokens, List.append_assoc]
  exact TokenReader.whole_of_run hread

/-- A function is read off its lines as what was printed. -/
theorem defines_lines (hmessage : IsIdentifier routine.message)
    (hbody : ∀ s ∈ routine.body, ∀ name ∈ s.members ++ s.enumTypes, IsIdentifier name)
    (hplain : ∀ s ∈ routine.body, s.value.isPlain = true) :
    Defines routine.lines [routine.function] :=
  .of_piece (spells_lines hmessage hbody) routine.isPiece_tokens (read_tokens hmessage hplain)

end Routine

end DeviceGen.C
