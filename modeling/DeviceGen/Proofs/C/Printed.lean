/-
The tokens of printed functions.

What is printed for a function that copies a message has the tokens that are listed here, if its
names are identifiers: no name runs into another one, and none is taken for something else.
Statements end with a semicolon and have no braces in them, so a function is one piece of a text,
and its statements are the pieces of its body.
-/
import DeviceGen.Proofs.C.Code
import DeviceGen.Proofs.C.Names

namespace DeviceGen.C

open DeviceGen.Text (anyNext isWordChar noNext unlines)

/-! ### Tokens -/

/-- The token that a name or a number is. -/
abbrev wordToken (x : String) : Token := .word x.toList

def byteTokens (offset : Nat) : List Token :=
  [wordToken "buf", .mark .openBracket, wordToken (toString offset), .mark .closeBracket]

def Expr.tokens : Expr → List Token
  | member name => [wordToken "msg", .mark .arrow, wordToken name]
  | byte offset => byteTokens offset
  | get word offset =>
    wordToken ("get_" ++ word.text) :: .mark .openParen :: .mark .ampersand :: byteTokens offset
      ++ [.mark .closeParen]
  | cast type e => .mark .openParen :: wordToken type.text :: .mark .closeParen :: e.tokens
  | oneIf e => e.tokens ++ [.mark .question, wordToken "1u", .mark .colon, wordToken "0u"]
  | nonzero e => e.tokens ++ [.mark .unequal, wordToken "0u"]

/-- The tokens of a statement, without its end. -/
def Stmt.tokens : Stmt → List Token
  | put word offset e =>
    wordToken ("put_" ++ word.text) :: .mark .openParen :: .mark .ampersand :: byteTokens offset
      ++ .mark .comma :: e.tokens ++ [.mark .closeParen]
  | setByte offset e => byteTokens offset ++ .mark .equals :: e.tokens
  | setMember name e =>
    wordToken "msg" :: .mark .arrow :: wordToken name :: .mark .equals :: e.tokens

/-- The tokens of a statement. -/
def Stmt.piece (s : Stmt) : List Token := s.tokens ++ [.mark .semicolon]

/-- The tokens of a parameter behind its type, which is a pointer and not the last one. -/
def pointerTokens (name : String) : List Token := [.mark .star, wordToken name, .mark .comma]

namespace Routine

/-- The tokens of the parameters. -/
def parameterTokens (direction : Direction) (message : String) : List Token :=
  let length := [wordToken "size_t", wordToken "len", .mark .closeParen]
  match direction with
  | .pack =>
    wordToken "const" :: wordToken (message ++ "_t") :: (pointerTokens "msg"
      ++ wordToken "uint8_t" :: (pointerTokens "buf" ++ length))
  | .unpack =>
    wordToken (message ++ "_t") :: (pointerTokens "msg"
      ++ wordToken "const" :: wordToken "uint8_t" :: (pointerTokens "buf" ++ length))

/-- The tokens of the head of a function. -/
def headTokens (direction : Direction) (message : String) : List Token :=
  wordToken "int" :: wordToken (direction.function message) :: .mark .openParen
    :: parameterTokens direction message

/-- The tokens of the check of the length. -/
def checkTokens (size : String) : List Token := [
  wordToken "if", .mark .openParen, wordToken "len", .mark .less, wordToken size, .mark .closeParen,
  .mark .openBrace, wordToken "return", .mark .minus, wordToken "1", .mark .semicolon,
  .mark .closeBrace]

/-- The tokens of what a function returns at its end. -/
def endTokens (size : String) : List Token := [
  wordToken "return", .mark .openParen, wordToken "int", .mark .closeParen, wordToken size,
  .mark .semicolon]

/-- The tokens of the statements of a function. -/
def bodyPieces (routine : Routine) : List (List Token) :=
  checkTokens (sizeMacro routine.message) :: routine.body.map Stmt.piece
    ++ [endTokens (sizeMacro routine.message)]

/-- The tokens of a function. -/
def tokens (routine : Routine) : List Token :=
  headTokens routine.direction routine.message ++ .mark .openBrace :: routine.bodyPieces.flatten
    ++ [.mark .closeBrace]

end Routine

/-! ### Spelling -/

section Spelling

theorem Spells.identifier {x : String} (h : IsIdentifier x) :
    Spells x.toList [wordToken x] (noNext isWordChar) := by
  obtain ⟨hword, c, hc, -⟩ := isIdentifier_iff.mp h
  refine Spells.word hword ?_
  rintro hnil
  rw [hnil] at hc
  cases hc

theorem spells_number (n : Nat) :
    Spells (toString n).toList [wordToken (toString n)] (noNext isWordChar) :=
  .word (Text.isWord_toString n) (Text.toList_toString_ne_nil n)

variable {a b : String} {ts us : List Token} {next : Option Char → Prop}

theorem Spells.join (h : Spells a.toList ts anyNext) (h' : Spells b.toList us next) :
    Spells (a ++ b).toList (ts ++ us) next := by
  rw [String.toList_append]
  exact h.andThen h'

/-- A word is followed by a text that does not go on with it. -/
theorem Spells.stop {d : Char} {ds : List Char} (h : Spells a.toList ts (noNext isWordChar))
    (h' : Spells (String.ofList (d :: ds)).toList us next) (hd : isWordChar d = false) :
    Spells (a ++ String.ofList (d :: ds)).toList (ts ++ us) next := by
  rw [String.toList_append, String.toList_ofList]
  rw [String.toList_ofList] at h'
  exact h.followed h' hd

theorem spells_byteText (offset : Nat) :
    Spells (byteText offset).toList (byteTokens offset) anyNext := by
  have hopen : Spells "buf[".toList [wordToken "buf", .mark .openBracket] anyNext :=
    .literal (by decide)
  have hclose : Spells "]".toList [.mark .closeBracket] anyNext := .literal (by decide)
  exact (hopen.join (spells_number offset)).stop hclose (by decide)

theorem spells_memberText {name : String} (h : IsIdentifier name) :
    Spells (memberText name).toList [wordToken "msg", .mark .arrow, wordToken name]
      (noNext isWordChar) := by
  have hmsg : Spells "msg->".toList [wordToken "msg", .mark .arrow] anyNext :=
    .literal (by decide)
  exact hmsg.join (.identifier h)

theorem CType.isIdentifier_text {type : CType}
    (h : ∀ name ∈ type.enumType?.toList, IsIdentifier name) : IsIdentifier type.text := by
  cases type with
  | enumeration enumName => exact h _ List.mem_cons_self
  | _ => decide

theorem spells_zero : Spells "0u".toList [wordToken "0u"] (noNext isWordChar) :=
  .word (List.all_eq_true.mp (by decide +kernel)) (by decide +kernel)

theorem Expr.spells_text {e : Expr} (h : ∀ name ∈ e.members ++ e.enumTypes, IsIdentifier name) :
    Spells e.text.toList e.tokens (noNext isWordChar) := by
  induction e with
  | member name => exact spells_memberText (h name List.mem_cons_self)
  | byte offset => exact (spells_byteText offset).anywhere
  | get word offset =>
      have hname : Spells ("get_" ++ word.text).toList [wordToken ("get_" ++ word.text)]
          (noNext isWordChar) := .identifier (by cases word <;> decide)
      have hopen : Spells "(&".toList [.mark .openParen, .mark .ampersand] anyNext :=
        .literal (by decide)
      have hclose : Spells ")".toList [.mark .closeParen] anyNext := .literal (by decide)
      exact (((hname.stop hopen (by decide)).join (spells_byteText offset)).join
        hclose).anywhere
  | cast type e ih =>
      simp only [members, enumTypes, List.forall_mem_append] at h ih
      have hopen : Spells "(".toList [.mark .openParen] anyNext := .literal (by decide)
      have hclose : Spells ")".toList [.mark .closeParen] anyNext := .literal (by decide)
      have hname := Spells.identifier (CType.isIdentifier_text h.2.1)
      have htype := (hopen.join hname).stop hclose (by decide)
      exact htype.join (ih ⟨h.1, h.2.2⟩)
  | oneIf e ih =>
      have hone : Spells " ? 1u : ".toList [.mark .question, wordToken "1u", .mark .colon]
          anyNext := .literal (by decide)
      have htext : " ? 1u : " ++ "0u" = " ? 1u : 0u" := by decide
      have htail := hone.join spells_zero
      rw [htext] at htail
      exact (ih h).stop htail (by decide)
  | nonzero e ih =>
      have hunequal : Spells " != ".toList [.mark .unequal] anyNext := .literal (by decide)
      have htext : " != " ++ "0u" = " != 0u" := by decide
      have htail := hunequal.join spells_zero
      rw [htext] at htail
      exact (ih h).stop htail (by decide)

theorem Stmt.spells_text {s : Stmt} (h : ∀ name ∈ s.members ++ s.enumTypes, IsIdentifier name) :
    Spells s.text.toList s.piece anyNext := by
  have hsemicolon : Spells ";".toList [.mark .semicolon] anyNext := .literal (by decide)
  have hequals : Spells " = ".toList [.mark .equals] anyNext := .literal (by decide)
  cases s with
  | put word offset e =>
      have hname : Spells ("put_" ++ word.text).toList [wordToken ("put_" ++ word.text)]
          (noNext isWordChar) := .identifier (by cases word <;> decide)
      have hopen : Spells "(&".toList [.mark .openParen, .mark .ampersand] anyNext :=
        .literal (by decide)
      have hcomma : Spells ", ".toList [.mark .comma] anyNext := .literal (by decide)
      have hclose : Spells ");".toList [.mark .closeParen, .mark .semicolon] anyNext :=
        .literal (by decide)
      have hplace := (hname.stop hopen (by decide)).join (spells_byteText offset)
      have hvalue := (hplace.join hcomma).join (e.spells_text h)
      have hall := hvalue.stop hclose (by decide)
      simpa only [piece, tokens, text, List.append_assoc, List.cons_append, List.nil_append]
        using hall
  | setByte offset e =>
      have hall := (((spells_byteText offset).join hequals).join (e.spells_text h)).stop hsemicolon
        (by decide)
      simpa only [piece, tokens, text, List.append_assoc, List.cons_append, List.nil_append]
        using hall
  | setMember name e =>
      rw [Stmt.members, List.cons_append, List.forall_mem_cons] at h
      have hall := (((spells_memberText h.1).stop hequals (by decide)).join
        (e.spells_text h.2)).stop hsemicolon (by decide)
      simpa only [piece, tokens, text, List.append_assoc, List.cons_append, List.nil_append]
        using hall

/-- Pieces of code on lines of their own. -/
theorem Spells.oneLine {line : String} {ts : List Token} (h : Spells line.toList ts anyNext) :
    Spells (unlines [line]).toList ts anyNext := by
  have hline := h.anywhere.line spells_unlines_nil
  rwa [List.append_nil] at hline

namespace Routine

variable {message size : String}

theorem spells_parameters (direction : Direction) (h : IsIdentifier message) :
    Spells (parameters direction message).toList (parameterTokens direction message) anyNext := by
  have hobject : Spells (message ++ "_t").toList [wordToken (message ++ "_t")]
      (noNext isWordChar) := .identifier (h.append (by decide))
  cases direction with
  | pack =>
      have hconst : Spells "const ".toList [wordToken "const"] anyNext :=
        .literal (by decide)
      have hrest : Spells " *msg, uint8_t *buf, size_t len)".toList
          (pointerTokens "msg" ++ wordToken "uint8_t" :: (pointerTokens "buf"
            ++ [wordToken "size_t", wordToken "len", .mark .closeParen])) anyNext :=
        .literal (by decide)
      have htext : parameters .pack message
          = "const " ++ ((message ++ "_t") ++ " *msg, uint8_t *buf, size_t len)") := by
        show ("const " ++ message) ++ ("_t" ++ " *msg, uint8_t *buf, size_t len)") = _
        simp only [String.append_assoc]
      have hall := hconst.join (hobject.stop hrest (by decide))
      rw [htext]
      exact hall
  | unpack =>
      have hrest : Spells " *msg, const uint8_t *buf, size_t len)".toList
          (pointerTokens "msg" ++ wordToken "const" :: wordToken "uint8_t" :: (pointerTokens "buf"
            ++ [wordToken "size_t", wordToken "len", .mark .closeParen])) anyNext :=
        .literal (by decide)
      have htext : parameters .unpack message
          = (message ++ "_t") ++ " *msg, const uint8_t *buf, size_t len)" := by
        show message ++ ("_t" ++ " *msg, const uint8_t *buf, size_t len)") = _
        simp only [String.append_assoc]
      have hall := hobject.stop hrest (by decide)
      rw [htext]
      exact hall

theorem spells_head (direction : Direction) (h : IsIdentifier message) :
    Spells (head direction message).toList (headTokens direction message) anyNext := by
  have hblank : Spells " ".toList [] anyNext := .literal (by decide)
  have hint : Spells ("int" ++ " ").toList [wordToken "int"] anyNext :=
    (Spells.identifier (by decide)).stop hblank (by decide)
  have hopen : Spells "(".toList [.mark .openParen] anyNext := .literal (by decide)
  rw [head_eq]
  exact ((hint.join (.identifier (h.function direction))).stop hopen (by decide)).join
    (spells_parameters direction h)

theorem spells_check (h : IsIdentifier size) :
    Spells (unlines ["  if (len < " ++ size ++ ") \x7b", "    return -1;", "  \x7d"]).toList
      (checkTokens size) anyNext := by
  have hif : Spells "  if (len < ".toList
      [wordToken "if", .mark .openParen, wordToken "len", .mark .less] anyNext :=
    .literal (by decide)
  have hopen : Spells ") \x7b".toList [.mark .closeParen, .mark .openBrace] anyNext :=
    .literal (by decide)
  have hreturn : Spells "    return -1;".toList
      [wordToken "return", .mark .minus, wordToken "1", .mark .semicolon] anyNext :=
    .literal (by decide)
  have hclose : Spells "  \x7d".toList [.mark .closeBrace] anyNext := .literal (by decide)
  have hfirst := (hif.join (.identifier h)).stop hopen (by decide)
  exact hfirst.anywhere.line (hreturn.anywhere.line hclose.oneLine)

theorem spells_end (h : IsIdentifier size) :
    Spells (unlines ["  return (int)" ++ size ++ ";", "\x7d"]).toList
      (endTokens size ++ [.mark .closeBrace]) anyNext := by
  have hreturn : Spells "  return (int)".toList
      [wordToken "return", .mark .openParen, wordToken "int", .mark .closeParen] anyNext :=
    .literal (by decide)
  have hsemicolon : Spells ";".toList [.mark .semicolon] anyNext := .literal (by decide)
  have hclose : Spells "\x7d".toList [.mark .closeBrace] anyNext := .literal (by decide)
  have hfirst := (hreturn.join (.identifier h)).stop hsemicolon (by decide)
  exact hfirst.anywhere.line hclose.oneLine

theorem spells_body {stmts : List Stmt}
    (h : ∀ s ∈ stmts, ∀ name ∈ s.members ++ s.enumTypes, IsIdentifier name) :
    Spells (unlines (stmts.map fun s => "  " ++ s.text)).toList (stmts.map Stmt.piece).flatten
      anyNext := by
  have hblank : Spells "  ".toList [] anyNext := .literal (by decide)
  induction stmts with
  | nil => exact spells_unlines_nil
  | cons s stmts ih =>
      rw [List.forall_mem_cons] at h
      exact (hblank.join (Stmt.spells_text h.1)).anywhere.line (ih h.2)

/-- A printed function has its tokens. -/
theorem spells_lines {routine : Routine} (hmessage : IsIdentifier routine.message)
    (hbody : ∀ s ∈ routine.body, ∀ name ∈ s.members ++ s.enumTypes, IsIdentifier name) :
    Spells (unlines routine.lines).toList routine.tokens anyNext := by
  have hrest := ((spells_check hmessage.sizeMacro).join (spells_body hbody)).join
    (spells_end hmessage.sizeMacro)
  rw [← Text.unlines_append, ← Text.unlines_append] at hrest
  have hbrace : Spells " \x7b".toList [.mark .openBrace] anyNext := .literal (by decide)
  have hlines := ((spells_head routine.direction hmessage).join hbrace).anywhere.line hrest
  simpa [tokens, bodyPieces, lines] using hlines

end Routine

end Spelling

/-! ### Pieces -/

/-- A token that neither opens nor closes a brace and ends no statement. -/
def Token.isInner (t : Token) : Bool :=
  t ≠ .mark .openBrace ∧ t ≠ .mark .closeBrace ∧ t ≠ .mark .semicolon

theorem within_inner {ts : List Token} (h : ts.all Token.isInner = true) (depth : Nat) :
    within depth ts = some depth := by
  induction ts with
  | nil => rfl
  | cons t ts ih =>
      rw [List.all_cons, Bool.and_eq_true] at h
      have hgoes : t.goesOn depth = some depth := by
        obtain ⟨hopen, hclose, hsemicolon⟩ := of_decide_eq_true h.1
        unfold Token.goesOn
        split <;> first | rfl | contradiction
      rw [within, List.foldlM_cons, hgoes]
      exact ih h.2

theorem Expr.all_isInner (e : Expr) : e.tokens.all Token.isInner = true := by
  induction e with
  | member name | byte offset | get word offset => rfl
  | cast type e ih => exact ih
  | oneIf e ih | nonzero e ih =>
      rw [tokens, List.all_append, ih]
      rfl

namespace Stmt

theorem all_isInner (s : Stmt) : s.tokens.all Token.isInner = true := by
  cases s with
  | put word offset e =>
      have hrest : (e.tokens ++ [Token.mark .closeParen]).all Token.isInner = true := by
        rw [List.all_append, e.all_isInner]
        rfl
      rw [tokens, List.append_assoc]
      exact hrest
  | setByte offset e | setMember name e => exact e.all_isInner

theorem isPiece_piece (s : Stmt) : isPiece s.piece = true := by
  rw [isPiece, piece, List.getLast?_concat, List.dropLast_concat, within_inner s.all_isInner 0]
  rfl

theorem within_piece (s : Stmt) : within 1 s.piece = some 1 := by
  rw [piece, within_append (within_inner s.all_isInner 1)]
  rfl

end Stmt

namespace Routine

variable (routine : Routine)

theorem isPiece_bodyPieces : ∀ p ∈ routine.bodyPieces, isPiece p = true := by
  intro p hp
  simp only [bodyPieces, List.mem_append, List.mem_cons, List.mem_map, List.not_mem_nil,
    or_false] at hp
  obtain (rfl | ⟨s, -, rfl⟩) | rfl := hp
  · rfl
  · exact s.isPiece_piece
  · rfl

theorem within_bodyPieces : within 1 routine.bodyPieces.flatten = some 1 := by
  have hcheck (size : String) : within 1 (checkTokens size) = some 1 := rfl
  have hbody : within 1 (routine.body.map Stmt.piece).flatten = some 1 := by
    induction routine.body with
    | nil => rfl
    | cons s stmts ih => rw [List.map_cons, List.flatten_cons, within_append s.within_piece, ih]
  rw [bodyPieces, List.flatten_append, List.flatten_cons, List.append_assoc,
    within_append (hcheck _), within_append hbody]
  rfl

theorem isPiece_tokens : isPiece routine.tokens = true := by
  have hhead : within 0 (headTokens routine.direction routine.message) = some 0 := by
    cases routine.direction <;> rfl
  have hopen (ts : List Token) : within 0 (.mark .openBrace :: ts) = within 1 ts := rfl
  rw [isPiece, tokens, List.getLast?_concat, List.dropLast_concat, within_append hhead, hopen,
    within_bodyPieces]
  rfl

end Routine

end DeviceGen.C
