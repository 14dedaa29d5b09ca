/-
Printed functions do what their statements say.

A function that copies a message is a list of statements that run on a memory, and it is a text.
Here what is read back from the text is run beside the statements: where a statement has a result,
its text has the same one.  Only expressions differ, in which an enumeration has become a number.
Whatever becomes of that is the same, since a conversion looks at nothing but the number.

The words are put and got by functions that are given, and the macro for the size has its value.
-/
import DeviceGen.Proofs.C.Machine
import DeviceGen.Proofs.C.ReadBack

namespace DeviceGen.C

/-! ### Conversions -/

/-- The type of the values of a type in an expression. -/
def CType.promoted : CType → CType
  | enumeration _ => int32
  | type => type

theorem CType.named?_text {type : CType}
    (h : ∀ name ∈ type.enumType?.toList, name ∉ ownTypes.map Prod.fst) :
    named? type.text = some type.promoted := by
  cases type with
  | enumeration enumName =>
      have hother := h _ List.mem_cons_self
      have hlookup : ownTypes.lookup (enumType enumName) = none := by
        rw [List.lookup_eq_none_iff]
        intro p hp
        have hne : enumType enumName ≠ p.1 := fun heq => hother (heq ▸ List.mem_map_of_mem hp)
        simpa using hne
      rw [text, named?, hlookup]
      rfl
  | _ => rfl

namespace Value

theorem toInt?_promoted (v : Value) : v.promoted.toInt? = v.toInt? := by
  cases v <;> rfl

theorem promoted_of_type {v : Value} (h : v.type.promoted = v.type) : v.promoted = v := by
  cases v with
  | enumeration enumName v => cases h
  | _ => rfl

/-- A value that is a number is read back from it. -/
theorem ofInt?_type {v : Value} {n : Int} (h : v.toInt? = some n) : ofInt? n v.type = some v := by
  cases v with
  | float _ | double _ => cases h
  | int32 v | enumeration _ v =>
      cases h
      simp only [type, ofInt?, Int32.ofInt_toInt]
  | int64 v =>
      cases h
      simp only [type, ofInt?, Int64.ofInt_toInt]
  | uint32 v =>
      cases h
      simp [type, ofInt?]
  | uint64 v =>
      cases h
      simp [type, ofInt?]
  | bool v =>
      cases h
      cases v <;> rfl

/-- Of a value that is a number, nothing else counts. -/
theorem convert_of_toInt? {v : Value} {n : Int} (h : v.toInt? = some n) (type : CType) :
    v.convert type = ofInt? n type := by
  unfold convert
  by_cases htype : v.type = type
  · rw [if_pos htype, ← htype, ofInt?_type h]
  · rw [if_neg htype, h, Option.bind_some]

/-- What a value is converted to does not depend on whether it was an enumeration. -/
theorem convert_promoted (v : Value) (type : CType) : v.promoted.convert type = v.convert type := by
  cases v with
  | enumeration enumName n =>
      rw [convert_of_toInt? rfl, convert_of_toInt? (v := enumeration enumName n) rfl]
  | _ => rfl

/-- A conversion to an enumeration is one to its numbers. -/
theorem convert_promoted_type (v : Value) (type : CType) :
    v.convert type.promoted = (v.convert type).map promoted := by
  have hkept {type : CType} (h : type.promoted = type) :
      v.convert type = (v.convert type).map promoted := by
    cases hw : v.convert type with
    | none => rfl
    | some w =>
        have htype := type_of_convert hw
        rw [Option.map_some, promoted_of_type (by rw [htype, h])]
  cases type with
  | enumeration enumName =>
      cases hn : v.toInt? with
      | none =>
          cases v with
          | float _ | double _ => rfl
          | _ => cases hn
      | some n =>
          rw [convert_of_toInt? hn, convert_of_toInt? hn]
          rfl
  | _ => exact hkept rfl

end Value

/-- A cast in the text of an expression does what it says. -/
theorem Datum.convert_promoted {v w : Value} {type : CType}
    (htype : ∀ name ∈ type.enumType?.toList, name ∉ ownTypes.map Prod.fst)
    (h : v.convert type = some w) :
    (value v.promoted).convert type.text = some (value w.promoted) := by
  refine convert_value (CType.named?_text htype) ?_
  rw [Value.convert_promoted, Value.convert_promoted_type, h, Option.map_some]

/-! ### Expressions -/

/-- The places of the buffer in an expression. -/
def Expr.offsets : Expr → List Nat
  | member _ => []
  | byte offset | get _ offset => [offset]
  | cast _ e | oneIf e | nonzero e => e.offsets

/-- What the text of an expression needs besides its names: places in reach of an `int`, and no type
of an enumeration that has the name of another type. -/
structure Expr.Fits (e : Expr) : Prop where
  offsets : ∀ offset ∈ e.offsets, offset < 2 ^ 31
  types : ∀ name ∈ e.enumTypes, name ∉ ownTypes.map Prod.fst

/-- The variables of a function that copies a message. -/
def copying (length : Nat) : Locals :=
  [("msg", .holds .object), ("buf", .holds (.place 0)), ("len", .holds (.size length))]

section Runs

variable {linkage : Linkage} {length : Nat} {memory : Memory} {e : Expr} {v : Value}

theorem gives_place {offset : Nat} (h : offset < 2 ^ 31) :
    (Phrase.address (bytePhrase offset)).Gives linkage (copying length) memory (.place offset) := by
  have hplace : (Phrase.address (bytePhrase offset)).Gives linkage (copying length) memory
      (.place (0 + offset)) := .placeAt rfl h
  rwa [Nat.zero_add] at hplace

theorem gives_byte {offset : Nat} {b : UInt8} (h : offset < 2 ^ 31)
    (hbyte : memory.buffer[offset]? = some b) :
    (bytePhrase offset).Gives linkage (copying length) memory (.value (byteValue b)) := by
  have hplace : memory.buffer[0 + offset]? = some b := by rwa [Nat.zero_add]
  exact .byteAt rfl h hplace

/-- Whether a byte is unequal to zero. -/
theorem apply_unequal (b : UInt8) :
    Operator.unequal.apply (.value (byteValue b)) (.value (.uint32 0))
      = some (.value (.int32 (if (b.toNat : Int) ≠ 0 then 1 else 0))) := by
  have hlt := b.toNat_lt
  have hiff : (Int32.ofNat b.toNat).toUInt32 ≠ 0 ↔ (b.toNat : Int) ≠ 0 := by
    show UInt32.ofNat b.toNat ≠ 0 ↔ _
    rw [Ne, ← UInt32.toNat_inj, UInt32.toNat_ofNat', UInt32.toNat_zero]
    omega
  show some (Datum.value (.int32 (if (Int32.ofNat b.toNat).toUInt32 ≠ 0 then 1 else 0))) = _
  simp only [hiff]

variable (helps : linkage.Helps) (length : Nat)

include helps

/-- The value of an operand is what its text gives. -/
theorem Expr.gives_operand (hoperand : e.isOperand = true) (hfits : e.Fits)
    (heval : e.eval memory = some v) :
    e.phrase.Gives linkage (copying length) memory (.value v.promoted) := by
  induction e generalizing v with
  | member name =>
      cases heval
      exact .member (.name rfl) name
  | byte offset =>
      obtain ⟨b, hb, rfl⟩ := Option.map_eq_some_iff.mp heval
      exact gives_byte (hfits.offsets offset List.mem_cons_self) hb
  | get word offset =>
      have hcall := (helps.gets word).run heval
      have htype := Word.type_of_get heval
      rw [Value.promoted_of_type (by rw [htype]; cases word <;> rfl)]
      exact .call (gives_place (hfits.offsets offset List.mem_cons_self)) hcall
  | cast type e ih =>
      obtain ⟨w, hw, hconvert⟩ := Option.bind_eq_some_iff.mp heval
      have hin := ih hoperand ⟨hfits.offsets, fun name hname =>
        hfits.types name (List.mem_append_right _ hname)⟩ hw
      exact .cast hin (Datum.convert_promoted
        (fun name hname => hfits.types name (List.mem_append_left _ hname)) hconvert)
  | oneIf e | nonzero e => cases hoperand

/-- The value of an expression is what its text gives. -/
theorem Expr.gives (hplain : e.isPlain = true) (hfits : e.Fits) (heval : e.eval memory = some v) :
    e.phrase.Gives linkage (copying length) memory (.value v.promoted) := by
  cases e with
  | oneIf e =>
      simp only [Expr.eval, Option.bind_eq_bind, Option.bind_eq_some_iff] at heval
      obtain ⟨w, hw, n, hn, hv⟩ := heval
      cases hv
      have hcondition := Expr.gives_operand helps length hplain ⟨hfits.offsets, hfits.types⟩ hw
      have htrue : w.promoted.isTrue? = some (decide (n ≠ 0)) := by
        rw [Value.isTrue?, Value.toInt?_promoted, hn, Option.map_some]
      refine .conditional hcondition htrue ?_
      by_cases hone : n ≠ 0
      · rw [if_pos (decide_eq_true hone), if_pos hone]
        exact .number rfl
      · rw [if_neg (mt of_decide_eq_true hone), if_neg hone]
        exact .number rfl
  | nonzero e =>
      cases e with
      | byte offset =>
          simp only [Expr.eval, Option.bind_eq_bind, Option.bind_eq_some_iff] at heval
          obtain ⟨w, hw, n, hn, hv⟩ := heval
          obtain ⟨b, hb, rfl⟩ := Option.map_eq_some_iff.mp hw
          cases hv
          cases (toInt?_byteValue b).symm.trans hn
          exact .binary (gives_byte (hfits.offsets offset List.mem_cons_self) hb) (.number rfl)
            (apply_unequal b)
      | _ => cases hplain
  | member name | byte offset | get word offset | cast type e =>
      exact Expr.gives_operand helps length hplain hfits heval

end Runs

/-! ### Statements -/

/-- The places of the buffer in a statement. -/
def Stmt.offsets : Stmt → List Nat
  | put _ offset e | setByte offset e => offset :: e.offsets
  | setMember _ e => e.offsets

/-- A statement whose text is a statement of the language, and says the same. -/
structure Stmt.IsCode (s : Stmt) : Prop where
  plain : s.value.isPlain = true
  names : ∀ name ∈ s.members ++ s.enumTypes, IsIdentifier name
  types : ∀ name ∈ s.enumTypes, name ∉ ownTypes.map Prod.fst
  offsets : ∀ offset ∈ s.offsets, offset < 2 ^ 31

section Statements

variable {linkage : Linkage} (helps : linkage.Helps) {length : Nat} {memory after : Memory}

include helps

/-- A statement does what its text says. -/
theorem Stmt.run_command {s : Stmt} (h : s.IsCode) (hrun : s.run memory = some after) :
    s.command.run linkage (copying length) memory = some (.goesOn (copying length) after) := by
  cases s with
  | put word offset e =>
      simp only [Stmt.run, Option.bind_eq_bind, Option.bind_eq_some_iff] at hrun
      obtain ⟨v, hv, w, hw, buffer, hput, hafter⟩ := hrun
      cases hafter
      have hplace := h.offsets offset List.mem_cons_self
      have hvalue := Expr.gives helps length h.plain
        ⟨fun o ho => h.offsets o (List.mem_cons_of_mem _ ho), h.types⟩ hv
      have harguments := evalAll_cons (gives_place hplace) (evalAll_cons hvalue evalAll_nil)
      rw [← Value.convert_promoted] at hw
      exact Command.run_call (by cases word <;> decide) harguments ((helps.puts word).run hw hput)
  | setByte offset e =>
      simp only [Stmt.run, Option.bind_eq_bind, Option.bind_eq_some_iff] at hrun
      obtain ⟨v, hv, n, hn, buffer, hset, hafter⟩ := hrun
      cases hafter
      have hplace := h.offsets offset List.mem_cons_self
      have hvalue := Expr.gives helps length h.plain
        ⟨fun o ho => h.offsets o (List.mem_cons_of_mem _ ho), h.types⟩ hv
      rw [← Value.toInt?_promoted] at hn
      exact Command.run_item (gives_place hplace) hvalue hn hset
  | setMember name e =>
      simp only [Stmt.run, Option.bind_eq_bind, Option.bind_eq_some_iff] at hrun
      obtain ⟨v, hv, w, hw, hafter⟩ := hrun
      cases hafter
      have hvalue := Expr.gives helps length h.plain ⟨h.offsets, h.types⟩ hv
      rw [← Value.convert_promoted] at hw
      exact Command.run_member (.name rfl) hvalue hw

/-- Statements do what their texts say, one after the other. -/
theorem runAll_commands {stmts : List Stmt} (h : ∀ s ∈ stmts, s.IsCode)
    (hrun : runAll stmts memory = some after) {cs : List Command} {ending : Ending}
    (hrest : Command.runAll linkage cs (copying length) after = some ending) :
    Command.runAll linkage (stmts.map Stmt.command ++ cs) (copying length) memory
      = some ending := by
  induction stmts generalizing memory with
  | nil =>
      cases hrun
      exact hrest
  | cons s stmts ih =>
      rw [List.forall_mem_cons] at h
      obtain ⟨next, hnext, hafter⟩ := Option.bind_eq_some_iff.mp hrun
      exact Command.runAll_cons (Stmt.run_command helps h.1 hnext) (ih h.2 hafter)

end Statements

/-! ### Functions -/

namespace Routine

/-- A function whose text is one of the language. -/
structure IsCode (routine : Routine) : Prop where
  message : IsIdentifier routine.message
  body : ∀ s ∈ routine.body, s.IsCode

variable {routine : Routine}

/-- A function is read off its lines as what was printed. -/
theorem IsCode.defines (h : routine.IsCode) : Defines routine.lines [routine.function] :=
  defines_lines h.message (fun s hs => (h.body s hs).names) fun s hs => (h.body s hs).plain

/-- No variable has the name of a macro. -/
theorem lookup_sizeMacro (message : String) (length : Nat) :
    (copying length).lookup (sizeMacro message) = none := by
  have hnames : ∀ x ∈ ["msg", "buf", "len"], x.toList.getLast? ≠ some 'E' := by decide
  rw [List.lookup_eq_none_iff]
  intro p hp
  have hmem : p.1 ∈ ["msg", "buf", "len"] := List.mem_map_of_mem (f := Prod.fst) hp
  refine bne_iff_ne.mpr fun heq => hnames p.1 hmem ?_
  simp [← heq, sizeMacro, List.getLast?_append]

section Calls

variable {linkage : Linkage} {size : Nat} {memory : Memory}
  (hdefined : linkage.defined (sizeMacro routine.message) = some size) (hlt : size < 2 ^ 31)

include hdefined hlt

/-- The macro for the size has its value in an expression. -/
theorem gives_sizeMacro (length : Nat) :
    (Phrase.name (sizeMacro routine.message)).Gives linkage (copying length) memory
      (.value (.uint32 (UInt32.ofNat size))) :=
  .defined (lookup_sizeMacro routine.message length) hdefined (literal?_unsigned (by omega))

/-- A buffer that is too short is refused. -/
theorem run_check (length : Nat) (memory : Memory) :
    (check (sizeMacro routine.message)).run linkage (copying length) memory
      = some (if length < size then .returns (.value (.int32 (-1))) memory
        else .goesOn (copying length) memory) := by
  have hbits : (UInt32.ofNat size).toNat = size := by
    rw [UInt32.toNat_ofNat']
    omega
  have hless : Operator.less.apply (.size length) (.value (.uint32 (UInt32.ofNat size)))
      = some (.value (.int32 (if length < size then 1 else 0))) := by
    rw [Operator.apply, hbits]
  have hlength : (Phrase.name "len").Gives linkage (copying length) memory (.size length) :=
    .name rfl
  have hcondition := hlength.binary (gives_sizeMacro hdefined hlt length) hless
  by_cases hshort : length < size
  · rw [if_pos hshort] at hcondition ⊢
    exact Command.run_giveIf_true hcondition rfl (.negate (.number rfl) (by decide))
  · rw [if_neg hshort] at hcondition ⊢
    exact Command.run_giveIf_false hcondition rfl

/-- At its end, a function returns the size. -/
theorem run_ending (length : Nat) :
    (ending (sizeMacro routine.message)).run linkage (copying length) memory
      = some (.returns (.value (.int32 (Int32.ofNat size))) memory) :=
  Command.run_give (.cast (gives_sizeMacro hdefined hlt length)
    (Datum.convert_value rfl (Value.convert_signed32 _)))

/-- A function does what its text says. -/
theorem IsCode.call_function (h : routine.IsCode) (helps : linkage.Helps) {header : List String}
    (hsize : macroValue? (sizeMacro routine.message) header = some size)
    {outcome : Outcome} (hcall : routine.call header memory = some outcome) :
    ∃ v : Int32, v.toInt = outcome.returned
      ∧ routine.function.call linkage [.object, .place 0, .size memory.buffer.length] memory
        = some (some (.value (.int32 v)), outcome.memory) := by
  have hcheck := run_check hdefined hlt memory.buffer.length memory
  by_cases hshort : memory.buffer.length < size
  · rw [call_short hsize hshort] at hcall
    cases hcall
    rw [if_pos hshort] at hcheck
    exact ⟨-1, rfl, Function.call_returns rfl (Command.runAll_return hcheck _) rfl⟩
  · unfold call at hcall
    rw [hsize, Option.bind_eq_bind, Option.bind_some, if_neg hshort, Option.bind_eq_bind,
      Option.bind_eq_some_iff] at hcall
    obtain ⟨after, hrun, houtcome⟩ := hcall
    cases houtcome
    rw [if_neg hshort] at hcheck
    have hbody := Command.runAll_cons hcheck (runAll_commands helps h.body hrun
      (Command.runAll_return (run_ending hdefined hlt memory.buffer.length) []))
    exact ⟨Int32.ofNat size, rfl, Function.call_returns rfl hbody rfl⟩

end Calls

end Routine

end DeviceGen.C
