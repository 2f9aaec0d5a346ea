import StackLang.Proofs.Compile.Code

/-! # Heights of code

How high the stack of a frame is at a place of its code can be told from the code alone, for
compiled code needs no more values than there are, and each part of a program adds what it should.

* `Instruction.consumes`, `Instruction.produces` — what an instruction takes and leaves.
* `staticHeight` — the arity and the effects of the instructions before a place.
* `Span` — code that runs from one height to another without going below a floor.
* `ExpressionCode.span`, `StatementsCode.span` — the spans of compiled code.
* `StatementsPlace` — the places in the code of statements, with the scopes there.
* `StatementsPlace.fits` — the heights of these places. -/

namespace StackLang

namespace Bytecode

/-- How many values an instruction takes from the stack. -/
def Instruction.consumes : Instruction → Nat
  | .add | .subtract | .multiply | .divide => 2
  | .pop | .returnValue => 1
  | .call count => count.toNat + 1
  | _ => 0

/-- How many values an instruction leaves on the stack; that of a call is the result. -/
def Instruction.produces : Instruction → Nat
  | .pop | .returnValue | .returnVoid | .halt => 0
  | _ => 1

/-- How high the stack must be for what an instruction reads and leaves where it is. -/
def Instruction.reach : Instruction → Nat
  | .loadLocal slot => slot.toNat + 1
  | .halt => 1
  | _ => 0

/-- The net effect of an instruction on the height of the stack. -/
def Instruction.effect (instruction : Instruction) : Int :=
  (instruction.produces : Int) - instruction.consumes

/-- The static height behind some instructions of a unit: its arity and their net effects. -/
def staticHeight (arity : Nat) (before : List Instruction) : Int :=
  before.foldl (fun height instruction => height + instruction.effect) arity

/-- The height behind some instructions. -/
def heightBehind (height : Nat) (code : List Instruction) : Nat :=
  code.foldl (fun height instruction => height - instruction.consumes + instruction.produces) height

/-- No instruction takes a value from below the floor, or reads a value that is not there. -/
def Safe (floor : Nat) : Nat → List Instruction → Prop
  | _, [] => True
  | height, instruction :: others =>
      floor + instruction.consumes ≤ height ∧ instruction.reach ≤ height
        ∧ Safe floor (height - instruction.consumes + instruction.produces) others

@[simp] theorem heightBehind_nil (height : Nat) : heightBehind height [] = height := rfl

@[simp] theorem heightBehind_cons (height : Nat) (instruction : Instruction)
    (others : List Instruction) :
    heightBehind height (instruction :: others)
      = heightBehind (height - instruction.consumes + instruction.produces) others := rfl

theorem heightBehind_append (height : Nat) (first second : List Instruction) :
    heightBehind height (first ++ second) = heightBehind (heightBehind height first) second :=
  List.foldl_append

theorem safe_append {floor height : Nat} {first second : List Instruction} :
    Safe floor height (first ++ second)
      ↔ Safe floor height first ∧ Safe floor (heightBehind height first) second := by
  induction first generalizing height with
  | nil => simp [Safe]
  | cons instruction others ih => simp [Safe, ih, and_assoc]

/-- What is safe for a floor is safe for each lower one. -/
theorem Safe.mono {floor low height : Nat} {code : List Instruction} (h : Safe floor height code)
    (hle : low ≤ floor) : Safe low height code := by
  induction code generalizing height with
  | nil => trivial
  | cons instruction others ih =>
      obtain ⟨hconsumes, hreach, hothers⟩ := h
      exact ⟨by omega, hreach, ih hothers⟩

/-- Safe code ends above its floor. -/
theorem Safe.le_heightBehind {floor height : Nat} {code : List Instruction}
    (h : Safe floor height code) (hle : floor ≤ height) : floor ≤ heightBehind height code := by
  induction code generalizing height with
  | nil => exact hle
  | cons instruction others ih =>
      obtain ⟨hconsumes, -, hothers⟩ := h
      have hnext : floor ≤ height - instruction.consumes + instruction.produces := by omega
      exact ih hothers hnext

/-- The height behind safe code is the static one. -/
theorem Safe.staticHeight_eq {floor height : Nat} {code : List Instruction}
    (h : Safe floor height code) : (heightBehind height code : Int) = staticHeight height code := by
  induction code generalizing height with
  | nil => rfl
  | cons instruction others ih =>
      obtain ⟨hconsumes, -, hothers⟩ := h
      have hnext : (height : Int) + instruction.effect
          = (height - instruction.consumes + instruction.produces : Nat) := by
        rw [Instruction.effect]
        omega
      rw [heightBehind_cons, ih hothers, staticHeight, staticHeight, List.foldl_cons, hnext]

/-- Code that runs safely from one height to another. -/
structure Span (floor height : Nat) (code : List Instruction) (final : Nat) : Prop where
  /-- It is safe. -/
  safe : Safe floor height code
  /-- It ends at the final height. -/
  height_eq : heightBehind height code = final

namespace Span

variable {floor height middle final : Nat} {first second : List Instruction}

theorem nil (floor height : Nat) : Span floor height [] height := ⟨trivial, rfl⟩

/-- Spans follow one another. -/
theorem append (hfirst : Span floor height first middle)
    (hsecond : Span floor middle second final) :
    Span floor height (first ++ second) final := by
  obtain ⟨hsafe, rfl⟩ := hfirst
  exact ⟨safe_append.mpr ⟨hsafe, hsecond.safe⟩, by rw [heightBehind_append, hsecond.height_eq]⟩

/-- A single instruction. -/
theorem single {instruction : Instruction} (hconsumes : floor + instruction.consumes ≤ height)
    (hreach : instruction.reach ≤ height)
    (hfinal : height - instruction.consumes + instruction.produces = final) :
    Span floor height [instruction] final :=
  ⟨⟨hconsumes, hreach, trivial⟩, hfinal⟩

/-- The floor may be lowered. -/
theorem mono {low : Nat} (h : Span floor height first final) (hle : low ≤ floor) :
    Span low height first final :=
  ⟨h.safe.mono hle, h.height_eq⟩

end Span

end Bytecode

namespace Compile

open Bytecode (CodeUnit Instruction Pool Safe Span heightBehind)

variable {environment : Environment}

/-! ## Spans of compiled code -/

theorem consumes_produces_of_arithmetic? {sign : Operator} {instruction : Instruction}
    (h : arithmetic? sign = some instruction) :
    instruction.consumes = 2 ∧ instruction.produces = 1 ∧ instruction.reach = 0 := by
  cases sign with
  | plus | minus | star | slash =>
      cases h
      exact ⟨rfl, rfl, rfl⟩
  | dot => cases h

mutual

/-- The code of an expression leaves one value, and touches none that was there. -/
theorem ExpressionCode.span {scope : Scope} {pool extended : Pool} {evaluated : Expression}
    {code : List Instruction} {height : Nat} (hheight : scope.length ≤ height) :
    ExpressionCode environment scope pool evaluated code extended →
      Span height height code (height + 1)
  | .number _ _ => Span.single (Nat.le_refl _) (Nat.zero_le _) rfl
  | @ExpressionCode.localName _ _ _ _ slot hslot => by
      have hlt := Scope.lt_length_of_slot? hslot
      have hnumber : (UInt8.ofNat slot).toNat ≤ slot := by
        rw [UInt8.toNat_ofNat']
        exact Nat.mod_le _ _
      have hreach : (UInt8.ofNat slot).toNat < height := by omega
      exact Span.single (Nat.le_refl _) hreach rfl
  | .globalName _ _ _ => Span.single (Nat.le_refl _) (Nat.zero_le _) rfl
  | .binary hsign hleft hright => by
      -- The second operand is found above the first, and does not touch it.
      obtain ⟨hconsumes, hproduces, hreach⟩ := consumes_produces_of_arithmetic? hsign
      refine ((hleft.span hheight).append ((hright.span (Nat.le_succ_of_le hheight)).mono
        (Nat.le_succ height))).append (Span.single ?_ ?_ ?_)
      · omega
      · omega
      · omega
  | @ExpressionCode.call _ _ _ _ _ _ arguments _ _ hcount harguments hcallee => by
      have hnumber := toNat_ofNat_of_le_maxArguments hcount
      refine ((harguments.span hheight).append
        ((hcallee.span (Nat.le_add_right_of_le hheight)).mono
          (Nat.le_add_right _ _))).append (Span.single ?_ ?_ ?_)
      · simp only [Instruction.consumes, hnumber]
        omega
      · exact Nat.zero_le _
      · simp only [Instruction.consumes, Instruction.produces, hnumber]
        omega

/-- The code of several expressions leaves as many values. -/
theorem ExpressionsCode.span {scope : Scope} {pool extended : Pool} {evaluated : List Expression}
    {code : List Instruction} {height : Nat} (hheight : scope.length ≤ height) :
    ExpressionsCode environment scope pool evaluated code extended →
      Span height height code (height + evaluated.length)
  | .nil => Span.nil _ _
  | @ExpressionsCode.cons _ _ _ _ _ _ others _ _ hfirst hothers => by
      have htail := (hothers.span (Nat.le_succ_of_le hheight)).mono (Nat.le_succ height)
      rw [Nat.succ_add] at htail
      exact (hfirst.span hheight).append htail

end

/-- Values are dropped one by one. -/
theorem span_drops (count height : Nat) : Span 0 (height + count) (drops count) height := by
  induction count with
  | zero => exact Span.nil _ _
  | succ count ih =>
      have hpop : Span 0 (height + (count + 1)) [.pop] (height + count) :=
        Span.single (by simp only [Instruction.consumes]; omega) (Nat.zero_le _) rfl
      exact hpop.append ih

mutual

/-- The code of a statement leads from the locals before it to those behind it. -/
theorem StatementCode.span {scope inner : Scope} {pool extended : Pool} {executed : Statement}
    {code : List Instruction} :
    StatementCode environment scope pool executed code inner extended →
      Span 0 scope.length code inner.length ∧ scope.length ≤ inner.length
  | .binding _ _ h => ⟨(h.span (Nat.le_refl _)).mono (Nat.zero_le _), Nat.le_succ _⟩
  -- Behind a return the code is never reached, but it counts on the same locals.
  | .returningVoid => ⟨Span.single (Nat.zero_le _) (Nat.zero_le _) rfl, Nat.le_refl _⟩
  | .returningValue h => by
      refine ⟨((h.span (Nat.le_refl _)).mono (Nat.zero_le _)).append ?_, Nat.le_refl _⟩
      exact Span.single (by simp [Instruction.consumes]) (Nat.zero_le _) rfl
  | .expression h => by
      refine ⟨((h.span (Nat.le_refl _)).mono (Nat.zero_le _)).append ?_, Nat.le_refl _⟩
      exact Span.single (by simp [Instruction.consumes]) (Nat.zero_le _) rfl
  | @StatementCode.block _ _ body _ _ _ _ h => by
      obtain ⟨hspan, hle⟩ := h.span
      have hdrops := span_drops (body.length - scope.length) scope.length
      rw [Nat.add_sub_of_le hle] at hdrops
      exact ⟨hspan.append hdrops, Nat.le_refl _⟩

/-- The code of several statements leads from the locals before them to those behind them. -/
theorem StatementsCode.span {scope inner : Scope} {pool extended : Pool}
    {executed : List Statement} {code : List Instruction} :
    StatementsCode environment scope pool executed code inner extended →
      Span 0 scope.length code inner.length ∧ scope.length ≤ inner.length
  | .nil => ⟨Span.nil _ _, Nat.le_refl _⟩
  | .cons hfirst hothers => by
      obtain ⟨hhead, hmiddle⟩ := hfirst.span
      obtain ⟨htail, hinner⟩ := hothers.span
      exact ⟨hhead.append htail, Nat.le_trans hmiddle hinner⟩

end

/-! ## Places in code -/

/-- What is known of a place in the source to which a place in the code belongs. -/
inductive Place where
  /-- A statement begins or ends there, and these locals are live. -/
  | boundary (scope : Scope)
  /-- An expression is being evaluated, and these locals are live. -/
  | evaluating (scope : Scope)

/-- The height that a place must have: at the ends of statements there are the locals and nothing
else; while an expression is being evaluated there are the locals at least. -/
def Place.Fits : Place → Nat → Prop
  | .boundary scope, height => height = scope.length
  | .evaluating scope, height => scope.length ≤ height

mutual

/-- Behind the first instructions of the code of a statement lies the place. -/
inductive StatementPlace (environment : Environment) :
    Scope → Pool → Statement → List Instruction → Place → Prop
  /-- In the initializer of a binding. -/
  | initializer {scope : Scope} {pool extended : Pool} {name : String} {evaluated : Expression}
      {code before : List Instruction}
      (hcode : expression environment scope pool evaluated = .ok (code, extended))
      (hbefore : before <+: code) :
      StatementPlace environment scope pool (.binding name evaluated) before (.evaluating scope)
  /-- In the value that is returned. -/
  | result {scope : Scope} {pool extended : Pool} {evaluated : Expression}
      {code before : List Instruction}
      (hcode : expression environment scope pool evaluated = .ok (code, extended))
      (hbefore : before <+: code) :
      StatementPlace environment scope pool (.returning (some evaluated)) before (.evaluating scope)
  /-- In an expression that stands as a statement. -/
  | evaluated {scope : Scope} {pool extended : Pool} {evaluated : Expression}
      {code before : List Instruction}
      (hcode : expression environment scope pool evaluated = .ok (code, extended))
      (hbefore : before <+: code) :
      StatementPlace environment scope pool (.expression evaluated) before (.evaluating scope)
  /-- Among the statements of a block. -/
  | inside {scope : Scope} {pool : Pool} {executed : List Statement}
      {before : List Instruction} {place : Place}
      (h : StatementsPlace environment scope pool executed before place) :
      StatementPlace environment scope pool (.block executed) before place

/-- Behind the first instructions of the code of several statements lies the place. -/
inductive StatementsPlace (environment : Environment) :
    Scope → Pool → List Statement → List Instruction → Place → Prop
  /-- Before the first statement, or where there is none. -/
  | here {scope : Scope} {pool : Pool} {executed : List Statement} :
      StatementsPlace environment scope pool executed [] (.boundary scope)
  /-- In the first statement. -/
  | first {scope : Scope} {pool : Pool} {executed : Statement} {others : List Statement}
      {before : List Instruction} {place : Place}
      (h : StatementPlace environment scope pool executed before place) :
      StatementsPlace environment scope pool (executed :: others) before place
  /-- Behind the first statement. -/
  | behind {scope : Scope} {pool : Pool} {executed : Statement} {others : List Statement}
      {emission : Emission} {before : List Instruction} {place : Place}
      (hcode : statement environment scope pool executed = .ok emission)
      (h : StatementsPlace environment emission.scope emission.pool others before place) :
      StatementsPlace environment scope pool (executed :: others) (emission.code ++ before) place

end

/-- Everywhere in an expression the locals lie on the stack. -/
theorem evaluating_fits {scope : Scope} {pool extended : Pool} {evaluated : Expression}
    {code before : List Instruction}
    (hcode : expression environment scope pool evaluated = .ok (code, extended))
    (hbefore : before <+: code) :
    (Place.evaluating scope).Fits (heightBehind scope.length before) := by
  obtain ⟨behind, rfl⟩ := hbefore
  have hspan := (expressionCode evaluated hcode).span (Nat.le_refl scope.length)
  exact (Bytecode.safe_append.mp hspan.safe).1.le_heightBehind (Nat.le_refl _)

mutual

/-- The places in a statement have the heights that they must have. -/
theorem StatementPlace.fits {scope : Scope} {pool : Pool} {executed : Statement}
    {before : List Instruction} {place : Place} {emission : Emission} :
    StatementPlace environment scope pool executed before place →
      statement environment scope pool executed = .ok emission →
        before <+: emission.code ∧ place.Fits (heightBehind scope.length before)
  | .initializer hcode hbefore => by
      intro h
      refine ⟨?_, evaluating_fits hcode hbefore⟩
      rw [statement, hcode] at h
      obtain ⟨_, hpair, h⟩ := bind_eq_ok h
      cases hpair
      dsimp only at h
      split at h
      · cases h
        exact hbefore
      · cases h
  | .result hcode hbefore => by
      intro h
      refine ⟨?_, evaluating_fits hcode hbefore⟩
      rw [statement, hcode] at h
      cases h
      exact hbefore.trans (List.prefix_append _ _)
  | .evaluated hcode hbefore => by
      intro h
      refine ⟨?_, evaluating_fits hcode hbefore⟩
      rw [statement, hcode] at h
      cases h
      exact hbefore.trans (List.prefix_append _ _)
  | .inside hplace => by
      intro h
      rw [statement] at h
      obtain ⟨body, hbody, h⟩ := bind_eq_ok h
      cases h
      obtain ⟨hbefore, hfits⟩ := hplace.fits hbody
      exact ⟨hbefore.trans (List.prefix_append _ _), hfits⟩

/-- The places in several statements have the heights that they must have. -/
theorem StatementsPlace.fits {scope : Scope} {pool : Pool} {executed : List Statement}
    {before : List Instruction} {place : Place} {emission : Emission} :
    StatementsPlace environment scope pool executed before place →
      statements environment scope pool executed = .ok emission →
        before <+: emission.code ∧ place.Fits (heightBehind scope.length before)
  | .here => fun _ => ⟨List.nil_prefix, rfl⟩
  | .first hplace => by
      intro h
      rw [statements] at h
      obtain ⟨head, hfirst, h⟩ := bind_eq_ok h
      obtain ⟨tail, hothers, h⟩ := bind_eq_ok h
      cases h
      obtain ⟨hbefore, hfits⟩ := hplace.fits hfirst
      exact ⟨hbefore.trans (List.prefix_append _ _), hfits⟩
  | .behind hcode hplace => by
      intro h
      rw [statements, hcode] at h
      obtain ⟨_, hemission, h⟩ := bind_eq_ok h
      cases hemission
      obtain ⟨tail, hothers, h⟩ := bind_eq_ok h
      cases h
      obtain ⟨hbefore, hfits⟩ := hplace.fits hothers
      refine ⟨List.prefix_append_right_inj _ |>.mpr hbefore, ?_⟩
      rw [Bytecode.heightBehind_append, (statementCode _ hcode).span.1.height_eq]
      exact hfits

end

end Compile

end StackLang
