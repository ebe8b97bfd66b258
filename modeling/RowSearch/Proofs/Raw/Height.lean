import RowSearch.Proofs.Raw.Places
import RowSearch.Proofs.Raw.Writing

/-! # How high expressions are

The reader opens a level for every negation and every parenthesis, so no more of them nest in what
it returns than it may open. A chain opens no level, however long it is, and each of its links
stands one step lower than the next. What is read is as high as its longest chain lets it be then,
and only the steps off the chains are bounded.
-/
namespace RowSearch.Raw

namespace Expr

def height : Expr → Nat
  | .and a b | .or a b => max a.height b.height + 1
  | .not a => a.height + 1
  | .compare .. | .oneOf .. | .isNull .. | .truthy _ => 1

def tests : Expr → Nat
  | .and a b | .or a b => a.tests + b.tests
  | .not a => a.tests
  | .compare .. | .oneOf .. | .isNull .. | .truthy _ => 1

/-- The most steps on a way down to a test that do not lead to the left part of a chain. -/
def turns : Expr → Nat
  | .and a b | .or a b => max a.turns (b.turns + 1)
  | .not a => a.turns + 1
  | .compare .. | .oneOf .. | .isNull .. | .truthy _ => 0

theorem tests_pos (e : Expr) : 0 < e.tests := by
  induction e with
  | and a b iha _ | or a b iha _ => exact Nat.add_pos_left iha b.tests
  | not a ih => exact ih
  | compare | oneOf | isNull | truthy => exact Nat.one_pos

/-- A way down to a test passes at most the negations that nest, and a join for each other test. -/
theorem height_le (e : Expr) (level : Level) : e.height ≤ e.nestingAt level + e.tests := by
  induction e generalizing level with
  | and a b iha ihb =>
    have hleft := iha .conjunction
    have hright := ihb .unary
    have htests := And.intro a.tests_pos b.tests_pos
    simp only [height, nestingAt, tests]
    omega
  | or a b iha ihb =>
    have hleft := iha .disjunction
    have hright := ihb .conjunction
    have htests := And.intro a.tests_pos b.tests_pos
    simp only [height, nestingAt, tests]
    omega
  | not a ih =>
    have ha := ih .unary
    simp only [height, nestingAt, tests]
    omega
  | compare | oneOf | isNull | truthy => exact Nat.le_add_left 1 _

/-- The steps to the right that a level allows without a parenthesis. -/
def freeTurns : Level → Nat
  | .unary => 0
  | .conjunction => 1
  | .disjunction => 2

theorem turns_le (e : Expr) (level : Level) :
    e.turns ≤ 2 * e.nestingAt level + freeTurns level := by
  induction e generalizing level with
  | and a b iha ihb =>
    have hleft := iha .conjunction
    have hright := ihb .unary
    cases level <;> simp only [turns, nestingAt, freeTurns, Level.fits, Bool.not_true,
      Bool.not_false, Bool.toNat_true, Bool.toNat_false] at * <;> omega
  | or a b iha ihb =>
    have hleft := iha .disjunction
    have hright := ihb .conjunction
    cases level <;> simp only [turns, nestingAt, freeTurns, Level.fits, Bool.not_true,
      Bool.not_false, Bool.toNat_true, Bool.toNat_false] at * <;> omega
  | not a ih =>
    have ha := ih .unary
    simp only [turns, nestingAt, freeTurns] at *
    omega
  | compare | oneOf | isNull | truthy => exact Nat.zero_le _

/-- Parentheses put an expression in the place of a test. -/
theorem nestingAt_unary_le (e : Expr) : e.nestingAt .unary ≤ e.nestingAt .disjunction + 1 := by
  cases e <;> simp [nestingAt, Level.fits]

/-- What binds tighter needs no parentheses more. -/
theorem nestingAt_mono (e : Expr) :
    e.nestingAt .disjunction ≤ e.nestingAt .conjunction ∧
      e.nestingAt .conjunction ≤ e.nestingAt .unary := by
  cases e <;> simp [nestingAt, Level.fits]

end Expr

/-! ### What the reader returns -/

def Yields (P : Expr → Prop) (x : Except Fault (Expr × Pending)) : Prop :=
  ∀ e p, x = .ok (e, p) → P e

section Reading
variable {P Q : Expr → Prop}

theorem Yields.ok {e : Expr} {p : Pending} (h : P e) : Yields P (.ok (e, p)) := by
  intro _ _ heq
  cases heq
  exact h

theorem Yields.error (fault : Fault) : Yields P (.error fault) := by
  intro _ _ heq
  cases heq

theorem Yields.bind {α : Type} {x : Except Fault α} {f : α → Except Fault (Expr × Pending)}
    (h : ∀ a, Yields P (f a)) : Yields P (x >>= f) := by
  cases x with
  | error fault => exact .error fault
  | ok a => exact h a

theorem Yields.bind_of {x : Except Fault (Expr × Pending)}
    {f : Expr × Pending → Except Fault (Expr × Pending)} (hx : Yields Q x)
    (h : ∀ e p, Q e → Yields P (f (e, p))) : Yields P (x >>= f) := by
  cases x with
  | error fault => exact .error fault
  | ok r => exact h r.1 r.2 (hx r.1 r.2 rfl)

def Expr.Flat (e : Expr) : Prop := e.nestingAt .unary = 0

theorem yields_afterNot (left : Operand) (negated : Bool) (p : Pending) :
    Yields Expr.Flat (afterNot left negated p) := by
  rw [afterNot]
  split
  · exact Yields.bind fun _ => .ok rfl
  · split
    · exact Yields.bind fun _ => .ok rfl
    · split
      · exact .error _
      · exact .ok rfl

theorem yields_nullTest (left : Operand) (negated : Bool) (p : Pending) :
    Yields Expr.Flat (nullTest left negated p) := by
  rw [nullTest]
  split
  · exact .ok rfl
  · exact .error _

theorem yields_test (p : Pending) : Yields Expr.Flat (test p) := by
  refine Yields.bind fun ⟨left, p⟩ => ?_
  dsimp only
  by_cases hsign : ∃ s ts, p.tokens = .sign s :: ts
  · obtain ⟨s, ts, hsign⟩ := hsign
    rw [afterOperand_sign hsign]
    exact Yields.bind fun _ => .ok rfl
  · rw [afterOperand_word]
    · split
      · split <;> exact yields_nullTest left _ _
      · split <;> exact yields_afterNot left _ _
    · rintro t ht ⟨s, rfl⟩
      obtain ⟨ts, hts⟩ := List.head?_eq_some_iff.mp ht
      exact hsign ⟨s, ts, hts⟩

/-- A chain keeps what its links have and a join keeps. -/
theorem yields_chainRest {keyword : String} {join : Expr → Expr → Expr} {link : Reader Expr}
    (hjoin : ∀ a b, P a → Q b → P (join a b)) (hlink : ∀ p, Yields Q (link p)) {e : Expr}
    (he : P e) (p : Pending) (fuel : Nat) : Yields P (chainRest keyword join link e p fuel) := by
  induction fuel generalizing e p with
  | zero => exact .ok he
  | succ fuel ih =>
    cases hp : p.keyword? keyword with
    | none =>
      rw [chainRest, hp]
      exact .ok he
    | some p =>
      rw [chainRest_keyword hp]
      exact (hlink p).bind_of fun b p hb => ih (hjoin e b he hb) p

theorem yields_chain {keyword : String} {join : Expr → Expr → Expr} {link : Reader Expr}
    (hfirst : ∀ e, Q e → P e) (hjoin : ∀ a b, P a → Q b → P (join a b))
    (hlink : ∀ p, Yields Q (link p)) (p : Pending) : Yields P (chain keyword join link p) := by
  rw [chain_eq]
  exact (hlink p).bind_of fun e p he => yields_chainRest hjoin hlink (hfirst e he) p _

/-- Chains open no level. -/
theorem yields_disjunction {link : Reader Expr} {depth : Nat}
    (hlink : ∀ p, Yields (·.nestingAt .unary ≤ depth) (link p)) (p : Pending) :
    Yields (·.nestingAt .disjunction ≤ depth) (disjunction link p) := by
  have hconjunction (p : Pending) :
      Yields (·.nestingAt .conjunction ≤ depth) (conjunction link p) :=
    yields_chain (fun e he => e.nestingAt_mono.2.trans he)
      (fun _ _ ha hb => Nat.max_le.mpr ⟨ha, hb⟩) hlink p
  exact yields_chain (fun e he => e.nestingAt_mono.1.trans he)
    (fun _ _ ha hb => Nat.max_le.mpr ⟨ha, hb⟩) hconjunction p

theorem yields_unary (depth : Nat) (p : Pending) :
    Yields (·.nestingAt .unary ≤ depth) (unary depth p) := by
  induction depth generalizing p with
  | zero =>
    unfold unary
    split
    · exact .error _
    · exact .error _
    · exact fun e q heq => (yields_test p e q heq).le
  | succ depth ih =>
    cases hnot : p.keyword? "not" with
    | some p' =>
      rw [unary_not hnot]
      exact (ih p').bind_of fun e p he => .ok (Nat.succ_le_succ he)
    | none =>
      by_cases hopening : p.tokens.head? = some .opening
      · obtain ⟨ts, hts⟩ := List.head?_eq_some_iff.mp hopening
        obtain ⟨_, bs⟩ := p
        subst hts
        rw [unary_opening]
        refine (yields_disjunction ih ⟨ts, bs⟩).bind_of fun e p he => Yields.bind fun p => .ok ?_
        exact e.nestingAt_unary_le.trans (Nat.succ_le_succ he)
      · rw [unary_test hnot hopening]
        exact fun e q heq => (yields_test p e q heq).le.trans (Nat.zero_le _)

/-- No more levels nest in what is read than the reader opens. -/
theorem nestingAt_of_parse {f : Fragment} {e : Expr} (h : parse f = .ok e) :
    e.nestingAt .disjunction ≤ nestingLimit := by
  obtain ⟨ts, -, hts⟩ := exists_tokens_of_parse h
  exact yields_disjunction (yields_unary nestingLimit) _ _ _ (parseTokens_eq_ok_iff.mp hts)

end Reading

/-- The levels that the reader opens are all that keeps an expression from being read. -/
theorem exists_parse_iff {e : Expr} (h : e.Writable) :
    (∃ f, parse f = .ok e) ↔ e.nestingAt .disjunction ≤ nestingLimit := by
  constructor
  · rintro ⟨f, hf⟩
    exact nestingAt_of_parse hf
  · intro hnesting
    exact ⟨e.fragment, (h.spelled .disjunction).parse_textOf.trans (if_pos hnesting)⟩

/-! ### Chains -/

def denied (negations : Nat) : Expr := Nat.repeat .not negations (.truthy (.column "a"))

def chained (negations links : Nat) : Expr :=
  Nat.repeat (Expr.and · (.truthy (.column "a"))) links (denied negations)

theorem denied_measures (negations : Nat) :
    (denied negations).height = negations + 1 ∧ (denied negations).tests = 1 ∧
      (∀ level, (denied negations).nestingAt level = negations) ∧ (denied negations).Writable := by
  induction negations with
  | zero => exact ⟨rfl, rfl, fun _ => rfl, by decide⟩
  | succ negations ih =>
    obtain ⟨hheight, htests, hnesting, hwritable⟩ := ih
    exact ⟨congrArg Nat.succ hheight, htests, fun _ => congrArg Nat.succ (hnesting .unary),
      hwritable⟩

theorem chained_measures (negations links : Nat) :
    (chained negations links).height = negations + links + 1 ∧
      (chained negations links).tests = links + 1 ∧
      (chained negations links).nestingAt .conjunction = negations ∧
      (chained negations links).Writable := by
  induction links with
  | zero =>
    obtain ⟨hheight, htests, hnesting, hwritable⟩ := denied_measures negations
    exact ⟨hheight, htests, hnesting .conjunction, hwritable⟩
  | succ links ih =>
    obtain ⟨hheight, htests, hnesting, hwritable⟩ := ih
    have hstep : chained negations (links + 1) =
        .and (chained negations links) (.truthy (.column "a")) := rfl
    rw [hstep]
    refine ⟨?_, ?_, ?_, hwritable, by decide⟩
    · have hmax : max (negations + links + 1) 1 = negations + links + 1 :=
        Nat.max_eq_left (Nat.le_add_left 1 _)
      rw [Expr.height, hheight, Expr.height, hmax]
      rfl
    · rw [Expr.tests, htests]
      rfl
    · rw [Expr.nestingAt, hnesting]
      simp [Expr.nestingAt, Level.fits]

/-- A chain of any length is read, and under as many negations as the reader opens levels. -/
theorem parse_chained {negations : Nat} (h : negations ≤ nestingLimit) (links : Nat) :
    parse (chained negations links).fragment = .ok (chained negations links) := by
  obtain ⟨-, -, hnesting, hwritable⟩ := chained_measures negations links
  have hread := (hwritable.spelled .disjunction).parse_textOf
  refine hread.trans (if_pos ?_)
  exact ((chained negations links).nestingAt_mono.1.trans hnesting.le).trans h

/-- What is read has no more levels than the reader opens, and no more steps off its chains than two
for each of them and for the whole. Its height is bounded by the number of its tests alone, and
something of as many tests is as high as that. -/
theorem height_of_parse {f : Fragment} {e : Expr} (h : parse f = .ok e) :
    e.nestingAt .disjunction ≤ nestingLimit ∧ e.turns ≤ 2 * (nestingLimit + 1) ∧
      e.height ≤ nestingLimit + e.tests ∧
      ∃ f' e', parse f' = .ok e' ∧ e'.tests = e.tests ∧ e'.height = nestingLimit + e.tests := by
  have hnesting := nestingAt_of_parse h
  refine ⟨hnesting, ?_, ?_, ?_⟩
  · have hturns : e.turns ≤ 2 * e.nestingAt .disjunction + 2 := e.turns_le .disjunction
    exact hturns.trans (Nat.add_le_add_right (Nat.mul_le_mul_left 2 hnesting) 2)
  · exact (e.height_le .disjunction).trans (Nat.add_le_add_right hnesting e.tests)
  · obtain ⟨links, hlinks⟩ := Nat.exists_eq_add_of_le' e.tests_pos
    obtain ⟨hheight, htests, -⟩ := chained_measures nestingLimit links
    rw [hlinks]
    exact ⟨_, _, parse_chained le_rfl links, htests, hheight⟩

theorem height_of_parse_lynnUnpaid :
    parse lynnUnpaid.fragment = .ok lynnUnpaid ∧ lynnUnpaid.turns ≤ 2 * (nestingLimit + 1) ∧
      lynnUnpaid.tests = 3 ∧ lynnUnpaid.height ≤ nestingLimit + 3 ∧
      ∃ f e, parse f = .ok e ∧ e.tests = 3 ∧ e.height = nestingLimit + 3 := by
  have hwritable : lynnUnpaid.Writable := by decide +kernel
  have hparse : parse lynnUnpaid.fragment = .ok lynnUnpaid :=
    (hwritable.spelled .disjunction).parse_textOf.trans (if_pos (by decide))
  obtain ⟨-, hturns, hheight, hattained⟩ := height_of_parse hparse
  exact ⟨hparse, hturns, rfl, hheight, hattained⟩

/-- A chain is higher than any bound, and nothing of it nests. -/
theorem height_unbounded :
    (¬∃ bound, ∀ f e, parse f = .ok e → e.height ≤ bound) ∧
      parse (chained 0 139).fragment = .ok (chained 0 139) ∧
      (chained 0 139).nestingAt .disjunction = 0 ∧ (chained 0 139).height = 140 := by
  obtain ⟨hheight, -, hnesting, -⟩ := chained_measures 0 139
  have hflat : (chained 0 139).nestingAt .disjunction ≤ 0 :=
    (chained 0 139).nestingAt_mono.1.trans hnesting.le
  refine ⟨?_, parse_chained (Nat.zero_le _) 139, Nat.le_zero.mp hflat, hheight⟩
  rintro ⟨bound, hbound⟩
  have hhigh := hbound _ _ (parse_chained (Nat.zero_le _) bound)
  rw [(chained_measures 0 bound).1] at hhigh
  omega

end RowSearch.Raw
