import RowSearch.Proofs.Raw.Grammar
import RowSearch.Proofs.Raw.Lexing
import RowSearch.Query.Clause

/-! # Tests joined by connectives

Tests with a connective before each but the first are read as a tree: an `or` of runs, each an
`and` of tests, both to the left. The tree keeps a row, or fails on it, as the list of clauses
does whose predicates the tests stand for.
-/
namespace RowSearch.Raw

/-- A fragment that is read as the test, in which groups nest at most `n` deep. -/
def ReadsAs (n : Nat) (f : Fragment) (e : Expr) : Prop :=
  ∃ ts m, m ≤ n ∧ Lexes f.sql.toList ts ∧ e.Spelled .unary m ts f.bindings

theorem ReadsAs.mono {l n : Nat} (hle : l ≤ n) {f : Fragment} {e : Expr} (h : ReadsAs l f e) :
    ReadsAs n f e := by
  obtain ⟨ts, m, hm, hlex, hspelled⟩ := h
  exact ⟨ts, m, Nat.le_trans hm hle, hlex, hspelled⟩

def PartReads (n : Nat) (part : Connective × Fragment) (test : Connective × Expr) : Prop :=
  part.1 = test.1 ∧ ReadsAs n part.2 test.2

def laterText : List (Connective × Fragment) → String
  | [] => ""
  | (join, f) :: rest => s!" {join.keyword} {f.sql}" ++ laterText rest

theorem laterText_append (a b : List (Connective × Fragment)) :
    laterText (a ++ b) = laterText a ++ laterText b := by
  induction a with
  | nil => simp [laterText]
  | cons p a ih => simp only [List.cons_append, laterText, ih, String.append_assoc]

def joined (first : Fragment) (rest : List (Connective × Fragment)) : Fragment :=
  ⟨first.sql ++ laterText rest, first.bindings ++ rest.flatMap (·.2.bindings)⟩

def orElse (before? : Option Expr) (run : Expr) : Expr :=
  match before? with
  | none => run
  | some e => .or e run

/-- The tree of tests. A run that goes on takes the tests joined by `and`. -/
def joinTests (before? : Option Expr) (run : Expr) : List (Connective × Expr) → Expr
  | [] => orElse before? run
  | (.and, e) :: rest => joinTests before? (.and run e) rest
  | (.or, e) :: rest => joinTests (some (orElse before? run)) e rest

theorem joinTests_of_and (before? : Option Expr) (run : Expr) (es : List Expr) :
    joinTests before? run (es.map (Connective.and, ·)) = orElse before? (es.foldl .and run) := by
  induction es generalizing run with
  | nil => rfl
  | cons e es ih => exact ih (.and run e)

theorem joinTests_of_or (before? : Option Expr) (run : Expr) (es : List Expr) :
    joinTests before? run (es.map (Connective.or, ·)) = es.foldl .or (orElse before? run) := by
  induction es generalizing before? run with
  | nil => rfl
  | cons e es ih => exact ih (some (orElse before? run)) e

/-! ### How joined tests are read -/

/-- The spelling of the runs so far, the last of which may go on. -/
inductive Running (n : Nat) : Option Expr → Expr → List Token → List Json → Prop where
  | first {m : Nat} {run : Expr} {ts : List Token} {bs : List Json} (hm : m ≤ n)
      (h : run.Spelled .conjunction m ts bs) : Running n none run ts bs
  | later {l m : Nat} {before run : Expr} {t : Token} {ts us : List Token} {bs cs : List Json}
      (hl : l ≤ n) (hb : before.Spelled .disjunction l ts bs) (ht : t.isKeyword "or" = true)
      (hm : m ≤ n) (h : run.Spelled .conjunction m us cs) :
      Running n (some before) run (ts ++ t :: us) (bs ++ cs)

namespace Running
variable {n : Nat} {before? : Option Expr} {run : Expr} {ts : List Token} {bs : List Json}

theorem spelled (h : Running n before? run ts bs) :
    ∃ m, m ≤ n ∧ (orElse before? run).Spelled .disjunction m ts bs := by
  cases h with
  | first hm h => exact ⟨_, hm, .run h⟩
  | later hl hb ht hm h => exact ⟨_, Nat.max_le.mpr ⟨hl, hm⟩, .or hb ht h⟩

theorem and (h : Running n before? run ts bs) {e : Expr} {m : Nat} {us : List Token}
    {cs : List Json} (hm : m ≤ n) (he : e.Spelled .unary m us cs) :
    Running n before? (.and run e) (ts ++ .word "and" :: us) (bs ++ cs) := by
  cases h with
  | first hl h => exact .first (Nat.max_le.mpr ⟨hl, hm⟩) (.and h (by decide) he)
  | later hl hb ht hrun h =>
    rw [List.append_assoc, List.append_assoc]
    exact .later hl hb ht (Nat.max_le.mpr ⟨hrun, hm⟩) (.and h (by decide) he)

theorem or (h : Running n before? run ts bs) {e : Expr} {m : Nat} {us : List Token}
    {cs : List Json} (hm : m ≤ n) (he : e.Spelled .unary m us cs) :
    Running n (some (orElse before? run)) e (ts ++ .word "or" :: us) (bs ++ cs) := by
  obtain ⟨l, hl, hb⟩ := h.spelled
  exact .later hl hb (by decide) hm (.link he)

end Running

/-- The connective and the fragment after it are cut like what stands before them. -/
theorem lexes_joined {text sql : String} {ts us : List Token} (hlex : Lexes text.toList ts)
    (join : Connective) (hus : Lexes sql.toList us) :
    Lexes (text ++ s!" {join.keyword} {sql}").toList (ts ++ .word join.keyword :: us) := by
  have hkeyword : Lexes join.keyword.toList [.word join.keyword] :=
    .word (by cases join <;> decide)
  have htext : (text ++ s!" {join.keyword} {sql}").toList =
      text.toList ++ ' ' :: (join.keyword.toList ++ ' ' :: sql.toList) := by
    simp [String.toList_append, toString]
  rw [htext]
  exact hlex.blank (hkeyword.blank hus)

/-- Fragments joined to those that have been read go on with the run or start a new one. -/
theorem Running.joined {n : Nat} {parts : List (Connective × Fragment)}
    {tests : List (Connective × Expr)}
    (h : List.Forall₂ (PartReads n) parts tests)
    {before? : Option Expr} {run : Expr} {text : String} {ts : List Token} {bs : List Json}
    (hlex : Lexes text.toList ts) (hrun : Running n before? run ts bs) :
    ∃ later? last us, Lexes (text ++ laterText parts).toList us ∧
      Running n later? last us (bs ++ parts.flatMap (·.2.bindings)) ∧
      orElse later? last = joinTests before? run tests := by
  -- Each fragment makes the last run longer or closes it, so what has been read is generalized.
  induction h generalizing before? run text ts bs with
  | nil =>
    refine ⟨before?, run, ts, ?_, ?_, rfl⟩
    · rwa [laterText, String.append_empty]
    · rwa [List.flatMap_nil, List.append_nil]
  | @cons p t parts tests hp _ ih =>
    obtain ⟨join, f⟩ := p
    obtain ⟨_, e⟩ := t
    obtain ⟨rfl, us, m, hm, hus, he⟩ := hp
    have hnext := lexes_joined hlex join hus
    rw [laterText, ← String.append_assoc, List.flatMap_cons, ← List.append_assoc]
    cases join with
    | and => exact ih hnext (hrun.and hm he)
    | or => exact ih hnext (hrun.or hm he)

theorem ReadsAs.running {n : Nat} {f : Fragment} {e : Expr} (h : ReadsAs n f e) :
    ∃ ts, Lexes f.sql.toList ts ∧ Running n none e ts f.bindings := by
  obtain ⟨ts, m, hm, hlex, hspelled⟩ := h
  exact ⟨ts, hlex, .first hm (.link hspelled)⟩

/-- Joined fragments are read as the tree of their tests, at a depth they all keep to. -/
theorem joined_spelled {n : Nat} {first : Fragment} {e : Expr}
    {parts : List (Connective × Fragment)} {tests : List (Connective × Expr)}
    (hfirst : ReadsAs n first e)
    (h : List.Forall₂ (PartReads n) parts tests) :
    ∃ us m, m ≤ n ∧ Lexes (joined first parts).sql.toList us ∧
      (joinTests none e tests).Spelled .disjunction m us (joined first parts).bindings := by
  obtain ⟨ts, hlex, hrun⟩ := hfirst.running
  obtain ⟨later?, last, us, hus, hlater, htree⟩ := Running.joined h hlex hrun
  obtain ⟨m, hm, hspelled⟩ := hlater.spelled
  exact ⟨us, m, hm, hus, htree ▸ hspelled⟩

theorem parse_joined {n : Nat} (hn : n ≤ nestingLimit) {first : Fragment} {e : Expr}
    {parts : List (Connective × Fragment)} {tests : List (Connective × Expr)}
    (hfirst : ReadsAs n first e)
    (h : List.Forall₂ (PartReads n) parts tests) :
    parse (joined first parts) = .ok (joinTests none e tests) := by
  obtain ⟨us, m, hm, hlex, hspelled⟩ := joined_spelled hfirst h
  rw [hspelled.parse_eq hlex.lex_eq, if_pos (Nat.le_trans hm hn)]

/-! ### What joined tests answer -/

/-- A test that keeps a row, or fails on it, as the predicate does. -/
def StandsFor (e : Expr) (p : Predicate) : Prop := ∀ row, e.holds row = p.holds row

def TestStands (test : Connective × Expr) (clause : Clause) : Prop :=
  test.1 = clause.1 ∧ StandsFor test.2 clause.2

theorem holds_orElse (row : Json) (before? : Option Expr) (run : Expr) :
    (orElse before? run).holds row =
      match (before?.map (·.holds row)).getD (.ok false) with
      | .ok false => run.holds row
      | r => r := by
  cases before? <;> rfl

/-- Where no run before has held, the run that goes on decides as the clauses do. -/
theorem holds_joinTests {row : Json} {tests : List (Connective × Expr)} {clauses : List Clause}
    (h : List.Forall₂ TestStands tests clauses) (before? : Option Expr) (run : Expr) :
    (joinTests before? run tests).holds row =
      match (before?.map (·.holds row)).getD (.ok false) with
      | .ok false =>
        match run.holds row with
        | .ok held => laterHold row held clauses
        | .error e => .error e
      | r => r := by
  induction h generalizing before? run with
  | nil =>
    rw [joinTests, holds_orElse]
    cases run.holds row <;> rfl
  | @cons t c tests clauses ht _ ih =>
    obtain ⟨join, e⟩ := t
    obtain ⟨_, p⟩ := c
    obtain ⟨rfl, he⟩ := ht
    have hrow : e.holds row = p.holds row := he row
    cases join with
    | and =>
      rw [joinTests, ih, Expr.holds]
      cases run.holds row with
      | error => rfl
      | ok held =>
        cases held with
        | false => simp only [laterHold]
        | true => cases hp : p.holds row <;> simp only [laterHold, hrow, hp]
    | or =>
      rw [joinTests, ih, Option.map_some, Option.getD_some, holds_orElse, hrow]
      cases (before?.map (·.holds row)).getD (.ok false) with
      | error => rfl
      | ok before =>
        cases before with
        | true => rfl
        | false =>
          cases run.holds row with
          | error => rfl
          | ok held =>
            cases held with
            | true => simp only [laterHold]
            | false => cases hp : p.holds row <;> simp only [laterHold, hp]

/-- The tree of the tests keeps a row, or fails on it, as the clauses do. -/
theorem holds_joined {row : Json} {e : Expr} {tests : List (Connective × Expr)}
    {join : Connective} {p : Predicate} {clauses : List Clause} (he : StandsFor e p)
    (h : List.Forall₂ TestStands tests clauses) :
    (joinTests none e tests).holds row = clausesHold row ((join, p) :: clauses) := by
  rw [holds_joinTests h, clausesHold, ← he row]
  rfl

end RowSearch.Raw
