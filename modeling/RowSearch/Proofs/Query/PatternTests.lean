import RowSearch.Proofs.Query.Calls
import RowSearch.Proofs.Query.Matching
import RowSearch.Proofs.Query.Runs
import RowSearch.Proofs.Raw.Evaluation

/-! # What fails while rows are read

Operators and raw texts are read when a call is made, so every condition of a query is made of
operators that are known and of expressions that have been read, whatever calls have built it and
whichever of them have failed. When rows are read only a pattern test can fail: one that is asked
in earnest, has a scalar on its left and something else for its pattern.
-/
namespace RowSearch

inductive Json.Scalar : Json → Prop where
  | bool (b : Bool) : Scalar (.bool b)
  | number (n : Json.Number) : Scalar (.number n)
  | string (s : String) : Scalar (.string s)

structure PatternTest where
  negated : Bool
  ignoreCase : Bool
  actual : Option Json
  pattern : Json

namespace PatternTest

/-- There is a scalar to be matched, and the pattern is null, a list or an object. -/
def Fails (t : PatternTest) : Prop :=
  (∃ v, t.actual = some v ∧ v.Scalar) ∧
    (t.pattern = .null ∨ (∃ items, t.pattern = .array items) ∨ ∃ fields, t.pattern = .object fields)

def error (t : PatternTest) : SearchError :=
  .invalidQuery (.patternNotScalar (Comparator.likeName t.negated t.ignoreCase) t.pattern)

end PatternTest

theorem Json.scalarText?_eq_none_iff {v : Json} : v.scalarText? = none ↔
    v = .null ∨ (∃ items, v = .array items) ∨ ∃ fields, v = .object fields := by
  cases v <;> simp [scalarText?]

theorem Json.exists_scalarText?_iff {v? : Option Json} :
    (∃ text, (present v?).bind scalarText? = some text) ↔ ∃ v, v? = some v ∧ v.Scalar := by
  constructor
  · rintro ⟨text, h⟩
    obtain ⟨v, hv, htext⟩ := Option.bind_eq_some_iff.mp h
    refine ⟨v, (Option.filter_eq_some_iff.mp hv).1, ?_⟩
    cases v with
    | bool b => exact .bool b
    | number n => exact .number n
    | string s => exact .string s
    | null | array | object => cases htext
  · rintro ⟨v, rfl, hv⟩
    cases hv <;> exact ⟨_, rfl⟩

theorem Comparator.holds_eq_error_iff {c : Comparator} {actual : Option Json} {expected : Json}
    {e : SearchError} : c.holds actual expected = .error e ↔ ∃ negated ignoreCase,
      c = .like negated ignoreCase ∧
        (PatternTest.mk negated ignoreCase actual expected).Fails ∧
          e = (PatternTest.mk negated ignoreCase actual expected).error := by
  cases c with
  | like negated ignoreCase =>
    simp only [PatternTest.Fails, ← Json.exists_scalarText?_iff, ← Json.scalarText?_eq_none_iff]
    rw [holds]
    cases (Json.present actual).bind Json.scalarText? with
    | none => simp
    | some text =>
      cases expected.scalarText? with
      | some pattern => simp
      | none =>
        constructor
        · intro h
          cases h
          exact ⟨negated, ignoreCase, rfl, ⟨⟨text, rfl⟩, rfl⟩, rfl⟩
        · rintro ⟨_, _, hc, _, rfl⟩
          cases hc
          rfl
  | _ => simp [holds]

namespace Raw.Expr

/-- The pattern tests that are asked when an expression is evaluated: where the left side of a
connective decides, the right side is not asked. -/
inductive Asks (row : Json) : Expr → PatternTest → Prop where
  | compare {left right : Operand} {negated ignoreCase : Bool} {v : Json}
      (h : right.value? row = some v) : Asks row (.compare left (.like negated ignoreCase) right)
        ⟨negated, ignoreCase, left.value? row, v⟩
  | andLeft {a b : Expr} {t : PatternTest} (h : Asks row a t) : Asks row (.and a b) t
  | andRight {a b : Expr} {t : PatternTest} (ha : a.holds row = .ok true) (h : Asks row b t) :
      Asks row (.and a b) t
  | orLeft {a b : Expr} {t : PatternTest} (h : Asks row a t) : Asks row (.or a b) t
  | orRight {a b : Expr} {t : PatternTest} (ha : a.holds row = .ok false) (h : Asks row b t) :
      Asks row (.or a b) t
  | not {a : Expr} {t : PatternTest} (h : Asks row a t) : Asks row (.not a) t

variable {row : Json}

theorem Asks.holds_eq_error {e : Expr} {t : PatternTest} (h : e.Asks row t) (ht : t.Fails) :
    e.holds row = .error t.error := by
  induction h with
  | compare h =>
    rw [holds_compare, h]
    exact Comparator.holds_eq_error_iff.mpr ⟨_, _, rfl, ht, rfl⟩
  | andLeft _ ih => rw [holds, ih ht]
  | andRight ha _ ih => rw [holds, ha, ih ht]
  | orLeft _ ih => rw [holds, ih ht]
  | orRight ha _ ih => rw [holds, ha, ih ht]
  | not _ ih =>
    rw [holds, ih ht]
    rfl

theorem exists_asks {e : Expr} {err : SearchError} (h : e.holds row = .error err) :
    ∃ t, e.Asks row t ∧ t.Fails ∧ err = t.error := by
  induction e with
  | and a b iha ihb =>
    rw [holds_and, bind_eq_error_iff] at h
    rcases h with ha | ⟨r, ha, hb⟩
    · obtain ⟨t, hasks, ht⟩ := iha ha
      exact ⟨t, .andLeft hasks, ht⟩
    · cases r with
      | false => cases hb
      | true =>
        obtain ⟨t, hasks, ht⟩ := ihb hb
        exact ⟨t, .andRight ha hasks, ht⟩
  | or a b iha ihb =>
    rw [holds_or, bind_eq_error_iff] at h
    rcases h with ha | ⟨r, ha, hb⟩
    · obtain ⟨t, hasks, ht⟩ := iha ha
      exact ⟨t, .orLeft hasks, ht⟩
    · cases r with
      | true => cases hb
      | false =>
        obtain ⟨t, hasks, ht⟩ := ihb hb
        exact ⟨t, .orRight ha hasks, ht⟩
  | not a ih =>
    rw [holds, map_eq_error_iff] at h
    obtain ⟨t, hasks, ht⟩ := ih h
    exact ⟨t, .not hasks, ht⟩
  | compare left relation right =>
    rw [holds_compare] at h
    cases hright : right.value? row with
    | none =>
      rw [hright] at h
      cases h
    | some v =>
      rw [hright] at h
      obtain ⟨negated, ignoreCase, hc, ht⟩ := Comparator.holds_eq_error_iff.mp h
      cases relation with
      | sign s => cases s <;> cases hc
      | like =>
        cases hc
        exact ⟨_, .compare hright, ht⟩
  | oneOf | isNull | truthy => cases h

end Raw.Expr

/-- Whether the evaluation of clauses comes to a predicate: the runs before its own have failed,
and the predicates before it in its run have held. -/
def ComesTo (row : Json) (clauses : List Clause) (p : Predicate) : Prop :=
  ∃ failed before after rest, runs clauses = failed ++ (before ++ p :: after) :: rest ∧
    (∀ run ∈ failed, allHold row run = .ok false) ∧ ∀ other ∈ before, other.holds row = .ok true

theorem clausesHold_eq_error_iff {row : Json} {clauses : List Clause} {e : SearchError} :
    clausesHold row clauses = .error e ↔
      ∃ p, ComesTo row clauses p ∧ p.holds row = .error e := by
  rw [clausesHold_eq, anyHolds, anyM_eq_error_iff]
  constructor
  · rintro ⟨failed, run, rest, hruns, hfailed, hrun⟩
    obtain ⟨before, p, after, rfl, hbefore, hp⟩ := allM_eq_error_iff.mp hrun
    exact ⟨p, ⟨failed, before, after, rest, hruns, hfailed, hbefore⟩, hp⟩
  · rintro ⟨p, ⟨failed, before, after, rest, hruns, hfailed, hbefore⟩, hp⟩
    exact ⟨failed, before ++ p :: after, rest, hruns, hfailed,
      allM_eq_error_iff.mpr ⟨before, p, after, rfl, hbefore, hp⟩⟩

theorem flatten_laterRuns (clauses : List Clause) :
    (laterRuns clauses).1 ++ (laterRuns clauses).2.flatten = clauses.map Prod.snd := by
  induction clauses with
  | nil => rfl
  | cons clause rest ih =>
    obtain ⟨join, p⟩ := clause
    cases join <;> simp [laterRuns, ← ih]

theorem ComesTo.exists_mem {row : Json} {clauses : List Clause} {p : Predicate}
    (h : ComesTo row clauses p) : ∃ join, (join, p) ∈ clauses := by
  obtain ⟨failed, before, after, rest, hruns, _, _⟩ := h
  have hflatten : (runs clauses).flatten = clauses.map Prod.snd := by
    cases clauses with
    | nil => rfl
    | cons clause clauses => simpa [runs] using flatten_laterRuns clauses
  have hp : p ∈ clauses.map Prod.snd := by simp [← hflatten, hruns]
  obtain ⟨⟨join, _⟩, hmem, rfl⟩ := List.mem_map.mp hp
  exact ⟨join, hmem⟩

/-- The pattern tests that are asked when a predicate is evaluated. A relation asks its records in
order until one is kept. -/
inductive Predicate.Asks : Json → Predicate → PatternTest → Prop where
  | compare {row : Json} {field : String} {negated ignoreCase : Bool} {v : Json} :
      Asks row (.compare field (.like negated ignoreCase) v)
        ⟨negated, ignoreCase, row.at? field, v⟩
  | raw {row : Json} {e : Raw.Expr} {t : PatternTest} (h : e.Asks row t) : Asks row (.raw e) t
  | group {row : Json} {clauses : List Clause} {p : Predicate} {t : PatternTest}
      (hp : ComesTo row clauses p) (h : Asks row p t) : Asks row (.group clauses) t
  | has {row record : Json} {relation : String} {clauses : List Clause} {before after : List Json}
      {p : Predicate} {t : PatternTest} (hrecords : relatedRecords row relation =
        before ++ record :: after) (hbefore : ∀ other ∈ before, clausesHold other clauses = .ok false)
      (hp : ComesTo record clauses p) (h : Asks record p t) : Asks row (.has relation clauses) t

theorem Predicate.Asks.holds_eq_error {row : Json} {p : Predicate} {t : PatternTest}
    (h : p.Asks row t) (ht : t.Fails) : p.holds row = .error t.error := by
  induction h with
  | compare =>
    rw [holds]
    exact Comparator.holds_eq_error_iff.mpr ⟨_, _, rfl, ht, rfl⟩
  | raw h =>
    rw [holds]
    exact h.holds_eq_error ht
  | group hp _ ih =>
    rw [holds]
    exact clausesHold_eq_error_iff.mpr ⟨_, hp, ih ht⟩
  | has hrecords hbefore hp _ ih =>
    rw [holds, anyRelated_eq_anyM]
    exact anyM_eq_error_iff.mpr ⟨_, _, _, hrecords, hbefore,
      clausesHold_eq_error_iff.mpr ⟨_, hp, ih ht⟩⟩

theorem Predicate.exists_asks {row : Json} {p : Predicate} {e : SearchError}
    (h : p.holds row = .error e) : ∃ t, p.Asks row t ∧ t.Fails ∧ e = t.error := by
  match p with
  | .compare field c v =>
    rw [holds] at h
    obtain ⟨negated, ignoreCase, rfl, ht⟩ := Comparator.holds_eq_error_iff.mp h
    exact ⟨_, .compare, ht⟩
  | .listed field values negated => cases h
  | .null field negated => cases h
  | .raw e =>
    rw [holds] at h
    obtain ⟨t, hasks, ht⟩ := Raw.Expr.exists_asks h
    exact ⟨t, .raw hasks, ht⟩
  | .group clauses =>
    rw [holds] at h
    obtain ⟨q, hq, hfails⟩ := clausesHold_eq_error_iff.mp h
    obtain ⟨join, hmem⟩ := hq.exists_mem
    obtain ⟨t, hasks, ht⟩ := exists_asks hfails
    exact ⟨t, .group hq hasks, ht⟩
  | .has relation clauses =>
    rw [holds, anyRelated_eq_anyM] at h
    obtain ⟨before, record, after, hrecords, hbefore, hrecord⟩ := anyM_eq_error_iff.mp h
    obtain ⟨q, hq, hfails⟩ := clausesHold_eq_error_iff.mp hrecord
    obtain ⟨join, hmem⟩ := hq.exists_mem
    obtain ⟨t, hasks, ht⟩ := exists_asks hfails
    exact ⟨t, .has hrecords hbefore hq hasks, ht⟩
termination_by sizeOf p
decreasing_by
  all_goals
    have hlt := List.sizeOf_lt_of_mem hmem
    simp only [Prod.mk.sizeOf_spec, Predicate.group.sizeOf_spec, Predicate.has.sizeOf_spec] at *
    omega

end RowSearch
