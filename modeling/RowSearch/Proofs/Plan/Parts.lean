import RowSearch.Proofs.Plan.Relations
import RowSearch.Proofs.Raw.Joining
import RowSearch.Proofs.Raw.Operators
import RowSearch.Proofs.Raw.Writing

/-! # Comparisons as text

A comparison of a plain column, written out with placeholders for its values, is read as one test
that answers as the call of the comparison does.
-/
namespace RowSearch.Plan

open Raw

def partTest? (column : String) (c : Operator × Json) : Option Expr :=
  match c.1 with
  | .compare comparison =>
    (Relation.ofText? comparison.sql).map fun r => .compare (.column column) r (.literal c.2)
  | .oneOf => some (.oneOf (.column column) ((listItems c.2).map .literal) false)
  | .noneOf => some (.oneOf (.column column) ((listItems c.2).map .literal) true)
  | .isNull => some (.isNull (.column column) false)
  | .notNull => some (.isNull (.column column) true)

def partFragment (column : String) (c : Operator × Json) : Fragment :=
  ⟨(havingPart column c.1 c.2).1, (havingPart column c.1 c.2).2⟩

def AsciiOperator (c : Operator × Json) : Prop :=
  ∀ comparison, c.1 = .compare comparison → Ascii comparison.sql

def marks (items : List Json) : String := ", ".intercalate (items.map fun _ => "?")

theorem lexes_marks {items : List Json} (hne : items ≠ []) :
    ∃ us, Lexes (marks items).toList us ∧
      ItemsSpelled (items.map .literal) us items := by
  induction items with
  | nil => exact absurd rfl hne
  | cons v items ih =>
    cases items with
    | nil =>
      have htext : (marks [v]).toList = ['?'] := by simp [marks]
      exact ⟨[.placeholder], htext ▸ .placeholder .nil, .last (.placeholder v)⟩
    | cons w items =>
      obtain ⟨us, hus, hitems⟩ := ih (List.cons_ne_nil w items)
      have htext : (marks (v :: w :: items)).toList =
          '?' :: ',' :: ' ' :: (marks (w :: items)).toList := by
        simp [marks, String.toList_intercalate]
      refine ⟨_, ?_, .cons (.placeholder v) hitems⟩
      rw [htext]
      exact .placeholder (.comma (.whiteSpace (by decide) hus))

theorem listItems_ne_nil {operator : Operator} (h : operator = .oneOf ∨ operator = .noneOf)
    {v : Json} (haccepts : operator.accepts v = true) : listItems v ≠ [] := by
  rcases h with rfl | rfl <;>
  · simp only [Operator.accepts] at haccepts
    split at haccepts
    · exact List.cons_ne_nil _ _
    · cases haccepts

section Parts
variable {column : String} (hcolumn : PlainName column)
include hcolumn

theorem readsAs_oneOf {items : List Json} (hne : items ≠ []) {negated : Bool} {keyword : String}
    {ns : List Token} {t : Token} (hlex : Lexes keyword.toList (ns ++ [t]))
    (hn : NegationSpelled negated ns) (hin : t.isKeyword "in" = true) :
    ReadsAs 0 ⟨s!"{column} {keyword} ({marks items})", items⟩
      (.oneOf (.column column) (items.map .literal) negated) := by
  obtain ⟨us, hus, hitems⟩ := lexes_marks hne
  have htest := TestSpelled.oneOf (.column hcolumn) hn hin hitems
  have htext : (s!"{column} {keyword} ({marks items})").toList =
      column.toList ++ ' ' :: (keyword.toList ++ ' ' ::
        '(' :: ((marks items).toList ++ ')' :: [])) := by
    simp [toString]
  refine ⟨_, 0, Nat.le_refl 0, ?_, .test htest⟩
  rw [htext]
  have hlist := hus.append (c := ')') (by decide) (.closing .nil)
  have hwhole := (Lexes.word hcolumn.identifier).blank (hlex.blank (.opening hlist))
  simpa using hwhole

theorem readsAs_null {negated : Bool} {sql : String} {keywords : List Char} {ns : List Token}
    {t u : Token} (hsql : sql.toList = column.toList ++ ' ' :: keywords)
    (hlex : Lexes keywords (t :: (ns ++ [u]))) (his : t.isKeyword "is" = true)
    (hn : NegationSpelled negated ns) (hnull : u.isKeyword "null" = true) :
    ReadsAs 0 ⟨sql, []⟩ (.isNull (.column column) negated) := by
  have htest := TestSpelled.isNull (.column hcolumn) his hn hnull
  refine ⟨_, 0, Nat.le_refl 0, ?_, .test htest⟩
  rw [hsql]
  exact (Lexes.word hcolumn.identifier).blank hlex

theorem readsAs_compare {r : Relation} {operator : String} {ts : List Token}
    (hlex : Lexes operator.toList ts) (hr : r.Spelled ts) (v : Json) :
    ReadsAs 0 ⟨s!"{column} {operator} ?", [v]⟩ (.compare (.column column) r (.literal v)) := by
  have htest := TestSpelled.compare (.column hcolumn) hr (.placeholder v)
  have htext : (s!"{column} {operator} ?").toList =
      column.toList ++ ' ' :: (operator.toList ++ ' ' :: ['?']) := by
    simp [toString]
  refine ⟨_, 0, Nat.le_refl 0, ?_, .test htest⟩
  rw [htext]
  exact (Lexes.word hcolumn.identifier).blank (hlex.blank (.placeholder .nil))

/-- A comparison that has a test and whose value is taken is read as this test. -/
theorem partFragment_readsAs {c : Operator × Json} (haccepts : c.1.accepts c.2 = true)
    (hascii : AsciiOperator c) {e : Expr} (he : partTest? column c = some e) :
    ReadsAs 0 (partFragment column c) e := by
  obtain ⟨operator, v⟩ := c
  have his : Lexes "is".toList [.word "is"] := .word (by decide)
  have hnot : Lexes "not".toList [.word "not"] := .word (by decide)
  have hin : Lexes "in".toList [.word "in"] := .word (by decide)
  have hnull : Lexes "null".toList [.word "null"] := .word (by decide)
  cases operator with
  | compare comparison =>
    simp only [partTest?, Option.map_eq_some_iff] at he
    obtain ⟨r, hr, rfl⟩ := he
    obtain ⟨ts, hlex, hspelled⟩ := Relation.lexes_of_normalSpelling (hascii comparison rfl)
      (Relation.ofText?_eq_some_iff.mp hr)
    exact readsAs_compare hcolumn hlex hspelled v
  | oneOf =>
    cases he
    exact readsAs_oneOf hcolumn (listItems_ne_nil (.inl rfl) haccepts) hin .absent (by decide)
  | noneOf =>
    cases he
    have hlex : Lexes "not in".toList ([.word "not"] ++ [.word "in"]) := by
      simpa using hnot.blank hin
    exact readsAs_oneOf hcolumn (listItems_ne_nil (.inr rfl) haccepts) hlex
      (.present (by decide)) (by decide)
  | isNull =>
    cases he
    have htext : (s!"{column} is null").toList =
        column.toList ++ ' ' :: ("is".toList ++ ' ' :: "null".toList) := by
      simp [toString]
    exact readsAs_null hcolumn htext (his.blank hnull) (by decide) .absent (by decide)
  | notNull =>
    cases he
    have htext : (s!"{column} is not null").toList =
        column.toList ++ ' ' :: ("is".toList ++ ' ' :: ("not".toList ++ ' ' :: "null".toList)) := by
      simp [toString]
    have hlex : Lexes _ (.word "is" :: ([.word "not"] ++ [.word "null"])) :=
      his.blank (hnot.blank hnull)
    exact readsAs_null hcolumn htext hlex (by decide) (.present (by decide)) (by decide)

end Parts

/-- The call of a comparison that has a test adds one clause, which answers as the test does. -/
theorem partTest?_clauses {column : String} {c : Operator × Json} {e : Expr}
    (he : partTest? column c = some e) (join : Connective) :
    ∃ p, (comparisonCall join column c.1 c.2).clauses = .ok [(join, p)] ∧ StandsFor e p := by
  obtain ⟨operator, v⟩ := c
  have hitems (row : Json) :
      ((listItems v).map Operand.literal).filterMap (·.value? row) = listItems v := by
    simp [List.filterMap_map, Operand.value?]
  cases operator with
  | compare comparison =>
    simp only [partTest?, Option.map_eq_some_iff] at he
    obtain ⟨r, hr, rfl⟩ := he
    have hk := Comparator.ofText?_eq_ok_iff.mpr ⟨r, hr, rfl⟩
    refine ⟨.compare column r.comparator v, ?_, fun row => ?_⟩
    · rw [comparisonCall, Call.clauses, hk]
      rfl
    · rw [Expr.holds_compare]
      rfl
  | oneOf =>
    cases he
    refine ⟨.listed column (listItems v) false, rfl, fun row => ?_⟩
    rw [Expr.holds, hitems]
    rfl
  | noneOf =>
    cases he
    refine ⟨.listed column (listItems v) true, rfl, fun row => ?_⟩
    rw [Expr.holds, hitems]
    rfl
  | isNull =>
    cases he
    exact ⟨.null column false, rfl, fun row => rfl⟩
  | notNull =>
    cases he
    exact ⟨.null column true, rfl, fun row => rfl⟩

theorem exists_partTest? {column : String} {c : Operator × Json}
    (h : ∀ comparison, c.1 = .compare comparison → ∃ k, Comparator.ofText? comparison.sql = .ok k) :
    ∃ e, partTest? column c = some e := by
  obtain ⟨operator, v⟩ := c
  cases operator with
  | compare comparison =>
    obtain ⟨k, hk⟩ := h comparison rfl
    obtain ⟨r, hr, _⟩ := Comparator.ofText?_eq_ok_iff.mp hk
    simp [partTest?, hr]
  | _ => exact ⟨_, rfl⟩

/-- A comparison without a test is one whose call fails. -/
theorem exists_unsupported {column : String} {c : Operator × Json} (h : partTest? column c = none) :
    ∃ comparison, c.1 = .compare comparison ∧ Comparator.ofText? comparison.sql =
      .error (.invalidQuery (.unsupportedOperator comparison.sql)) := by
  obtain ⟨operator, v⟩ := c
  cases operator with
  | compare comparison =>
    refine ⟨comparison, rfl, ?_⟩
    cases hk : Comparator.ofText? comparison.sql with
    | ok k =>
      obtain ⟨r, hr, _⟩ := Comparator.ofText?_eq_ok_iff.mp hk
      simp [partTest?, hr] at h
    | error e =>
      rw [Comparator.ofText?] at hk
      split at hk
      · cases hk
      · exact hk.symm
  | _ => cases h

end RowSearch.Plan
