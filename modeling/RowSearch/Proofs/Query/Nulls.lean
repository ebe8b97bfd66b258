import RowSearch.Proofs.Json.Removal
import RowSearch.Proofs.Raw.Evaluation
import RowSearch.Query.Clause

/-! # Null and missing columns

A test cannot tell a column that holds null from one that is missing, with one exception: a
pattern test whose pattern is a column. Where the column is missing the test does not hold, where
it holds null the test fails, as it does for any pattern that is not a scalar.
-/
namespace RowSearch

section Row
variable {key : String} {fields : Fields}

theorem Json.at?_erase_null (hnull : fields.get? key = some .null) (path : String) :
    (object fields).at? path = (object (fields.erase key)).at? path ∨
      path = key ∧ (object fields).at? path = some .null ∧
        (object (fields.erase key)).at? path = none := by
  rw [at?_object, at?_object]
  match hsteps : steps path, steps_ne_nil path with
  | s :: rest, _ =>
    rw [walk?, walk?, step?, step?, Fields.get?_erase]
    by_cases hs : s = key
    · subst hs
      rw [if_pos rfl, hnull]
      cases rest with
      | nil => exact .inr ⟨eq_of_steps hsteps, rfl, rfl⟩
      | cons t rest => exact .inl rfl
    · rw [if_neg hs]
      exact .inl rfl

end Row

namespace Raw

def Expr.patternColumns : Expr → List String
  | .and a b | .or a b => a.patternColumns ++ b.patternColumns
  | .not a => a.patternColumns
  | .compare _ (.like _ _) (.column name) => [name]
  | _ => []

end Raw

def nullPattern (negated ignoreCase : Bool) : SearchError :=
  .invalidQuery (.patternNotScalar (Comparator.likeName negated ignoreCase) .null)

/-- One answer to a test with a null and without it, unless the key of the null is among some
columns and the test fails with it for a pattern. -/
def SameAnswer (key : String) (columns : List String) (a b : Except SearchError Bool) : Prop :=
  a = b ∨ key ∈ columns ∧ ∃ negated ignoreCase, a = .error (nullPattern negated ignoreCase)

namespace SameAnswer
variable {key : String} {columns more : List String} {a b : Except SearchError Bool}

theorem mono (h : SameAnswer key columns a b) (hsub : columns ⊆ more) : SameAnswer key more a b :=
  h.imp_right fun h => ⟨hsub h.1, h.2⟩

theorem bind {k l : Bool → Except SearchError Bool} (h : SameAnswer key columns a b)
    (hk : ∀ r, SameAnswer key columns (k r) (l r)) :
    SameAnswer key columns (a >>= k) (b >>= l) := by
  rcases h with rfl | ⟨hkey, negated, ignoreCase, rfl⟩
  · cases a with
    | error e => exact .inl rfl
    | ok r => exact hk r
  · exact .inr ⟨hkey, negated, ignoreCase, rfl⟩

theorem bind_append {k l : Bool → Except SearchError Bool} (h : SameAnswer key columns a b)
    (hk : ∀ r, SameAnswer key more (k r) (l r)) :
    SameAnswer key (columns ++ more) (a >>= k) (b >>= l) :=
  (h.mono (List.subset_append_left _ _)).bind fun r =>
    (hk r).mono (List.subset_append_right _ _)

end SameAnswer

section Row
variable {key : String} {fields : Fields} (hnull : fields.get? key = some .null)
include hnull

theorem present_at?_erase (path : String) : Json.present ((Json.object fields).at? path) =
    Json.present ((Json.object (fields.erase key)).at? path) := by
  rcases Json.at?_erase_null hnull path with h | ⟨_, hkept, herased⟩
  · rw [h]
  · rw [hkept, herased]
    rfl

namespace Raw

theorem Operand.value?_erase (o : Operand) :
    o.value? (.object fields) = o.value? (.object (fields.erase key)) ∨
      o = .column key ∧ o.value? (.object fields) = some .null ∧
        o.value? (.object (fields.erase key)) = none := by
  cases o with
  | literal v => exact .inl rfl
  | column name =>
    refine (Json.at?_erase_null hnull name).imp_right fun h => ?_
    obtain ⟨rfl, h⟩ := h
    exact ⟨rfl, h⟩

theorem Operand.present_value?_erase (o : Operand) :
    Json.present (o.value? (.object fields)) =
      Json.present (o.value? (.object (fields.erase key))) := by
  cases o with
  | column name => exact present_at?_erase hnull name
  | literal v => rfl

theorem compare_holds_erase (left : Operand) (relation : Relation) (right : Operand) :
    SameAnswer key (Expr.compare left relation right).patternColumns
      ((Expr.compare left relation right).holds (.object fields))
      ((Expr.compare left relation right).holds (.object (fields.erase key))) := by
  have hleft := left.present_value?_erase hnull
  rw [Expr.holds_compare, Expr.holds_compare]
  rcases right.value?_erase hnull with h | ⟨rfl, hkept, herased⟩
  · left
    rw [h]
    split
    · exact Comparator.holds_congr hleft _
    · rfl
  · rw [hkept, herased]
    rcases relation.comparator.holds_null (left.value? (.object fields)) with
      h | ⟨negated, ignoreCase, _, hlike, _, h⟩
    · exact .inl h
    · have hrelation : relation = .like negated ignoreCase := by
        cases relation with
        | sign s => cases s <;> cases hlike
        | like => simpa [Relation.comparator] using hlike
      rw [hrelation]
      exact .inr ⟨List.mem_singleton.mpr rfl, negated, ignoreCase, by rw [← hrelation]; exact h⟩

theorem oneOf_holds_erase (left : Operand) (items : List Operand) (negated : Bool) :
    (Expr.oneOf left items negated).holds (.object fields) =
      (Expr.oneOf left items negated).holds (.object (fields.erase key)) := by
  have hleft := left.present_value?_erase hnull
  have hitems : (items.filterMap (·.value? (.object fields))).filter (!·.isNull) =
      (items.filterMap (·.value? (.object (fields.erase key)))).filter (!·.isNull) := by
    induction items with
    | nil => rfl
    | cons item items ih =>
      rcases item.value?_erase hnull with h | ⟨_, hkept, herased⟩
      · rw [List.filterMap_cons, List.filterMap_cons, h]
        cases item.value? (.object (fields.erase key)) with
        | none => exact ih
        | some v => simp only [List.filter_cons, ih]
      -- the null does not pass the filter, and where the key is missing there is no item
      · rw [List.filterMap_cons, List.filterMap_cons, hkept, herased]
        exact ih
  rw [Expr.holds, Expr.holds, Comparator.listTest, Comparator.listTest, hleft,
    Comparator.inList_congr hleft hitems]

theorem Expr.holds_erase (e : Expr) : SameAnswer key e.patternColumns
    (e.holds (.object fields)) (e.holds (.object (fields.erase key))) := by
  induction e with
  | and a b iha ihb =>
    rw [holds_and, holds_and, patternColumns]
    refine iha.bind_append fun r => ?_
    cases r with
    | true => exact ihb
    | false => exact .inl rfl
  | or a b iha ihb =>
    rw [holds_or, holds_or, patternColumns]
    refine iha.bind_append fun r => ?_
    cases r with
    | true => exact .inl rfl
    | false => exact ihb
  | not a ih =>
    rw [holds_not, holds_not, patternColumns]
    exact ih.bind fun _ => .inl rfl
  | compare left relation right => exact compare_holds_erase hnull left relation right
  | oneOf left items negated => exact .inl (oneOf_holds_erase hnull left items negated)
  | isNull operand negated =>
    left
    rw [holds, holds, Comparator.nullTest, Comparator.nullTest, operand.present_value?_erase hnull]
  | truthy operand =>
    left
    rw [holds, holds]
    rcases operand.value?_erase hnull with h | ⟨_, hkept, herased⟩
    · rw [h]
    · rw [hkept, herased]
      rfl

end Raw
end Row

mutual

/-- No relation is tested, at any depth. -/
def Predicate.Plain : Predicate → Prop
  | .has _ _ => False
  | .group clauses => clausesPlain clauses
  | .compare .. | .listed .. | .null .. | .raw _ => True

def clausesPlain : List Clause → Prop
  | [] => True
  | (_, p) :: rest => p.Plain ∧ clausesPlain rest

end

mutual

def Predicate.patternColumns : Predicate → List String
  | .group clauses => clausesPatternColumns clauses
  | .raw e => e.patternColumns
  | .compare .. | .listed .. | .null .. | .has .. => []

def clausesPatternColumns : List Clause → List String
  | [] => []
  | (_, p) :: rest => p.patternColumns ++ clausesPatternColumns rest

end

theorem clausesHold_cons (row : Json) (join : Connective) (p : Predicate) (rest : List Clause) :
    clausesHold row ((join, p) :: rest) = (p.holds row >>= fun run => laterHold row run rest) := by
  rw [clausesHold]
  cases p.holds row <;> rfl

theorem laterHold_cons (row : Json) (run : Bool) (join : Connective) (p : Predicate)
    (rest : List Clause) : laterHold row run ((join, p) :: rest) =
      match join, run with
      | .or, true => .ok true
      | .and, false => laterHold row false rest
      | _, _ => p.holds row >>= fun run => laterHold row run rest := by
  cases join <;> cases run
  case and.false => rw [laterHold]
  case or.true => rw [laterHold]
  all_goals
    simp only [laterHold]
    cases p.holds row <;> rfl

section Clauses
variable {key : String} {fields : Fields}

mutual

theorem Predicate.holds_erase (hnull : fields.get? key = some .null) (p : Predicate)
    (hplain : p.Plain) :
    SameAnswer key p.patternColumns (p.holds (.object fields))
      (p.holds (.object (fields.erase key))) := by
  match p with
  | .has .. => exact hplain.elim
  | .group clauses =>
    rw [Predicate.holds, Predicate.holds, Predicate.patternColumns]
    exact clausesHold_erase hnull clauses hplain
  | .compare field c v =>
    left
    rw [Predicate.holds, Predicate.holds]
    exact Comparator.holds_congr (present_at?_erase hnull field) v
  | .listed field values negated =>
    left
    have hfield := present_at?_erase hnull field
    rw [Predicate.holds, Predicate.holds, Comparator.listTest, Comparator.listTest, hfield,
      Comparator.inList_congr hfield rfl]
  | .null field negated =>
    left
    rw [Predicate.holds, Predicate.holds, Comparator.nullTest, Comparator.nullTest,
      present_at?_erase hnull field]
  | .raw e =>
    rw [Predicate.holds, Predicate.holds]
    exact e.holds_erase hnull

theorem clausesHold_erase (hnull : fields.get? key = some .null) (clauses : List Clause)
    (hplain : clausesPlain clauses) :
    SameAnswer key (clausesPatternColumns clauses) (clausesHold (.object fields) clauses)
      (clausesHold (.object (fields.erase key)) clauses) := by
  match clauses with
  | [] => exact .inl rfl
  | (join, p) :: rest =>
    obtain ⟨hp, hrest⟩ := hplain
    rw [clausesHold_cons, clausesHold_cons, clausesPatternColumns]
    exact (p.holds_erase hnull hp).bind_append fun run => laterHold_erase hnull rest run hrest

theorem laterHold_erase (hnull : fields.get? key = some .null) (clauses : List Clause)
    (run : Bool) (hplain : clausesPlain clauses) :
    SameAnswer key (clausesPatternColumns clauses) (laterHold (.object fields) run clauses)
      (laterHold (.object (fields.erase key)) run clauses) := by
  match clauses with
  | [] => exact .inl rfl
  | (join, p) :: rest =>
    obtain ⟨hp, hrest⟩ := hplain
    have hlater := fun run => laterHold_erase hnull rest run hrest
    rw [laterHold_cons, laterHold_cons, clausesPatternColumns]
    cases join <;> cases run
    -- a run that has failed asks nothing of the clause, and one that has held ends at an `or`
    case and.false => exact (hlater false).mono (List.subset_append_right _ _)
    case or.true => exact .inl rfl
    all_goals exact (p.holds_erase hnull hp).bind_append hlater

end

/-- Evaluated on a row, clauses that test no relation take a key that holds null for a key that is
missing, unless they test a pattern that is this very column: then they may fail, and only for
that pattern. A comparison with null on the left never holds and never fails; with null on the
right it never holds, and it fails where null is the pattern for a text. -/
theorem clausesHold_null {clauses : List Clause} (hnull : fields.get? key = some .null)
    (hplain : clausesPlain clauses) :
    (clausesHold (.object fields) clauses = clausesHold (.object (fields.erase key)) clauses ∨
      key ∈ clausesPatternColumns clauses ∧ ∃ negated ignoreCase,
        clausesHold (.object fields) clauses = .error (.invalidQuery
          (.patternNotScalar (Comparator.likeName negated ignoreCase) .null))) ∧
    ∀ (c : Comparator) (v : Option Json) (e : Json),
      (Json.present v = none → c.holds v e = .ok false) ∧
      (c.holds v .null = .ok false ∨ ∃ negated ignoreCase text, c = .like negated ignoreCase ∧
        (Json.present v).bind Json.scalarText? = some text ∧ c.holds v .null =
          .error (.invalidQuery
            (.patternNotScalar (Comparator.likeName negated ignoreCase) .null))) :=
  ⟨clausesHold_erase hnull clauses hplain, fun c v e => ⟨c.holds_missing e, c.holds_null v⟩⟩

def petFields : Fields := [("name", .string "ann"), ("pattern", .null), ("age", .null)]

def likePattern : Clause :=
  (.or, .raw (.compare (.column "name") (.like false false) (.column "pattern")))

def petClauses : List Clause := [
  (.and, .group [(.and, .compare "age" .lt (.count 3)), (.or, .null "age" false)]),
  (.and, .raw (.oneOf (.column "name") [.column "age", .literal (.string "ann")] false)),
  likePattern]

theorem clausesHold_null_pet : petFields.get? "age" = some .null ∧ clausesPlain petClauses ∧
    "age" ∉ clausesPatternColumns petClauses ∧
    clausesHold (.object petFields) petClauses = .ok true ∧
    clausesHold (.object petFields) petClauses =
      clausesHold (.object (petFields.erase "age")) petClauses := by
  have hnull : petFields.get? "age" = some .null := rfl
  have hplain : clausesPlain petClauses := by
    simp [petClauses, likePattern, clausesPlain, Predicate.Plain]
  have hcolumns : "age" ∉ clausesPatternColumns petClauses := by decide
  refine ⟨hnull, hplain, hcolumns, rfl, ?_⟩
  exact (clausesHold_null hnull hplain).1.resolve_right fun h => hcolumns h.1

/-- With null for a pattern the test fails, without the column it does not hold. -/
theorem clausesHold_nullPattern :
    petFields.get? "pattern" = some .null ∧ clausesPlain [likePattern] ∧
    clausesHold (.object petFields) [likePattern] =
      .error (.invalidQuery (.patternNotScalar "like" .null)) ∧
    clausesHold (.object (petFields.erase "pattern")) [likePattern] = .ok false :=
  ⟨rfl, ⟨trivial, trivial⟩, rfl, rfl⟩

end Clauses
end RowSearch
