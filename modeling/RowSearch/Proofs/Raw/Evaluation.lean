import RowSearch.Raw.Expr

/-! # How tests answer

A comparison reads its left side only as far as it is there: null is as good as nothing. The
connectives ask their right side only where the left one has not decided.
-/
namespace RowSearch

theorem Json.alike_null {v w : Json} (hv : v.isNull = false) (hw : w.isNull = true) :
    v.alike w = false := by
  cases w with
  | null => cases v <;> first | rfl | cases hv
  | _ => cases hw

theorem Json.isNull_of_present {v? : Option Json} {v : Json} (h : present v? = some v) :
    v.isNull = false := by
  simpa using (Option.filter_eq_some_iff.mp h).2

namespace Comparator
variable {c : Comparator} {actual other : Option Json}

theorem holds_congr (h : Json.present actual = Json.present other) (e : Json) :
    c.holds actual e = c.holds other e := by
  cases c <;> simp only [holds, equated, ordered, h]

theorem holds_missing (c : Comparator) (e : Json) (h : Json.present actual = none) :
    c.holds actual e = .ok false := by
  cases c <;> simp [holds, equated, ordered, h]

/-- A null on the right never compares; as a pattern it fails where there is a text to match. -/
theorem holds_null (c : Comparator) (actual : Option Json) : c.holds actual .null = .ok false ∨
    ∃ negated ignoreCase text, c = .like negated ignoreCase ∧
      (Json.present actual).bind Json.scalarText? = some text ∧ c.holds actual .null =
        .error (.invalidQuery (.patternNotScalar (likeName negated ignoreCase) .null)) := by
  cases c with
  | like negated ignoreCase =>
    rw [holds]
    cases htext : (Json.present actual).bind Json.scalarText? with
    | none => exact .inl rfl
    | some text => exact .inr ⟨negated, ignoreCase, text, rfl, rfl, rfl⟩
  | _ =>
    left
    cases hactual : Json.present actual <;> simp [holds, equated, ordered, hactual]

/-- A null in a list is like no value. -/
theorem inList_congr (h : Json.present actual = Json.present other) {values less : List Json}
    (hless : values.filter (!·.isNull) = less.filter (!·.isNull)) :
    inList actual values = inList other less := by
  rw [inList, inList, ← h]
  cases hactual : Json.present actual with
  | none => rfl
  | some v =>
    have hv := Json.isNull_of_present hactual
    have hany : ∀ items : List Json,
        items.any (v.alike ·) = (items.filter (!·.isNull)).any (v.alike ·) := by
      intro items
      induction items with
      | nil => rfl
      | cons w items ih =>
        cases hw : w.isNull <;> simp [hw, ih, Json.alike_null hv]
    exact (hany values).trans (by rw [hless, ← hany])

end Comparator

namespace Raw
namespace Expr
variable (row : Json) (a b : Expr)

theorem holds_and : (Expr.and a b).holds row =
    (a.holds row >>= fun r => if r then b.holds row else .ok false) := by
  rw [holds]
  cases a.holds row with
  | error e => rfl
  | ok r => cases r <;> rfl

theorem holds_or : (Expr.or a b).holds row =
    (a.holds row >>= fun r => if r then .ok true else b.holds row) := by
  rw [holds]
  cases a.holds row with
  | error e => rfl
  | ok r => cases r <;> rfl

theorem holds_not : (Expr.not a).holds row =
    (a.holds row >>= fun r => .ok (!r)) := by
  rw [holds]
  cases a.holds row <;> rfl

end Expr
end Raw
end RowSearch
