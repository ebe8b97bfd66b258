import RowSearch.Proofs.Answers
import RowSearch.Query.Rows

/-! # The rows a query finds

Clauses that answer on every row select by row, in the table's order. Grouping, having and the
sort never make more rows of what the conditions keep, and the window plays no part in what
matches: a query's rows are its matching rows with the window cut out.
-/
namespace RowSearch

/-- Whether clauses keep a row, `false` where they fail. -/
def clausesKeep (clauses : List Clause) (row : Json) : Bool :=
  (clausesHold row clauses).toOption.getD false

theorem clausesHold_eq_clausesKeep {clauses : List Clause} {row : Json}
    (h : ∃ kept, clausesHold row clauses = .ok kept) :
    clausesHold row clauses = .ok (clausesKeep clauses row) := by
  obtain ⟨kept, hkept⟩ := h
  rw [clausesKeep, hkept]
  rfl

namespace Query

theorem keep_eq_filter {clauses : List Clause} {test : Json → Bool} {rows : List Json}
    (h : ∀ row ∈ rows, clausesHold row clauses = .ok (test row)) :
    keep clauses rows = .ok (rows.filter test) := by
  induction rows with
  | nil => rfl
  | cons row rows ih =>
    rw [keep, h row List.mem_cons_self, ih fun r hr => h r (List.mem_cons_of_mem row hr),
      List.filter_cons]
    rfl

theorem clausesHold_of_keep {clauses : List Clause} {rows found : List Json}
    (h : keep clauses rows = .ok found) :
    ∀ row ∈ rows, ∃ kept, clausesHold row clauses = .ok kept := by
  induction rows generalizing found with
  | nil => exact fun row hr => absurd hr List.not_mem_nil
  | cons row rows ih =>
    rw [keep] at h
    cases hrow : clausesHold row clauses with
    | error e => simp [hrow] at h
    | ok kept =>
      cases hrest : keep clauses rows with
      | error e => simp [hrow, hrest, Except.map] at h
      | ok rest => exact List.forall_mem_cons.mpr ⟨⟨kept, hrow⟩, ih hrest⟩

theorem keep_length_le {clauses : List Clause} {rows found : List Json}
    (h : keep clauses rows = .ok found) : found.length ≤ rows.length := by
  induction rows generalizing found with
  | nil =>
    cases h
    exact Nat.le_refl _
  | cons row rows ih =>
    rw [keep] at h
    cases hrow : clausesHold row clauses with
    | error e => simp [hrow] at h
    | ok kept =>
      cases hrest : keep clauses rows with
      | error e => simp [hrow, hrest, Except.map] at h
      | ok rest =>
        have hle := ih hrest
        simp only [hrow, hrest, Except.map, Except.ok.injEq] at h
        subst h
        cases kept <;> simp <;> omega

@[simp] theorem keep_nil (rows : List Json) : keep [] rows = .ok rows := by
  have h : keep [] rows = .ok (rows.filter fun _ => true) := keep_eq_filter fun _ _ => rfl
  rw [h, List.filter_eq_self.mpr fun _ _ => rfl]

/-- A row goes to its group or starts one. -/
theorem addToGroup_length_le (groups : List String) (row : Json) (key : List Char)
    (grouped : List (List Char × Fields)) :
    (addToGroup groups row key grouped).length ≤ grouped.length + 1 := by
  induction grouped with
  | nil => exact Nat.le_refl _
  | cons entry rest ih =>
    obtain ⟨k, group⟩ := entry
    rw [addToGroup]
    split
    · exact Nat.le_succ _
    · exact Nat.succ_le_succ ih

theorem groupRows_length_le (groups : List String) (rows : List Json) :
    (groupRows groups rows).length ≤ rows.length := by
  have hfold : ∀ grouped : List (List Char × Fields),
      (rows.foldl (fun gs row => addToGroup groups row (groupKey groups row) gs) grouped).length ≤
        grouped.length + rows.length := by
    induction rows with
    | nil => exact fun _ => Nat.le_refl _
    | cons row rows ih =>
      intro grouped
      have hstep := addToGroup_length_le groups row (groupKey groups row) grouped
      have hrest := ih (addToGroup groups row (groupKey groups row) grouped)
      simp only [List.foldl_cons, List.length_cons]
      omega
  simpa [groupRows] using hfold []

@[simp] theorem sortRows_nil (rows : List Json) : sortRows [] rows = rows :=
  List.mergeSort_of_pairwise (List.pairwise_of_forall fun _ _ => rfl)

@[simp] theorem sortRows_length (keys : List (String × Direction)) (rows : List Json) :
    (sortRows keys rows).length = rows.length :=
  List.length_mergeSort rows

theorem matching_length_le {q : Query} {rows found : List Json}
    (h : q.matching rows = .ok found) : found.length ≤ rows.length := by
  rw [matching] at h
  obtain ⟨kept, hkept, h⟩ := bind_eq_ok_iff.mp h
  obtain ⟨left, hleft, h⟩ := bind_eq_ok_iff.mp h
  cases h
  have hgrouped : (if q.groups.isEmpty then kept else groupRows q.groups kept).length ≤
      kept.length := by
    split
    · exact Nat.le_refl _
    · exact groupRows_length_le q.groups kept
  rw [sortRows_length]
  exact Nat.le_trans (keep_length_le hleft) (Nat.le_trans hgrouped (keep_length_le hkept))

theorem keep_congr {a b : List Clause} (h : ∀ row, clausesHold row a = clausesHold row b)
    (rows : List Json) : keep a rows = keep b rows := by
  induction rows with
  | nil => rfl
  | cons row rows ih => rw [keep, keep, h, ih]

/-- A query of conditions alone finds what they keep. -/
theorem fetch_of_wheres (clauses : List Clause) (rows : List Json) :
    ({ wheres := clauses } : Query).fetch rows = keep clauses rows := by
  rw [fetch, matching]
  cases keep clauses rows with
  | error e => rfl
  | ok kept => simp [bind, Except.bind, pure, Except.pure, Except.map]

end Query
end RowSearch
