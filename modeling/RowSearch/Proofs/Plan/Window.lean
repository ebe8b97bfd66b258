import RowSearch.Proofs.Plan.Isolation

/-! # The window of a plan

Only the last step of a plan sets the window, and only where the criteria have a limit. So the
query of a plan is the query of the plan without a window, cut; and that query shows all that
matches.
-/
namespace RowSearch

def Criteria.unpaged (c : Criteria) : Criteria :=
  { c with page? := none, pageSize? := none, offset := 0, limit := 0 }

def Query.cut (q : Query) (offset limit : UInt64) : Query :=
  if limit = 0 then q else { q with offset := offset, limit? := some limit }

def Query.ShowsAll (q : Query) : Prop := q.offset = 0 ∧ q.limit? = none

theorem Query.matching_cut (q : Query) (offset limit : UInt64) (rows : List Json) :
    (q.cut offset limit).matching rows = q.matching rows := by
  rw [cut]
  split <;> rfl

theorem Query.ShowsAll.fetch {q : Query} (h : q.ShowsAll) (rows : List Json) :
    q.fetch rows = q.matching rows := by
  rw [Query.fetch, h.1, h.2]
  cases q.matching rows <;> rfl

namespace Plan
variable {m : Model} {registry : Registry}

theorem build_unpaged (c : Criteria) :
    build c m registry = (build c.unpaged m registry).map fun p =>
      p ++ if c.limit = 0 then [] else [.window c.offset c.limit] := by
  rw [build, build]
  simp only [Criteria.unpaged]
  cases c.wheres.mapM (whereStep m registry) with
  | error e => rfl
  | ok wheres => simp [bind, Except.bind, pure, Except.pure, Except.map]

theorem keywordStep_apart {keyword : String} {s : Step} (h : keywordStep? keyword m = some s) :
    s.Apart := by
  rw [keywordStep?] at h
  cases hbody : m.scope? keywordScope with
  | some body =>
    simp only [hbody] at h
    cases h
    exact ⟨.group .and (body [.string keyword]), rfl, trivial⟩
  | none =>
    simp only [hbody] at h
    split at h
    · cases h
      exact fieldStep_apart (keywordCondition keyword)
    · cases h

theorem havingStep_having {c : HavingCondition} {s : Step} (h : havingStep? c = some s) :
    ∃ fragment, s = .having fragment := by
  cases c with
  | field f =>
    obtain ⟨fragment, _, rfl⟩ := Option.map_eq_some_iff.mp h
    exact ⟨fragment, rfl⟩
  | raw fragment =>
    cases h
    exact ⟨fragment, rfl⟩

/-- Without a window among the criteria no call of the plan sets one. -/
theorem setsWindow_of_unpaged {c : Criteria} {p : Plan}
    (h : build c.unpaged m registry = .ok p) : ∀ call ∈ p.calls, call.setsWindow = false := by
  rw [build] at h
  obtain ⟨wheres, hwheres, h⟩ := bind_eq_ok_iff.mp h
  cases h
  intro call hcall
  obtain ⟨s, hs, hcall⟩ := List.mem_flatMap.mp hcall
  simp only [List.mem_append] at hs
  rcases hs with ((((hs | hs) | hs) | hs) | hs) | hs
  · obtain ⟨keyword, _, hs⟩ := Option.bind_eq_some_iff.mp (Option.mem_toList.mp hs)
    exact (keywordStep_apart hs).setsWindow call hcall
  · obtain ⟨condition, _, hs⟩ := exists_of_mem_mapM hwheres hs
    exact (whereStep_apart hs).setsWindow call hcall
  · split at hs
    · exact absurd hs List.not_mem_nil
    · obtain rfl := List.mem_singleton.mp hs
      obtain rfl := List.mem_singleton.mp hcall
      rfl
  · obtain ⟨condition, _, hs⟩ := List.mem_filterMap.mp hs
    obtain ⟨fragment, rfl⟩ := havingStep_having hs
    obtain rfl := List.mem_singleton.mp hcall
    rfl
  · obtain ⟨term, _, rfl⟩ := List.mem_map.mp hs
    cases term <;>
      · obtain rfl := List.mem_singleton.mp hcall
        rfl
  · exact absurd hs List.not_mem_nil

/-- The query of a plan without a window shows all rows. -/
theorem showsAll_of_unpaged {c : Criteria} {p : Plan} {q : Query}
    (h : build c.unpaged m registry = .ok p) (hq : Query.ofCalls p.calls = .ok q) : q.ShowsAll := by
  have hwindow := Query.run_window {} (setsWindow_of_unpaged h)
  rw [Query.ofCalls_eq_ok_iff.mp hq] at hwindow
  exact hwindow

/-- The step of a window, the last of a plan, cuts the query of the steps before it. -/
theorem ofCalls_window (p : Plan) (offset limit : UInt64) :
    Query.ofCalls (calls (p ++ if limit = 0 then [] else [.window offset limit])) =
      (Query.ofCalls p.calls).map (·.cut offset limit) := by
  by_cases hl : limit = 0
  · simp only [hl, if_true, List.append_nil, Query.cut]
    cases Query.ofCalls p.calls <;> rfl
  · have hcalls : calls (p ++ [.window offset limit]) = p.calls ++ [.skip offset, .take limit] := by
      simp [calls, stepCalls]
    rw [if_neg hl, hcalls, Query.ofCalls, Query.ofCalls, Query.run_append]
    obtain ⟨q, _ | e⟩ := Query.run {} p.calls
    · simp only [Except.map, Query.cut, if_neg hl]
      rfl
    · rfl

end Plan
end RowSearch
