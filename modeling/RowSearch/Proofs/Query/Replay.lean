import RowSearch.Query.Basic
import RowSearch.Query.Transcript

/-! # Transcripts replayed

A transcript read as calls again. Of a comparison it knows the text alone, which is all that a
query looks at, and the bodies of groups and relations are replayed as they were written down. So
a replay is written down as the same transcript, and does to any query what the calls have done,
failures included.
-/
namespace RowSearch
namespace Transcript

mutual

def replayCall : Recorded → Call
  | .compare join field operator value => .compare join field (.verbatim operator) value
  | .oneOf join field values => .oneOf join field values
  | .noneOf join field values => .noneOf join field values
  | .isNull join field => .isNull join field
  | .notNull join field => .notNull join field
  | .group join body => .group join (replay body)
  | .has relation body => .has relation (replay body)
  | .raw join fragment => .raw join fragment
  | .orderBy field direction => .orderBy field direction
  | .orderByRaw fragment => .orderByRaw fragment
  | .groupBy groups => .groupBy groups
  | .havingRaw join fragment => .havingRaw join fragment
  | .skip count => .skip count
  | .take count => .take count

def replay : List Recorded → List Call
  | [] => []
  | r :: rs => replayCall r :: replay rs

end

theorem record_cons_ok {c : Call} {cs : List Call} {ops : Transcript} :
    record (c :: cs) = (ops, none) ↔
      ∃ r rest, recordCall c = .ok r ∧ record cs = (rest, none) ∧ ops = r :: rest := by
  rw [record]
  cases recordCall c with
  | error e => simp
  | ok r =>
    obtain ⟨rest, failed⟩ := record cs
    constructor
    · intro h
      obtain ⟨rfl, rfl⟩ := Prod.mk.inj h
      exact ⟨r, rest, rfl, rfl, rfl⟩
    · rintro ⟨_, _, hr, hrest, rfl⟩
      cases hr
      cases hrest
      rfl

/-- A call with a body is written down by what is written down of its body. -/
theorem recordCall_group_ok {join : Connective} {body : List Call} {r : Recorded} :
    recordCall (.group join body) = .ok r ↔
      ∃ ops, record body = (ops, none) ∧ r = .group join ops := by
  rw [recordCall]
  obtain ⟨ops, _ | e⟩ := record body
  · simp [eq_comm]
  · simp

theorem recordCall_has_ok {relation : String} {body : List Call} {r : Recorded} :
    recordCall (.has relation body) = .ok r ↔
      ∃ ops, record body = (ops, none) ∧ r = .has relation ops := by
  rw [recordCall]
  obtain ⟨ops, _ | e⟩ := record body
  · simp [eq_comm]
  · simp

mutual

theorem recordCall_replayCall : ∀ r : Recorded, recordCall (replayCall r) = .ok r
  | .group join body => by
    rw [replayCall]
    exact recordCall_group_ok.mpr ⟨body, record_replay body, rfl⟩
  | .has relation body => by
    rw [replayCall]
    exact recordCall_has_ok.mpr ⟨body, record_replay body, rfl⟩
  | .compare .. | .oneOf .. | .noneOf .. | .isNull .. | .notNull .. | .raw .. | .orderBy ..
  | .orderByRaw .. | .groupBy .. | .havingRaw .. | .skip .. | .take .. => by
    simp only [replayCall, recordCall, Comparison.sql]

/-- Nothing of a transcript is lost when it is replayed. -/
theorem record_replay : ∀ ops : List Recorded, record (replay ops) = (ops, none)
  | [] => by rw [replay, record]
  | r :: rs => by
    rw [replay]
    exact record_cons_ok.mpr ⟨r, rs, recordCall_replayCall r, record_replay rs, rfl⟩

end
end Transcript

namespace Query
open Transcript

mutual

theorem call_replayCall : ∀ c : Call, ∀ r, recordCall c = .ok r →
    ∀ q : Query, q.call (replayCall r) = q.call c
  | .group join body => by
    intro r h q
    obtain ⟨ops, hops, rfl⟩ := recordCall_group_ok.mp h
    rw [replayCall, call, call, run_replay body ops hops]
  | .has relation body => by
    intro r h q
    obtain ⟨ops, hops, rfl⟩ := recordCall_has_ok.mp h
    rw [replayCall, call, call, run_replay body ops hops]
  | .compare join field comparison value => by
    intro r h q
    rw [recordCall] at h
    cases h
    rw [replayCall, call, call, Comparison.sql]
  | .refuse message => by
    intro r h
    rw [recordCall] at h
    cases h
  | .oneOf .. | .noneOf .. | .isNull .. | .notNull .. | .raw .. | .orderBy .. | .orderByRaw ..
  | .groupBy .. | .havingRaw .. | .skip .. | .take .. => by
    intro r h q
    rw [recordCall] at h
    cases h
    rw [replayCall]

/-- The replay of what calls have written down does to a query what the calls do. -/
theorem run_replay : ∀ calls : List Call, ∀ ops, record calls = (ops, none) →
    ∀ q : Query, q.run (replay ops) = q.run calls
  | [] => by
    intro ops h q
    rw [record] at h
    cases h
    rw [replay]
  | c :: cs => by
    intro ops h q
    obtain ⟨r, rest, hr, hrest, rfl⟩ := record_cons_ok.mp h
    rw [replay, run, run, call_replayCall c r hr]
    obtain ⟨q', _ | e⟩ := q.call c
    · exact run_replay cs rest hrest q'
    · rfl

end
end Query
end RowSearch
