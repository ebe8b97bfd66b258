import RowSearch.Plan.Basic
import RowSearch.Proofs.Query.Replay
import RowSearch.Query.Rows
import Mathlib.Data.List.Forall2

/-! # Plans written down

Of a plan that is carried out only the transcript matters: a query becomes what it becomes by the
replay of the transcript. Plans with one transcript find the same rows, or fail alike.

Written down, a step fails only where the body fails that it runs in a group of its own. A
condition is one entry of the transcript, a group or an expression joined by `and`, or a relation.
-/
namespace RowSearch
namespace Transcript

theorem record_append (cs ds : List Call) :
    record (cs ++ ds) = match record cs with
      | (ops, none) => (ops ++ (record ds).1, (record ds).2)
      | failed => failed := by
  induction cs with
  | nil => simp only [List.nil_append, record]
  | cons c cs ih =>
    rw [List.cons_append, record, record, ih]
    cases recordCall c with
    | error e => rfl
    | ok r => obtain ⟨ops, _ | e⟩ := record cs <;> rfl

theorem record_append_ok {cs ds : List Call} {ops : Transcript} :
    record (cs ++ ds) = (ops, none) ↔
      ∃ first rest, record cs = (first, none) ∧ record ds = (rest, none) ∧ ops = first ++ rest := by
  rw [record_append]
  obtain ⟨first, _ | e⟩ := record cs
  · obtain ⟨rest, _ | e⟩ := record ds
    · simp [eq_comm]
    · simp
  · simp

theorem record_append_failure (cs ds : List Call) :
    (record (cs ++ ds)).2 = (record cs).2.or (record ds).2 := by
  rw [record_append]
  obtain ⟨first, _ | e⟩ := record cs <;> rfl

theorem record_singleton {c : Call} {r : Recorded} (h : recordCall c = .ok r) :
    record [c] = ([r], none) := by
  rw [record, record, h]

/-- Calls that are all written down make a transcript. -/
theorem exists_record {cs : List Call} (h : ∀ c ∈ cs, ∃ r, recordCall c = .ok r) :
    ∃ ops, record cs = (ops, none) := by
  induction cs with
  | nil => exact ⟨[], by rw [record]⟩
  | cons c cs ih =>
    obtain ⟨r, hr⟩ := h c List.mem_cons_self
    obtain ⟨rest, hrest⟩ := ih fun d hd => h d (List.mem_cons_of_mem c hd)
    exact ⟨r :: rest, record_cons_ok.mpr ⟨r, rest, hr, hrest, rfl⟩⟩

/-- A group of its own fails as its body does. -/
theorem record_group_failure (body : List Call) :
    (record [.group .and body]).2 = (record body).2 := by
  rw [record, recordCall]
  obtain ⟨ops, _ | e⟩ := record body
  · simp [record]
  · rfl

theorem record_group_ok {body : List Call} {ops : Transcript}
    (h : record [.group .and body] = (ops, none)) :
    ∃ inner, record body = (inner, none) ∧ ops = [.group .and inner] := by
  obtain ⟨_, _, hr, hrest, rfl⟩ := record_cons_ok.mp h
  obtain ⟨inner, hinner, rfl⟩ := recordCall_group_ok.mp hr
  cases hrest
  exact ⟨inner, hinner, rfl⟩

end Transcript

namespace Plan
open Transcript

theorem comparisonCall_recorded (join : Connective) (column : String) (operator : Operator)
    (v : Json) : ∃ r, recordCall (comparisonCall join column operator v) = .ok r := by
  cases operator <;> exact ⟨_, by rw [comparisonCall, recordCall]⟩

theorem comparisonCalls_recorded (f : FieldCondition) :
    ∃ ops, record (comparisonCalls f) = (ops, none) := by
  apply exists_record
  intro c hc
  obtain ⟨comparison, _, rfl⟩ := List.mem_map.mp hc
  exact comparisonCall_recorded f.mix f.path.field comparison.1 comparison.2

theorem relationCall_recorded {body : List Call} {ops : Transcript}
    (h : record body = (ops, none)) (relation : String) (rest : List String) :
    ∃ inner, recordCall (relationCall body relation rest) =
      .ok (.has (Text.lowerCamelCase relation) inner) := by
  induction rest generalizing relation with
  | nil => exact ⟨ops, recordCall_has_ok.mpr ⟨ops, h, rfl⟩⟩
  | cons next rest ih =>
    obtain ⟨inner, hinner⟩ := ih next
    exact ⟨_, recordCall_has_ok.mpr ⟨_, record_singleton hinner, rfl⟩⟩

end Plan

namespace Step
open Plan Transcript

def refusal? : Step → Option SearchError
  | .callback body | .scope _ _ body => (record body).2
  | _ => none

/-- What a condition writes down at the top: a group or an expression joined by `and`, or the
first relation on the way to a field. -/
inductive Asks : Step → Recorded → Prop
  | field {f : FieldCondition} {ops : Transcript} (hpath : f.path.relations = [])
      (hops : record (comparisonCalls f) = (ops, none)) : Asks (.field f) (.group .and ops)
  | related {f : FieldCondition} {relation : String} {rest : List String} {inner : Transcript}
      (hpath : f.path.relations = relation :: rest)
      (hinner : recordCall (relationCall (comparisonCalls f) relation rest) =
        .ok (.has (Text.lowerCamelCase relation) inner)) :
      Asks (.field f) (.has (Text.lowerCamelCase relation) inner)
  | raw (fragment : Fragment) : Asks (.raw fragment) (.raw .and fragment)
  | callback {body : List Call} {ops : Transcript} (hops : record body = (ops, none)) :
      Asks (.callback body) (.group .and ops)
  | scope (ref : ScopeRef) (owner : String) {body : List Call} {ops : Transcript}
      (hops : record body = (ops, none)) : Asks (.scope ref owner body) (.group .and ops)

/-- What a step that groups, tests groups, sorts or cuts writes down. -/
def arrangement : Step → Transcript
  | .groupBy groups => [.groupBy groups]
  | .having fragment => [.havingRaw .and fragment]
  | .order (.column name direction) => [.orderBy name direction]
  | .order (.raw fragment) => [.orderByRaw fragment]
  | .window offset limit => [.skip offset, .take limit]
  | _ => []

def conditional : Step → Bool
  | .field _ | .raw _ | .callback _ | .scope _ _ _ => true
  | _ => false

theorem fieldCall_recorded (f : FieldCondition) :
    ∃ r, recordCall (fieldCall f) = .ok r ∧ Asks (.field f) r := by
  obtain ⟨ops, hops⟩ := comparisonCalls_recorded f
  rw [fieldCall]
  cases hpath : f.path.relations with
  | nil => exact ⟨_, recordCall_group_ok.mpr ⟨ops, hops, rfl⟩, .field hpath hops⟩
  | cons relation rest =>
    obtain ⟨inner, hinner⟩ := relationCall_recorded hops relation rest
    exact ⟨_, hinner, .related hpath hinner⟩

theorem record_stepCalls_failure (s : Step) : (record (stepCalls s)).2 = s.refusal? := by
  cases s with
  | field f =>
    obtain ⟨r, hr, _⟩ := fieldCall_recorded f
    rw [stepCalls, record_singleton hr]
    rfl
  | callback body => exact record_group_failure body
  | scope ref owner body => exact record_group_failure body
  | order term => cases term <;> rfl
  | _ => rfl

theorem asks_of_recorded {s : Step} {ops : Transcript} (hs : s.conditional = true)
    (h : record (stepCalls s) = (ops, none)) : ∃ r, ops = [r] ∧ s.Asks r := by
  cases s with
  | field f =>
    obtain ⟨r, hr, hasks⟩ := fieldCall_recorded f
    rw [stepCalls, record_singleton hr] at h
    cases h
    exact ⟨r, rfl, hasks⟩
  | raw fragment =>
    cases h
    exact ⟨.raw .and fragment, rfl, .raw fragment⟩
  | callback body =>
    obtain ⟨inner, hinner, rfl⟩ := record_group_ok h
    exact ⟨.group .and inner, rfl, .callback hinner⟩
  | scope ref owner body =>
    obtain ⟨inner, hinner, rfl⟩ := record_group_ok h
    exact ⟨.group .and inner, rfl, .scope ref owner hinner⟩
  | _ => cases hs

theorem record_arrangement {s : Step} (hs : s.conditional = false) :
    record (stepCalls s) = (s.arrangement, none) := by
  cases s with
  | order term => cases term <;> rfl
  | groupBy groups => rfl
  | having fragment => rfl
  | window offset limit => rfl
  | _ => cases hs

end Step

namespace Plan
open Transcript

theorem calls_cons (s : Step) (p : Plan) : calls (s :: p) = stepCalls s ++ p.calls :=
  List.flatMap_cons

/-- A plan fails to be written down where the first body fails that a step of it runs. -/
theorem record_failure (p : Plan) : (record p.calls).2 = p.findSome? Step.refusal? := by
  induction p with
  | nil => rfl
  | cons s p ih =>
    rw [calls_cons, record_append_failure, s.record_stepCalls_failure, ih, List.findSome?_cons]
    cases s.refusal? <;> rfl

/-- Conditions are written down one by one. -/
theorem asks_of_record {p : Plan} {ops : Transcript} (hp : ∀ s ∈ p, s.conditional = true)
    (h : record p.calls = (ops, none)) : List.Forall₂ Step.Asks p ops := by
  induction p generalizing ops with
  | nil =>
    cases h
    exact .nil
  | cons s p ih =>
    rw [calls_cons] at h
    obtain ⟨first, rest, hfirst, hrest, rfl⟩ := record_append_ok.mp h
    obtain ⟨hs, hp⟩ := List.forall_mem_cons.mp hp
    obtain ⟨r, rfl, hr⟩ := Step.asks_of_recorded hs hfirst
    exact .cons hr (ih hp hrest)

theorem record_arrangements {p : Plan} (hp : ∀ s ∈ p, s.conditional = false) :
    record p.calls = (p.flatMap Step.arrangement, none) := by
  induction p with
  | nil => rfl
  | cons s p ih =>
    obtain ⟨hs, hp⟩ := List.forall_mem_cons.mp hp
    rw [calls_cons, List.flatMap_cons]
    exact record_append_ok.mpr ⟨_, _, Step.record_arrangement hs, ih hp, rfl⟩

/-- Conditions before everything else are the first entries of the transcript. -/
theorem record_conditions {p rest : Plan} {ops : Transcript}
    (hp : ∀ s ∈ p, s.conditional = true) (hrest : ∀ s ∈ rest, s.conditional = false)
    (h : record (calls (p ++ rest)) = (ops, none)) :
    ∃ asked, List.Forall₂ Step.Asks p asked ∧ ops = asked ++ rest.flatMap Step.arrangement := by
  have hcalls : calls (p ++ rest) = p.calls ++ calls rest := List.flatMap_append
  rw [hcalls] at h
  obtain ⟨asked, others, hasked, hothers, rfl⟩ := record_append_ok.mp h
  rw [record_arrangements hrest] at hothers
  cases hothers
  exact ⟨asked, asks_of_record hp hasked, rfl⟩

/-- The transcript of a plan stands for the plan: its replay leaves the same transcript and does
to every query what the plan does. So all plans with this transcript build one query, or fail with
one error, and answer alike. -/
theorem run_replay_record {p : Plan} {ops : Transcript} (h : record p.calls = (ops, none)) :
    record (replay ops) = (ops, none) ∧
    (∀ q : Query, q.run (replay ops) = q.run p.calls) ∧
    ∀ other : Plan, record other.calls = (ops, none) →
      (∀ q : Query, q.run other.calls = q.run p.calls) ∧
      ∀ rows : List Json,
        (Query.ofCalls other.calls >>= (·.fetch rows)) =
          (Query.ofCalls p.calls >>= (·.fetch rows)) ∧
        (Query.ofCalls other.calls >>= (·.count rows)) =
          (Query.ofCalls p.calls >>= (·.count rows)) := by
  have hreplay := Query.run_replay p.calls ops h
  refine ⟨record_replay ops, hreplay, ?_⟩
  intro other hother
  have hrun (q : Query) : q.run other.calls = q.run p.calls := by
    rw [← Query.run_replay other.calls ops hother q, hreplay q]
  have hquery : Query.ofCalls other.calls = Query.ofCalls p.calls := by
    rw [Query.ofCalls, hrun, Query.ofCalls]
  refine ⟨hrun, fun rows => ?_⟩
  rw [hquery]
  exact ⟨rfl, rfl⟩

def romanOffers : Plan := [
  .scope ⟨"onOffer", none, [.count 5]⟩ "item"
    [.compare .and "price" .lt (.count 5), .group .or [], .orderBy "price" .asc],
  .field ⟨⟨["made_by"], "town"⟩, [(.compare .eq, .string "Rome"), (.oneOf, .null)], .or⟩,
  .callback [.has "tags" [.group .and [.notNull .or "name"], .take 1]],
  .groupBy [.column "kind", .raw ⟨"size", []⟩],
  .having ⟨"count > ?", [.count 1]⟩,
  .order (.column "kind" .desc),
  .window 2 4]

def spelledOffers : Plan := [
  .callback
    [.compare .and "price" (.verbatim "<") (.count 5), .group .or [], .orderBy "price" .asc],
  .field ⟨⟨["madeBy"], "town"⟩, [(.compare (.verbatim "="), .string "Rome")], .or⟩] ++
    romanOffers.drop 2

def offersTranscript : Transcript := [
  .group .and [.compare .and "price" "<" (.count 5), .group .or [], .orderBy "price" .asc],
  .has "madeBy" [.compare .or "town" "=" (.string "Rome")],
  .group .and [.has "tags" [.group .and [.notNull .or "name"], .take 1]],
  .groupBy [.column "kind", .raw ⟨"size", []⟩],
  .havingRaw .and ⟨"count > ?", [.count 1]⟩,
  .orderBy "kind" .desc,
  .skip 2,
  .take 4]

theorem run_replay_offersTranscript :
    record romanOffers.calls = (offersTranscript, none) ∧
    record spelledOffers.calls = (offersTranscript, none) ∧
    Query.run {} (replay offersTranscript) = Query.run {} romanOffers.calls ∧
    Query.run {} spelledOffers.calls = Query.run {} romanOffers.calls := by
  have h : record romanOffers.calls = (offersTranscript, none) := rfl
  have hspelled : record spelledOffers.calls = (offersTranscript, none) := rfl
  obtain ⟨_, hreplay, hother⟩ := run_replay_record h
  exact ⟨h, hspelled, hreplay {}, (hother spelledOffers hspelled).1 {}⟩

end Plan
end RowSearch
