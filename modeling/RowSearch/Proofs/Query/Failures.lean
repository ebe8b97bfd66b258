import RowSearch.Proofs.Query.Calls
import RowSearch.Proofs.Query.Matching

/-! # Calls that fail

A call reads its operators and its text, and runs its body, before it changes the query, so one
that fails leaves the query as it was and the query answers as before. Only a grouping changes the
query term by term: where a term fails, the columns of the terms before it are there already.
Conditions, having, sort and window are safe from any failure.
-/
namespace RowSearch.Query

theorem orKeep_failed {α : Type} {q q' : Query} {r : Except SearchError α} {change : α → Query}
    {e : SearchError} (h : q.orKeep r change = (q', some e)) : q' = q := by
  cases r with
  | ok a => cases h
  | error f =>
    cases h
    rfl

/-- A grouping that fails has added the columns of the terms before the one that fails. -/
theorem addGroups_failed {q q' : Query} {groups : GroupList} {e : SearchError}
    (h : q.addGroups groups = (q', some e)) :
    ∃ good bad rest names, groups = good ++ bad :: rest ∧
      good.mapM groupColumns = .ok names ∧ groupColumns bad = .error e ∧
      q' = names.flatten.foldl addGroup q := by
  induction groups generalizing q with
  | nil => cases h
  | cons group groups ih =>
    rw [addGroups] at h
    cases hgroup : groupColumns group with
    | error f =>
      rw [hgroup] at h
      cases h
      exact ⟨[], group, groups, [], rfl, rfl, hgroup, rfl⟩
    | ok names =>
      rw [hgroup] at h
      obtain ⟨good, bad, rest, more, rfl, hgood, hbad, rfl⟩ := ih h
      refine ⟨group :: good, bad, rest, names :: more, rfl, ?_, hbad, ?_⟩
      · rw [List.mapM_cons, hgroup, hgood]
        rfl
      · rw [List.flatten_cons, List.foldl_append]

/-- A call that fails and does not group changes nothing. -/
theorem eq_of_failed {q q' : Query} {c : Call} {e : SearchError}
    (hc : ∀ groups, c ≠ .groupBy groups) (h : q.call c = (q', some e)) : q' = q := by
  by_cases hconstrains : c.constrains = true
  · rw [call_of_constrains q hconstrains] at h
    exact orKeep_failed h
  · cases c with
    | orderByRaw fragment =>
      rw [call] at h
      exact orKeep_failed h
    | havingRaw join fragment =>
      rw [call] at h
      exact orKeep_failed h
    | groupBy groups => exact absurd rfl (hc groups)
    | orderBy field direction => cases h
    | skip count => cases h
    | take count => cases h
    | _ => exact absurd rfl hconstrains

/-- A failure adds group columns at most. -/
theorem groups_of_failed {q q' : Query} {c : Call} {e : SearchError}
    (h : q.call c = (q', some e)) : ∃ more, q' = { q with groups := q.groups ++ more } := by
  by_cases hc : ∃ groups, c = .groupBy groups
  · obtain ⟨groups, rfl⟩ := hc
    rw [call] at h
    obtain ⟨_, _, _, names, _, _, _, rfl⟩ := addGroups_failed h
    obtain ⟨more, hmore, _⟩ := foldl_addGroup q names.flatten
    exact ⟨more, hmore⟩
  · obtain rfl := eq_of_failed (fun groups hgroups => hc ⟨groups, hgroups⟩) h
    exact ⟨[], by rw [List.append_nil]⟩

/-- Calls that fail leave the query of the calls before the first that fails, with more group
columns at most. -/
theorem run_failed {q q' : Query} {calls : List Call} {e : SearchError}
    (h : q.run calls = (q', some e)) :
    ∃ done c rest mid more, calls = done ++ c :: rest ∧ q.run done = (mid, none) ∧
      mid.call c = (q', some e) ∧ q' = { mid with groups := mid.groups ++ more } := by
  induction calls generalizing q with
  | nil => cases h
  | cons c calls ih =>
    rw [run] at h
    cases hc : q.call c with
    | mk next failed =>
      rw [hc] at h
      cases failed with
      | some f =>
        cases h
        obtain ⟨more, hmore⟩ := groups_of_failed hc
        exact ⟨[], c, calls, q, more, rfl, rfl, hc, hmore⟩
      | none =>
        obtain ⟨done, d, rest, mid, more, rfl, hdone, hd, hmore⟩ := ih h
        refine ⟨c :: done, d, rest, mid, more, rfl, ?_, hd, hmore⟩
        rw [run, hc]
        exact hdone

/-- A call that fails leaves the query as it was, and the query answers as before; or it is a
grouping, and the terms before the one that fails have brought new columns. Then these have come
to the group columns, and nothing else has changed. -/
theorem call_failed {q q' : Query} {c : Call} {e : SearchError} (h : q.call c = (q', some e)) :
    (q' = q ∧ ∀ rows, q'.count rows = q.count rows ∧ q'.fetch rows = q.fetch rows) ∨
    ∃ good bad rest names more, c = .groupBy (good ++ bad :: rest) ∧
      good.mapM groupColumns = .ok names ∧ groupColumns bad = .error e ∧
      q' = { q with groups := q.groups ++ more } ∧ more ≠ [] ∧ more.Nodup ∧
      ∀ column, column ∈ more ↔ column ∈ names.flatten ∧ column ∉ q.groups := by
  have unchanged (hq : q' = q) :
      q' = q ∧ ∀ rows, q'.count rows = q.count rows ∧ q'.fetch rows = q.fetch rows :=
    ⟨hq, fun rows => by rw [hq]; exact ⟨rfl, rfl⟩⟩
  by_cases hc : ∃ groups, c = .groupBy groups
  · obtain ⟨groups, rfl⟩ := hc
    rw [call] at h
    obtain ⟨good, bad, rest, names, rfl, hgood, hbad, hq⟩ := addGroups_failed h
    obtain ⟨more, hmore, hnodup, hmem⟩ := foldl_addGroup q names.flatten
    rw [hmore] at hq
    by_cases hnew : more = []
    · left
      apply unchanged
      rw [hq, hnew, List.append_nil]
    · exact .inr ⟨good, bad, rest, names, more, rfl, hgood, hbad, hq, hnew, hnodup, hmem⟩
  · exact .inl (unchanged (eq_of_failed (fun groups hgroups => hc ⟨groups, hgroups⟩) h))

def townShops : Query where
  wheres := [(.and, .null "closed" false)]
  groups := ["town"]
  sort := [("count", .desc)]

def areaGroups : GroupList :=
  [.raw ⟨"town, `area`", []⟩, .column "size", .raw ⟨"kind, max(size)", []⟩, .column "owner"]

theorem call_failed_areas :
    townShops.call (.groupBy areaGroups) =
      ({ townShops with groups := ["town", "area", "size"] },
        some (.invalidQuery (.raw "kind, max(size)" (.unsupportedColumn "max(size)")))) ∧
    ∃ good bad rest names more, Call.groupBy areaGroups = .groupBy (good ++ bad :: rest) ∧
      good.mapM groupColumns = .ok names ∧
      groupColumns bad =
        .error (.invalidQuery (.raw "kind, max(size)" (.unsupportedColumn "max(size)"))) ∧
      { townShops with groups := ["town", "area", "size"] } =
        { townShops with groups := townShops.groups ++ more } ∧ more ≠ [] ∧ more.Nodup ∧
      ∀ column, column ∈ more ↔ column ∈ names.flatten ∧ column ∉ townShops.groups := by
  have h : townShops.call (.groupBy areaGroups) =
      ({ townShops with groups := ["town", "area", "size"] },
        some (.invalidQuery (.raw "kind, max(size)" (.unsupportedColumn "max(size)")))) := rfl
  refine ⟨h, ?_⟩
  rcases call_failed h with ⟨hsame, _⟩ | hgroups
  · exact absurd (congrArg Query.groups hsame) (by decide)
  · exact hgroups

def threeShops : List Json :=
  [.object [("town", .string "Oslo"), ("size", .count 1)],
   .object [("town", .string "Oslo"), ("size", .count 2)],
   .object [("town", .string "Rome"), ("size", .count 3)]]

/-- A failure can change the answers: the column before the bad term stays, and there are two
groups where there were three rows. -/
theorem count_of_failed_grouping :
    Query.call {} (.groupBy [.column "town", .raw ⟨"size + 1", []⟩]) =
      ({ groups := ["town"] },
        some (.invalidQuery (.raw "size + 1" (.unsupportedColumn "size + 1")))) ∧
    (({} : Query).count threeShops).toOption = some 3 ∧
    (({ groups := ["town"] } : Query).count threeShops).toOption = some 2 := by
  refine ⟨rfl, ?_, ?_⟩ <;>
    · simp only [count, matching, sortRows_nil]
      decide +kernel

end RowSearch.Query
