import Mathlib.Data.List.Dedup
import Mathlib.Data.List.Induction
import RowSearch.Plan.Basic
import RowSearch.Proofs.Query.Calls

/-! # Orders and sort keys

Of the columns mentioned in an order the last mention of each counts. The order list drops an
earlier mention when the same column is added again and leaves raw terms alone; the query drops
earlier sort keys of a field whatever term they come from. Since what the list drops is mentioned
again later, a query sorts by the list as it would sort by all the terms, and fails as it would.
-/
namespace RowSearch

def lastKeys : List (String × Direction) → List (String × Direction)
  | [] => []
  | key :: keys => if key.1 ∈ keys.map Prod.fst then lastKeys keys else key :: lastKeys keys

/-- Every field once, in the order of the last mentions and with the direction given there. -/
structure LastMentions (keys kept : List (String × Direction)) : Prop where
  fields : kept.map Prod.fst = (keys.map Prod.fst).dedup
  directions (field : String) (direction : Direction) : (field, direction) ∈ kept ↔
    ∃ before after, keys = before ++ (field, direction) :: after ∧ field ∉ after.map Prod.fst

def withoutField (field : String) (keys : List (String × Direction)) :
    List (String × Direction) := keys.filter (·.1 ≠ field)

section Keys
variable (keys more : List (String × Direction))

theorem map_fst_lastKeys : (lastKeys keys).map Prod.fst = (keys.map Prod.fst).dedup := by
  induction keys with
  | nil => rfl
  | cons key keys ih =>
    rw [lastKeys, List.map_cons]
    by_cases h : key.1 ∈ keys.map Prod.fst
    · rw [if_pos h, List.dedup_cons_of_mem h, ih]
    · rw [if_neg h, List.dedup_cons_of_notMem h, List.map_cons, ih]

theorem mem_lastKeys_iff {key : String × Direction} : key ∈ lastKeys keys ↔
    ∃ before after, keys = before ++ key :: after ∧ key.1 ∉ after.map Prod.fst := by
  induction keys with
  | nil => simp [lastKeys]
  | cons first keys ih =>
    have hsplit : (∃ before after, first :: keys = before ++ key :: after ∧
        key.1 ∉ after.map Prod.fst) ↔
        first = key ∧ key.1 ∉ keys.map Prod.fst ∨ key ∈ lastKeys keys := by
      rw [ih]
      constructor
      · rintro ⟨before, after, heq, hafter⟩
        cases before with
        | nil =>
          cases heq
          exact .inl ⟨rfl, hafter⟩
        | cons x before =>
          cases heq
          exact .inr ⟨before, after, rfl, hafter⟩
      · rintro (⟨rfl, hafter⟩ | ⟨before, after, rfl, hafter⟩)
        · exact ⟨[], keys, rfl, hafter⟩
        · exact ⟨first :: before, after, rfl, hafter⟩
    rw [hsplit, lastKeys]
    by_cases h : first.1 ∈ keys.map Prod.fst
    · rw [if_pos h]
      constructor
      · exact .inr
      · rintro (⟨rfl, hafter⟩ | hkey)
        · exact absurd h hafter
        · exact hkey
    · rw [if_neg h, List.mem_cons]
      constructor
      · rintro (rfl | hkey)
        · exact .inl ⟨rfl, h⟩
        · exact .inr hkey
      · rintro (⟨rfl, _⟩ | hkey)
        · exact .inl rfl
        · exact .inr hkey

theorem lastMentions_lastKeys : LastMentions keys (lastKeys keys) :=
  ⟨map_fst_lastKeys keys, fun _ _ => mem_lastKeys_iff keys⟩

/-- Of earlier keys those go that are mentioned later. -/
theorem lastKeys_append : lastKeys (keys ++ more) =
    (lastKeys keys).filter (·.1 ∉ more.map Prod.fst) ++ lastKeys more := by
  induction keys with
  | nil => rfl
  | cons key keys ih =>
    rw [List.cons_append, lastKeys, lastKeys, List.map_append, ih]
    by_cases hkeys : key.1 ∈ keys.map Prod.fst
    · rw [if_pos (List.mem_append_left _ hkeys), if_pos hkeys]
    · rw [if_neg hkeys]
      by_cases hmore : key.1 ∈ more.map Prod.fst
      · rw [if_pos (List.mem_append_right _ hmore), List.filter_cons_of_neg (by simpa using hmore)]
      · have hnot : key.1 ∉ keys.map Prod.fst ++ more.map Prod.fst := by
          simp only [List.mem_append, not_or]
          exact ⟨hkeys, hmore⟩
        rw [if_neg hnot, List.filter_cons_of_pos (by simpa using hmore), List.cons_append]

theorem lastKeys_append_singleton (key : String × Direction) :
    lastKeys (keys ++ [key]) = withoutField key.1 (lastKeys keys) ++ [key] := by
  rw [lastKeys_append, withoutField]
  congr 1
  apply List.filter_congr
  intro other _
  simp

theorem lastKeys_withoutField (field : String) :
    lastKeys (withoutField field keys) = withoutField field (lastKeys keys) := by
  induction keys with
  | nil => rfl
  | cons key keys ih =>
    have hmem (h : key.1 ≠ field) :
        key.1 ∈ (withoutField field keys).map Prod.fst ↔ key.1 ∈ keys.map Prod.fst := by
      simp only [withoutField, List.mem_map, List.mem_filter, decide_eq_true_eq]
      constructor
      · rintro ⟨other, ⟨hother, _⟩, heq⟩
        exact ⟨other, hother, heq⟩
      · rintro ⟨other, hother, heq⟩
        exact ⟨other, ⟨hother, heq ▸ h⟩, heq⟩
    have hcons (l : List (String × Direction)) : withoutField field (key :: l) =
        if key.1 = field then withoutField field l else key :: withoutField field l := by
      by_cases h : key.1 = field <;> simp [withoutField, h]
    rw [hcons, lastKeys]
    by_cases h : key.1 = field
    · rw [if_pos h, ih]
      split
      · rfl
      · rw [hcons, if_pos h]
    · rw [if_neg h, lastKeys, ih]
      by_cases hkeys : key.1 ∈ keys.map Prod.fst
      · rw [if_pos hkeys, if_pos ((hmem h).mpr hkeys)]
      · rw [if_neg hkeys, if_neg (mt (hmem h).mp hkeys), hcons, if_neg h]

/-- Sort keys added to a query: the keys of fields that are not mentioned stay, and of the added
ones the last mentions. -/
theorem Query.foldl_addSort_eq (q : Query) : keys.foldl addSort q =
    { q with sort := q.sort.filter (·.1 ∉ keys.map Prod.fst) ++ lastKeys keys } := by
  induction keys using List.reverseRecOn with
  | nil => simp [lastKeys]
  | append_singleton keys key ih =>
    have hsort : q.sort.filter (·.1 ∉ (keys ++ [key]).map Prod.fst) =
        withoutField key.1 (q.sort.filter (·.1 ∉ keys.map Prod.fst)) := by
      rw [withoutField, List.filter_filter]
      apply List.filter_congr
      intro other _
      by_cases h : other.1 = key.1 <;> simp [h]
    rw [List.foldl_append, ih, List.foldl_cons, List.foldl_nil, addSort, lastKeys_append_singleton,
      hsort]
    simp only [withoutField, List.filter_append, List.append_assoc]

end Keys

namespace OrderTerm

def call : OrderTerm → Call
  | .column field direction => .orderBy field direction
  | .raw fragment => .orderByRaw fragment

def sortKeys : OrderTerm → Except SearchError (List (String × Direction))
  | .column field direction => .ok [(field, direction)]
  | .raw fragment => Raw.orderColumns fragment.sql

def column? : OrderTerm → Option (String × Direction)
  | .column field direction => some (field, direction)
  | .raw _ => none

def raw? : OrderTerm → Option Fragment
  | .column _ _ => none
  | .raw fragment => some fragment

end OrderTerm

def sortKeysOf : List OrderTerm → Except SearchError (List (String × Direction))
  | [] => .ok []
  | term :: terms => do
    let first ← term.sortKeys
    let rest ← sortKeysOf terms
    return first ++ rest

theorem sortKeysOf_append (terms more : List OrderTerm) : sortKeysOf (terms ++ more) = (do
    let first ← sortKeysOf terms
    let rest ← sortKeysOf more
    return first ++ rest) := by
  induction terms with
  | nil =>
    rw [List.nil_append, sortKeysOf]
    cases sortKeysOf more <;> rfl
  | cons term terms ih =>
    rw [List.cons_append, sortKeysOf, sortKeysOf, ih]
    cases term.sortKeys with
    | error e => rfl
    | ok a =>
      cases sortKeysOf terms with
      | error e => rfl
      | ok b =>
        cases sortKeysOf more with
        | error e => rfl
        | ok c => exact congrArg Except.ok (List.append_assoc a b c).symm

theorem sortKeysOf_append_column (terms : List OrderTerm) (field : String)
    (direction : Direction) : sortKeysOf (terms ++ [.column field direction]) =
      (sortKeysOf terms).map (· ++ [(field, direction)]) := by
  rw [sortKeysOf_append]
  cases sortKeysOf terms <;> rfl

namespace OrderList

theorem pushAll_append_singleton (terms : List OrderTerm) (term : OrderTerm) :
    pushAll [] (terms ++ [term]) = (pushAll [] terms).push term := by
  rw [pushAll, List.foldl_append]
  rfl

/-- A column taken out of a list takes keys of its field out, and no failure. -/
theorem sortKeysOf_filter (order : OrderList) (field : String) :
    (sortKeysOf (order.filter (!·.isColumn field))).map (withoutField field) =
      (sortKeysOf order).map (withoutField field) := by
  induction order with
  | nil => rfl
  | cons term order ih =>
    by_cases h : term.isColumn field = true
    · rw [List.filter_cons_of_neg (by simp [h]), ih]
      cases term with
      | raw fragment => cases h
      | column other direction =>
        obtain rfl : other = field := eq_of_beq h
        rw [sortKeysOf, OrderTerm.sortKeys]
        cases sortKeysOf order with
        | error e => rfl
        | ok keys => simp [bind, Except.bind, pure, Except.pure, Except.map, withoutField]
    · rw [List.filter_cons_of_pos (by simp [h]), sortKeysOf, sortKeysOf]
      cases term.sortKeys with
      | error e => rfl
      | ok first =>
        have happend (x : Except SearchError (List (String × Direction))) :
            (x >>= fun rest => pure (first ++ rest)).map (withoutField field) =
              (x.map (withoutField field)).map (withoutField field first ++ ·) := by
          cases x with
          | error e => rfl
          | ok rest => exact congrArg Except.ok (List.filter_append first rest)
        exact (happend _).trans ((congrArg _ ih).trans (happend _).symm)

/-- The list fails where the terms do, and otherwise leads to the same last mentions. -/
theorem lastKeys_pushAll (terms : List OrderTerm) :
    (sortKeysOf (pushAll [] terms)).map lastKeys = (sortKeysOf terms).map lastKeys := by
  induction terms using List.reverseRecOn with
  | nil => rfl
  | append_singleton terms term ih =>
    rw [pushAll_append_singleton]
    generalize pushAll [] terms = order at ih ⊢
    cases term with
    | raw fragment =>
      have happend (x : Except SearchError (List (String × Direction))) :
          (do let first ← x; let rest ← sortKeysOf [.raw fragment]; return first ++ rest).map
            lastKeys = (x.map lastKeys) >>= fun first => (sortKeysOf [.raw fragment]).map
              fun rest => first.filter (·.1 ∉ rest.map Prod.fst) ++ lastKeys rest := by
        cases x with
        | error e => rfl
        | ok first =>
          cases sortKeysOf [.raw fragment] with
          | error e => rfl
          | ok rest => exact congrArg Except.ok (lastKeys_append first rest)
      rw [push, sortKeysOf_append, sortKeysOf_append, happend, happend, ih]
    | column field direction =>
      -- the last key of the field replaces all others, so those in the list do not matter
      have happend (l : List OrderTerm) :
          (sortKeysOf (l ++ [.column field direction])).map lastKeys =
            ((sortKeysOf l).map (withoutField field)).map (lastKeys · ++ [(field, direction)]) := by
        rw [sortKeysOf_append_column, map_map, map_map]
        congr 1
        funext keys
        rw [Function.comp, Function.comp, lastKeys_append_singleton, lastKeys_withoutField]
      have hlast (x : Except SearchError (List (String × Direction))) :
          (x.map (withoutField field)).map (lastKeys · ++ [(field, direction)]) =
            (x.map lastKeys).map (withoutField field · ++ [(field, direction)]) := by
        rw [map_map, map_map]
        congr 1
        funext keys
        rw [Function.comp, Function.comp, lastKeys_withoutField]
      rw [push, happend, sortKeysOf_filter, happend, hlast, hlast, ih]

theorem pushAll_sublist (terms : List OrderTerm) : (pushAll [] terms).Sublist terms := by
  induction terms using List.reverseRecOn with
  | nil => exact List.Sublist.refl _
  | append_singleton terms term ih =>
    rw [pushAll_append_singleton]
    cases term with
    | raw fragment => exact ih.append_right _
    | column field direction => exact (List.filter_sublist.trans ih).append_right _

theorem filterMap_column?_filter (order : OrderList) (field : String) :
    (order.filter (!·.isColumn field)).filterMap OrderTerm.column? =
      withoutField field (order.filterMap OrderTerm.column?) := by
  induction order with
  | nil => rfl
  | cons term order ih =>
    cases term with
    | raw fragment => exact ih
    | column other direction =>
      by_cases h : other = field
      · simpa [OrderTerm.isColumn, OrderTerm.column?, withoutField, h] using ih
      · simpa [OrderTerm.isColumn, OrderTerm.column?, withoutField, h] using ih

theorem columns_pushAll (terms : List OrderTerm) : (pushAll [] terms).filterMap OrderTerm.column? =
    lastKeys (terms.filterMap OrderTerm.column?) := by
  induction terms using List.reverseRecOn with
  | nil => rfl
  | append_singleton terms term ih =>
    rw [pushAll_append_singleton]
    cases term with
    | raw fragment =>
      rw [push, List.filterMap_append, List.filterMap_append, ih, List.filterMap_cons_none rfl,
        List.filterMap_nil, List.append_nil, List.append_nil]
    | column field direction =>
      rw [push, List.filterMap_append, List.filterMap_append, filterMap_column?_filter, ih]
      exact (lastKeys_append_singleton _ (field, direction)).symm

theorem raws_pushAll (terms : List OrderTerm) : (pushAll [] terms).filterMap OrderTerm.raw? =
    terms.filterMap OrderTerm.raw? := by
  induction terms using List.reverseRecOn with
  | nil => rfl
  | append_singleton terms term ih =>
    rw [pushAll_append_singleton]
    cases term with
    | raw fragment => rw [push, List.filterMap_append, List.filterMap_append, ih]
    | column field direction =>
      have hfilter (order : OrderList) : (order.filter (!·.isColumn field)).filterMap
          OrderTerm.raw? = order.filterMap OrderTerm.raw? := by
        rw [List.filterMap_filter]
        congr 1
        funext term
        cases term with
        | raw fragment => rfl
        | column other direction => simp [OrderTerm.raw?]
      rw [push, List.filterMap_append, List.filterMap_append, hfilter, ih]

end OrderList

namespace Query

/-- The query after calls, or the error of the first that fails. -/
def outcome (q : Query) (calls : List Call) : Except SearchError Query :=
  match q.run calls with
  | (q', none) => .ok q'
  | (_, some e) => .error e

theorem outcome_cons (q : Query) (c : Call) (calls : List Call) :
    q.outcome (c :: calls) = q.outcome [c] >>= fun q' => q'.outcome calls := by
  rw [outcome, outcome, run, run]
  obtain ⟨q', _ | e⟩ := q.call c <;> rfl

theorem outcome_term (q : Query) (term : OrderTerm) :
    q.outcome [term.call] = term.sortKeys.map fun keys => keys.foldl addSort q := by
  cases term with
  | column field direction => rfl
  | raw fragment =>
    rw [OrderTerm.call, OrderTerm.sortKeys, outcome, run, call]
    cases Raw.orderColumns fragment.sql <;> rfl

theorem outcome_terms (q : Query) (terms : List OrderTerm) :
    q.outcome (terms.map OrderTerm.call) =
      (sortKeysOf terms).map fun keys => keys.foldl addSort q := by
  induction terms generalizing q with
  | nil => rfl
  | cons term terms ih =>
    rw [List.map_cons, outcome_cons, outcome_term, sortKeysOf]
    cases term.sortKeys with
    | error e => rfl
    | ok first =>
      refine (ih (first.foldl addSort q)).trans ?_
      cases sortKeysOf terms with
      | error e => rfl
      | ok rest => exact congrArg Except.ok List.foldl_append.symm

/-- A query that sorts by the list of some terms comes out as one that sorts by all the terms: with
the error of the first term that cannot be read, or sorted by the last mentions of their fields,
behind its keys for other fields. In the list every column stands once, for its last mention, and
the raw terms are all there in their order. -/
theorem outcome_order (q : Query) (terms : List OrderTerm) :
    q.outcome (Plan.calls ((OrderList.pushAll [] terms).map Step.order)) =
      q.outcome (terms.map OrderTerm.call) ∧
    (match sortKeysOf terms with
      | .error e => q.outcome (terms.map OrderTerm.call) = .error e
      | .ok keys => ∃ kept, LastMentions keys kept ∧ q.outcome (terms.map OrderTerm.call) =
          .ok { q with sort := q.sort.filter (·.1 ∉ kept.map Prod.fst) ++ kept }) ∧
    (OrderList.pushAll [] terms).Sublist terms ∧
    LastMentions (terms.filterMap OrderTerm.column?)
      ((OrderList.pushAll [] terms).filterMap OrderTerm.column?) ∧
    (OrderList.pushAll [] terms).filterMap OrderTerm.raw? = terms.filterMap OrderTerm.raw? := by
  have hsteps (order : OrderList) :
      Plan.calls (order.map Step.order) = order.map OrderTerm.call := by
    rw [Plan.calls, List.flatMap_map, ← List.flatMap_singleton' (order.map _), List.flatMap_map]
    congr 1
    funext term
    cases term <;> rfl
  have hsort (terms : List OrderTerm) : q.outcome (terms.map OrderTerm.call) =
      ((sortKeysOf terms).map lastKeys).map fun kept =>
        { q with sort := q.sort.filter (·.1 ∉ kept.map Prod.fst) ++ kept } := by
    rw [outcome_terms, map_map]
    congr 1
    funext keys
    rw [Function.comp, foldl_addSort_eq, map_fst_lastKeys]
    simp only [List.mem_dedup]
  refine ⟨?_, ?_, OrderList.pushAll_sublist terms, ?_, OrderList.raws_pushAll terms⟩
  · rw [hsteps, hsort, hsort, OrderList.lastKeys_pushAll]
  · rw [hsort]
    cases sortKeysOf terms with
    | error e => rfl
    | ok keys => exact ⟨lastKeys keys, lastMentions_lastKeys keys, rfl⟩
  · rw [OrderList.columns_pushAll]
    exact lastMentions_lastKeys _

end Query
end RowSearch
