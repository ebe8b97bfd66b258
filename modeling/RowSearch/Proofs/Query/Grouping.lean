import Mathlib.Algebra.BigOperators.Group.List.Lemmas
import Mathlib.Algebra.GroupWithZero.Nat
import Mathlib.Data.List.Induction
import RowSearch.Proofs.Json.Fields
import RowSearch.Query.Rows

/-! # Rows in groups

Rows are grouped one after the other. At any time the groups are those of the rows so far: one for
each key, in the order in which the keys came, with the columns of the first row of the key and
the number of its rows. A group is found again by its key alone, so the counter may take the place
of a group column of its name.
-/
namespace RowSearch

theorem Fields.insert_insert (key : String) (v w : Json) (fields : Fields) :
    (fields.insert key v).insert key w = fields.insert key w := by
  induction fields with
  | nil => simp [insert]
  | cons f rest ih =>
    obtain ⟨k, u⟩ := f
    by_cases hk : k = key <;> simp [insert, hk, ih]

/-- New fields with keys of their own stand behind the old ones. -/
theorem Fields.insertAll_of_nodup {more fields : Fields} (h : (keys (fields ++ more)).Nodup) :
    insertAll more fields = fields ++ more := by
  induction more generalizing fields with
  | nil => exact (List.append_nil fields).symm
  | cons f more ih =>
    have hf : f.1 ∉ fields.keys := by
      intro hmem
      rw [keys, List.map_append, List.map_cons, List.nodup_append] at h
      exact h.2.2 f.1 hmem f.1 List.mem_cons_self rfl
    have hstep : fields.insert f.1 f.2 = fields ++ [f] :=
      insert_of_get?_eq_none (get?_eq_none_iff.mpr hf)
    have happend : fields ++ f :: more = fields ++ [f] ++ more := by simp
    rw [happend] at h ⊢
    rw [insertAll, List.foldl_cons, hstep]
    exact ih h

namespace Query
variable (groups : List String)

def firstRows (key : Json → List Char) : List Json → List Json
  | [] => []
  | row :: rows => row :: (firstRows key rows).filter (key · ≠ key row)

section Firsts
variable (key : Json → List Char) (rows : List Json)

theorem firstRows_sublist : (firstRows key rows).Sublist rows := by
  induction rows with
  | nil => exact List.Sublist.refl _
  | cons row rows ih => exact (List.filter_sublist.trans ih).cons_cons row

/-- A row behind the others is the first of its key if none of them has the key. -/
theorem firstRows_append_singleton (row : Json) : firstRows key (rows ++ [row]) =
    if key row ∈ rows.map key then firstRows key rows else firstRows key rows ++ [row] := by
  induction rows with
  | nil => rfl
  | cons first rows ih =>
    rw [List.cons_append, firstRows, ih, firstRows, List.map_cons]
    by_cases hrows : key row ∈ rows.map key
    · rw [if_pos hrows, if_pos (List.mem_cons_of_mem _ hrows)]
    · rw [if_neg hrows, List.filter_append]
      by_cases hfirst : key row = key first
      · simp [hfirst]
      · simp [hfirst, hrows]

/-- The keys of the first rows are all keys, each where it came first. -/
theorem map_firstRows :
    (firstRows key rows).map key = (rows.map key).reverse.dedup.reverse := by
  induction rows using List.reverseRecOn with
  | nil => rfl
  | append_singleton rows row ih =>
    rw [firstRows_append_singleton, List.map_append, List.map_singleton, List.reverse_append,
      List.reverse_singleton, List.singleton_append]
    by_cases hrow : key row ∈ rows.map key
    · rw [if_pos hrow, List.dedup_cons_of_mem (List.mem_reverse.mpr hrow), ih]
    · rw [if_neg hrow, List.dedup_cons_of_notMem (mt List.mem_reverse.mp hrow), List.map_append, ih,
        List.reverse_cons, List.map_singleton]

theorem mem_map_firstRows_iff {k : List Char} :
    k ∈ (firstRows key rows).map key ↔ k ∈ rows.map key := by
  rw [map_firstRows, List.mem_reverse, List.mem_dedup, List.mem_reverse]

theorem nodup_map_firstRows : ((firstRows key rows).map key).Nodup := by
  rw [map_firstRows, List.nodup_reverse]
  exact List.nodup_dedup _

/-- The sizes of the groups make up all rows. -/
theorem sum_firstRows :
    ((firstRows key rows).map fun first => rows.countP (key · = key first)).sum = rows.length := by
  have hperm : ((firstRows key rows).map key).Perm (rows.map key).dedup := by
    rw [List.perm_ext_iff_of_nodup (nodup_map_firstRows key rows) (List.nodup_dedup _)]
    intro k
    rw [mem_map_firstRows_iff, List.mem_dedup]
  have hsum := (hperm.map _).sum_eq.trans (List.sum_map_count_dedup_eq_length (rows.map key))
  rw [List.length_map, List.map_map] at hsum
  rw [← hsum]
  congr 1
  apply List.map_congr_left
  intro first _
  simp only [Function.comp_apply, List.count_eq_countP, List.countP_map]
  apply List.countP_congr
  intro row _
  simp

end Firsts

def groupSize (rows : List Json) (row : Json) : Nat :=
  rows.countP (groupKey groups · = groupKey groups row)

/-- The fields of a group of some size: the values that its first row has in the group columns,
and the size in the counter. -/
def groupFields (first : Json) (size : Nat) : Fields :=
  Fields.insert countColumn (.count (UInt64.ofNat size)) (groups.zip (keyValues groups first))

theorem get?_count_groupFields (first : Json) (size : Nat) :
    (groupFields groups first size).get? countColumn = some (.count (UInt64.ofNat size)) := by
  rw [groupFields, Fields.get?_insert, if_pos rfl]

theorem countOne_groupFields (first : Json) (size : Nat) :
    countOne (groupFields groups first size) = groupFields groups first (size + 1) := by
  have hword : UInt64.ofNat ((UInt64.ofNat size).toNat + 1) = UInt64.ofNat (size + 1) := by
    apply UInt64.toNat_inj.mp
    simp
  rw [countOne, get?_count_groupFields, groupFields, Fields.insert_insert, groupFields, ← hword]
  rfl

variable {groups}

theorem newGroup_eq (hgroups : groups.Nodup) (row : Json) :
    newGroup groups row = groupFields groups row 1 := by
  have hkeys : (Fields.keys (groups.zip (keyValues groups row))).Nodup := by
    rw [Fields.keys, List.map_fst_zip (by simp [keyValues])]
    exact hgroups
  rw [newGroup, Fields.insertAll_of_nodup (by simpa using hkeys)]
  rfl

/-- A row that is added finds the group of its key or starts it, and leaves the others alone. -/
theorem addToGroup_eq (hgroups : groups.Nodup) (key : Json → List Char) (row : Json)
    (size : Json → Nat) {firsts : List Json} (hfirsts : (firsts.map key).Nodup) :
    addToGroup groups row (key row)
        (firsts.map fun first => (key first, groupFields groups first (size first))) =
      if key row ∈ firsts.map key then firsts.map fun first => (key first,
        groupFields groups first (if key first = key row then size first + 1 else size first))
      else firsts.map (fun first => (key first, groupFields groups first (size first))) ++
        [(key row, groupFields groups row 1)] := by
  induction firsts with
  | nil => simp [addToGroup, newGroup_eq hgroups]
  | cons first firsts ih =>
    rw [List.map_cons, List.nodup_cons] at hfirsts
    rw [List.map_cons, addToGroup]
    by_cases hfirst : key first = key row
    · have hrest : ∀ other ∈ firsts, key other ≠ key row := by
        intro other hother heq
        exact hfirsts.1 (List.mem_map.mpr ⟨other, hother, heq.trans hfirst.symm⟩)
      rw [if_pos hfirst, if_pos (by simp [hfirst]), List.map_cons, if_pos hfirst,
        countOne_groupFields]
      congr 1
      apply List.map_congr_left
      intro other hother
      rw [if_neg (hrest other hother)]
    · rw [if_neg hfirst, ih hfirsts.2, List.map_cons, List.map_cons, if_neg hfirst]
      by_cases hmem : key row ∈ firsts.map key
      · rw [if_pos hmem, if_pos (List.mem_cons_of_mem _ hmem)]
      · have hnot : key row ∉ key first :: firsts.map key := by
          rw [List.mem_cons, not_or]
          exact ⟨Ne.symm hfirst, hmem⟩
        rw [if_neg hmem, if_neg hnot, List.cons_append]

/-- The groups of the rows so far. -/
theorem foldl_addToGroup (hgroups : groups.Nodup) (rows : List Json) :
    rows.foldl (fun gs row => addToGroup groups row (groupKey groups row) gs) [] =
      (firstRows (groupKey groups) rows).map fun first =>
        (groupKey groups first, groupFields groups first (groupSize groups rows first)) := by
  induction rows using List.reverseRecOn with
  | nil => rfl
  | append_singleton rows row ih =>
    have hsize (first : Json) : groupSize groups (rows ++ [row]) first =
        if groupKey groups first = groupKey groups row then groupSize groups rows first + 1
        else groupSize groups rows first := by
      by_cases h : groupKey groups first = groupKey groups row
      · simp [groupSize, h]
      · simp [groupSize, h, Ne.symm h]
    rw [List.foldl_append, ih, List.foldl_cons, List.foldl_nil,
      addToGroup_eq hgroups _ _ _ (nodup_map_firstRows _ rows), firstRows_append_singleton]
    simp only [mem_map_firstRows_iff, hsize]
    by_cases hmem : groupKey groups row ∈ rows.map (groupKey groups)
    · rw [if_pos hmem, if_pos hmem]
    · have hrows : ∀ other ∈ rows, groupKey groups other ≠ groupKey groups row := by
        intro other hother heq
        exact hmem (List.mem_map.mpr ⟨other, hother, heq⟩)
      have hnone : groupSize groups rows row = 0 := by
        rw [groupSize, List.countP_eq_zero]
        intro other hother
        simpa using hrows other hother
      rw [if_neg hmem, if_neg hmem, List.map_append]
      congr 1
      · apply List.map_congr_left
        intro first hfirst
        rw [if_neg (hrows first ((firstRows_sublist _ rows).subset hfirst))]
      · simp [hnone]

/-- Rows in groups are one row for each key, in the order in which the keys came first: the values
of its first row in the group columns, and in the counter, which may be a group column itself, the
number of the key's rows. These numbers make up all rows, and counts hold them exactly as long as
the rows are fewer than a count can count. -/
theorem groupRows_firsts (hgroups : groups.Nodup) (rows : List Json) :
    groupRows groups rows = (firstRows (groupKey groups) rows).map (fun first =>
      .object (groupFields groups first (groupSize groups rows first))) ∧
    (firstRows (groupKey groups) rows).Sublist rows ∧
    (firstRows (groupKey groups) rows).map (groupKey groups) =
      (rows.map (groupKey groups)).reverse.dedup.reverse ∧
    (groupRows groups rows).map (Json.get? countColumn) =
      (firstRows (groupKey groups) rows).map (fun first =>
        some (.count (UInt64.ofNat (groupSize groups rows first)))) ∧
    ((firstRows (groupKey groups) rows).map (groupSize groups rows)).sum = rows.length ∧
    (rows.length < UInt64.size → ∀ first,
      (UInt64.ofNat (groupSize groups rows first)).toNat = groupSize groups rows first) := by
  have heq : groupRows groups rows = (firstRows (groupKey groups) rows).map (fun first =>
      .object (groupFields groups first (groupSize groups rows first))) := by
    rw [groupRows, foldl_addToGroup hgroups, List.map_map]
    rfl
  refine ⟨heq, firstRows_sublist _ rows, map_firstRows _ rows, ?_, sum_firstRows _ rows, ?_⟩
  · rw [heq, List.map_map]
    apply List.map_congr_left
    intro first _
    exact get?_count_groupFields groups first _
  · intro hrows first
    have hle : groupSize groups rows first ≤ rows.length := List.countP_le_length
    exact UInt64.toNat_ofNat_of_lt' (Nat.lt_of_le_of_lt hle hrows)

def countedShops : List Json :=
  [.object [("town", .string "Oslo"), ("count", .count 7)],
   .object [("town", .string "Rome")],
   .object [("count", .count 7), ("size", .count 1), ("town", .string "Oslo")],
   .object [("town", .string "Rome"), ("count", .null)],
   .object [("town", .string "Oslo"), ("count", .count 7)]]

theorem groupRows_countedShops : ["town", "count"].Nodup ∧
    groupRows ["town", "count"] countedShops =
      [.object [("town", .string "Oslo"), ("count", .count 3)],
       .object [("town", .string "Rome"), ("count", .count 2)]] ∧
    countedShops.length < UInt64.size ∧
    ∀ first, (UInt64.ofNat (groupSize ["town", "count"] countedShops first)).toNat =
      groupSize ["town", "count"] countedShops first := by
  have hgroups : ["town", "count"].Nodup := by decide
  have hrows : countedShops.length < UInt64.size := by decide
  obtain ⟨heq, _, _, _, _, hexact⟩ := groupRows_firsts hgroups countedShops
  exact ⟨hgroups, heq.trans rfl, hrows, hexact hrows⟩

end Query
end RowSearch
