import Mathlib.Data.List.Nodup
import RowSearch.Proofs.Json.Fields

/-! # Fields over others

Fields inserted into others win over them. A key that both have keeps its place and the other keys
follow in their order. By key, what is left of the whole when some keys are dropped is what is left
of both.
-/
namespace RowSearch.Fields
variable {fields base top : Fields}

theorem filter_insert (p : String → Bool) (key : String) (v : Json) (fields : Fields) :
    (insert key v fields).filter (fun f => p f.1) =
      if p key then insert key v (fields.filter fun f => p f.1)
      else fields.filter fun f => p f.1 := by
  induction fields with
  | nil => cases hp : p key <;> simp [insert, hp]
  | cons f rest ih =>
    obtain ⟨k, w⟩ := f
    rw [insert]
    by_cases hk : k = key
    · subst hk
      cases hp : p k <;> simp [insert, hp]
    · rw [if_neg hk]
      cases hp : p k with
      | false => simp [hp, ih]
      | true =>
        simp only [List.filter_cons, hp, if_true, ih, insert, if_neg hk]
        split <;> rfl

theorem filter_insertAll (p : String → Bool) (more fields : Fields) :
    (insertAll more fields).filter (fun f => p f.1) =
      insertAll (more.filter fun f => p f.1) (fields.filter fun f => p f.1) := by
  induction more generalizing fields with
  | nil => rfl
  | cons f more ih =>
    have hstep (more fields : Fields) :
        insertAll (f :: more) fields = insertAll more (insert f.1 f.2 fields) := rfl
    rw [hstep, ih, filter_insert, List.filter_cons]
    split
    · rw [hstep]
    · rfl

theorem nodup_keys_filter (h : fields.keys.Nodup) (p : String × Json → Bool) :
    (keys (fields.filter p)).Nodup :=
  h.sublist (List.filter_sublist.map _)

theorem nodup_keys_insert {key : String} {v : Json} (h : fields.keys.Nodup) :
    (insert key v fields).keys.Nodup := by
  by_cases hkey : key ∈ fields.keys
  · rwa [keys_insert hkey]
  · rw [insert_of_get?_eq_none (get?_eq_none_iff.mpr hkey), keys, List.map_append]
    exact List.Nodup.append h (List.nodup_singleton key) (List.disjoint_singleton.mpr hkey)

theorem nodup_keys_insertAll {more : Fields} (h : fields.keys.Nodup) :
    (insertAll more fields).keys.Nodup := by
  induction more generalizing fields with
  | nil => exact h
  | cons f more ih => exact ih (nodup_keys_insert h)

theorem get?_reverse (h : fields.keys.Nodup) (key : String) :
    get? key fields.reverse = get? key fields := by
  have hreverse : (keys fields.reverse).Nodup := by
    rw [keys, List.map_reverse]
    exact List.nodup_reverse.mpr h
  cases hget : get? key fields with
  | none =>
    rw [get?_eq_none_iff] at hget ⊢
    simpa [keys] using hget
  | some v =>
    have hmem : (key, v) ∈ fields.reverse := List.mem_reverse.mpr (mem_of_get?_eq_some hget)
    exact get?_eq_some_of_mem hreverse hmem

/-- Fields over others. A key that both have keeps its place, and the other keys follow. -/
structure Overlaid (base top merged : Fields) : Prop where
  found : ∀ key, merged.get? key = (top.get? key).or (base.get? key)
  order : merged.keys = base.keys ++ top.keys.filter (· ∉ base.keys)

theorem keys_insertAll (h : top.keys.Nodup) (base : Fields) :
    (insertAll top base).keys = base.keys ++ top.keys.filter (· ∉ base.keys) := by
  induction top generalizing base with
  | nil => exact (List.append_nil _).symm
  | cons f top ih =>
    obtain ⟨hf, htop⟩ := List.nodup_cons.mp h
    have hstep : insertAll (f :: top) base = insertAll top (insert f.1 f.2 base) := rfl
    rw [hstep, ih htop]
    have hfilter : keys (f :: top) = f.1 :: keys top := rfl
    by_cases hkey : f.1 ∈ base.keys
    · rw [keys_insert hkey, hfilter, List.filter_cons_of_neg (by simpa using hkey)]
    · have hkeys : (insert f.1 f.2 base).keys = base.keys ++ [f.1] := by
        rw [insert_of_get?_eq_none (get?_eq_none_iff.mpr hkey), keys, List.map_append]
        rfl
      rw [hkeys, hfilter, List.filter_cons_of_pos (by simpa using hkey), List.append_assoc]
      congr 1
      refine congrArg (f.1 :: ·) (List.filter_congr fun key hmem => ?_)
      have hne : key ≠ f.1 := fun heq => hf (heq ▸ hmem)
      simp [hne]

theorem insertAll_overlaid (h : top.keys.Nodup) (base : Fields) :
    Overlaid base top (insertAll top base) where
  found key := by rw [get?_insertAll, get?_reverse h]
  order := keys_insertAll h base

end RowSearch.Fields
