import Mathlib.Data.List.Basic
import RowSearch.Json.Basic

/-! # Fields by key

What is found under a key after fields have been inserted or erased, and in which order the keys
stand: an insertion keeps the place of a key that is there, and an erasure takes nothing but its
key out of the order.
-/
namespace RowSearch.Fields
variable {key other : String} {v : Json} {fields : Fields}

def keys (fields : Fields) : List String := fields.map Prod.fst

theorem get?_eq_none_iff : fields.get? key = none ↔ key ∉ fields.keys := by
  induction fields with
  | nil => simp [get?, keys]
  | cons f rest ih =>
    obtain ⟨k, w⟩ := f
    rw [get?]
    by_cases hk : k = key
    · simp [hk, keys]
    · simpa [hk, keys, Ne.symm hk] using ih

theorem mem_keys_of_get?_eq_some (h : fields.get? key = some v) : key ∈ fields.keys := by
  by_contra hkey
  rw [get?_eq_none_iff.mpr hkey] at h
  cases h

theorem get?_eq_some_of_mem (hkeys : fields.keys.Nodup) (h : (key, v) ∈ fields) :
    fields.get? key = some v := by
  induction fields with
  | nil => cases h
  | cons f rest ih =>
    obtain ⟨k, w⟩ := f
    rw [keys, List.map_cons, List.nodup_cons] at hkeys
    rcases List.mem_cons.mp h with h | h
    · cases h
      exact if_pos rfl
    · have hne : k ≠ key := by
        rintro rfl
        exact hkeys.1 (List.mem_map.mpr ⟨_, h, rfl⟩)
      rw [get?, if_neg hne]
      exact ih hkeys.2 h

theorem mem_of_get?_eq_some (h : fields.get? key = some v) : (key, v) ∈ fields := by
  induction fields with
  | nil => cases h
  | cons f rest ih =>
    obtain ⟨k, w⟩ := f
    rw [get?] at h
    split at h
    · next hk =>
      cases h
      rw [hk]
      exact List.mem_cons_self
    · exact List.mem_cons_of_mem _ (ih h)

theorem get?_insert (key other : String) (v : Json) (fields : Fields) :
    get? key (insert other v fields) = if key = other then some v else get? key fields := by
  induction fields with
  | nil => simp [insert, get?, eq_comm]
  | cons f rest ih =>
    obtain ⟨k, w⟩ := f
    rw [insert]
    by_cases hk : k = other
    · rw [if_pos hk, get?, get?]
      by_cases hkey : key = other <;> simp_all [eq_comm]
    · rw [if_neg hk, get?, get?, ih]
      by_cases hkey : k = key
      · simp [← hkey, hk]
      · simp [hkey]

theorem get?_erase (key other : String) (fields : Fields) :
    get? key (erase other fields) = if key = other then none else get? key fields := by
  induction fields with
  | nil => simp [erase, get?]
  | cons f rest ih =>
    obtain ⟨k, w⟩ := f
    rw [erase] at ih ⊢
    by_cases hk : k = other
    · rw [List.filter_cons_of_neg (by simp [hk]), ih, get?]
      by_cases hkey : key = other <;> simp_all [eq_comm]
    · rw [List.filter_cons_of_pos (by simp [hk]), get?, get?, ih]
      by_cases hkey : k = key
      · simp [← hkey, hk]
      · simp [hkey]

theorem get?_append (key : String) (fields more : Fields) :
    get? key (fields ++ more) = (get? key fields).or (get? key more) := by
  induction fields with
  | nil => rfl
  | cons f rest ih =>
    rw [List.cons_append, get?, get?, ih]
    split <;> rfl

/-- Of fields inserted one after the other the last under a key stays. -/
theorem get?_insertAll (key : String) (more fields : Fields) :
    get? key (insertAll more fields) = (get? key more.reverse).or (get? key fields) := by
  induction more generalizing fields with
  | nil => rfl
  | cons f more ih =>
    have hstep : insertAll (f :: more) fields = insertAll more (fields.insert f.1 f.2) := rfl
    rw [hstep, ih, get?_insert, List.reverse_cons, get?_append, Option.or_assoc, get?]
    by_cases hkey : key = f.1
    · simp [hkey]
    · simp [hkey, Ne.symm hkey, get?]

theorem insert_of_get?_eq_none (h : fields.get? key = none) :
    insert key v fields = fields ++ [(key, v)] := by
  induction fields with
  | nil => rfl
  | cons f rest ih =>
    obtain ⟨k, w⟩ := f
    rw [get?] at h
    rw [insert]
    by_cases hk : k = key
    · rw [if_pos hk] at h
      cases h
    · rw [if_neg hk] at h ⊢
      rw [ih h, List.cons_append]

theorem keys_insert (h : key ∈ fields.keys) : (insert key v fields).keys = fields.keys := by
  induction fields with
  | nil => exact absurd h List.not_mem_nil
  | cons f rest ih =>
    obtain ⟨k, w⟩ := f
    rw [insert]
    by_cases hk : k = key
    · rw [if_pos hk]
      rfl
    · rw [if_neg hk]
      have hrest : key ∈ keys rest := by
        rcases List.mem_cons.mp h with h | h
        · exact absurd h.symm hk
        · exact h
      exact congrArg (k :: ·) (ih hrest)

theorem insert_of_get?_eq_some (h : fields.get? key = some v) : insert key v fields = fields := by
  induction fields with
  | nil => cases h
  | cons f rest ih =>
    obtain ⟨k, w⟩ := f
    rw [get?] at h
    rw [insert]
    by_cases hk : k = key
    · rw [if_pos hk] at h ⊢
      cases h
      rw [hk]
    · rw [if_neg hk] at h ⊢
      rw [ih h]

theorem keys_insertAll_prefix (more fields : Fields) :
    fields.keys <+: (insertAll more fields).keys := by
  induction more generalizing fields with
  | nil => exact List.prefix_rfl
  | cons f more ih =>
    refine List.IsPrefix.trans ?_ (ih (fields.insert f.1 f.2))
    by_cases h : f.1 ∈ fields.keys
    · exact ⟨[], (List.append_nil _).trans (keys_insert h).symm⟩
    · rw [insert_of_get?_eq_none (get?_eq_none_iff.mpr h), keys, keys, List.map_append]
      exact List.prefix_append _ _

theorem keys_erase : (erase key fields).keys = fields.keys.filter (· ≠ key) := by
  rw [keys, keys, erase, List.filter_map]
  rfl

theorem erase_of_get?_eq_none (h : fields.get? key = none) : erase key fields = fields := by
  rw [erase, List.filter_eq_self]
  intro f hf
  have hkey : key ∉ fields.keys := get?_eq_none_iff.mp h
  exact decide_eq_true fun heq => hkey (heq ▸ List.mem_map_of_mem hf)

end RowSearch.Fields
