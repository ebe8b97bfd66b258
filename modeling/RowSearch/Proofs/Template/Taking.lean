import RowSearch.Proofs.Json.InPlace
import RowSearch.Template.Input

/-! # Values taken out of the input

Taking the value at a path out of an input, and taking out the values at several paths one after
the other. Where all steps of the paths are keys nothing is left of the values taken, every path
apart from theirs leads where it led, and the other keys keep their order.
-/
namespace RowSearch

/-- The path goes by keys alone: none of its steps is a place of a list. -/
def ByKeys (path : String) : Prop := ∀ s ∈ Json.steps path, Json.place? s = none

instance (path : String) : Decidable (ByKeys path) :=
  inferInstanceAs (Decidable (∀ s ∈ Json.steps path, Json.place? s = none))

/-- Neither of two paths starts with the other. -/
def Apart (a b : String) : Prop :=
  ¬ Json.steps a <+: Json.steps b ∧ ¬ Json.steps b <+: Json.steps a

instance (a b : String) : Decidable (Apart a b) := inferInstanceAs (Decidable (_ ∧ _))

def Json.without (keys : List String) : Json → Json
  | .object fields => .object (fields.filter (·.1 ∉ keys))
  | v => v

@[simp] theorem Json.without_nil : Json.without [] = id := by
  funext v
  cases v with
  | object fields => simp [without]
  | _ => rfl

theorem Json.without_without (keys more : List String) (v : Json) :
    (v.without keys).without more = v.without (keys ++ more) := by
  cases v with
  | object fields => simp [without, List.filter_filter, Bool.and_comm]
  | _ => rfl

def Json.keysUnder (outer path : String) : List String :=
  match steps path with
  | [s, key] => if s = outer then [key] else []
  | _ => []

theorem Json.keysUnder_key {path key : String} (h : steps path = [key]) (outer : String) :
    keysUnder outer path = [] := by
  simp [keysUnder, h]

theorem Json.keysUnder_inner {path s key : String} (h : steps path = [s, key]) (outer : String) :
    keysUnder outer path = if s = outer then [key] else [] := by
  simp [keysUnder, h]

/-- Without a key of its own a document is what is left when the key is removed, if it is there. -/
theorem Json.removeAt?_nil_cases (key : String) (v : Json) :
    v.removeAt? key [] = none ∧ v.without [key] = v ∨
      ∃ x, v.removeAt? key [] = some (x, v.without [key]) := by
  cases v with
  | object fields =>
    have hwithout : without [key] (.object fields) = .object (Fields.erase key fields) := by
      simp [without, Fields.erase]
    rw [hwithout]
    cases hget : Fields.get? key fields with
    | none =>
      left
      rw [Fields.erase_of_get?_eq_none hget, removeAt?, hget]
      exact ⟨rfl, rfl⟩
    | some x =>
      right
      exact ⟨x, by rw [removeAt?, hget]; rfl⟩
  | _ => exact .inl ⟨rfl, rfl⟩

theorem Apart.of_not_through {path location : String} (hlen : (Json.steps location).length ≤ 2)
    (hthrough : ¬ Json.steps location <+: Json.steps path)
    (habove : Json.steps path ≠ (Json.steps location).dropLast) : Apart location path := by
  refine ⟨hthrough, fun ⟨tail, htail⟩ => ?_⟩
  match tail with
  | [] => exact hthrough ⟨[], by simpa using htail.symm⟩
  | [key] => exact habove (by rw [← htail, List.dropLast_concat])
  | _ :: _ :: _ =>
    -- the path has a step of its own, so its location would have three
    have hpos := List.length_pos_of_ne_nil (Json.steps_ne_nil path)
    rw [← htail, List.length_append, List.length_cons, List.length_cons] at hlen
    omega

namespace Input
variable {input : Input} {path location key : String} {parents : List String}

theorem at?_eq_walk? (input : Input) (path : String) :
    input.at? path = input.toJson.walk? (Json.steps path) :=
  Json.at?_object input.fields path

theorem at?_of_steps (h : Json.steps path = [key]) :
    input.at? path = input.fields.get? key := by
  rw [at?_eq_walk?, h, toJson, Json.walk?, Json.step?]
  cases input.fields.get? key <;> rfl

/-- Nothing is taken and nothing changes, or a value is removed and an input is left. -/
theorem take_cases (hsteps : Json.steps path = parents ++ [key]) (input : Input) :
    input.toJson.removeAt? key parents = none ∧ input.take path = (none, input) ∨
      ∃ v rest, input.toJson.removeAt? key parents = some (v, toJson rest) ∧
        input.take path = (some v, rest) := by
  rw [take, Json.remove?_eq hsteps]
  cases h : input.toJson.removeAt? key parents with
  | none => exact .inl ⟨rfl, rfl⟩
  | some r =>
    obtain ⟨v, w⟩ := r
    have hobject : w.object?.isSome = true := Json.isSome_object?_removeAt? h
    cases w with
    | object fields => exact .inr ⟨v, ⟨fields⟩, rfl, rfl⟩
    | _ => cases hobject

/-- Taking a value out of an input is taking it out of its document in place. -/
theorem toJson_take (input : Input) (path : String) :
    input.toJson.take path = ((input.take path).1, (input.take path).2.toJson) := by
  obtain ⟨parents, key, hsteps⟩ := Json.exists_steps path
  have hremove := Json.remove?_eq_take input.toJson path
  rw [Json.remove?_eq hsteps] at hremove
  rcases take_cases hsteps input with ⟨hnone, htake⟩ | ⟨v, rest, hsome, htake⟩
  · rw [hnone] at hremove
    have hfst : (input.toJson.take path).1 = none := Option.map_eq_none_iff.mp hremove.symm
    rw [htake]
    exact Prod.ext hfst (Json.take_snd_of_none hfst)
  · rw [hsome] at hremove
    obtain ⟨y, hy, heq⟩ := Option.map_eq_some_iff.mp hremove.symm
    obtain ⟨rfl, hrest⟩ := Prod.mk.inj heq
    rw [htake]
    exact Prod.ext hy hrest

theorem take_fst (h : ByKeys path) : (input.take path).1 = input.at? path := by
  obtain ⟨parents, key, hsteps⟩ := Json.exists_steps path
  rw [at?_eq_walk?, hsteps]
  rcases take_cases hsteps input with ⟨hnone, htake⟩ | ⟨v, rest, hsome, htake⟩
  · rw [htake]
    cases hwalk : input.toJson.walk? (parents ++ [key]) with
    | none => rfl
    | some x =>
      obtain ⟨w, hw⟩ := Json.exists_removeAt? (h key (by simp [hsteps])) hwalk
      rw [hnone] at hw
      cases hw
  · rw [htake]
    exact (Json.walk?_of_removeAt? hsome).symm

theorem take_of_at?_eq_none (h : ByKeys path) (hnone : input.at? path = none) :
    input.take path = (none, input) := by
  obtain ⟨parents, key, hsteps⟩ := Json.exists_steps path
  rcases take_cases hsteps input with ⟨_, htake⟩ | ⟨v, rest, _, htake⟩
  · exact htake
  · rw [← take_fst h, htake] at hnone
    cases hnone

theorem at?_take_self (h : ByKeys path) : (input.take path).2.at? path = none := by
  obtain ⟨parents, key, hsteps⟩ := Json.exists_steps path
  rcases take_cases hsteps input with ⟨_, htake⟩ | ⟨v, rest, hsome, htake⟩
  · have hfst : (input.take path).1 = input.at? path := take_fst h
    rw [htake] at hfst ⊢
    exact hfst.symm
  · rw [htake, at?_eq_walk?, hsteps]
    apply Json.walk?_removed hsome
    apply Json.leadsThrough_self
    rw [Json.walk?_of_removeAt? hsome]
    rfl

theorem at?_take_of_apart (h : ByKeys location) (hapart : Apart location path) :
    (input.take location).2.at? path = input.at? path := by
  obtain ⟨parents, key, hsteps⟩ := Json.exists_steps location
  rcases take_cases hsteps input with ⟨_, htake⟩ | ⟨v, rest, hsome, htake⟩
  · rw [htake]
  · rw [htake, at?_eq_walk?, at?_eq_walk?]
    rw [ByKeys, hsteps] at h
    rw [Apart, hsteps] at hapart
    exact Json.walk?_kept hsome (fun hthrough => hapart.1 (hthrough.isPrefixOf (.inl h)))
      fun habove => hapart.2 (habove.isPrefixOf (.inr h))

theorem at?_take_eq_none (location : String) (h : input.at? path = none) :
    (input.take location).2.at? path = none := by
  obtain ⟨parents, key, hsteps⟩ := Json.exists_steps location
  rcases take_cases hsteps input with ⟨_, htake⟩ | ⟨v, rest, hsome, htake⟩
  · rw [htake]
    exact h
  · rw [htake, at?_eq_walk?]
    rw [at?_eq_walk?] at h
    exact Json.walk?_eq_none_of_removeAt? hsome h

theorem fields_take_key (hsteps : Json.steps location = [key]) :
    (input.take location).2.fields = input.fields.erase key := by
  rcases @take_cases location key [] hsteps input with ⟨hnone, htake⟩ | ⟨v, rest, hsome, htake⟩
  · rw [htake, Fields.erase_of_get?_eq_none (Option.map_eq_none_iff.mp hnone)]
  · obtain ⟨fields, hfields, _, hrest⟩ := Json.removeAt?_nil hsome
    rw [htake, Json.object.inj hrest, ← Json.object.inj hfields]

/-- A key is taken out of the value under the first step, or that value is not there. -/
theorem fields_take_inner {outer : String} (hsteps : Json.steps location = [outer, key])
    (input : Input) :
    input.fields.get? outer = none ∧ (input.take location).2.fields = input.fields ∨
      ∃ v, input.fields.get? outer = some v ∧
        (input.take location).2.fields = input.fields.insert outer (v.without [key]) := by
  rw [take, @Json.remove?_eq key [outer] location hsteps, Json.removeAt?]
  show Fields.get? outer input.fields = none ∧ _ ∨ _
  cases hget : input.toJson.step? outer with
  | none => exact .inl ⟨hget, rfl⟩
  | some v =>
    refine .inr ⟨v, hget, ?_⟩
    rw [Option.bind_some]
    rcases Json.removeAt?_nil_cases key v with ⟨hnone, hwithout⟩ | ⟨x, hsome⟩
    · rw [hnone, hwithout, Fields.insert_of_get?_eq_some hget]
      rfl
    · rw [hsome]
      rfl

/-- The other keys stay, in order: only a path of one step takes a key of the input itself. -/
theorem keys_take (hlen : (Json.steps location).length ≤ 2) : (input.take location).2.fields.keys =
    input.fields.keys.filter fun key => Json.steps location ≠ [key] := by
  match hsteps : Json.steps location, Json.steps_ne_nil location with
  | [key], _ =>
    rw [fields_take_key hsteps, Fields.keys_erase]
    simp [eq_comm]
  | [outer, key], _ =>
    rcases fields_take_inner hsteps input with ⟨_, hfields⟩ | ⟨v, hget, hfields⟩
    · simp [hfields]
    · rw [hfields, Fields.keys_insert (Fields.mem_keys_of_get?_eq_some hget)]
      simp
  | _ :: _ :: _ :: _, _ => simp [hsteps] at hlen

theorem get?_take (hlen : (Json.steps location).length ≤ 2) {outer : String}
    (houter : Json.steps location ≠ [outer]) : (input.take location).2.fields.get? outer =
      (input.fields.get? outer).map (Json.without (Json.keysUnder outer location)) := by
  match hsteps : Json.steps location, Json.steps_ne_nil location with
  | [key], _ =>
    have hne : outer ≠ key := fun heq => houter (heq ▸ hsteps)
    rw [fields_take_key hsteps, Fields.get?_erase, if_neg hne, Json.keysUnder_key hsteps]
    simp
  | [s, key], _ =>
    rw [Json.keysUnder_inner hsteps]
    rcases fields_take_inner hsteps input with ⟨hget, hfields⟩ | ⟨v, hget, hfields⟩
    · by_cases hs : s = outer
      · simp [hfields, ← hs, hget]
      · simp [hfields, hs]
    · rw [hfields, Fields.get?_insert]
      by_cases hs : s = outer
      · simp [← hs, hget]
      · simp [hs, Ne.symm hs]
  | _ :: _ :: _ :: _, _ => simp [hsteps] at hlen

/-- The input without the values at the paths, taken out one after the other. -/
def leave (locations : List String) (input : Input) : Input :=
  locations.foldl (fun rest location => (rest.take location).2) input

section Leave
variable {locations : List String}

theorem leave_cons (input : Input) (location : String) (locations : List String) :
    input.leave (location :: locations) = (input.take location).2.leave locations := rfl

theorem leave_append (input : Input) (locations more : List String) :
    input.leave (locations ++ more) = (input.leave locations).leave more :=
  List.foldl_append

theorem at?_leave_of_apart (hkeys : ∀ location ∈ locations, ByKeys location)
    (h : ∀ location ∈ locations, Apart location path) :
    (input.leave locations).at? path = input.at? path := by
  induction locations generalizing input with
  | nil => rfl
  | cons location locations ih =>
    rw [List.forall_mem_cons] at hkeys h
    rw [leave_cons, ih hkeys.2 h.2, at?_take_of_apart hkeys.1 h.1]

theorem at?_leave_eq_none (h : input.at? path = none) :
    (input.leave locations).at? path = none := by
  induction locations generalizing input with
  | nil => exact h
  | cons location locations ih => exact ih (at?_take_eq_none location h)

theorem at?_leave_of_mem (hkeys : ∀ location ∈ locations, ByKeys location)
    (hmem : path ∈ locations) : (input.leave locations).at? path = none := by
  induction locations generalizing input with
  | nil => exact absurd hmem List.not_mem_nil
  | cons location locations ih =>
    rw [List.forall_mem_cons] at hkeys
    rcases List.mem_cons.mp hmem with rfl | hmem
    · rw [leave_cons]
      exact at?_leave_eq_none (at?_take_self hkeys.1)
    · exact ih hkeys.2 hmem

theorem keys_leave (hlen : ∀ location ∈ locations, (Json.steps location).length ≤ 2) :
    (input.leave locations).fields.keys =
      input.fields.keys.filter fun key => ∀ location ∈ locations, Json.steps location ≠ [key] := by
  induction locations generalizing input with
  | nil => simp [leave]
  | cons location locations ih =>
    rw [List.forall_mem_cons] at hlen
    rw [leave_cons, ih hlen.2, keys_take hlen.1, List.filter_filter]
    simp [Bool.and_comm]

theorem get?_leave (hlen : ∀ location ∈ locations, (Json.steps location).length ≤ 2)
    {outer : String} (houter : ∀ location ∈ locations, Json.steps location ≠ [outer]) :
    (input.leave locations).fields.get? outer = (input.fields.get? outer).map
      (Json.without (locations.flatMap (Json.keysUnder outer))) := by
  induction locations generalizing input with
  | nil => simp [leave]
  | cons location locations ih =>
    rw [List.forall_mem_cons] at hlen houter
    rw [leave_cons, ih hlen.2 houter.2, get?_take hlen.1 houter.1]
    simp [Json.without_without, Function.comp_def]

end Leave
end Input
end RowSearch
