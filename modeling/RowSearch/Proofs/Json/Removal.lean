import RowSearch.Json.Path
import RowSearch.Proofs.Json.Fields
import RowSearch.Proofs.Text.Splitting

/-! # What a removal leaves

A removal takes the value at the end of a path out of a document. Paths that lead to it or through
it lead nowhere afterwards, and every other path leads to the value it led to before, unless it
ends above the removed one. In a list two steps are the same when they name one place.
-/
namespace RowSearch.Json
variable {v w x : Json} {key : String} {parents location path : List String}

theorem steps_ne_nil (path : String) : steps path ≠ [] := by
  rw [steps, Text.pieces, ne_eq, List.map_eq_nil_iff]
  exact Text.splitChars_ne_nil _ _

theorem exists_steps (path : String) : ∃ parents key, steps path = parents ++ [key] :=
  ⟨_, _, (List.dropLast_concat_getLast (steps_ne_nil path)).symm⟩

/-- The last step of a path is the key that a removal takes. -/
theorem remove?_eq {path : String} (h : steps path = parents ++ [key]) (doc : Json) :
    doc.remove? path = doc.removeAt? key parents := by
  rw [remove?, h]
  simp

/-- A path of one step is that step. -/
theorem eq_of_steps {path step : String} (h : steps path = [step]) : path = step := by
  rw [steps, Text.pieces, List.map_eq_singleton_iff] at h
  obtain ⟨piece, hpiece, rfl⟩ := h
  have hjoin := Text.intercalate_splitChars '.' path.toList
  rw [hpiece, List.intercalate_singleton] at hjoin
  rw [hjoin, String.ofList_toList]

theorem at?_of_plain {doc : Json} {path : String} (h : '.' ∉ path.toList) :
    doc.at? path = doc.get? path := by
  rw [at?, if_neg]
  rw [List.contains_iff_mem]
  exact h

theorem steps_of_plain {path : String} (h : '.' ∉ path.toList) : steps path = [path] := by
  have hchars : ∀ c ∈ path.toList, (c == '.') = false := by
    intro c hc
    rw [beq_eq_false_iff_ne]
    rintro rfl
    exact h hc
  have hsplit := @Text.splitChars_append (· == '.') path.toList [] hchars (by simp)
  rw [List.append_nil] at hsplit
  rw [steps, Text.pieces, hsplit, Text.splitChars, List.tail_cons, List.map_singleton,
    String.ofList_toList]

/-- The steps of a path have no points. -/
theorem not_mem_of_mem_steps {path s : String} (h : s ∈ steps path) : '.' ∉ s.toList := by
  obtain ⟨piece, hpiece, rfl⟩ := List.mem_map.mp h
  rw [String.toList_ofList]
  intro hpoint
  exact absurd (Text.not_mem_of_mem_splitChars hpiece _ hpoint) (by decide)

/-- In an object a path without a point is a path of one step. -/
theorem at?_object (fields : Fields) (path : String) :
    (object fields).at? path = (object fields).walk? (steps path) := by
  by_cases hpoint : '.' ∈ path.toList
  · rw [at?, if_pos (List.contains_iff_mem.mpr hpoint)]
  · rw [at?_of_plain hpoint, steps_of_plain hpoint, walk?, get?, step?]
    cases Fields.get? path fields <;> rfl

theorem at?_object_cons {fields : Fields} {path s : String} {rest : List String}
    (h : steps path = s :: rest) :
    (object fields).at? path = (fields.get? s).bind (walk? · rest) := by
  rw [at?_object, h, walk?]
  rfl

def SameStep (v : Json) (s t : String) : Prop :=
  match v with
  | .array _ => place? s = place? t
  | _ => s = t

def LeadsThrough (v : Json) : List String → List String → Prop
  | [], _ => True
  | _ :: _, [] => False
  | s :: location, t :: path =>
    v.SameStep s t ∧ ∃ next, v.step? s = some next ∧ next.LeadsThrough location path

instance (v : Json) (s t : String) : Decidable (v.SameStep s t) :=
  match v with
  | .array _ => inferInstanceAs (Decidable (place? s = place? t))
  | .null | .bool _ | .number _ | .string _ | .object _ => inferInstanceAs (Decidable (s = t))

theorem leadsThrough_cons_iff {s t : String} {next : Json} (h : v.step? s = some next) :
    v.LeadsThrough (s :: location) (t :: path) ↔
      v.SameStep s t ∧ next.LeadsThrough location path := by
  constructor
  · rintro ⟨hsame, other, hother, hpath⟩
    obtain rfl : next = other := Option.some.inj (h.symm.trans hother)
    exact ⟨hsame, hpath⟩
  · rintro ⟨hsame, hpath⟩
    exact ⟨hsame, next, h, hpath⟩

instance decidableLeadsThrough : (v : Json) → (location path : List String) →
    Decidable (v.LeadsThrough location path)
  | _, [], _ => .isTrue trivial
  | _, _ :: _, [] => .isFalse id
  | v, s :: location, t :: path =>
    match hs : v.step? s with
    | none => .isFalse fun ⟨_, _, hnext, _⟩ => nomatch hs.symm.trans hnext
    | some next =>
      have := decidableLeadsThrough next location path
      decidable_of_iff (v.SameStep s t ∧ next.LeadsThrough location path)
        (leadsThrough_cons_iff hs).symm

theorem SameStep.step?_eq {s t : String} (h : v.SameStep s t) : v.step? s = v.step? t := by
  cases v with
  | array items =>
    rw [step?, step?, show place? s = place? t from h]
  | _ => rw [show s = t from h]

/-- A step that is no place is the same only as itself, where it leads anywhere. -/
theorem SameStep.eq {s t : String} (h : v.SameStep s t) (hs : (v.step? s).isSome = true)
    (hplace : place? s = none ∨ place? t = none) : s = t := by
  cases v with
  | array items =>
    have hsame : place? s = place? t := h
    have hnone : place? s = none := by
      rcases hplace with h | h
      · exact h
      · rw [hsame, h]
    rw [step?, hnone] at hs
    cases hs
  | _ => exact h

theorem LeadsThrough.isSome (h : v.LeadsThrough location path) :
    (v.walk? location).isSome = true := by
  induction location generalizing v path with
  | nil => rfl
  | cons s location ih =>
    cases path with
    | nil => exact h.elim
    | cons t path =>
      obtain ⟨_, next, hnext, h⟩ := h
      rw [walk?, hnext]
      exact ih h

theorem leadsThrough_self (h : (v.walk? location).isSome = true) :
    v.LeadsThrough location location := by
  induction location generalizing v with
  | nil => trivial
  | cons s location ih =>
    rw [walk?] at h
    cases hs : v.step? s with
    | none => rw [hs] at h; cases h
    | some next =>
      rw [hs] at h
      refine ⟨?_, next, hs, ih h⟩
      cases v <;> rfl

/-- Through keys, and not places of lists, a path leads where it starts with the same steps. -/
theorem LeadsThrough.isPrefixOf (h : v.LeadsThrough location path)
    (hplace : (∀ s ∈ location, place? s = none) ∨ ∀ s ∈ path, place? s = none) :
    location <+: path := by
  induction location generalizing v path with
  | nil => exact List.nil_prefix
  | cons s location ih =>
    cases path with
    | nil => exact h.elim
    | cons t path =>
      obtain ⟨hsame, next, hnext, h⟩ := h
      rw [List.forall_mem_cons, List.forall_mem_cons] at hplace
      obtain rfl := hsame.eq (by rw [hnext]; rfl) (hplace.imp And.left And.left)
      exact List.cons_prefix_cons.mpr ⟨rfl, ih h (hplace.imp And.right And.right)⟩

/-- Where a step leads after the value at a step has been replaced. -/
theorem step?_replace {s t : String} {old new : Json} (h : v.step? s = some old) :
    (v.SameStep s t → (v.replace s new).step? t = some new) ∧
    (¬ v.SameStep s t → (v.replace s new).step? t = v.step? t) := by
  cases v with
  | object fields =>
    constructor
    · intro (hsame : s = t)
      rw [replace, step?, Fields.get?_insert, if_pos hsame.symm]
    · intro (hsame : ¬ s = t)
      rw [replace, step?, Fields.get?_insert, if_neg (Ne.symm hsame)]
      rfl
  | array items =>
    obtain ⟨n, hn, hold⟩ := Option.bind_eq_some_iff.mp h
    obtain ⟨hlt, _⟩ := List.getElem?_eq_some_iff.mp hold
    simp only [replace, hn, step?]
    constructor
    · intro (hsame : place? s = place? t)
      rw [← hsame, hn, Option.bind_some, List.getElem?_set_self hlt]
    · intro (hsame : ¬ place? s = place? t)
      cases ht : place? t with
      | none => rfl
      | some m =>
        rw [hn, ht, Option.some_inj] at hsame
        rw [Option.bind_some, Option.bind_some, List.getElem?_set_ne hsame]
  | _ => cases h

/-- One step of a removal: it goes on in the value that the first step leads to. -/
theorem removeAt?_cons {s : String} (h : removeAt? v key (s :: parents) = some (x, w)) :
    ∃ inner left, v.step? s = some inner ∧ removeAt? inner key parents = some (x, left) ∧
      w = v.replace s left := by
  obtain ⟨inner, hinner, h⟩ := Option.bind_eq_some_iff.mp h
  obtain ⟨⟨y, left⟩, hleft, heq⟩ := Option.map_eq_some_iff.mp h
  cases heq
  exact ⟨inner, left, hinner, hleft, rfl⟩

theorem removeAt?_nil (h : removeAt? v key [] = some (x, w)) :
    ∃ fields : Fields, v = .object fields ∧ fields.get? key = some x ∧
      w = .object (fields.erase key) := by
  cases v with
  | object fields =>
    obtain ⟨y, hy, heq⟩ := Option.map_eq_some_iff.mp h
    cases heq
    exact ⟨fields, rfl, hy, rfl⟩
  | _ => cases h

/-- A removal takes the value at the end of its path. -/
theorem walk?_of_removeAt? (h : removeAt? v key parents = some (x, w)) :
    v.walk? (parents ++ [key]) = some x := by
  induction parents generalizing v w with
  | nil =>
    obtain ⟨fields, rfl, hx, rfl⟩ := removeAt?_nil h
    rw [List.nil_append, walk?, step?, hx]
    rfl
  | cons s parents ih =>
    obtain ⟨inner, left, hinner, hleft, rfl⟩ := removeAt?_cons h
    rw [List.cons_append, walk?, hinner]
    exact ih hleft

/-- Paths through the removed value lead nowhere afterwards. -/
theorem walk?_removed (h : removeAt? v key parents = some (x, w))
    (hpath : v.LeadsThrough (parents ++ [key]) path) : w.walk? path = none := by
  induction parents generalizing v w path with
  | nil =>
    obtain ⟨fields, rfl, _, rfl⟩ := removeAt?_nil h
    cases path with
    | nil => exact hpath.elim
    | cons t path =>
      obtain ⟨(rfl : key = t), _⟩ := hpath
      rw [walk?, step?, Fields.get?_erase, if_pos rfl]
      rfl
  | cons s parents ih =>
    obtain ⟨inner, left, hinner, hleft, rfl⟩ := removeAt?_cons h
    cases path with
    | nil => exact hpath.elim
    | cons t path =>
      obtain ⟨hsame, next, hnext, hpath⟩ := hpath
      obtain rfl : inner = next := Option.some.inj (hinner.symm.trans hnext)
      rw [walk?, (step?_replace hinner).1 hsame]
      exact ih hleft hpath

/-- Paths that neither lead through the removed value nor end above it lead where they led. -/
theorem walk?_kept (h : removeAt? v key parents = some (x, w))
    (hthrough : ¬ v.LeadsThrough (parents ++ [key]) path)
    (habove : ¬ v.LeadsThrough path (parents ++ [key])) : w.walk? path = v.walk? path := by
  induction parents generalizing v w path with
  | nil =>
    obtain ⟨fields, rfl, hx, rfl⟩ := removeAt?_nil h
    cases path with
    | nil => exact absurd trivial habove
    | cons t path =>
      have hne : t ≠ key := by
        rintro rfl
        exact hthrough ⟨rfl, x, hx, trivial⟩
      rw [walk?, walk?, step?, step?, Fields.get?_erase, if_neg hne]
  | cons s parents ih =>
    obtain ⟨inner, left, hinner, hleft, rfl⟩ := removeAt?_cons h
    cases path with
    | nil => exact absurd trivial habove
    | cons t path =>
      rw [walk?, walk?]
      by_cases hsame : v.SameStep s t
      · have hinner' : v.step? t = some inner := hsame.step?_eq ▸ hinner
        rw [(step?_replace hinner).1 hsame, hinner']
        refine ih hleft (fun hpath => hthrough ⟨hsame, inner, hinner, hpath⟩) fun hpath => ?_
        refine habove ⟨?_, inner, hinner', hpath⟩
        cases v <;> exact hsame.symm
      · rw [(step?_replace hinner).2 hsame]

/-- A removal makes no path lead anywhere that did not. -/
theorem walk?_eq_none_of_removeAt? (h : removeAt? v key parents = some (x, w))
    (hpath : v.walk? path = none) : w.walk? path = none := by
  by_cases hthrough : v.LeadsThrough (parents ++ [key]) path
  · exact walk?_removed h hthrough
  · rw [walk?_kept h hthrough, hpath]
    intro habove
    exact absurd hpath (Option.isSome_iff_ne_none.mp habove.isSome)

/-- A value under a key can be removed: a step that is no place leads on from objects only. -/
theorem exists_removeAt? (hkey : place? key = none) (h : v.walk? (parents ++ [key]) = some x) :
    ∃ w, removeAt? v key parents = some (x, w) := by
  induction parents generalizing v with
  | nil =>
    obtain ⟨y, hy, heq⟩ := Option.bind_eq_some_iff.mp h
    cases heq
    cases v with
    | object fields =>
      have hget : Fields.get? key fields = some x := hy
      exact ⟨_, by rw [removeAt?, hget]; rfl⟩
    | array items =>
      rw [step?, hkey] at hy
      cases hy
    | _ => cases hy
  | cons s parents ih =>
    obtain ⟨inner, hinner, h⟩ := Option.bind_eq_some_iff.mp h
    obtain ⟨w, hw⟩ := ih h
    exact ⟨_, by rw [removeAt?, hinner, Option.bind_some, hw]; rfl⟩

end RowSearch.Json
