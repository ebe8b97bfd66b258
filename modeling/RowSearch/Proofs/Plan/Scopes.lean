import RowSearch.Plan.Basic
import RowSearch.Proofs.Answers

/-! # Scopes found

A scope is looked for on the searched model or on another that it names. The conditions of a
request keep its scopes in order, and nothing but a scope can fail to become a step, so the
first scope that is not found decides how the conditions fail.
-/
namespace RowSearch

def Entry.scope? (e : Entry) : Option ScopeRef :=
  match e.item with
  | .scope ref => some ref
  | _ => none

def Condition.scope? : Condition → Option ScopeRef
  | .scope ref => some ref
  | _ => none

def Request.scopes (r : Request) : List ScopeRef := r.wheres.filterMap Entry.scope?

theorem Entry.scope?_fieldCondition? (path : FieldPath) (operators : Fields) :
    (fieldCondition? path operators).bind Condition.scope? = none := by
  rw [fieldCondition?]
  split <;> rfl

theorem Entry.scope?_structuredCondition {v : Json} {condition? : Option Condition}
    (h : structuredCondition v = .ok condition?) : condition?.bind Condition.scope? = none := by
  cases v with
  | object fields =>
    rw [structuredCondition] at h
    split at h
    · split at h
      · obtain ⟨path, _, rfl⟩ := map_eq_ok_iff.mp h
        exact scope?_fieldCondition? path _
      · cases h
      · cases h
    · cases h
  | _ => cases h

/-- An entry becomes a scope when it holds one. -/
theorem Entry.scope?_of_condition {e : Entry} {condition? : Option Condition}
    (h : e.condition = .ok condition?) : condition?.bind Condition.scope? = e.scope? := by
  obtain ⟨_ | key, item⟩ := e
  · cases item with
    | value v => exact scope?_structuredCondition h
    | raw | callback | scope =>
      cases h
      rfl
  · cases item with
    | value v =>
      obtain ⟨k, _, rfl⟩ := map_eq_ok_iff.mp h
      exact scope?_fieldCondition? k.path _
    | raw | callback | scope => cases h

theorem Criteria.scopes_of_wheresOf {entries : List Entry} {conditions : List Condition}
    (h : wheresOf entries = .ok conditions) :
    conditions.filterMap Condition.scope? = entries.filterMap Entry.scope? := by
  obtain ⟨found, hfound, rfl⟩ := map_eq_ok_iff.mp h
  rw [List.filterMap_filterMap]
  have hkept := mapM_eq_ok_iff.mp hfound
  clear h hfound
  induction hkept with
  | nil => rfl
  | cons hfirst hrest ih =>
    rw [List.filterMap_cons, List.filterMap_cons, ih, id, Entry.scope?_of_condition hfirst]

namespace Plan
variable {m : Model} {registry : Registry} {ref : ScopeRef}

/-- The model that a scope is looked for on: the searched one where the scope names none or just
this, or the one of the name it gives. -/
inductive OwnedBy (m : Model) (registry : Registry) (ref : ScopeRef) : Model → Prop
  | own (howner : ref.owner? = none ∨ ref.owner? = some m.name) : OwnedBy m registry ref m
  | other {name : String} {owner : Model} (howner : ref.owner? = some name) (hne : name ≠ m.name)
      (hknown : registry.model? name = some owner) : OwnedBy m registry ref owner

/-- That a scope is not found, with the model it is missed on: no model is known by the name that
the scope gives, or the model does not declare it. -/
inductive Unresolved (m : Model) (registry : Registry) (ref : ScopeRef) : String → Prop
  | owner {name : String} (howner : ref.owner? = some name) (hne : name ≠ m.name)
      (hunknown : name ∉ registry.map Model.name) : Unresolved m registry ref name
  | scope {owner : Model} (howner : OwnedBy m registry ref owner)
      (hscope : Model.scopeKey ref.name ∉ owner.scopes.map Prod.fst) :
      Unresolved m registry ref owner.name

theorem model?_eq_none_iff {name : String} :
    registry.model? name = none ↔ name ∉ registry.map Model.name := by
  rw [Registry.model?, List.find?_eq_none]
  simp

theorem scope?_eq_none_iff {owner : Model} {name : String} :
    owner.scope? name = none ↔ Model.scopeKey name ∉ owner.scopes.map Prod.fst := by
  rw [Model.scope?, List.lookup_eq_none_iff, List.mem_map]
  simp only [bne_iff_ne, not_exists, not_and]
  exact forall₂_congr fun declared _ => ne_comm

theorem scopeOwner_eq_ok_iff {owner : Model} :
    scopeOwner ref m registry = .ok owner ↔ OwnedBy m registry ref owner := by
  constructor
  · intro h
    rw [scopeOwner] at h
    cases hname : ref.owner? with
    | none =>
      simp only [hname] at h
      cases h
      exact .own (.inl hname)
    | some name =>
      simp only [hname] at h
      split at h
      · rename_i heq
        cases h
        exact .own (.inr (by rw [hname, heq]))
      · rename_i hne
        cases hknown : registry.model? name with
        | none => simp [hknown] at h
        | some other =>
          simp only [hknown] at h
          cases h
          exact .other hname hne hknown
  · rintro (hown | ⟨hname, hne, hknown⟩)
    · rw [scopeOwner]
      rcases hown with hown | hown <;> simp [hown]
    · simp [scopeOwner, hname, hne, hknown]

theorem scopeStep_eq_ok_iff {s : Step} :
    scopeStep ref m registry = .ok s ↔ ∃ owner body, OwnedBy m registry ref owner ∧
      owner.scope? ref.name = some body ∧ s = .scope ref owner.name (body ref.args) := by
  rw [scopeStep, bind_eq_ok_iff]
  simp only [scopeOwner_eq_ok_iff]
  apply exists_congr
  intro owner
  cases hbody : owner.scope? ref.name with
  | none => simp [throw, throwThe, MonadExceptOf.throw]
  | some body => simp [pure, Except.pure, eq_comm]

theorem scopeOwner_eq_error_iff {e : SearchError} :
    scopeOwner ref m registry = .error e ↔ ∃ name, ref.owner? = some name ∧ name ≠ m.name ∧
      name ∉ registry.map Model.name ∧ e = .scopeNotFound ref.name name := by
  rw [scopeOwner]
  cases ref.owner? with
  | none => simp
  | some name =>
    by_cases heq : name = m.name
    · simp [heq]
    · simp only [← model?_eq_none_iff]
      cases hknown : registry.model? name <;> simp [heq, hknown, eq_comm]

/-- A scope that is not found is missed by name on a model, and no scope fails otherwise. -/
theorem scopeStep_eq_error_iff {e : SearchError} :
    scopeStep ref m registry = .error e ↔
      ∃ name, Unresolved m registry ref name ∧ e = .scopeNotFound ref.name name := by
  rw [scopeStep, bind_eq_error_iff]
  constructor
  · rintro (h | ⟨owner, howner, h⟩)
    · obtain ⟨name, hname, hne, hunknown, rfl⟩ := scopeOwner_eq_error_iff.mp h
      exact ⟨name, .owner hname hne hunknown, rfl⟩
    · cases hbody : owner.scope? ref.name with
      | some body => simp [hbody, pure, Except.pure] at h
      | none =>
        simp only [hbody] at h
        cases h
        have hscope := scope?_eq_none_iff.mp hbody
        exact ⟨owner.name, .scope (scopeOwner_eq_ok_iff.mp howner) hscope, rfl⟩
  · rintro ⟨name, ⟨hname, hne, hunknown⟩ | ⟨howner, hscope⟩, rfl⟩
    · exact .inl (scopeOwner_eq_error_iff.mpr ⟨name, hname, hne, hunknown, rfl⟩)
    · right
      refine ⟨_, scopeOwner_eq_ok_iff.mpr howner, ?_⟩
      simp only [scope?_eq_none_iff.mpr hscope]
      rfl

theorem scopeStep_answers_iff : (∃ s, scopeStep ref m registry = .ok s) ↔
    ¬∃ name, Unresolved m registry ref name := by
  constructor
  · rintro ⟨s, hs⟩ ⟨name, hname⟩
    rw [scopeStep_eq_error_iff.mpr ⟨name, hname, rfl⟩] at hs
    cases hs
  · intro h
    cases hs : scopeStep ref m registry with
    | ok s => exact ⟨s, rfl⟩
    | error e =>
      obtain ⟨name, hname, _⟩ := scopeStep_eq_error_iff.mp hs
      exact absurd ⟨name, hname⟩ h

theorem wheres_answers_iff {conditions : List Condition} :
    (∃ steps, conditions.mapM (whereStep m registry) = .ok steps) ↔
      ∀ ref ∈ conditions.filterMap Condition.scope?,
        ¬∃ name, Unresolved m registry ref name := by
  rw [mapM_answers_iff]
  constructor
  · intro h ref href
    obtain ⟨c, hc, hscope⟩ := List.mem_filterMap.mp href
    cases c with
    | scope ref =>
      cases hscope
      exact scopeStep_answers_iff.mp (h _ hc)
    | _ => cases hscope
  · intro h c hc
    cases c with
    | scope ref => exact scopeStep_answers_iff.mpr (h ref (List.mem_filterMap.mpr ⟨_, hc, rfl⟩))
    | _ => exact ⟨_, rfl⟩

/-- Conditions fail to become steps as their scopes do. -/
theorem wheres_error_iff_scopes {conditions : List Condition} {e : SearchError} :
    conditions.mapM (whereStep m registry) = .error e ↔
      (conditions.filterMap Condition.scope?).mapM (scopeStep · m registry) = .error e := by
  induction conditions with
  | nil => simp [pure, Except.pure]
  | cons c conditions ih =>
    rw [mapM_cons_eq_error_iff]
    simp only [ih]
    cases c with
    | scope ref =>
      have hscopes : (Condition.scope ref :: conditions).filterMap Condition.scope? =
          ref :: conditions.filterMap Condition.scope? := rfl
      rw [hscopes, mapM_cons_eq_error_iff]
      rfl
    | _ => simp [whereStep, Condition.scope?, List.filterMap_cons]

/-- Conditions fail to become steps where a scope is not found, with the error of the first. -/
theorem wheres_eq_error_iff {conditions : List Condition} {e : SearchError} :
    conditions.mapM (whereStep m registry) = .error e ↔
      ∃ before ref after name, conditions.filterMap Condition.scope? = before ++ ref :: after ∧
        (∀ earlier ∈ before, ¬∃ name, Unresolved m registry earlier name) ∧
        Unresolved m registry ref name ∧ e = .scopeNotFound ref.name name := by
  rw [wheres_error_iff_scopes, mapM_eq_error_iff]
  simp only [scopeStep_answers_iff, scopeStep_eq_error_iff]
  constructor
  · rintro ⟨before, ref, after, hscopes, hbefore, name, hname, he⟩
    exact ⟨before, ref, after, name, hscopes, hbefore, hname, he⟩
  · rintro ⟨before, ref, after, name, hscopes, hbefore, hname, he⟩
    exact ⟨before, ref, after, hscopes, hbefore, name, hname, he⟩

end Plan
end RowSearch
