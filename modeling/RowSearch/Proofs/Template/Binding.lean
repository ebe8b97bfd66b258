import RowSearch.Proofs.Answers
import RowSearch.Request.Criteria
import RowSearch.Template.Basic

/-! # Entries that templates bind

Whatever route an entry takes, by a path of the input, a key, a map, a list or a fixed entry, it
arrives in a form that has a meaning: under a key a value that is not blank, and without a key a
fragment, a callback, a scope or an object that names its field. So criteria never fail for the
form of an entry that a template has bound.
-/
namespace RowSearch

inductive Entry.WellFormed : Entry → Prop
  | keyed (key : String) {v : Json} (hnull : v ≠ .null) (hempty : v ≠ .string "") :
      WellFormed (.keyed key v)
  | structured {fields : Fields} (hfield : fields.has "field" = true) :
      WellFormed (.positional (.value (.object fields)))
  | raw (fragment : Fragment) : WellFormed (.positional (.raw fragment))
  | callback (body : List Call) : WellFormed (.positional (.callback body))
  | scope (ref : ScopeRef) : WellFormed (.positional (.scope ref))

theorem Json.not_blank_iff {v : Json} : v.blank = false ↔ v ≠ .null ∧ v ≠ .string "" := by
  cases v <;> simp [Json.blank]

theorem Entry.WellFormed.of_not_blank (key : String) {v : Json} (h : v.blank = false) :
    (Entry.keyed key v).WellFormed := by
  obtain ⟨hnull, hempty⟩ := Json.not_blank_iff.mp h
  exact .keyed key hnull hempty

namespace Template
variable {input : Input} {es : List Entry}

theorem keyedEntries_wellFormed (key : String) (v : Json) :
    ∀ e ∈ keyedEntries key v, e.WellFormed := by
  rw [keyedEntries]
  split
  · exact fun _ he => absurd he List.not_mem_nil
  · rename_i hblank
    simpa using Entry.WellFormed.of_not_blank key (Bool.eq_false_iff.mpr hblank)

/-- What an input path gives is not blank. -/
theorem givenEntries_wellFormed (input : Input) (path : String) :
    ∀ e ∈ ((input.given? path).map (Entry.keyed path)).toList, e.WellFormed := by
  intro e he
  obtain ⟨v, hv, rfl⟩ := Option.map_eq_some_iff.mp (Option.mem_toList.mp he)
  have hblank := (Option.filter_eq_some_iff.mp hv).2
  exact .of_not_blank path (by simpa using hblank)

theorem positionalEntries_wellFormed {v : Json} (h : positionalEntries v input = .ok es) :
    ∀ e ∈ es, e.WellFormed := by
  cases v with
  | null =>
    cases h
    exact fun _ he => absurd he List.not_mem_nil
  | array items => cases h
  | object fields =>
    rw [positionalEntries] at h
    split at h
    · rename_i hfield
      cases h
      simpa using Entry.WellFormed.structured hfield
    · cases h
  | bool | number | string =>
    cases h
    exact givenEntries_wellFormed input _

/-- A fragment, a callback and a scope drop the key they are declared under. -/
theorem concreteEntries_wellFormed {key? : Option String} {v : TemplateValue}
    (h : concreteEntries key? v input = .ok es) : ∀ e ∈ es, e.WellFormed := by
  cases v with
  | raw fragment =>
    cases h
    simpa using Entry.WellFormed.raw fragment
  | callback body =>
    cases h
    simpa using Entry.WellFormed.callback body
  | scope ref =>
    cases h
    simpa using Entry.WellFormed.scope ref
  | value v =>
    cases key? with
    | some key =>
      cases h
      exact keyedEntries_wellFormed key v
    | none => exact positionalEntries_wellFormed h
  | _ => cases h

theorem whereEntries_wellFormed {e : TemplateEntry} (h : whereEntries input e = .ok es) :
    ∀ e ∈ es, e.WellFormed := by
  obtain ⟨v, _, h⟩ := bind_eq_ok_iff.mp h
  exact concreteEntries_wellFormed h

theorem flatten_wellFormed {α : Type} {f : α → Except SearchError (List Entry)} {l : List α}
    {found : List (List Entry)} (h : l.mapM f = .ok found)
    (hf : ∀ a es, f a = .ok es → ∀ e ∈ es, e.WellFormed) : ∀ e ∈ found.flatten, e.WellFormed := by
  intro e he
  obtain ⟨es, hes, he⟩ := List.mem_flatten.mp he
  obtain ⟨a, _, ha⟩ := exists_of_mem_mapM h hes
  exact hf a es ha e he

theorem havingEntries_wellFormed {e : TemplateEntry} (h : havingEntries input e = .ok es) :
    ∀ e ∈ es, e.WellFormed := by
  obtain ⟨v, _, h⟩ := bind_eq_ok_iff.mp h
  split at h
  · obtain ⟨found, hfound, h⟩ := bind_eq_ok_iff.mp h
    cases h
    exact flatten_wellFormed hfound fun _ _ => whereEntries_wellFormed
  · split at h
    · rename_i hfield
      cases h
      simpa using Entry.WellFormed.structured hfield
    · cases h
      intro e he
      obtain ⟨field, _, he⟩ := List.mem_flatMap.mp he
      exact keyedEntries_wellFormed field.1 field.2 e he
  · exact concreteEntries_wellFormed h

theorem bindRest_wellFormed {t : Template} {extra : List TemplateEntry} {paging : Paging}
    {sorts : List Json} {r : Request} (h : t.bindRest extra paging sorts input = .ok r) :
    ∀ e ∈ r.wheres ++ r.having, e.WellFormed := by
  obtain ⟨_, _, h⟩ := bind_eq_ok_iff.mp h
  obtain ⟨_, _, h⟩ := bind_eq_ok_iff.mp h
  obtain ⟨having, hhaving, h⟩ := bind_eq_ok_iff.mp h
  obtain ⟨wheres, hwheres, h⟩ := bind_eq_ok_iff.mp h
  cases h
  exact List.forall_mem_append.mpr
    ⟨flatten_wellFormed hwheres fun _ _ => whereEntries_wellFormed,
      flatten_wellFormed hhaving fun _ _ => havingEntries_wellFormed⟩

end Template

/-- Whether an error is about the form of an entry: a key where none may be, or no key and
nothing that has a meaning without. -/
def SearchError.aboutForm : SearchError → Bool
  | .malformed _ .notPositional | .malformed _ (.unsupportedEntry _) => true
  | _ => false

theorem FieldPath.ofChars?_failed {source : String} {cs : List Char} {e : SearchError}
    (h : ofChars? source cs = .error e) : e.aboutForm = false := by
  rw [ofChars?, ofSegments?] at h
  split at h
  · cases h
    rfl
  · cases h

theorem ConditionKey.parse?_failed {key : String} {e : SearchError}
    (h : ConditionKey.parse? key = .error e) : e.aboutForm = false := by
  rw [ConditionKey.parse?] at h
  split at h
  · exact FieldPath.ofChars?_failed (map_eq_error_iff.mp h)
  · simp only at h
    split at h
    · cases h
      rfl
    · exact FieldPath.ofChars?_failed (map_eq_error_iff.mp h)

namespace Entry

theorem structuredCondition_failed {fields : Fields} {e : SearchError}
    (h : structuredCondition (.object fields) = .error e) : e.aboutForm = false := by
  rw [structuredCondition] at h
  split at h
  · split at h
    · exact FieldPath.ofChars?_failed (map_eq_error_iff.mp h)
    · cases h
      rfl
    · cases h
      rfl
  · cases h
    rfl

theorem WellFormed.condition_failed {entry : Entry} (hentry : entry.WellFormed) {e : SearchError}
    (h : entry.condition = .error e) : e.aboutForm = false := by
  cases hentry with
  | keyed key => exact ConditionKey.parse?_failed (map_eq_error_iff.mp h)
  | structured => exact structuredCondition_failed h
  | raw | callback | scope => cases h

theorem WellFormed.havingCondition_failed {entry : Entry} (hentry : entry.WellFormed)
    {e : SearchError} (h : entry.havingCondition = .error e) : e.aboutForm = false := by
  rcases bind_eq_error_iff.mp h with h | ⟨condition?, _, h⟩
  · exact hentry.condition_failed h
  · split at h
    · cases h
    · cases h
    · cases h
    · cases h
      rfl
    · cases h
      rfl

end Entry

/-- Entries of a form that has a meaning never fail for their form. -/
theorem Criteria.ofRequest_failed {r : Request} {e : SearchError}
    (hr : ∀ entry ∈ r.wheres ++ r.having, entry.WellFormed) (h : ofRequest r = .error e) :
    e.aboutForm = false := by
  obtain ⟨hwheres, hhaving⟩ := List.forall_mem_append.mp hr
  rcases bind_eq_error_iff.mp h with h | ⟨_, _, h⟩
  · obtain ⟨before, entry, after, heq, _, hentry⟩ := mapM_eq_error_iff.mp (map_eq_error_iff.mp h)
    have hmem : entry ∈ r.wheres := by simp [heq]
    exact (hwheres entry hmem).condition_failed hentry
  · rcases bind_eq_error_iff.mp h with h | ⟨_, _, h⟩
    · obtain ⟨before, entry, after, heq, _, hentry⟩ := mapM_eq_error_iff.mp (map_eq_error_iff.mp h)
      have hmem : entry ∈ r.having := by simp [heq]
      exact (hhaving entry hmem).havingCondition_failed hentry
    · cases h

namespace Template

/-- Every entry of a request that a template binds has a form with a meaning. So its criteria
never fail because a key stands where none may, or because an entry without a key means nothing. -/
theorem bind_wellFormed {t : Template} {config : Config} {extra : List TemplateEntry} {v : Json}
    {r : Request} (h : t.bind config extra v = .ok r) :
    (∀ e ∈ r.wheres ++ r.having, e.WellFormed) ∧
    ∀ key, Criteria.ofRequest r ≠ .error (.malformed key .notPositional) ∧
      ∀ w, Criteria.ofRequest r ≠ .error (.malformed key (.unsupportedEntry w)) := by
  obtain ⟨input, _, h⟩ := bind_eq_ok_iff.mp h
  have hr : ∀ e ∈ r.wheres ++ r.having, e.WellFormed := bindRest_wellFormed h
  refine ⟨hr, fun key => ⟨fun herror => ?_, fun w herror => ?_⟩⟩
  · exact absurd (Criteria.ofRequest_failed hr herror) (by simp [SearchError.aboutForm])
  · exact absurd (Criteria.ofRequest_failed hr herror) (by simp [SearchError.aboutForm])

def reportTemplate : Template where
  wheres := fun _ => [
    TemplateEntry.input "owner.name",
    TemplateEntry.input "note",
    (some "size.gt", .value (.string "")),
    (some "size", .raw ⟨"size > ?", [.count 1]⟩),
    (none, .producer (.choice true (some (.callback [.isNull .or "size"])) none)),
    (some "kind", .choice false none (some (.value (.array [])))),
    (none, .value (.object [("field", .string "age"), ("value", .null)]))]
  having := fun _ => [
    (none, .value (.object [("count.gt", .count 1), ("kind", .null)])),
    (none, .entries [TemplateEntry.input "owner.name", (some "total", .raw ⟨"total is null", []⟩)])]

def liveEntries : List TemplateEntry := [(some "live", .scope ⟨"live", none, []⟩)]

def reportInput : Json :=
  .object [("owner", .object [("name", .string "ann")]), ("note", .string "")]

theorem bind_wellFormed_report :
    ∃ r, reportTemplate.bind {} liveEntries reportInput = .ok r ∧
      r.wheres.map Entry.key? = [none, some "owner.name", none, none, some "kind", none] ∧
      r.having.map Entry.key? = [some "count.gt", some "owner.name", none] ∧
      (∀ e ∈ r.wheres ++ r.having, e.WellFormed) ∧
      ∀ key, Criteria.ofRequest r ≠ .error (.malformed key .notPositional) := by
  have hkeys : ((reportTemplate.bind {} liveEntries reportInput).toOption.map fun r =>
      (r.wheres.map Entry.key?, r.having.map Entry.key?)) =
      some ([none, some "owner.name", none, none, some "kind", none],
        [some "count.gt", some "owner.name", none]) := by
    decide +kernel
  cases hr : reportTemplate.bind {} liveEntries reportInput with
  | error e =>
    rw [hr] at hkeys
    cases hkeys
  | ok r =>
    rw [hr] at hkeys
    obtain ⟨hwheres, hhaving⟩ := Prod.mk.inj (Option.some.inj hkeys)
    obtain ⟨hformed, hform⟩ := bind_wellFormed hr
    exact ⟨r, rfl, hwheres, hhaving, hformed, fun key => (hform key).1⟩

end Template
end RowSearch
