import RowSearch.Proofs.Json.Overlay
import RowSearch.Proofs.Template.Binding
import RowSearch.Proofs.Template.Paging
import RowSearch.Template.Directive

/-! # Filters of a list

A directive filters by its fixed arguments with those of the input over them. The page and the
paginator of the input are no filters, and neither is a paginator among the fixed arguments. A page
and a page size among the fixed arguments are filters, whatever page the input asks for.
-/
namespace RowSearch

namespace Input
variable {input : Input} {location : String} {locations : List String} {p : String → Bool}

/-- A removal leaves the fields as they are but for those that its path starts with. -/
theorem filter_take (hlen : (Json.steps location).length ≤ 2)
    (hp : ∀ s ∈ (Json.steps location).head?, p s = false) :
    (input.take location).2.fields.filter (fun f => p f.1) =
      input.fields.filter fun f => p f.1 := by
  match hsteps : Json.steps location, Json.steps_ne_nil location with
  | [key], _ =>
    have hkey : p key = false := hp key (by simp [hsteps])
    rw [fields_take_key hsteps, Fields.erase, List.filter_filter]
    refine List.filter_congr fun f _ => ?_
    by_cases hf : f.1 = key <;> simp [hf, hkey]
  | [outer, key], _ =>
    have houter : p outer = false := hp outer (by simp [hsteps])
    rcases fields_take_inner hsteps input with ⟨_, hfields⟩ | ⟨v, _, hfields⟩
    · rw [hfields]
    · rw [hfields, Fields.filter_insert, if_neg (by simp [houter])]
  | _ :: _ :: _ :: _, _ => simp [hsteps] at hlen

theorem filter_leave (hlen : ∀ location ∈ locations, (Json.steps location).length ≤ 2)
    (hp : ∀ location ∈ locations, ∀ s ∈ (Json.steps location).head?, p s = false) :
    (input.leave locations).fields.filter (fun f => p f.1) =
      input.fields.filter fun f => p f.1 := by
  induction locations generalizing input with
  | nil => rfl
  | cons location locations ih =>
    rw [List.forall_mem_cons] at hlen hp
    rw [leave_cons, ih hlen.2 hp.2, filter_take hlen.1 hp.1]

theorem nodup_keys_flatten (h : input.fields.keys.Nodup) : input.flatten.fields.keys.Nodup := by
  rw [flatten_eq]
  apply Fields.nodup_keys_insertAll
  rw [Fields.keys_erase]
  exact h.filter _

end Input

theorem Json.not_blank_of_truthy {v : Json} (h : v.truthy = true) : v.blank = false := by
  rw [not_blank_iff]
  refine ⟨?_, ?_⟩
  · rintro rfl
    cases h
  · rintro rfl
    exact absurd h (by decide)

def truthyEntries (fields : Fields) : List Entry :=
  (fields.filter (·.2.truthy)).map fun f => .keyed f.1 f.2

theorem filter_truthyEntries (p : String → Bool) (fields : Fields) :
    (truthyEntries fields).filter (fun e => e.key?.any p) =
      truthyEntries (fields.filter fun f => p f.1) := by
  rw [truthyEntries, truthyEntries, List.filter_map, List.filter_filter, List.filter_filter]
  refine congrArg _ (List.filter_congr fun f _ => ?_)
  simp [Entry.keyed, Bool.and_comm]

namespace Directive
variable {d : Directive} {input rest : Input}

def pageKeys : List String := ["page", "page_size"]

def pagingKeys : List String := paginatorKey :: pageKeys

/-- The filters of a directive are bound as they are. -/
theorem mapM_whereEntries (d : Directive) (input : Input) :
    (d.filters input).mapM (Template.whereEntries input) =
      .ok ((truthyEntries ((d.merged input).erase paginatorKey)).map fun e => [e]) := by
  rw [mapM_eq_ok_iff, filters, truthyEntries, List.map_map, List.forall₂_map_left_iff,
    List.forall₂_map_right_iff, List.forall₂_same]
  intro f hf
  have htruthy : f.2.truthy = true := (List.mem_filter.mp hf).2
  have hentries : Template.keyedEntries f.1 f.2 = [.keyed f.1 f.2] :=
    if_neg (by simp [Json.not_blank_of_truthy htruthy])
  exact congrArg Except.ok hentries

/-- A directive declares no order, no grouping and no having of its own. -/
theorem exists_bindRest (d : Directive) (paging : Template.Paging) (sorts : List Json)
    (input : Input) : ∃ r, d.template.bindRest [] paging sorts input = .ok r ∧
      r.wheres = truthyEntries ((d.merged input).erase paginatorKey) := by
  have horder : ∃ order, Template.bindOrder (.value .null) sorts = .ok order :=
    ⟨_, by rw [Template.bindOrder, TemplateValue.leaves_value]; rfl⟩
  obtain ⟨order, horder⟩ := horder
  have hgroups : Template.bindGroupBy (.value .null) = .ok [] := by
    rw [Template.bindGroupBy, TemplateValue.leaves_value]
    rfl
  have hrest : d.template.bindRest [] paging sorts input = (do
      let order ← Template.bindOrder (.value .null) sorts
      let groupBy ← Template.bindGroupBy (.value .null)
      let found ← (d.filters input).mapM (Template.whereEntries input)
      return {
        wheres := found.flatten, order, groupBy
        page? := paging.page?, pageSize? := paging.pageSize? }) :=
    rfl
  rw [hrest, horder, hgroups, mapM_whereEntries]
  refine ⟨_, rfl, ?_⟩
  rw [List.flatten_eq_flatMap, List.flatMap_map]
  exact List.flatMap_singleton' _

/-- A directive is bound to every input, to filters by the fields that are left of it. -/
theorem exists_bind {v : Json} (hv : Input.ofJson v = .ok input) (d : Directive)
    (config : Config) : ∃ r, d.bind config v = .ok r ∧
      r.wheres = truthyEntries
        ((d.merged (input.flatten.leave Template.consumed)).erase paginatorKey) := by
  have haliases : d.template.pageAliases = ({} : Template).pageAliases := rfl
  rw [bind, Template.bind_leave haliases hv config []]
  exact d.exists_bindRest _ _ _

/-- The fields that the page is under are all that an input loses of its own. -/
theorem filter_leave_consumed (p : String → Bool) (hp : ∀ key ∈ pagingKeys, p key = false)
    (input : Input) : (input.leave Template.consumed).fields.filter (fun f => p f.1) =
      input.fields.filter fun f => p f.1 := by
  refine Input.filter_leave Template.consumed_length fun location hlocation s hs => hp s ?_
  have hheads : ∀ location ∈ Template.consumed, ∀ s ∈ (Json.steps location).head?,
      s ∈ pagingKeys := by
    decide +kernel
  exact hheads location hlocation s hs

/-- What a directive filters by where it is truthy: the fixed arguments but for a paginator, with
the input over them but for all of its paging. -/
def filtered (d : Directive) (input : Input) : Fields :=
  Fields.insertAll (input.fields.filter (·.1 ∉ pagingKeys)) (d.args.filter (·.1 ≠ paginatorKey))

theorem erase_merged_leave_consumed (d : Directive) (input : Input) :
    (d.merged (input.leave Template.consumed)).erase paginatorKey = d.filtered input := by
  have hleft : (input.leave Template.consumed).fields.filter (·.1 ≠ paginatorKey) =
      input.fields.filter (·.1 ∉ pagingKeys) := by
    rw [← filter_leave_consumed (fun key => decide (key ∉ pagingKeys)) (by simp)]
    refine List.filter_congr fun f hf => ?_
    -- of the page nothing is left
    have hkey : f.1 ∈ (input.leave Template.consumed).fields.keys := List.mem_map_of_mem hf
    rw [(Template.leave_consumed input).order, List.mem_filter] at hkey
    have hpage : f.1 ∉ pageKeys := by simpa [pageKeys] using hkey.2
    simp [pagingKeys, hpage]
  have hmerged := Fields.filter_insertAll (fun key => decide (key ≠ paginatorKey))
    (input.leave Template.consumed).fields d.args
  rw [hleft] at hmerged
  exact hmerged

theorem filtered_page (d : Directive) (input : Input) :
    (d.filtered input).filter (·.1 ∈ pageKeys) = d.args.filter (·.1 ∈ pageKeys) := by
  have hsplit := Fields.filter_insertAll (fun key => decide (key ∈ pageKeys))
    (input.fields.filter (·.1 ∉ pagingKeys)) (d.args.filter (·.1 ≠ paginatorKey))
  have hnone : (input.fields.filter (·.1 ∉ pagingKeys)).filter (·.1 ∈ pageKeys) = [] := by
    rw [List.filter_filter, List.filter_eq_nil_iff]
    intro f _
    by_cases hpage : f.1 ∈ pageKeys <;> simp [pagingKeys, hpage]
  have hargs : (d.args.filter (·.1 ≠ paginatorKey)).filter (·.1 ∈ pageKeys) =
      d.args.filter (·.1 ∈ pageKeys) := by
    rw [List.filter_filter]
    refine List.filter_congr fun f _ => ?_
    have hne : f.1 ∈ pageKeys → f.1 ≠ paginatorKey := by
      rintro hpage heq
      exact absurd (heq ▸ hpage) (by decide)
    by_cases hpage : f.1 ∈ pageKeys <;> simp [hpage, hne]
  rw [hnone, hargs] at hsplit
  exact hsplit

theorem filtered_rest (d : Directive) (input : Input) :
    (d.filtered input).filter (·.1 ∉ pageKeys) = (d.merged input).filter (·.1 ∉ pagingKeys) := by
  have hkeys (key : String) :
      (key ∉ pagingKeys) ↔ key ≠ paginatorKey ∧ key ∉ pageKeys := by
    simp [pagingKeys]
  have hmerged := Fields.filter_insertAll (fun key => decide (key ∉ pagingKeys))
    input.fields d.args
  have hsplit := Fields.filter_insertAll (fun key => decide (key ∉ pageKeys))
    (input.fields.filter (·.1 ∉ pagingKeys)) (d.args.filter (·.1 ≠ paginatorKey))
  refine hsplit.trans (Eq.trans ?_ hmerged.symm)
  simp only [List.filter_filter, hkeys]
  congr 1 <;> refine List.filter_congr fun f _ => ?_
  · simp
  · simp [Bool.and_comm]

/-- The filters are those without any paging iff no fixed argument for the page is truthy. -/
theorem truthyEntries_filtered_iff (d : Directive) (input : Input) :
    truthyEntries (d.filtered input) =
        truthyEntries ((d.merged input).filter (·.1 ∉ pagingKeys)) ↔
      ∀ f ∈ d.args, f.1 ∈ pageKeys → f.2.truthy = false := by
  have hpage := filter_truthyEntries (fun key => decide (key ∈ pageKeys)) (d.filtered input)
  have hrest := filter_truthyEntries (fun key => decide (key ∉ pageKeys)) (d.filtered input)
  rw [filtered_page] at hpage
  rw [filtered_rest] at hrest
  have hentries : truthyEntries (d.args.filter (·.1 ∈ pageKeys)) = [] ↔
      ∀ f ∈ d.args, f.1 ∈ pageKeys → f.2.truthy = false := by
    rw [truthyEntries, List.map_eq_nil_iff, List.filter_filter, List.filter_eq_nil_iff]
    refine forall₂_congr fun f _ => ?_
    cases f.2.truthy <;> simp
  rw [← hentries, ← hpage, ← hrest]
  constructor
  · intro heq
    rw [heq, List.filter_filter, List.filter_eq_nil_iff]
    intro e _
    cases e.key? <;> simp
  · intro hnone
    rw [List.filter_eq_nil_iff] at hnone
    refine (List.filter_eq_self.mpr fun e he => ?_).symm
    obtain ⟨f, _, rfl⟩ := List.mem_map.mp he
    simpa [Entry.keyed] using hnone _ he

/-- A directive filters by the fixed arguments with the input over them, by what is truthy, each
key once. Of the paging keys only those that a fixed argument has for the page are filters. -/
theorem bind_filters {config : Config} {v : Json} {r : Request} (h : d.bind config v = .ok r) :
    ∃ input, Input.ofJson v = .ok input ∧ Input.Lifted input input.flatten ∧
      r.wheres = truthyEntries (d.filtered input.flatten) ∧
      (r.wheres = truthyEntries ((d.merged input.flatten).filter (·.1 ∉ pagingKeys)) ↔
        ∀ f ∈ d.args, f.1 ∈ pageKeys → f.2.truthy = false) ∧
      (d.args.keys.Nodup → input.fields.keys.Nodup →
        Fields.Overlaid d.args input.flatten.fields (d.merged input.flatten) ∧
          (r.wheres.map Entry.key?).Nodup) := by
  obtain ⟨input, hinput, _⟩ := bind_eq_ok_iff.mp h
  obtain ⟨r', hbind, hwheres⟩ := exists_bind hinput d config
  cases h.symm.trans hbind
  rw [erase_merged_leave_consumed] at hwheres
  refine ⟨input, hinput, input.flatten_lifted, hwheres, ?_, fun hargs hfields => ⟨?_, ?_⟩⟩
  · rw [hwheres]
    exact d.truthyEntries_filtered_iff _
  · exact Fields.insertAll_overlaid (Input.nodup_keys_flatten hfields) d.args
  · have hkeys : (d.filtered input.flatten).keys.Nodup :=
      Fields.nodup_keys_insertAll (Fields.nodup_keys_filter hargs _)
    have hmap : r.wheres.map Entry.key? =
        (Fields.keys ((d.filtered input.flatten).filter (·.2.truthy))).map some := by
      rw [hwheres, truthyEntries, Fields.keys, List.map_map, List.map_map]
      rfl
    rw [hmap]
    exact (Fields.nodup_keys_filter hkeys _).map fun _ _ => Option.some.inj

def usersDirective : Directive where
  field := "users"
  returnType := "UserPaginator"
  args := [("status", .string "active"), ("role", .string "user"), ("page", .string "2")]

def usersInput : Json :=
  .object [("role", .string ""), ("page", .string "5"), ("team", .string "red"),
    ("more", .object [("status", .string "new"), ("paginator", .object [("page", .string "7")])])]

theorem bind_filters_users : ∃ r, usersDirective.bind {} usersInput = .ok r ∧
    r.wheres = [.keyed "status" (.string "new"), .keyed "page" (.string "2"),
      .keyed "team" (.string "red")] := by
  obtain ⟨r, hbind, _⟩ := exists_bind (v := usersInput) rfl usersDirective {}
  obtain ⟨input, hinput, _, hwheres, _⟩ := bind_filters hbind
  cases hinput
  refine ⟨r, hbind, hwheres.trans ?_⟩
  rfl

/-- A page among the fixed arguments is a filter, and the only one here. -/
theorem bind_page_filter :
    let d : Directive :=
      { field := "users", returnType := "User", args := [("page", .count 2)] }
    ∃ r, d.bind {} (.object []) = .ok r ∧ r.wheres = [.keyed "page" (.count 2)] ∧
      truthyEntries ((d.merged ⟨[]⟩).filter (·.1 ∉ pagingKeys)) = [] := by
  intro d
  have hinput : Input.ofJson (.object []) = .ok ⟨[]⟩ := rfl
  obtain ⟨r, hbind, hwheres⟩ := exists_bind hinput d {}
  rw [erase_merged_leave_consumed] at hwheres
  have hfiltered : d.filtered (Input.flatten ⟨[]⟩) = d.args := rfl
  have htruthy : (Json.count 2).truthy = true := by decide +kernel
  refine ⟨r, hbind, ?_, rfl⟩
  rw [hwheres, hfiltered]
  simp [d, truthyEntries, htruthy]

end Directive
end RowSearch
