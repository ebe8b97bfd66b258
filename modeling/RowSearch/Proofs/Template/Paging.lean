import RowSearch.Proofs.Answers
import RowSearch.Proofs.Template.Taking
import RowSearch.Template.Basic

/-! # What a template sees of the input

Binding takes the page and the sorts out of the input before the template sees it. Since the paths
they are under go by keys and none of them starts another, each is read as the input has it, and
of the input nothing else is missing afterwards.
-/
namespace RowSearch

/-- A count, or one in its place where requests without paging get a page. -/
def Config.fill (config : Config) (default : UInt64) (count? : Option UInt64) : Option UInt64 :=
  if config.paginateByDefault then some (count?.getD default) else count?

namespace Input

def more (input : Input) : Fields := ((input.at? moreKey).bind Json.object?).getD []

/-- The fields under `more`, the last of each key, are at the top before those of the same key, and
`more` itself is gone. The fields that were there keep their order. -/
structure Lifted (before after : Input) : Prop where
  found : ∀ key, after.fields.get? key = (Fields.get? key before.more.reverse).or
    (if key = moreKey then none else before.fields.get? key)
  order : (before.fields.keys.filter (· ≠ moreKey)) <+: after.fields.keys

theorem flatten_eq (input : Input) :
    input.flatten = ⟨Fields.insertAll input.more (input.fields.erase moreKey)⟩ := by
  have htaken : (input.take moreKey).1 = input.at? moreKey := take_fst (by decide +kernel)
  have hrest : (input.take moreKey).2.fields = input.fields.erase moreKey :=
    fields_take_key (by decide +kernel)
  rw [flatten, more, ← htaken, ← hrest]
  obtain ⟨v?, rest⟩ := input.take moreKey
  cases v? with
  | none => rfl
  | some v => cases v <;> rfl

theorem flatten_lifted (input : Input) : Lifted input input.flatten := by
  rw [flatten_eq]
  refine ⟨fun key => ?_, ?_⟩
  · rw [Fields.get?_insertAll, Fields.get?_erase]
  · rw [← Fields.keys_erase]
    exact Fields.keys_insertAll_prefix _ _

end Input

namespace Template
variable {input : Input} {p : Paging} {aliases : List (String × PageField)}

def Paging.ofAlias (input : Input) (p : Paging) (name : String × PageField) : Paging :=
  match input.at? name.1 with
  | some v => p.set v.toCount? name.2
  | none => p

theorem takeAlias_eq {name : String × PageField} (h : ByKeys name.1) :
    takeAlias (p, input) name = (p.ofAlias input name, (input.take name.1).2) := by
  rw [takeAlias, Input.has, Paging.ofAlias]
  cases hat : input.at? name.1 with
  | none => simp [Input.take_of_at?_eq_none h hat]
  | some v => simp [Input.take_fst h, hat]

/-- Aliases that go by keys and are apart are read as the input has them. -/
theorem foldl_takeAlias (hkeys : ∀ name ∈ aliases, ByKeys name.1)
    (hapart : aliases.Pairwise fun a b => Apart a.1 b.1) :
    aliases.foldl takeAlias (p, input) =
      (aliases.foldl (Paging.ofAlias input) p, input.leave (aliases.map Prod.fst)) := by
  -- the input shrinks from alias to alias, but not where a later one reads it
  induction aliases generalizing p input with
  | nil => rfl
  | cons name aliases ih =>
    obtain ⟨hname, hkeys⟩ := List.forall_mem_cons.mp hkeys
    obtain ⟨hfirst, hapart⟩ := List.pairwise_cons.mp hapart
    have hread : ∀ p, ∀ other ∈ aliases,
        Paging.ofAlias (input.take name.1).2 p other = Paging.ofAlias input p other := by
      intro p other hother
      rw [Paging.ofAlias, Paging.ofAlias, Input.at?_take_of_apart hname (hfirst other hother)]
    rw [List.foldl_cons, takeAlias_eq hname, ih hkeys hapart, List.foldl_ext _ _ _ hread]
    rfl

def takeSort (s : List Json × Input) (name : String) : List Json × Input :=
  (s.1 ++ (s.2.take name).1.toList, (s.2.take name).2)

theorem foldl_takeSort {names : List String} {sorts : List Json}
    (hkeys : ∀ name ∈ names, ByKeys name) (hapart : names.Pairwise Apart) :
    names.foldl takeSort (sorts, input) =
      (sorts ++ names.filterMap input.at?, input.leave names) := by
  induction names generalizing sorts input with
  | nil => simp [Input.leave]
  | cons name names ih =>
    obtain ⟨hname, hkeys⟩ := List.forall_mem_cons.mp hkeys
    obtain ⟨hfirst, hapart⟩ := List.pairwise_cons.mp hapart
    have hread : names.filterMap (input.take name).2.at? = names.filterMap input.at? :=
      List.filterMap_congr fun other hother => Input.at?_take_of_apart hname (hfirst other hother)
    rw [List.foldl_cons, takeSort, Input.take_fst hname, ih hkeys hapart, hread,
      Input.leave_cons, List.append_assoc]
    cases hat : input.at? name <;> simp [hat]

def consumed : List String :=
  ["paginator.page", "page", "paginator.limit", "page_size", "paginator.sort", "paginator.sorts"]

theorem consumed_byKeys : ∀ location ∈ consumed, ByKeys location := by decide +kernel

theorem consumed_apart : consumed.Pairwise Apart := by decide +kernel

theorem consumed_length : ∀ location ∈ consumed, (Json.steps location).length ≤ 2 := by
  decide +kernel

theorem consumed_dropLast :
    ∀ location ∈ consumed, (Json.steps location).dropLast ∈ [[], ["paginator"]] := by
  decide +kernel

theorem consumed_eq : consumed = ({} : Template).pageAliases.map Prod.fst ++ sortAliases := rfl

/-- What is left of an input without the page and the sorts. Their paths lead nowhere, and every
other path leads where it led, unless it leads through one of them or to `paginator`, which has
lost nothing but them. The keys that stay keep their order. -/
structure Consumed (before after : Input) : Prop where
  gone : ∀ location ∈ consumed, after.at? location = none
  kept : ∀ path, path ≠ "paginator" →
    (∀ location ∈ consumed, ¬ Json.steps location <+: Json.steps path) →
    after.at? path = before.at? path
  paginator : after.at? "paginator" =
    (before.at? "paginator").map (Json.without ["page", "limit", "sort", "sorts"])
  order : after.fields.keys = before.fields.keys.filter (· ∉ ["page", "page_size"])

theorem leave_consumed (input : Input) : Consumed input (input.leave consumed) where
  gone location hmem := Input.at?_leave_of_mem consumed_byKeys hmem
  kept path hpath hthrough := by
    refine Input.at?_leave_of_apart consumed_byKeys fun location hmem => ?_
    refine .of_not_through (consumed_length location hmem) (hthrough location hmem) fun hsteps => ?_
    have hshort := consumed_dropLast location hmem
    rw [← hsteps] at hshort
    rcases List.mem_cons.mp hshort with hnil | hshort
    · exact Json.steps_ne_nil path hnil
    · exact hpath (Json.eq_of_steps (List.mem_singleton.mp hshort))
  paginator := by
    have hkeys : consumed.flatMap (Json.keysUnder "paginator") =
        ["page", "limit", "sort", "sorts"] := by decide +kernel
    have hpath : Json.steps "paginator" = ["paginator"] := by decide +kernel
    rw [Input.at?_of_steps hpath, Input.at?_of_steps hpath, ← hkeys]
    exact Input.get?_leave consumed_length (by decide +kernel)
  order := by
    have hsteps : consumed.map Json.steps = [["paginator", "page"], ["page"],
        ["paginator", "limit"], ["page_size"], ["paginator", "sort"], ["paginator", "sorts"]] := by
      decide +kernel
    rw [Input.keys_leave consumed_length]
    refine List.filter_congr fun key _ => decide_eq_decide.mpr ?_
    rw [← @List.forall_mem_map _ _ Json.steps consumed (· ≠ [key]), hsteps]
    simp [eq_comm]

/-- The count at the stronger of two paths, or at the weaker if the stronger leads nowhere. -/
def countAt? (input : Input) (weak strong : String) : Option UInt64 :=
  ((input.at? strong).or (input.at? weak)).bind Json.toCount?

/-- Of two aliases of one field the later wins, be its value a count or not. -/
theorem ofAlias_ofAlias {field : PageField} (hp : p.set none field = p) (weak strong : String) :
    (p.ofAlias input (weak, field)).ofAlias input (strong, field) =
      p.set (countAt? input weak strong) field := by
  rw [Paging.ofAlias, Paging.ofAlias, countAt?]
  cases input.at? strong with
  | none =>
    cases input.at? weak with
    | none => exact hp.symm
    | some v => rfl
  | some v =>
    cases input.at? weak with
    | none => rfl
    | some w => cases field <;> rfl

theorem Paging.orDefault_eq (p : Paging) (config : Config) : p.orDefault config =
    ⟨config.fill 1 p.page?, config.fill config.defaultPageSize p.pageSize?⟩ := by
  rw [orDefault, Config.fill, Config.fill]
  split <;> rfl

def paging (config : Config) (input : Input) : Paging where
  page? := config.fill 1 (countAt? input "paginator.page" "page")
  pageSize? := config.fill config.defaultPageSize (countAt? input "paginator.limit" "page_size")

theorem foldl_ofAlias (config : Config) (input : Input) :
    (({} : Template).pageAliases.foldl (Paging.ofAlias input) {}).orDefault config =
      paging config input := by
  simp only [List.foldl_cons, List.foldl_nil]
  rw [@ofAlias_ofAlias input {} .page rfl, ofAlias_ofAlias rfl, Paging.orDefault_eq]
  rfl

/-- The page and the sorts are taken one after the other, and each is read as the input has it. -/
theorem take_consumed (input : Input) :
    takePaging ({} : Template).pageAliases input =
      (({} : Template).pageAliases.foldl (Paging.ofAlias input) {},
        input.leave (({} : Template).pageAliases.map Prod.fst)) ∧
    takeSorts (input.leave (({} : Template).pageAliases.map Prod.fst)) =
      (sortAliases.filterMap input.at?, input.leave consumed) := by
  have hkeys := consumed_byKeys
  have hapart := consumed_apart
  rw [consumed_eq, List.forall_mem_append, List.forall_mem_map] at hkeys
  rw [consumed_eq, List.pairwise_append, List.pairwise_map] at hapart
  obtain ⟨hpages, hsorts⟩ := hkeys
  obtain ⟨hpagesApart, hsortsApart, hbetween⟩ := hapart
  refine ⟨foldl_takeAlias hpages hpagesApart, ?_⟩
  have hread : sortAliases.filterMap
      (input.leave (({} : Template).pageAliases.map Prod.fst)).at? =
      sortAliases.filterMap input.at? :=
    List.filterMap_congr fun name hname => Input.at?_leave_of_apart (List.forall_mem_map.mpr hpages)
      fun location hlocation => hbetween location hlocation name hname
  have htake := @foldl_takeSort (input.leave (({} : Template).pageAliases.map Prod.fst))
    sortAliases [] hsorts hsortsApart
  rw [hread, ← Input.leave_append, ← consumed_eq] at htake
  exact htake

/-- With the default aliases a template sees the input without the page and the sorts. -/
theorem bind_leave {t : Template} (h : t.pageAliases = ({} : Template).pageAliases) {v : Json}
    {input : Input} (hv : Input.ofJson v = .ok input) (config : Config)
    (extra : List TemplateEntry) :
    t.bind config extra v = t.bindRest extra (paging config input.flatten)
      (sortAliases.filterMap input.flatten.at?) (input.flatten.leave consumed) := by
  obtain ⟨hpages, hsorts⟩ := take_consumed input.flatten
  have hsteps : t.bind config extra v =
      let pages := takePaging t.pageAliases input.flatten
      let sorts := takeSorts pages.2
      t.bindRest extra (pages.1.orDefault config) sorts.1 sorts.2 := by
    rw [bind, hv]
    rfl
  rw [hsteps, h, hpages]
  dsimp only
  rw [hsorts, foldl_ofAlias]

/-- With the default aliases every method of a template is given one input: that of the request with
the fields under `more` lifted and without the page and the sorts. The sorts go to the end of the
order, and the page and its size are the counts that the input has, with the defaults filled in only
where the configuration asks for them. -/
theorem bind_consumed (t : Template) (config : Config) (extra : List TemplateEntry)
    (input : Input) (h : t.pageAliases = ({} : Template).pageAliases) :
    Input.Lifted input input.flatten ∧ ∃ rest, Consumed input.flatten rest ∧
      t.bind config extra input.toJson = (do
        let order ← bindOrder (t.order rest) (sortAliases.filterMap input.flatten.at?)
        let groupBy ← bindGroupBy (t.groupBy rest)
        let having ← (t.having rest).mapM (havingEntries rest)
        let wheres ← (extra ++ t.wheres rest).mapM (whereEntries rest)
        return {
          wheres := wheres.flatten
          order, groupBy
          having := having.flatten
          keyword? := keyword? t.keywordAliases rest
          page? := config.fill 1 (((input.flatten.at? "page").or
            (input.flatten.at? "paginator.page")).bind Json.toCount?)
          pageSize? := config.fill config.defaultPageSize (((input.flatten.at? "page_size").or
            (input.flatten.at? "paginator.limit")).bind Json.toCount?) }) := by
  refine ⟨Input.flatten_lifted input, _, leave_consumed input.flatten, ?_⟩
  rw [bind_leave h rfl config extra, bindRest]
  rfl

/-- A template whose methods all read their input: conditions, an order and group columns by the
fields that are there, and conditions on the groups by what is still under the consumed paths. -/
def shelfTemplate : Template where
  wheres := fun input => TemplateEntry.input "paginator.theme" ::
    input.fields.map fun field => (some field.1, .value field.2)
  order := fun input => .value (.array (input.fields.keys.map fun key => .string ("-" ++ key)))
  groupBy := fun input => .value (.array (input.fields.keys.map .string))
  having := fun input => consumed.map fun path => (some path, .value ((input.at? path).getD .null))

def shelfInput : Input where
  fields := [
    ("more", .object [("page", .count 2), ("kind", .string "cat")]),
    ("page", .string "7"),
    ("paginator", .object [
      ("page", .count 5), ("theme", .string "dark"), ("limit", .count 20),
      ("sorts", .array [.string "+age"])]),
    ("kind", .string "dog"),
    ("page_size", .null)]

theorem bind_consumed_shelf : shelfTemplate.pageAliases = ({} : Template).pageAliases ∧
    ∃ rest r, Consumed shelfInput.flatten rest ∧ rest.fields.keys = ["paginator", "kind"] ∧
      rest.at? "paginator.limit" = none ∧
      shelfTemplate.bind ⟨15, true, none⟩ [] shelfInput.toJson = .ok r ∧
      r.wheres.map Entry.key? = [some "paginator.theme", some "paginator", some "kind"] ∧
      (r.groupBy == [.column "paginator", .column "kind"]) = true ∧ r.having.length = 0 ∧
      r.order.length = 3 ∧ r.page? = some 2 ∧ r.pageSize? = some 15 := by
  obtain ⟨_, rest, hrest, hbind⟩ := bind_consumed shelfTemplate ⟨15, true, none⟩ [] shelfInput rfl
  have hkeys : rest.fields.keys = ["paginator", "kind"] := by
    rw [hrest.order]
    decide +kernel
  have hread : ((shelfTemplate.bind ⟨15, true, none⟩ [] shelfInput.toJson).toOption.map fun r =>
      (r.wheres.map Entry.key?, r.groupBy == [.column "paginator", .column "kind"],
        r.having.length, r.order.length)) =
      some ([some "paginator.theme", some "paginator", some "kind"], true, 0, 3) := by
    decide +kernel
  cases hr : shelfTemplate.bind ⟨15, true, none⟩ [] shelfInput.toJson with
  | error e =>
    rw [hr] at hread
    cases hread
  | ok r =>
    rw [hr] at hread hbind
    simp only [Except.toOption, Option.map_some, Option.some.injEq, Prod.mk.injEq] at hread
    obtain ⟨hwheres, hgroups, hhaving, horder⟩ := hread
    obtain ⟨_, _, hbind⟩ := bind_eq_ok_iff.mp hbind.symm
    obtain ⟨_, _, hbind⟩ := bind_eq_ok_iff.mp hbind
    obtain ⟨_, _, hbind⟩ := bind_eq_ok_iff.mp hbind
    obtain ⟨_, _, hbind⟩ := bind_eq_ok_iff.mp hbind
    refine ⟨rfl, rest, r, hrest, hkeys, hrest.gone _ (by decide), rfl, hwheres, hgroups, hhaving,
      horder, ?_⟩
    cases hbind
    show (paging ⟨15, true, none⟩ shelfInput.flatten).page? = some 2 ∧
      (paging ⟨15, true, none⟩ shelfInput.flatten).pageSize? = some 15
    decide +kernel

end Template
end RowSearch
