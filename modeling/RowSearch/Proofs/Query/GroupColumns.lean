import RowSearch.Proofs.Json.Removal
import RowSearch.Proofs.Query.Checked
import RowSearch.Proofs.Query.GroupKeys
import RowSearch.Proofs.Query.Grouping

/-! # Columns of groups

A group row holds the group columns under their names and is read by paths. So a column whose name
is a path, with a point in it, is looked for where it does not stand, and a column named like the
counter is not there at all. What stands under any other column is what every row of the group has
in it.
-/
namespace RowSearch.Query
variable {q : Query}

section Groups

theorem nodup_addGroup (h : q.groups.Nodup) (column : String) :
    (q.addGroup column).groups.Nodup := by
  unfold addGroup
  split
  · exact h
  · next hnew =>
    have hnew : column ∉ q.groups := by
      intro hmem
      exact hnew (List.contains_iff_mem.mpr hmem)
    exact List.nodup_append.mpr ⟨h, List.nodup_singleton _, by
      intro other hother c hc heq
      rw [List.mem_singleton.mp hc] at heq
      exact hnew (heq ▸ hother)⟩

theorem nodup_addGroups (h : q.groups.Nodup) (groups : GroupList) :
    (q.addGroups groups).1.groups.Nodup := by
  induction groups generalizing q with
  | nil => exact h
  | cons g gs ih =>
    rw [addGroups]
    cases groupColumns g with
    | error e => exact h
    | ok names =>
      apply ih
      induction names generalizing q with
      | nil => exact h
      | cons name names ihnames => exact ihnames (nodup_addGroup h name)

/-- A call leaves the group columns distinct. -/
theorem nodup_groups_call (h : q.groups.Nodup) (c : Call) : (q.call c).1.groups.Nodup := by
  by_cases hc : c.constrains = true
  · rw [call_of_constrains q hc]
    cases c.clauses <;> exact h
  · cases c with
    | groupBy groups => exact nodup_addGroups h groups
    | orderByRaw fragment =>
      rw [call]
      cases Raw.orderColumns fragment.sql with
      | error e => exact h
      | ok keys =>
        obtain ⟨sort, hsort⟩ := foldl_addSort q keys
        rw [orKeep, hsort]
        exact h
    | havingRaw join fragment =>
      rw [call]
      cases Raw.parse fragment <;> exact h
    | orderBy field direction => exact h
    | skip count => exact h
    | take count => exact h
    | refuse message => exact h
    | _ => exact absurd rfl hc

theorem Reached.groups_nodup (h : q.Reached) : q.groups.Nodup := by
  induction h with
  | start => exact List.nodup_nil
  | call _ c ih => exact nodup_groups_call ih c
  | group _ _ join ih _ =>
    split
    · exact ih
    · exact ih
  | has _ _ relation ih _ => exact ih

end Groups

section Columns
variable {groups : List String} {rows : List Json}

theorem get?_zip_map (f : String → Json) (groups : List String) (column : String) :
    Fields.get? column (groups.zip (groups.map f)) =
      if column ∈ groups then some (f column) else none := by
  induction groups with
  | nil => rfl
  | cons other groups ih =>
    rw [List.map_cons, List.zip_cons_cons, Fields.get?, ih]
    by_cases h : other = column
    · rw [if_pos h, if_pos (h ▸ List.mem_cons_self), h]
    · rw [if_neg h]
      simp only [List.mem_cons, Ne.symm h, false_or]

theorem get?_groupFields (first : Json) (size : Nat) (column : String) :
    (groupFields groups first size).get? column =
      if column = countColumn then some (.count (UInt64.ofNat size))
      else if column ∈ groups then some ((first.at? column).getD .null) else none := by
  rw [groupFields, Fields.get?_insert, keyValues, get?_zip_map]

/-- The texts that lead into a group column, which must not have the name of the counter. -/
def Readable (groups : List String) (column : String) : Prop :=
  ∃ s rest, Json.steps column = s :: rest ∧ s ∈ groups ∧ s ≠ countColumn

section Reading
variable {first : Json} {size : Nat} {column : String}

theorem at?_groupFields_of_readable (h : Readable groups column)
    (hfirst : first.object?.isSome = true ∨ '.' ∉ column.toList) :
    ((Json.object (groupFields groups first size)).at? column).getD .null =
      (first.at? column).getD .null := by
  obtain ⟨s, rest, hsteps, hmem, hcount⟩ := h
  rw [Json.at?_object_cons hsteps, get?_groupFields, if_neg hcount, if_pos hmem, Option.bind_some]
  rcases hfirst with hobject | hpoint
  · cases first with
    | object fields =>
      have hplain : '.' ∉ s.toList :=
        Json.not_mem_of_mem_steps (hsteps ▸ List.mem_cons_self : s ∈ Json.steps column)
      rw [Json.at?_object_cons hsteps, Json.at?_of_plain hplain]
      show (((Fields.get? s fields).getD .null).walk? rest).getD .null = _
      cases Fields.get? s fields with
      | none => cases rest <;> rfl
      | some v => rfl
    | _ => cases hobject
  · rw [Json.steps_of_plain hpoint] at hsteps
    obtain ⟨rfl, rfl⟩ := List.cons.inj hsteps
    rfl

theorem at?_groupFields_of_not_readable (h : ¬ Readable groups column)
    (hcount : column ≠ countColumn) :
    (Json.object (groupFields groups first size)).at? column = none := by
  obtain ⟨s, rest, hsteps⟩ := List.exists_cons_of_ne_nil (Json.steps_ne_nil column)
  rw [Json.at?_object_cons hsteps, get?_groupFields]
  by_cases hs : s = countColumn
  · -- a number leads nowhere, and the counter itself is a path of one step
    cases rest with
    | nil => exact absurd (Json.eq_of_steps hsteps) (hs ▸ hcount)
    | cons next rest =>
      rw [if_pos hs]
      rfl
  · have hmem : s ∉ groups := fun hmem => h ⟨s, rest, hsteps, hmem, hs⟩
    rw [if_neg hs, if_neg hmem]
    rfl

end Reading

theorem SameKeys.column {a b : Json} (h : SameKeys groups a b) {column : String}
    (hcolumn : column ∈ groups) :
    ((a.at? column).getD .null == (b.at? column).getD .null) = true := by
  unfold SameKeys keyValues at h
  rw [List.forall₂_map_left_iff, List.forall₂_map_right_iff, List.forall₂_same] at h
  exact h column hcolumn

/-- What the row of a group holds at any path, and what the rows of the group hold there. The names
of the columns are taken for keys, and their points for steps. -/
structure GroupRow (groups : List String) (rows : List Json) (first g : Json) : Prop where
  count : g.at? countColumn = some (.count (UInt64.ofNat (groupSize groups rows first)))
  readable : ∀ column, Readable groups column →
    (first.object?.isSome = true ∨ '.' ∉ column.toList) →
      (g.at? column).getD .null = (first.at? column).getD .null
  unreadable : ∀ column, ¬ Readable groups column → column ≠ countColumn → g.at? column = none
  members : ∀ row ∈ rows, groupKey groups row = groupKey groups first → ∀ column ∈ groups,
    Readable groups column → (first.object?.isSome = true ∨ '.' ∉ column.toList) →
      ((g.at? column).getD .null == (row.at? column).getD .null) = true

/-- Rows in groups hold the group columns under their names, of the first row of each group and so
of all its rows. A column is read back from there if it leads into a group column: always if it has
no point and not the name of the counter, with a point only by way of another group column. -/
theorem groupRows_columns (hq : q.Reached)
    (hrows : ∀ row ∈ rows, row.Made Json.Number.Stored Json.Unquoted) :
    List.Forall₂ (GroupRow q.groups rows) (firstRows (groupKey q.groups) rows)
      (groupRows q.groups rows) := by
  rw [groupRows, foldl_addToGroup hq.groups_nodup, List.map_map, List.forall₂_map_right_iff,
    List.forall₂_same]
  intro first hfirst
  refine ⟨?_, ?_, ?_, ?_⟩
  · have hplain : '.' ∉ countColumn.toList := by decide
    rw [Json.at?_of_plain hplain]
    exact get?_count_groupFields q.groups first _
  · intro column hread hobject
    exact at?_groupFields_of_readable hread hobject
  · intro column hread hcount
    exact at?_groupFields_of_not_readable hread hcount
  · intro row hrow hkey column hcolumn hread hobject
    have hmade := hrows first ((firstRows_sublist _ rows).subset hfirst)
    have hsame := sameKeys_of_groupKey_eq Json.legible_stored hmade (hrows row hrow) hkey.symm
    rw [Function.comp_apply, at?_groupFields_of_readable hread hobject]
    exact hsame.column hcolumn

end Columns

def homes : List Json :=
  [.object [("owner", .object [("town", .string "Oslo")]), ("rooms", .count 3)],
   .object [("owner", .object [("town", .string "Rome")]), ("rooms", .count 3)],
   .object [("rooms", .count 3), ("owner", .object [("town", .string "Oslo")])]]

def homesBy (columns : List String) : Query :=
  (({} : Query).call (.groupBy (columns.map .column))).1

theorem made_homes : ∀ row ∈ homes, row.Made Json.Number.Stored Json.Unquoted := by
  have howner (town : String) : (Json.object [("town", .string town)]).Made
      Json.Number.Stored Json.Unquoted := .single (by decide) (.string town)
  have hrooms : (Json.count 3).Made Json.Number.Stored Json.Unquoted := .number trivial
  refine List.forall_mem_cons.mpr ⟨?_, List.forall_mem_cons.mpr
    ⟨?_, List.forall_mem_singleton.mpr ?_⟩⟩
  · exact .pair (by decide) (by decide) (by decide) (howner "Oslo") hrooms
  · exact .pair (by decide) (by decide) (by decide) (howner "Rome") hrooms
  · exact .pair (by decide) (by decide) (by decide) hrooms (howner "Oslo")

theorem groupRows_columns_homes : (homesBy ["owner", "owner.town"]).Reached ∧
    List.Forall₂ (GroupRow ["owner", "owner.town"] homes)
      (firstRows (groupKey ["owner", "owner.town"]) homes)
      (groupRows ["owner", "owner.town"] homes) := by
  have hreached : (homesBy ["owner", "owner.town"]).Reached := .call .start _
  exact ⟨hreached, groupRows_columns hreached made_homes⟩

theorem groupRows_ownerTown : (homesBy ["owner.town"]).groups = ["owner.town"] ∧
    groupRows ["owner.town"] homes =
      [.object [("owner.town", .string "Oslo"), ("count", .count 2)],
       .object [("owner.town", .string "Rome"), ("count", .count 1)]] ∧
    (∀ g ∈ groupRows ["owner.town"] homes, g.at? "owner.town" = none) ∧
    ∀ row ∈ homes, row.at? "owner.town" ≠ none := by
  have heq : groupRows ["owner.town"] homes =
      [.object [("owner.town", .string "Oslo"), ("count", .count 2)],
       .object [("owner.town", .string "Rome"), ("count", .count 1)]] := by rfl
  refine ⟨rfl, heq, ?_, ?_⟩
  · rw [heq]
    exact List.forall_mem_cons.mpr ⟨rfl, List.forall_mem_singleton.mpr rfl⟩
  · refine List.forall_mem_cons.mpr ⟨?_, List.forall_mem_cons.mpr
      ⟨?_, List.forall_mem_singleton.mpr ?_⟩⟩
    all_goals
      intro h
      cases h

end RowSearch.Query
