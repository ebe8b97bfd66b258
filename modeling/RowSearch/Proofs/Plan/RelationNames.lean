import RowSearch.Proofs.Plan.Relations
import RowSearch.Proofs.Search.Paging
import RowSearch.Proofs.Text.CamelCase

/-! # Relations stored in snake case

A plan asks for a relation in camel case, and a row is searched for that key and then for the
snake case of it. A row that stores the relation under its own name in snake case is found where
the name comes back from camel case. Where words of the name grow together, the second key is
another name than the one the row has.
-/
namespace RowSearch

def Json.records : Json → List Json
  | .object fields => [.object fields]
  | .array items => items
  | _ => []

theorem relatedRecords_eq {row : Json} {relation : String} :
    relatedRecords row relation = ((related? row relation).map Json.records).getD [] := by
  rw [relatedRecords]
  cases related? row relation with
  | none => rfl
  | some v => cases v <;> rfl

theorem related?_of_snakeCase {row v : Json} {relation : String}
    (h : Text.snakeCase (Text.lowerCamelCase relation) = relation)
    (hstored : row.get? relation = some v)
    (hcamel : row.get? (Text.lowerCamelCase relation) = none) :
    related? row (Text.lowerCamelCase relation) = some v := by
  rw [related?, hcamel, h, hstored, Option.none_or]

namespace Plan

/-- The relation that a plan follows for a name in snake case. Where the words of the name come
apart in camel case, every row that stores the relation under its own name and not in camel case
is found to store just that. Where they grow together, a row that stores nothing else is found to
store nothing. -/
theorem relationCall_snakeName {r : String} (h : Text.SnakeName r) (body : List Call)
    (rest : List String) :
    ∃ name inner, relationCall body r rest = .has name inner ∧
      (Text.ComesApart (Text.snakeWords r).tail → ∀ row v : Json,
        row.get? r = some v → row.get? (Text.lowerCamelCase r) = none →
        related? row name = some v ∧ relatedRecords row name = v.records) ∧
      (¬ Text.ComesApart (Text.snakeWords r).tail → ∀ v : Json,
        Json.get? (Text.lowerCamelCase r) (.object [(r, v)]) = none ∧
        related? (.object [(r, v)]) name = none ∧ relatedRecords (.object [(r, v)]) name = []) := by
  obtain ⟨inner, hcall⟩ := relationCall_has body r rest
  refine ⟨_, inner, hcall, ?_, ?_⟩
  · intro hapart row v hstored hcamel
    have hback := h.snakeCase_lowerCamelCase_iff.mpr hapart
    have hrelated := related?_of_snakeCase hback hstored hcamel
    rw [relatedRecords_eq, hrelated]
    exact ⟨rfl, rfl⟩
  · intro hgrown v
    have hsnake := mt h.snakeCase_lowerCamelCase_iff.mp hgrown
    have hother {key : String} (hkey : key ≠ r) : Json.get? key (.object [(r, v)]) = none := by
      rw [Json.get?, Fields.get?, if_neg (Ne.symm hkey)]
      rfl
    have hcamel := hother (h.lowerCamelCase_ne hgrown)
    have hnone : related? (.object [(r, v)]) (Text.lowerCamelCase r) = none := by
      rw [related?, hcamel, hother hsnake, Option.none_or]
    rw [relatedRecords_eq, hnone]
    exact ⟨hcamel, rfl, rfl⟩

def gridRow : Json :=
  .object [("id", .count 1), ("x_axis2_label", .array [.object [("text", .string "km")], .null])]

theorem relationCall_snakeName_grid :
    Text.SnakeName "x_axis2_label" ∧ ∃ name inner,
      relationCall [.isNull .and "text"] "x_axis2_label" [] = .has name inner ∧
      relatedRecords gridRow name = [.object [("text", .string "km")], .null] := by
  have h : Text.SnakeName "x_axis2_label" := .of_ascii (by decide +kernel) (by decide +kernel)
  obtain ⟨name, inner, hcall, hfound, _⟩ := relationCall_snakeName h [.isNull .and "text"] []
  obtain ⟨_, hrecords⟩ := hfound (by decide +kernel) gridRow _ rfl (by decide +kernel)
  exact ⟨h, name, inner, hcall, hrecords⟩

def shops : Table :=
  .ofRows "shop" [.object [("id", .count 1), ("line_2", .object [("city", .string "Oslo")])]]

def lineSearch : Request := { wheres := [.keyed "line_2$city" (.string "Oslo")] }

/-- The camel case of the relation is `line2`, whose snake case is no key of the row. -/
theorem run_line2 :
    Text.SnakeName "line_2" ∧
    (∀ row ∈ shops.rows,
      row.get? "line_2" = some (.object [("city", .string "Oslo")]) ∧
      row.get? (Text.lowerCamelCase "line_2") = none ∧
      related? row (Text.lowerCamelCase "line_2") = none) ∧
    Search.run {} [] shops lineSearch {} = .ok (.rows []) := by
  refine ⟨.of_ascii (by decide +kernel) (by decide +kernel), ?_, ?_⟩
  · refine List.forall_mem_singleton.mpr ⟨rfl, ?_, ?_⟩
    · exact Option.isNone_iff_eq_none.mp (by decide +kernel)
    · exact Option.isNone_iff_eq_none.mp (by decide +kernel)
  · have hnone : ((Search.matching [] shops lineSearch).toOption.map List.length) = some 0 := by
      decide +kernel
    rw [Search.run_of_no_page rfl rfl, Search.run_unpaged]
    cases hfound : Search.matching [] shops lineSearch with
    | error e => simp [hfound, Except.toOption] at hnone
    | ok found =>
      rw [hfound] at hnone
      rw [List.eq_nil_of_length_eq_zero (Option.some.inj hnone)]
      rfl

end Plan
end RowSearch
