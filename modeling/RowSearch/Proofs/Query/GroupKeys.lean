import RowSearch.Proofs.Json.Canonical
import RowSearch.Query.Rows

/-! # What rows are grouped by

Rows fall into one group if the canonical texts of their values in the group columns agree. So rows
with equal values always do, and where no key holds a quote no others do.
-/
namespace RowSearch

namespace Json
variable {numbers : Number → Prop} {names : String → Prop} {doc v : Json}

theorem Made.get? {key : String} (h : doc.Made numbers names) (hv : doc.get? key = some v) :
    v.Made numbers names := by
  cases h with
  | object _ _ hvalues => exact hvalues _ (Fields.mem_of_get?_eq_some hv)
  | _ => cases hv

theorem Made.step? {step : String} (h : doc.Made numbers names) (hv : doc.step? step = some v) :
    v.Made numbers names := by
  cases h with
  | object _ _ hvalues => exact hvalues _ (Fields.mem_of_get?_eq_some hv)
  | array hitems =>
    obtain ⟨n, _, hn⟩ := Option.bind_eq_some_iff.mp hv
    exact hitems _ (List.mem_of_getElem? hn)
  | _ => cases hv

theorem Made.walk? {steps : List String} (h : doc.Made numbers names)
    (hv : doc.walk? steps = some v) : v.Made numbers names := by
  induction steps generalizing doc with
  | nil =>
    cases hv
    exact h
  | cons s rest ih =>
    obtain ⟨w, hw, hrest⟩ := Option.bind_eq_some_iff.mp hv
    exact ih (h.step? hw) hrest

/-- What a document holds at a path is made of the same. -/
theorem Made.at? {path : String} (h : doc.Made numbers names) (hv : doc.at? path = some v) :
    v.Made numbers names := by
  unfold Json.at? at hv
  split at hv
  · exact h.walk? hv
  · exact h.get? hv

end Json

namespace Query
variable {numbers : Json.Number → Prop} {names : String → Prop} {a b : Json}

def SameKeys (groups : List String) (a b : Json) : Prop :=
  List.Forall₂ (fun v w => (v == w) = true) (keyValues groups a) (keyValues groups b)

theorem made_keyValues (ha : a.Made numbers names) (groups : List String) :
    (Json.array (keyValues groups a)).Made numbers names := by
  constructor
  intro v hv
  obtain ⟨column, _, rfl⟩ := List.mem_map.mp hv
  cases hat : a.at? column with
  | none => exact .null
  | some w => exact ha.at? hat

theorem integer_eq_of_beq {m n : Json.Number} (hm : m.IsInteger) (hn : n.IsInteger)
    (h : (m == n) = true) : m = n := by
  cases m with
  | double d => exact hm.elim
  | integer k hk =>
    cases n with
    | double d => exact hn.elim
    | integer l hl =>
      have hkl : k = l := beq_iff_eq.mp h
      subst hkl
      rfl

theorem sameKeys_of_groupKey_eq (hnumbers : Json.Legible numbers)
    (ha : a.Made numbers Json.Unquoted) (hb : b.Made numbers Json.Unquoted)
    {groups : List String} (h : groupKey groups a = groupKey groups b) : SameKeys groups a b :=
  Json.same_array_iff.mp (Json.same_of_canonical_eq hnumbers (made_keyValues ha groups)
    (made_keyValues hb groups) h)

/-- Over integers equal documents have one text and rows with equal values in the group columns
have one key, and the other way round where no key of an object holds a quote. -/
theorem groupKey_eq_iff (ha : a.Made Json.Number.IsInteger fun _ => True)
    (hb : b.Made Json.Number.IsInteger fun _ => True) :
    ((a == b) = true → a.canonical = b.canonical) ∧
    (∀ groups, SameKeys groups a b → groupKey groups a = groupKey groups b) ∧
    (a.Made Json.Number.IsInteger Json.Unquoted → b.Made Json.Number.IsInteger Json.Unquoted →
      (a.canonical = b.canonical ↔ (a == b) = true) ∧
      ∀ groups, groupKey groups a = groupKey groups b ↔ SameKeys groups a b) := by
  have htext : ∀ {v w : Json}, v.Made Json.Number.IsInteger (fun _ => True) →
      w.Made Json.Number.IsInteger (fun _ => True) → (v == w) = true → v.canonical = w.canonical :=
    fun hv hw h => Json.canonical_eq_of_same (fun _ _ => integer_eq_of_beq) hv hw h
  have hkey (groups : List String) (h : SameKeys groups a b) :
      groupKey groups a = groupKey groups b :=
    htext (made_keyValues ha groups) (made_keyValues hb groups) (Json.same_array_iff.mpr h)
  refine ⟨htext ha hb, hkey, ?_⟩
  intro hplain hplain'
  refine ⟨⟨Json.same_of_canonical_eq Json.legible_isInteger hplain hplain', htext ha hb⟩, ?_⟩
  intro groups
  exact ⟨sameKeys_of_groupKey_eq Json.legible_isInteger hplain hplain', hkey groups⟩

def oldAddress : Json :=
  .object [("address", .object [("town", .string "Oslo\"\x7d,"), ("zip", .count 150)])]

def newAddress : Json :=
  .object [("address", .object [("zip", .count 150), ("town", .string "Oslo\"\x7d,")])]

theorem made_addresses (hkeys : ∀ key ∈ ["address", "town", "zip"], names key) :
    oldAddress.Made Json.Number.IsInteger names ∧ newAddress.Made Json.Number.IsInteger names := by
  have haddress : names "address" := hkeys _ (by decide)
  have htown : names "town" := hkeys _ (by decide)
  have hzip : names "zip" := hkeys _ (by decide)
  have hcode : (Json.count 150).Made Json.Number.IsInteger names := .number trivial
  exact ⟨.single haddress (.pair (by decide) htown hzip (.string _) hcode),
    .single haddress (.pair (by decide) hzip htown hcode (.string _))⟩

theorem groupKey_eq_iff_addresses : oldAddress.canonical = newAddress.canonical ∧
    groupKey ["address"] oldAddress = groupKey ["address"] newAddress ∧
    ∀ groups, groupKey groups oldAddress = groupKey groups newAddress ↔
      SameKeys groups oldAddress newAddress := by
  have hkeys : ∀ key ∈ ["address", "town", "zip"], Json.Unquoted key := by decide
  obtain ⟨hold, hnew⟩ := made_addresses fun key (_ : key ∈ _) => trivial
  obtain ⟨hplain, hplain'⟩ := made_addresses hkeys
  have hsame : (oldAddress == newAddress) = true := by decide
  obtain ⟨htext, hkey, hiff⟩ := groupKey_eq_iff hold hnew
  have haddress : SameKeys ["address"] oldAddress newAddress :=
    Json.same_array_iff.mp (by decide)
  exact ⟨htext hsame, hkey _ haddress, (hiff hplain hplain').2⟩

def quotedRow : Json := .object [("box", .object [("a\":1,\"b", .count 2)])]

def pairRow : Json := .object [("box", .object [("a", .count 1), ("b", .count 2)])]

theorem groupKey_quotedRow :
    quotedRow.Made Json.Number.IsInteger (fun _ => True) ∧
    pairRow.Made Json.Number.IsInteger (fun _ => True) ∧
    quotedRow.canonical = pairRow.canonical ∧ (quotedRow == pairRow) = false ∧
    groupKey ["box"] quotedRow = groupKey ["box"] pairRow ∧
    ¬ SameKeys ["box"] quotedRow pairRow := by
  have hquoted : Json.canonical (.object [("a\":1,\"b", .count 2)]) =
      "\x7b\"a\":1,\"b\":2\x7d".toList := by
    rw [Json.canonical, Json.sortByKey_of_pairwise (by decide)]
    rfl
  have hpair : Json.canonical (.object [("a", .count 1), ("b", .count 2)]) =
      "\x7b\"a\":1,\"b\":2\x7d".toList := by
    rw [Json.canonical, Json.sortByKey_of_pairwise (by decide)]
    rfl
  have hrow {v w : Json} (h : v.canonical = w.canonical) :
      (Json.object [("box", v)]).canonical = (Json.object [("box", w)]).canonical := by
    simp only [Json.canonical, Json.canonicalFields, h]
  have hkey {v w : Json} (h : v.canonical = w.canonical) :
      (Json.array [v]).canonical = (Json.array [w]).canonical := by
    simp only [Json.canonical, Json.canonicalItems, h]
  refine ⟨?_, ?_, hrow (hquoted.trans hpair.symm), rfl, hkey (hquoted.trans hpair.symm), ?_⟩
  · exact .single trivial (.single trivial (.number trivial))
  · exact .single trivial (.pair (by decide) trivial trivial (.number trivial) (.number trivial))
  · intro h
    have hsame := Json.same_array_iff.mpr h
    exact absurd hsame (by decide)

end Query
end RowSearch
