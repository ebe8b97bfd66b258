import RowSearch.Proofs.Double.Rounding
import RowSearch.Proofs.Query.Calls
import RowSearch.Proofs.Query.Matching
import RowSearch.Proofs.Query.Runs
import RowSearch.Proofs.Raw.ThreeValued
import RowSearch.Proofs.Raw.Writing

/-! # Integers in tests

Numbers are compared as doubles, also where both are integers. So two integers are told apart unless
they round to one double: an order is never turned round, but different integers beyond `2 ^ 53` can
count as equal. Tests on integers that are told apart select as the arithmetic of integers has it.
-/
namespace RowSearch
open Double (nearest)

namespace Json

abbrev Integer := { n : Int // IntegerRange n }

def ofInteger (n : Integer) : Json := .number (.integer n.1 n.2)

variable {a b : Integer}

/-- Different integers that round to one double are not told apart. -/
def Integer.ToldFrom (a b : Integer) : Prop := a = b ∨ nearest a ≠ nearest b

theorem compare?_ofInteger (a b : Integer) :
    (ofInteger a).compare? (ofInteger b) = some (Ord.compare (nearest a) (nearest b)) :=
  congrArg some (Double.compare_ofInt a.1 b.1)

theorem compare?_ofInteger_iff :
    (ofInteger a).compare? (ofInteger b) = some (Ord.compare a.1 b.1) ↔ a.ToldFrom b := by
  rw [compare?_ofInteger, Option.some_inj, Double.compare_nearest_iff, Integer.ToldFrom,
    Subtype.ext_iff]

theorem alike_ofInteger : (ofInteger a).alike (ofInteger b) = true ↔ nearest a = nearest b := by
  rw [alike_eq_of_compare? (compare?_ofInteger a b), beq_iff_eq, Int.compare_eq_eq]

theorem alike_ofInteger_iff :
    ((ofInteger a).alike (ofInteger b) = true ↔ a = b) ↔ a.ToldFrom b := by
  rw [alike_ofInteger, Integer.ToldFrom]
  constructor
  · intro h
    by_cases hab : a = b
    · exact .inl hab
    · exact .inr (mt h.mp hab)
  · rintro (rfl | hne)
    · simp
    · exact iff_of_false hne fun hab => hne (congrArg (fun n : Integer => nearest n) hab)

theorem compare?_ofInteger_ne_gt (h : a.1 ≤ b.1) :
    (ofInteger a).compare? (ofInteger b) ≠ some .gt := by
  rw [compare?_ofInteger, Ne, Option.some_inj, Int.compare_eq_gt]
  exact Int.not_lt.mpr (Double.nearest_mono h)

theorem Integer.toldFrom_of_small (ha : a.1.natAbs ≤ twoPow 53) (hb : b.1.natAbs ≤ twoPow 53) :
    a.ToldFrom b := by
  rw [ToldFrom, Double.nearest_eq_self ha, Double.nearest_eq_self hb, Subtype.ext_iff]
  exact Decidable.em _

theorem Integer.unit_le (a : Integer) : Double.unit a.1.natAbs ≤ 2048 := by
  have hrange := a.2
  have hword : twoPow (11 + 53) = 18446744073709551616 := rfl
  have hlt : a.1.natAbs < twoPow (11 + 53) := by
    rw [IntegerRange] at hrange
    omega
  exact Double.unit_le hlt

theorem Integer.toldFrom_of_far (h : 2048 < (a.1 - b.1).natAbs) : a.ToldFrom b :=
  .inr (Double.nearest_ne a.unit_le b.unit_le h)

end Json

open Json (Integer ofInteger)

section Tests
variable {a b : Integer}

theorem Raw.Sign.holds_integers (s : Sign) (h : a.ToldFrom b) :
    s.comparator.holds (some (ofInteger a)) (ofInteger b) =
      .ok (s.accepts (Ord.compare a.1 b.1)) := by
  have hcompare := Json.compare?_ofInteger_iff.mpr h
  have hsome : ∀ v ∈ Json.present (some (ofInteger a)), ∀ w ∈ Json.present (some (ofInteger b)),
      (v.compare? w).isSome = true := by
    rintro _ ⟨⟩ _ ⟨⟩
    exact Option.isSome_of_eq_some hcompare
  rw [s.holds_eq hsome]
  show Except.ok (Truth.isYes (Relation.truth (ofInteger a) (ofInteger b) (.sign s))) = _
  rw [Relation.truth, hcompare, Truth.isYes_ofBool]

theorem Comparator.listTest_integers {values : List Integer} (negated : Bool)
    (h : ∀ b ∈ values, a.ToldFrom b) :
    listTest negated (some (ofInteger a)) (values.map ofInteger) =
      (decide (a ∈ values) != negated) := by
  have hlist : (values.map ofInteger).any ((ofInteger a).alike ·) = decide (a ∈ values) := by
    rw [Bool.eq_iff_iff, List.any_map, List.any_eq_true, decide_eq_true_eq]
    constructor
    · rintro ⟨b, hb, halike⟩
      rwa [(Json.alike_ofInteger_iff.mpr (h b hb)).mp halike]
    · intro ha
      exact ⟨a, ha, Json.alike_ofInteger.mpr rfl⟩
  show (true && (values.map ofInteger).any _ != negated) = _
  rw [hlist, Bool.true_and]

end Tests

def Raw.Operand.Reads (rows : List Json) (o : Operand) (x : Json → Integer) : Prop :=
  ∀ row ∈ rows, o.value? row = some (ofInteger (x row))

/-- A query of one call alone finds the rows that pass a test. -/
def Call.Selects (c : Call) (rows : List Json) (test : Json → Bool) : Prop :=
  ∃ q, Query.ofCalls [c] = .ok q ∧ q.fetch rows = .ok (rows.filter test)

section Selections
variable {rows : List Json} {join : Connective} {x : Json → Integer}

theorem Call.selects_of_holds {c : Call} {p : Predicate} {test : Json → Bool}
    (hc : c.constrains = true) (hp : c.clauses = .ok [(join, p)])
    (h : ∀ row ∈ rows, p.holds row = .ok (test row)) : c.Selects rows test := by
  have hcalls : ∀ d ∈ [c], d.constrains = true := by
    intro d hd
    rwa [List.mem_singleton.mp hd]
  have hclauses : clausesOf [c] = .ok [(join, p)] :=
    clausesOf_cons_ok.mpr ⟨_, [], hp, rfl, rfl⟩
  refine ⟨_, Query.ofCalls_of_clausesOf hcalls hclauses, ?_⟩
  rw [Query.fetch_of_wheres]
  apply Query.keep_eq_filter
  intro row hrow
  rw [clausesHold_singleton]
  exact h row hrow

theorem Call.raw_selects {fragment : Fragment} {e : Raw.Expr} {test : Json → Bool}
    (hf : Raw.parse fragment = .ok e) (h : ∀ row ∈ rows, e.holds row = .ok (test row)) :
    (Call.raw join fragment).Selects rows test := by
  have hclauses : (Call.raw join fragment).clauses = .ok [(join, .raw e)] := by
    rw [clauses, hf]
    rfl
  exact selects_of_holds rfl hclauses h

theorem Raw.values_of_reads {items : List Operand} {ys : List (Json → Integer)} {row : Json}
    (hrow : row ∈ rows) (h : List.Forall₂ (Operand.Reads rows) items ys) :
    items.filterMap (·.value? row) = (ys.map (· row)).map ofInteger := by
  induction h with
  | nil => rfl
  | cons hitem _ ih =>
    rw [List.filterMap_cons, hitem row hrow, ih]
    rfl

theorem Raw.Expr.compare_integers {left right : Operand} {y : Json → Integer} {row : Json}
    (s : Sign) (hleft : left.Reads rows x) (hright : right.Reads rows y) (hrow : row ∈ rows)
    (h : (x row).ToldFrom (y row)) : (Expr.compare left (.sign s) right).holds row =
      .ok (s.accepts (Ord.compare (x row).1 (y row).1)) := by
  rw [holds_compare, hleft row hrow, hright row hrow]
  exact s.holds_integers h

theorem Raw.Expr.oneOf_integers {left : Operand} {items : List Operand}
    {ys : List (Json → Integer)} {row : Json} (negated : Bool) (hleft : left.Reads rows x)
    (hitems : List.Forall₂ (Operand.Reads rows) items ys) (hrow : row ∈ rows)
    (h : ∀ y ∈ ys, (x row).ToldFrom (y row)) : (Expr.oneOf left items negated).holds row =
      .ok (decide (x row ∈ ys.map (· row)) != negated) := by
  rw [holds, hleft row hrow, values_of_reads hrow hitems]
  refine congrArg Except.ok (Comparator.listTest_integers negated fun b hb => ?_)
  obtain ⟨y, hy, rfl⟩ := List.mem_map.mp hb
  exact h y hy

theorem Call.compare_selects {field : String} {comparison : Comparison} {s : Raw.Sign}
    {b : Integer} (hs : Comparator.ofText? comparison.sql = .ok s.comparator)
    (hfield : (Raw.Operand.column field).Reads rows x) (h : ∀ row ∈ rows, (x row).ToldFrom b) :
    (Call.compare join field comparison (ofInteger b)).Selects rows
      fun row => s.accepts (Ord.compare (x row).1 b.1) := by
  have hclauses : (Call.compare join field comparison (ofInteger b)).clauses =
      .ok [(join, .compare field s.comparator (ofInteger b))] := by
    rw [clauses, hs]
    rfl
  refine selects_of_holds rfl hclauses fun row hrow => ?_
  rw [Predicate.holds, show row.at? field = _ from hfield row hrow]
  exact s.holds_integers (h row hrow)

theorem Predicate.listed_integers {field : String} {values : List Integer} {row : Json}
    (negated : Bool) (hfield : (Raw.Operand.column field).Reads rows x) (hrow : row ∈ rows)
    (h : ∀ b ∈ values, (x row).ToldFrom b) :
    (Predicate.listed field (values.map ofInteger) negated).holds row =
      .ok (decide (x row ∈ values) != negated) := by
  rw [holds, show row.at? field = _ from hfield row hrow, Comparator.listTest_integers negated h]

end Selections

/-- Integers are compared by the doubles nearest to them, and this is their own order and equality
exactly where the doubles tell them apart, as they do up to `2 ^ 53` and where the integers are far
enough from each other. On integers that are told apart the calls of a query that compare a column
or look it up in a list, and their raw forms between columns and values, find the rows that the
arithmetic of integers has them find. -/
theorem Call.selects_integers (rows : List Json) (join : Connective) :
    (∀ a b : Integer,
      (ofInteger a).compare? (ofInteger b) = some (Ord.compare (nearest a) (nearest b)) ∧
      ((ofInteger a).compare? (ofInteger b) = some (Ord.compare a.1 b.1) ↔ a.ToldFrom b) ∧
      (((ofInteger a).alike (ofInteger b) = true ↔ a = b) ↔ a.ToldFrom b) ∧
      (a.1 ≤ b.1 → (ofInteger a).compare? (ofInteger b) ≠ some .gt) ∧
      (a.1.natAbs ≤ twoPow 53 ∧ b.1.natAbs ≤ twoPow 53 ∨ 2048 < (a.1 - b.1).natAbs → a.ToldFrom b)) ∧
    (∀ field x, (Raw.Operand.column field).Reads rows x →
      (∀ comparison (s : Raw.Sign) b, Comparator.ofText? comparison.sql = .ok s.comparator →
        (∀ row ∈ rows, (x row).ToldFrom b) →
          (Call.compare join field comparison (ofInteger b)).Selects rows
            fun row => s.accepts (Ord.compare (x row).1 b.1)) ∧
      ∀ values : List Integer, (∀ row ∈ rows, ∀ b ∈ values, (x row).ToldFrom b) →
        (Call.oneOf join field (values.map ofInteger)).Selects rows
          (fun row => decide (x row ∈ values)) ∧
        (Call.noneOf join field (values.map ofInteger)).Selects rows
          fun row => !decide (x row ∈ values)) ∧
    (∀ fragment left x, left.Reads rows x →
      (∀ (s : Raw.Sign) right y, Raw.parse fragment = .ok (.compare left (.sign s) right) →
        right.Reads rows y → (∀ row ∈ rows, (x row).ToldFrom (y row)) →
          (Call.raw join fragment).Selects rows
            fun row => s.accepts (Ord.compare (x row).1 (y row).1)) ∧
      ∀ items negated ys, Raw.parse fragment = .ok (.oneOf left items negated) →
        List.Forall₂ (Raw.Operand.Reads rows) items ys →
        (∀ row ∈ rows, ∀ y ∈ ys, (x row).ToldFrom (y row)) →
          (Call.raw join fragment).Selects rows
            fun row => decide (x row ∈ ys.map (· row)) != negated) := by
  refine ⟨fun a b => ⟨Json.compare?_ofInteger a b, Json.compare?_ofInteger_iff,
    Json.alike_ofInteger_iff, Json.compare?_ofInteger_ne_gt, ?_⟩, fun field x hfield => ⟨?_, ?_⟩,
    fun fragment left x hleft => ⟨?_, ?_⟩⟩
  · rintro (⟨ha, hb⟩ | hfar)
    · exact Integer.toldFrom_of_small ha hb
    · exact Integer.toldFrom_of_far hfar
  · intro comparison s b hs h
    exact compare_selects hs hfield h
  · intro values h
    constructor
    · refine selects_of_holds rfl rfl fun row hrow => ?_
      rw [Predicate.listed_integers false hfield hrow (h row hrow), Bool.bne_false]
    · refine selects_of_holds rfl rfl fun row hrow => ?_
      rw [Predicate.listed_integers true hfield hrow (h row hrow), Bool.bne_true]
  · intro s right y hf hright h
    exact raw_selects hf fun row hrow => Raw.Expr.compare_integers s hleft hright hrow (h row hrow)
  · intro items negated ys hf hitems h
    exact raw_selects hf fun row hrow =>
      Raw.Expr.oneOf_integers negated hleft hitems hrow (h row hrow)

def idRows (ids : List Integer) : List Json :=
  ids.map fun id => .object [("id", ofInteger id)]

def rowId (row : Json) : Integer :=
  match row.get? "id" with
  | some (.number (.integer n h)) => ⟨n, h⟩
  | _ => ⟨0, by decide⟩

theorem reads_idRows (ids : List Integer) : (Raw.Operand.column "id").Reads (idRows ids) rowId := by
  intro row hrow
  obtain ⟨id, _, rfl⟩ := List.mem_map.mp hrow
  rfl

def oddId : Integer := ⟨9007199254740993, by decide⟩
def evenId : Integer := ⟨9007199254740992, by decide⟩
def wordId : Integer := ⟨18446744073709551615, by decide⟩
def lowId : Integer := ⟨-9223372036854775808, by decide⟩

theorem Call.selects_integers_wide :
    (Raw.Operand.column "id").Reads (idRows [lowId, evenId, wordId]) rowId ∧
    (∀ row ∈ idRows [lowId, evenId, wordId], (rowId row).ToldFrom evenId) ∧
    (Call.compare .and "id" .gt (ofInteger evenId)).Selects (idRows [lowId, evenId, wordId])
      (fun row => Raw.Sign.greater.accepts (Ord.compare (rowId row).1 evenId.1)) ∧
    (idRows [lowId, evenId, wordId]).filter
      (fun row => Raw.Sign.greater.accepts (Ord.compare (rowId row).1 evenId.1)) =
        idRows [wordId] := by
  obtain ⟨hpairs, hcalls, _⟩ := selects_integers (idRows [lowId, evenId, wordId]) .and
  have hfar : ∀ id ∈ [lowId, evenId, wordId],
      id = evenId ∨ 2048 < (id.1 - evenId.1).natAbs := by decide
  have hreads := reads_idRows [lowId, evenId, wordId]
  have htold : ∀ row ∈ idRows [lowId, evenId, wordId], (rowId row).ToldFrom evenId := by
    intro row hrow
    obtain ⟨id, hid, rfl⟩ := List.mem_map.mp hrow
    rcases hfar id hid with heq | hfar
    · exact .inl heq
    · exact (hpairs id evenId).2.2.2.2 (.inr hfar)
  exact ⟨hreads, htold, (hcalls "id" rowId hreads).1 .gt .greater evenId rfl htold, rfl⟩

/-- Two neighbours beyond `2 ^ 53` count as equal, and a query for one of them finds both. -/
theorem Call.selects_neighbours :
    evenId ≠ oddId ∧ (ofInteger evenId).compare? (ofInteger oddId) = some .eq ∧
    (ofInteger evenId).alike (ofInteger oddId) = true ∧
    (Call.compare .and "id" .eq (ofInteger oddId)).Selects (idRows [evenId, oddId])
      (fun _ => true) ∧
    (Call.raw .and ⟨"id = ?", [ofInteger oddId]⟩).Selects (idRows [evenId, oddId])
      (fun _ => true) := by
  have hnearest : ∀ id ∈ [evenId, oddId], nearest id = nearest oddId := by decide
  have hholds : ∀ row ∈ idRows [evenId, oddId],
      Comparator.eq.holds (row.at? "id") (ofInteger oddId) = .ok true := by
    intro row hrow
    obtain ⟨id, hid, rfl⟩ := List.mem_map.mp hrow
    have halike := Json.alike_ofInteger.mpr (hnearest id hid)
    show Except.ok ((ofInteger id).alike (ofInteger oddId) == true) = _
    rw [halike]
    rfl
  have hid : (Raw.Operand.column "id").Spelled (.word "id") [] := .column (by decide)
  have hparse := (Raw.Expr.Spelled.run (.link (.test
    (.compare hid (.sign .equal) (.placeholder (ofInteger oddId)))))).parse_textOf
  rw [if_pos (by decide)] at hparse
  have heven := hnearest evenId List.mem_cons_self
  refine ⟨by decide, ?_, Json.alike_ofInteger.mpr heven, ?_, ?_⟩
  · rw [Json.compare?_ofInteger, heven, Int.compare_eq_eq.mpr rfl]
  · exact selects_of_holds rfl rfl hholds
  · exact raw_selects hparse hholds

end RowSearch
