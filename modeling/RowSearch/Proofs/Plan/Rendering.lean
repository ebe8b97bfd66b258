import RowSearch.Proofs.Plan.Parts
import RowSearch.Proofs.Query.Matching

/-! # Conditions as one raw expression

The calls that constrain a query, written as one expression: comparisons with placeholders for
their values, groups in parentheses, joined as the calls are. A group that asks nothing leaves no
trace, its connective included. The query of the calls and the query of the expression keep the
same rows and fail on the same rows.
-/
namespace RowSearch

open Raw Plan

/-- An operator as it is written: its own text, or its spelling where this goes beyond ASCII. -/
def Comparison.written (c : Comparison) : Comparison :=
  if Ascii c.sql then c
  else .verbatim (Comparator.normalSpelling c.sql)

/-- The fragments joined, the connective of the first one left out. -/
def joined? : List (Connective × Fragment) → Option Fragment
  | [] => none
  | (_, first) :: rest => some (joined first rest)

def enclosed (f : Fragment) : Fragment := ⟨s!"({f.sql})", f.bindings⟩

mutual

def Call.part? : Call → Option (Connective × Fragment)
  | .compare join field c v => some (join, partFragment field (.compare c.written, v))
  | .oneOf join field values => some (join, partFragment field (.oneOf, .array values))
  | .noneOf join field values => some (join, partFragment field (.noneOf, .array values))
  | .isNull join field => some (join, partFragment field (.isNull, .null))
  | .notNull join field => some (join, partFragment field (.notNull, .null))
  | .group join body => (joined? (bodyParts body)).map fun f => (join, enclosed f)
  | _ => none

def bodyParts : List Call → List (Connective × Fragment)
  | [] => []
  | c :: cs => c.part?.toList ++ bodyParts cs

end

/-- The calls as one expression; none where they ask nothing. -/
def rendered? (calls : List Call) : Option Fragment := joined? (bodyParts calls)

mutual

/-- A test of a plain column that rows can answer, or a group of such calls. -/
def Call.Renderable : Call → Prop
  | .compare _ field c _ => PlainName field ∧ ∃ k, Comparator.ofText? c.sql = .ok k
  | .oneOf _ field values | .noneOf _ field values => PlainName field ∧ values ≠ []
  | .isNull _ field | .notNull _ field => PlainName field
  | .group _ body => AllRenderable body
  | _ => False

def AllRenderable : List Call → Prop
  | [] => True
  | c :: cs => c.Renderable ∧ AllRenderable cs

end

mutual

def Call.depth : Call → Nat
  | .group _ body => bodyDepth body + 1
  | _ => 0

def bodyDepth : List Call → Nat
  | [] => 0
  | c :: cs => max c.depth (bodyDepth cs)

end

theorem Call.Renderable.constrains {c : Call} (h : c.Renderable) : c.constrains = true := by
  cases c with
  | compare | oneOf | noneOf | isNull | notNull | group => rfl
  | _ => exact h.elim

theorem AllRenderable.constrain {calls : List Call} (h : AllRenderable calls) :
    ∀ c ∈ calls, c.constrains = true := by
  induction calls with
  | nil => exact List.forall_mem_nil _
  | cons c calls ih => exact List.forall_mem_cons.mpr ⟨h.1.constrains, ih h.2⟩

def Renders (n : Nat) (part : Connective × Fragment) (clause : Clause) : Prop :=
  part.1 = clause.1 ∧ ∃ e, ReadsAs n part.2 e ∧ StandsFor e clause.2

theorem exists_tests {n : Nat} {parts : List (Connective × Fragment)} {clauses : List Clause}
    (h : List.Forall₂ (Renders n) parts clauses) :
    ∃ tests : List (Connective × Expr),
      List.Forall₂ (PartReads n) parts tests ∧ List.Forall₂ TestStands tests clauses := by
  induction h with
  | nil => exact ⟨[], .nil, .nil⟩
  | @cons part clause _ _ hpart _ ih =>
    obtain ⟨hjoin, e, hreads, hstands⟩ := hpart
    obtain ⟨tests, hread, hstand⟩ := ih
    exact ⟨(part.1, e) :: tests, .cons ⟨rfl, hreads⟩ hread, .cons ⟨hjoin, hstands⟩ hstand⟩

/-- Parts joined in parentheses are read as one test, which answers as the clauses do. -/
theorem enclosed_readsAs {n : Nat} {first : Fragment} {parts : List (Connective × Fragment)}
    {join : Connective} {clause : Clause} {clauses : List Clause}
    (h : List.Forall₂ (Renders n) ((join, first) :: parts) (clause :: clauses)) :
    ∃ e, ReadsAs (n + 1) (enclosed (joined first parts)) e ∧
      StandsFor e (.group (clause :: clauses)) := by
  obtain ⟨⟨hjoin, e, hreads, hstands⟩, hrest⟩ := List.forall₂_cons.mp h
  obtain ⟨tests, hread, hstand⟩ := exists_tests hrest
  obtain ⟨us, m, hm, hlex, hspelled⟩ := joined_spelled hreads hread
  refine ⟨joinTests none e tests, ⟨_, m + 1, Nat.succ_le_succ hm, ?_, .group hspelled⟩, ?_⟩
  · have htext : (enclosed (joined first parts)).sql.toList =
        '(' :: ((joined first parts).sql.toList ++ ')' :: []) := by
      simp [enclosed, toString]
    rw [htext]
    exact .opening (hlex.append (by decide) (.closing .nil))
  · intro row
    rw [holds_joined hstands hstand, Predicate.holds]

/-- What is written of an operator means what the operator means, and is ASCII. -/
theorem Comparison.written_spec {c : Comparison} {k : Comparator}
    (h : Comparator.ofText? c.sql = .ok k) :
    Comparator.ofText? c.written.sql = .ok k ∧ Ascii c.written.sql := by
  rw [written]
  split
  · next hascii => exact ⟨h, hascii⟩
  · obtain ⟨r, hr, hk⟩ := Comparator.ofText?_eq_ok_iff.mp h
    rw [Relation.ofText?_eq_some_iff.mp hr, Comparison.sql]
    have htext : Comparator.normalSpelling r.text = r.text ∧ Ascii r.text := by
      cases r with
      | sign s => cases s <;> decide
      | like negated ignoreCase => cases negated <;> cases ignoreCase <;> decide
    have hread := Relation.ofText?_eq_some_iff.mpr htext.1
    exact ⟨Comparator.ofText?_eq_ok_iff.mpr ⟨r, hread, hk⟩, htext.2⟩

/-- The part of a comparison is read as a test that stands for the clause of its call. -/
theorem partFragment_renders {column : String} (hcolumn : PlainName column)
    {c : Operator × Json} (haccepts : c.1.accepts c.2 = true) (hascii : AsciiOperator c)
    (hc : ∀ comparison, c.1 = .compare comparison → ∃ k, Comparator.ofText? comparison.sql = .ok k)
    (join : Connective) (n : Nat) :
    ∃ p : Predicate, (comparisonCall join column c.1 c.2).clauses = .ok [(join, p)] ∧
      Renders n (join, partFragment column c) (join, p) := by
  obtain ⟨e, he⟩ : ∃ e, partTest? column c = some e := exists_partTest? hc
  obtain ⟨p, hp, hstands⟩ := partTest?_clauses he join
  have hreads := (partFragment_readsAs hcolumn haccepts hascii he).mono n.zero_le
  exact ⟨p, hp, rfl, e, hreads, hstands⟩

theorem accepts_array {operator : Operator} (h : operator = .oneOf ∨ operator = .noneOf)
    {values : List Json} (hne : values ≠ []) : operator.accepts (.array values) = true := by
  cases values with
  | nil => exact absurd rfl hne
  | cons v values => rcases h with rfl | rfl <;> rfl

mutual

/-- What a call adds, if anything, is what its part is read as. -/
theorem Call.part?_renders {n : Nat} : ∀ c : Call, c.Renderable → c.depth ≤ n →
    ∃ clauses, c.clauses = .ok clauses ∧ List.Forall₂ (Renders n) c.part?.toList clauses
  | .compare join field c v, h, _ => by
    obtain ⟨hfield, k, hk⟩ := h
    obtain ⟨hwritten, hascii⟩ := Comparison.written_spec hk
    obtain ⟨p, hp, hrenders⟩ := partFragment_renders hfield (c := (.compare c.written, v)) rfl
      (fun _ h => Operator.compare.inj h ▸ hascii)
      (fun _ h => Operator.compare.inj h ▸ ⟨k, hwritten⟩) join n
    refine ⟨[(join, p)], ?_, .cons hrenders .nil⟩
    rw [← hp, comparisonCall, Call.clauses, Call.clauses, hk, hwritten]
  | .oneOf join field values, h, _ => by
    obtain ⟨hfield, hne⟩ := h
    obtain ⟨p, hp, hrenders⟩ := partFragment_renders hfield (c := (.oneOf, .array values))
      (accepts_array (.inl rfl) hne) (fun _ h => nomatch h) (fun _ h => nomatch h) join n
    exact ⟨[(join, p)], hp, .cons hrenders .nil⟩
  | .noneOf join field values, h, _ => by
    obtain ⟨hfield, hne⟩ := h
    obtain ⟨p, hp, hrenders⟩ := partFragment_renders hfield (c := (.noneOf, .array values))
      (accepts_array (.inr rfl) hne) (fun _ h => nomatch h) (fun _ h => nomatch h) join n
    exact ⟨[(join, p)], hp, .cons hrenders .nil⟩
  | .isNull join field, h, _ => by
    obtain ⟨p, hp, hrenders⟩ := partFragment_renders h (c := (.isNull, .null)) rfl
      (fun _ h => nomatch h) (fun _ h => nomatch h) join n
    exact ⟨[(join, p)], hp, .cons hrenders .nil⟩
  | .notNull join field, h, _ => by
    obtain ⟨p, hp, hrenders⟩ := partFragment_renders h (c := (.notNull, .null)) rfl
      (fun _ h => nomatch h) (fun _ h => nomatch h) join n
    exact ⟨[(join, p)], hp, .cons hrenders .nil⟩
  | .group join body, h, hdepth => by
    obtain ⟨m, rfl⟩ := Nat.exists_eq_add_of_le' (Nat.one_le_of_lt hdepth)
    obtain ⟨clauses, hclauses, hparts⟩ := bodyParts_renders body h (Nat.le_of_succ_le_succ hdepth)
    rw [Call.clauses, Call.part?, Query.ofCalls_of_clausesOf (AllRenderable.constrain h) hclauses]
    generalize bodyParts body = parts at hparts
    -- A body that has no parts adds no clauses, and then the group adds none.
    cases hparts with
    | nil => exact ⟨[], rfl, .nil⟩
    | @cons part clause parts clauses hpart hrest =>
      obtain ⟨e, hreads, hstands⟩ := enclosed_readsAs (.cons hpart hrest)
      exact ⟨[(join, .group (clause :: clauses))], rfl, .cons ⟨rfl, e, hreads, hstands⟩ .nil⟩
  | .has .., h, _ | .raw .., h, _ | .orderBy .., h, _ | .orderByRaw .., h, _ | .groupBy .., h, _
  | .havingRaw .., h, _ | .skip .., h, _ | .take .., h, _ | .refuse .., h, _ => h.elim

theorem bodyParts_renders {n : Nat} : ∀ calls : List Call, AllRenderable calls →
    bodyDepth calls ≤ n → ∃ clauses, clausesOf calls = .ok clauses ∧
      List.Forall₂ (Renders n) (bodyParts calls) clauses
  | [], _, _ => ⟨[], rfl, .nil⟩
  | c :: cs, h, hdepth => by
    obtain ⟨hc, hcs⟩ := Nat.max_le.mp hdepth
    obtain ⟨first, hfirst, hparts⟩ := Call.part?_renders c h.1 hc
    obtain ⟨rest, hrest, hlater⟩ := bodyParts_renders cs h.2 hcs
    exact ⟨first ++ rest, clausesOf_cons_ok.mpr ⟨first, rest, hfirst, hrest, rfl⟩,
      List.rel_append hparts hlater⟩

end

/-- The query of calls and the query of their expression keep the same rows and fail on the same
rows. -/
theorem Query.ofCalls_rendered {calls : List Call} (h : AllRenderable calls)
    (hdepth : bodyDepth calls ≤ nestingLimit) (join : Connective) :
    ∃ q r, Query.ofCalls calls = .ok q ∧
      Query.ofCalls ((rendered? calls).toList.map (Call.raw join)) = .ok r ∧
      (∀ row, clausesHold row q.wheres = clausesHold row r.wheres) ∧
      ∀ rows, q.fetch rows = r.fetch rows := by
  obtain ⟨clauses, hclauses, hparts⟩ := bodyParts_renders calls h hdepth
  have hq := ofCalls_of_clausesOf h.constrain hclauses
  have hraw : ∃ raws, clausesOf ((rendered? calls).toList.map (Call.raw join)) = .ok raws ∧
      ∀ row, clausesHold row clauses = clausesHold row raws := by
    rw [rendered?]
    generalize bodyParts calls = parts at hparts
    cases hparts with
    | nil => exact ⟨[], rfl, fun _ => rfl⟩
    | @cons part clause parts clauses hpart hrest =>
      obtain ⟨hjoin, e, hreads, hstands⟩ := hpart
      obtain ⟨tests, hread, hstand⟩ := exists_tests hrest
      refine ⟨[(join, .raw (joinTests none e tests))], ?_, ?_⟩
      · have hparse := parse_joined (Nat.le_refl nestingLimit) hreads hread
        simp only [joined?, Option.toList_some, List.map_cons, List.map_nil]
        refine clausesOf_cons_ok.mpr ⟨_, [], ?_, rfl, (List.append_nil _).symm⟩
        rw [Call.clauses, hparse]
        rfl
      · intro row
        rw [clausesHold_singleton, Predicate.holds, holds_joined hstands hstand]
  obtain ⟨raws, hraws, hsame⟩ := hraw
  have hconstrain : ∀ c ∈ (rendered? calls).toList.map (Call.raw join), c.constrains = true := by
    intro c hc
    obtain ⟨f, _, rfl⟩ := List.mem_map.mp hc
    rfl
  refine ⟨_, _, hq, ofCalls_of_clausesOf hconstrain hraws, hsame, fun rows => ?_⟩
  rw [fetch_of_wheres, fetch_of_wheres, keep_congr hsame]

def openShops : List Call := [
  .group .and [.group .or []],
  .compare .or "town" (.verbatim "NOT  li\u212Ae") (.string "R%"),
  .group .or [.isNull .or "closed", .noneOf .and "kind" [.count 1, .null]],
  .compare .and "size" .ge (.count 3)]

theorem Query.ofCalls_rendered_openShops :
    AllRenderable openShops ∧ bodyDepth openShops ≤ nestingLimit ∧
    ∃ q r, Query.ofCalls openShops = .ok q ∧
      Query.ofCalls [.raw .and ⟨"town not like ? or (closed is null and kind not in (?, ?)) " ++
        "and size >= ?", [.string "R%", .count 1, .null, .count 3]⟩] = .ok r ∧
      (∀ row, clausesHold row q.wheres = clausesHold row r.wheres) ∧
      ∀ rows, q.fetch rows = r.fetch rows := by
  have hlike := exists_of_isOk (x := Comparator.ofText? "NOT  li\u212Ae") (by decide +kernel)
  have hge := exists_of_isOk (x := Comparator.ofText? ">=") (by decide +kernel)
  have h : AllRenderable openShops := by
    have hclosed : PlainName "closed" := by decide
    have hkind : PlainName "kind" ∧ [.count 1, .null] ≠ ([] : List Json) :=
      ⟨by decide, List.cons_ne_nil _ _⟩
    exact ⟨⟨trivial, trivial⟩, ⟨by decide, hlike⟩, ⟨hclosed, hkind, trivial⟩, ⟨by decide, hge⟩,
      trivial⟩
  have hdepth : bodyDepth openShops ≤ nestingLimit := by decide
  exact ⟨h, hdepth, ofCalls_rendered h hdepth .and⟩

end RowSearch
