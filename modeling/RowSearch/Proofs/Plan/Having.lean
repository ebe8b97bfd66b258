import RowSearch.Proofs.Plan.Parts
import RowSearch.Proofs.Raw.Refusal
import RowSearch.Request.Criteria

/-! # Having conditions

A field condition on grouped rows is written as an expression and read again. Over a plain column
its comparisons come back one by one, in a chain that answers as their calls do; where an operator
has no meaning the expression is refused, provided that the operator's text holds no more than an
operator's place has room for.
-/
namespace RowSearch.Plan

open Raw

def chained (mix : Connective) (first : Expr) (rest : List Expr) : Expr :=
  match mix with
  | .and => rest.foldl .and first
  | .or => rest.foldl .or first

theorem joinTests_eq_chained (mix : Connective) (first : Expr) (rest : List Expr) :
    joinTests none first (rest.map (mix, ·)) = chained mix first rest := by
  cases mix with
  | and => exact joinTests_of_and none first rest
  | or => exact joinTests_of_or none first rest

theorem intercalate_eq_laterText (mix : Connective) (first : Fragment)
    (rest : List (Connective × Fragment)) (hrest : ∀ p ∈ rest, p.1 = mix) :
    s!" {mix.keyword} ".intercalate (first.sql :: rest.map (·.2.sql)) =
      first.sql ++ laterText rest := by
  induction rest generalizing first with
  | nil => simp [laterText]
  | cons next rest ih =>
    obtain ⟨join, f⟩ := next
    obtain rfl : join = mix := hrest (join, f) List.mem_cons_self
    have hlater := ih f fun p hp => hrest p (List.mem_cons_of_mem _ hp)
    rw [List.map_cons, String.intercalate_cons_cons, hlater, laterText]
    simp only [String.append_assoc, toString]

/-- A condition's fragment is its comparisons joined by its connective. -/
theorem havingFragment?_eq (f : FieldCondition) :
    havingFragment? f =
      match f.accepted with
      | [] => none
      | c :: cs => some (joined (partFragment f.path.text c)
          (cs.map fun c => (f.mix, partFragment f.path.text c))) := by
  rw [havingFragment?]
  cases f.accepted with
  | nil => rfl
  | cons c cs =>
    have hmix : ∀ p ∈ cs.map fun c => (f.mix, partFragment f.path.text c), p.1 = f.mix := by
      intro p hp
      obtain ⟨_, _, rfl⟩ := List.mem_map.mp hp
      rfl
    have htext := intercalate_eq_laterText f.mix (partFragment f.path.text c) _ hmix
    simp only [List.map_map, Function.comp_def, partFragment] at htext
    simp only [List.map_cons, List.isEmpty_cons, Bool.false_eq_true, if_false, joined, htext,
      List.map_map, Function.comp_def, List.flatMap_cons, List.flatMap_map, partFragment]

/-- Items are related one by one to those of another list, or up to a first one that is not. -/
theorem forall₂_or_first {α β : Type} {R : α → β → Prop} {S : α → Prop} {l : List α}
    (h : ∀ a ∈ l, (∃ b, R a b) ∨ S a) :
    (∃ bs, List.Forall₂ R l bs) ∨
      ∃ good a more bs, l = good ++ a :: more ∧ List.Forall₂ R good bs ∧ S a := by
  induction l with
  | nil => exact .inl ⟨[], .nil⟩
  | cons a l ih =>
    obtain ⟨ha, hl⟩ := List.forall_mem_cons.mp h
    rcases ha with ⟨b, hb⟩ | ha
    · rcases ih hl with ⟨bs, hbs⟩ | ⟨good, c, more, bs, rfl, hgood, hc⟩
      · exact .inl ⟨b :: bs, .cons hb hbs⟩
      · exact .inr ⟨a :: good, c, more, b :: bs, rfl, .cons hb hgood, hc⟩
    · exact .inr ⟨[], a, l, [], rfl, .nil, ha⟩

/-- A comparison whose text is read as its test. -/
def TestRead (column : String) (c : Operator × Json) (e : Expr) : Prop :=
  partTest? column c = some e ∧ ReadsAs 0 (partFragment column c) e

theorem partReads_of_tests {column : String} {cs : List (Operator × Json)} {es : List Expr}
    (h : List.Forall₂ (TestRead column) cs es) (mix : Connective) :
    List.Forall₂ (PartReads 0) (cs.map fun c => (mix, partFragment column c))
      (es.map (mix, ·)) := by
  rw [List.forall₂_map_left_iff, List.forall₂_map_right_iff]
  exact h.imp fun _ _ hc => ⟨rfl, hc.2⟩

/-- Comparisons that are all read as tests are read as the chain of them. -/
theorem parse_of_tests {f : FieldCondition} {tests : List Expr}
    (h : List.Forall₂ (TestRead f.path.text) f.accepted tests) {fragment : Fragment}
    (hfragment : havingFragment? f = some fragment) :
    ∃ first rest, tests = first :: rest ∧ parse fragment = .ok (chained f.mix first rest) := by
  rw [havingFragment?_eq] at hfragment
  generalize f.accepted = cs at h hfragment
  cases h with
  | nil => cases hfragment
  | @cons c e cs es hc hrest =>
    cases hfragment
    refine ⟨e, es, rfl, ?_⟩
    rw [← joinTests_eq_chained]
    exact parse_joined (Nat.zero_le _) hc.2 (partReads_of_tests hrest f.mix)

/-- The clauses of comparisons' calls are what the tests of the comparisons stand for. -/
theorem comparisonCalls_standFor (column : String) (mix : Connective)
    {cs : List (Operator × Json)} {es : List Expr}
    (h : List.Forall₂ (fun c e => partTest? column c = some e) cs es) :
    ∃ clauses, clausesOf (cs.map fun c => comparisonCall mix column c.1 c.2) = .ok clauses ∧
      List.Forall₂ TestStands (es.map (mix, ·)) clauses := by
  induction h with
  | nil => exact ⟨[], rfl, .nil⟩
  | cons hc _ ih =>
    obtain ⟨p, hp, hstands⟩ := partTest?_clauses hc mix
    obtain ⟨clauses, hclauses, hrest⟩ := ih
    exact ⟨(mix, p) :: clauses, clausesOf_cons_ok.mpr ⟨_, _, hp, hclauses, rfl⟩,
      .cons ⟨rfl, hstands⟩ hrest⟩

/-- A condition on a plain column, written as an expression and read back, keeps a row, or fails
on it, as the group of its calls does. There is no expression where there are no calls. -/
theorem having_eq_calls {f : FieldCondition} (hcolumn : PlainName f.path.field)
    (hrelations : f.path.relations = []) (hascii : ∀ c ∈ f.comparisons, AsciiOperator c)
    (hsupported : f.Supported) :
    (havingFragment? f = none ↔ comparisonCalls f = []) ∧
    ∃ q, Query.ofCalls (comparisonCalls f) = .ok q ∧
      ∀ fragment, havingFragment? f = some fragment →
        ∃ e, (∀ (p : Query) (join : Connective), p.call (.havingRaw join fragment) =
            ({ p with having := p.having ++ [(join, .raw e)] }, none)) ∧
          ∀ row, e.holds row = (Predicate.group q.wheres).holds row := by
  have htext : f.path.text = f.path.field := by simp [FieldPath.text, hrelations]
  have hnone : havingFragment? f = none ↔ comparisonCalls f = [] := by
    rw [havingFragment?_eq, comparisonCalls, List.map_eq_nil_iff]
    cases f.accepted <;> simp
  have hread : ∀ c ∈ f.accepted, (∃ e, TestRead f.path.text c e) ∨ False := by
    intro c hc
    obtain ⟨hmem, haccepts⟩ := List.mem_filter.mp hc
    have hmeaning : ∀ comparison, c.1 = .compare comparison →
        ∃ k, Comparator.ofText? comparison.sql = .ok k :=
      fun comparison h => hsupported comparison c.2 (h ▸ hmem)
    obtain ⟨e, he⟩ : ∃ e, partTest? f.path.text c = some e := exists_partTest? hmeaning
    exact .inl ⟨e, he, partFragment_readsAs (htext ▸ hcolumn) haccepts (hascii c hmem) he⟩
  rcases forall₂_or_first hread with ⟨es, htests⟩ | ⟨_, _, _, _, _, _, hc⟩
  · obtain ⟨clauses, hclauses, hstands⟩ :=
      comparisonCalls_standFor f.path.text f.mix (htests.imp fun _ _ h => h.1)
    rw [htext] at hclauses
    have hq := Query.ofCalls_of_clausesOf (comparisonCalls_constrain f) hclauses
    refine ⟨hnone, _, hq, fun fragment hfragment => ?_⟩
    obtain ⟨first, rest, rfl, hparse⟩ := parse_of_tests htests hfragment
    obtain ⟨⟨_, p⟩, clauses, hfirst, hlater, rfl⟩ := List.forall₂_cons_left_iff.mp hstands
    refine ⟨chained f.mix first rest, fun query join => ?_, fun row => ?_⟩
    · rw [Query.call, hparse, Query.orKeep]
    · rw [← joinTests_eq_chained, holds_joined hfirst.2 hlater, Predicate.holds]
  · exact hc.elim

def fewOrCoded : FieldCondition where
  path := .column "shelf.items"
  comparisons := [(.compare .lt, .count 3), (.oneOf, .array []),
    (.compare (.verbatim "NOT  Like"), .string "R%"), (.noneOf, .array [.count 7, .null])]
  mix := .or

theorem having_eq_calls_fewOrCoded :
    PlainName fewOrCoded.path.field ∧ fewOrCoded.path.relations = [] ∧
    (∀ c ∈ fewOrCoded.comparisons, AsciiOperator c) ∧ fewOrCoded.Supported ∧
    ∃ q e, Query.ofCalls (comparisonCalls fewOrCoded) = .ok q ∧
      Query.call {} (.havingRaw .and ⟨"shelf.items < ? or shelf.items NOT  Like ? or " ++
          "shelf.items not in (?, ?)", [.count 3, .string "R%", .count 7, .null]⟩) =
        ({ having := [(.and, .raw e)] }, none) ∧
      ∀ row, e.holds row = (Predicate.group q.wheres).holds row := by
  have hcolumn : PlainName fewOrCoded.path.field := by decide
  have hascii : ∀ c ∈ fewOrCoded.comparisons, AsciiOperator c := by
    simp only [fewOrCoded, List.forall_mem_cons]
    refine ⟨?_, nofun, ?_, nofun, List.forall_mem_nil _⟩ <;>
    · intro comparison h
      cases h
      decide
  have hsupported : fewOrCoded.Supported := by
    intro comparison v hmem
    apply exists_of_isOk
    simp [fewOrCoded] at hmem
    rcases hmem with ⟨rfl, _⟩ | ⟨rfl, _⟩ <;> decide +kernel
  obtain ⟨_, q, hq, hread⟩ := having_eq_calls hcolumn rfl hascii hsupported
  obtain ⟨e, hcall, hsame⟩ := hread _ rfl
  exact ⟨hcolumn, rfl, hascii, hsupported, q, e, hq, hcall {} .and, hsame⟩

/-! ### Operators without a meaning -/

/-- A text that stays in the place of an operator: it opens no quotation, and the tokens it is cut
into neither join tests nor open a parenthesis. -/
structure BareText (text : String) : Prop where
  unquoted : ∀ x ∈ text.toList, Unquoted x
  inert : ∀ us, lexFrom true text.toList = .ok us → ∀ t ∈ us, Inert t

def BareOperator (c : Operator × Json) : Prop :=
  ∀ comparison, c.1 = .compare comparison → BareText comparison.sql

/-- A comparison whose operator compares, and has no meaning or is not written in ASCII. -/
def Foreign (c : Operator × Json) : Prop :=
  ∃ comparison, c.1 = .compare comparison ∧ (¬ Ascii comparison.sql ∨
    Comparator.ofText? comparison.sql =
      .error (.invalidQuery (.unsupportedOperator comparison.sql)))

theorem lexFrom_operator {before : Bool} {column : String} {operator later : List Char}
    {ts : List Token} (hcolumn : isIdentifier column = true)
    (hoperator : ∀ x ∈ operator, Unquoted x)
    (h : lexFrom before (column.toList ++ ' ' :: (operator ++ ' ' :: '?' :: later)) = .ok ts) :
    ∃ us rest, lexFrom true operator = .ok us ∧
      ts = .word column :: (us ++ .placeholder :: rest) := by
  obtain ⟨vs, hvs, rfl⟩ := lexFrom_blank (Lexes.word hcolumn before) h
  have hafter : endsAfter before [.word column] = true := rfl
  rw [hafter] at hvs
  cases hus : lexFrom true operator with
  | error fault =>
    rw [lexFrom_append_error (by decide) ('?' :: later) hoperator hus] at hvs
    cases hvs
  | ok us =>
    obtain ⟨marked, hmarked, rfl⟩ := lexFrom_blank hus hvs
    rw [lexFrom_token (by decide) (takeToken?_eq_ok_iff.mpr (.placeholder later))] at hmarked
    obtain ⟨rest, _, rfl⟩ := map_eq_ok_iff.mp hmarked
    exact ⟨us, rest, rfl, rfl⟩

/-- A comparison whose operator is cut into no relation stops the reader. -/
theorem partFragment_stops {column : String} (hcolumn : PlainName column)
    {comparison : Comparison} (hbare : BareText comparison.sql)
    (hrel : ∀ us, lexFrom true comparison.sql.toList = .ok us → ∀ r : Relation, ¬ r.Spelled us)
    (v : Json) : StopsReader (partFragment column (.compare comparison, v)) := by
  intro before later ts h depth bs
  have htext : (partFragment column (.compare comparison, v)).sql.toList ++ later =
      column.toList ++ ' ' :: (comparison.sql.toList ++ ' ' :: '?' :: later) := by
    simp [partFragment, havingPart, toString]
  rw [htext] at h
  obtain ⟨us, rest, hus, rfl⟩ := lexFrom_operator hcolumn.identifier hbare.unquoted h
  exact unary_stops hcolumn (hbare.inert us hus) (hrel us hus) depth

/-- A comparison is read as its test, or its operator is foreign and stops the reader. -/
theorem testRead_or_stops {column : String} (hcolumn : PlainName column) {c : Operator × Json}
    (haccepts : c.1.accepts c.2 = true) (hbare : BareOperator c) :
    (∃ e, TestRead column c e) ∨ StopsReader (partFragment column c) ∧ Foreign c := by
  obtain ⟨operator, v⟩ := c
  cases operator with
  | compare comparison =>
    have hbare := hbare comparison rfl
    by_cases hspelled : ∃ us, ∃ r : Relation,
        lexFrom true comparison.sql.toList = .ok us ∧ r.Spelled us
    · obtain ⟨us, r, hus, hr⟩ := hspelled
      have hquote : backquote ∉ comparison.sql.toList := fun h => (hbare.unquoted _ h).2 rfl
      have hname := Relation.ofText?_eq_some_iff.mpr (hr.normalSpelling_eq hus hquote)
      refine .inl ⟨.compare (.column column) r (.literal v), ?_, ?_⟩
      · simp [partTest?, hname]
      · exact readsAs_compare hcolumn (hr.lexes hus) hr v
    · have hrel : ∀ us, lexFrom true comparison.sql.toList = .ok us →
          ∀ r : Relation, ¬ r.Spelled us := fun us hus r hr => hspelled ⟨us, r, hus, hr⟩
      refine .inr ⟨partFragment_stops hcolumn hbare hrel v, comparison, rfl, ?_⟩
      by_contra hmeaning
      obtain ⟨hascii, hsupported⟩ := not_or.mp hmeaning
      cases htest : partTest? column (.compare comparison, v) with
      | none =>
        obtain ⟨_, heq, hnone⟩ := exists_unsupported htest
        cases heq
        exact hsupported hnone
      | some e =>
        simp only [partTest?, Option.map_eq_some_iff] at htest
        obtain ⟨r, hr, _⟩ := htest
        obtain ⟨us, hus, hspells⟩ := Relation.lexes_of_normalSpelling (not_not.mp hascii)
          (Relation.ofText?_eq_some_iff.mp hr)
        exact hspelled ⟨us, r, hus true, hspells⟩
  | _ =>
    refine .inl ⟨_, rfl, partFragment_readsAs hcolumn haccepts (fun _ heq => ?_) rfl⟩
    cases heq

/-- A condition on a plain column whose operators are bare is read as the chain of its comparisons'
tests, one for each, or refused. It is refused only if an operator is foreign, and one without a
meaning has no test. -/
theorem parse_having {f : FieldCondition} (hcolumn : PlainName f.path.text)
    (hbare : ∀ c ∈ f.accepted, BareOperator c) {fragment : Fragment}
    (hfragment : havingFragment? f = some fragment) :
    (∃ first rest,
      List.Forall₂ (fun c e => partTest? f.path.text c = some e) f.accepted (first :: rest) ∧
      parse fragment = .ok (chained f.mix first rest)) ∨
    (∃ c ∈ f.accepted, Foreign c) ∧
      ∃ fault, parse fragment = .error (.invalidQuery (.raw fragment.sql fault)) := by
  have hread : ∀ c ∈ f.accepted, (∃ e, TestRead f.path.text c e) ∨
      StopsReader (partFragment f.path.text c) ∧ Foreign c := fun c hc =>
    testRead_or_stops hcolumn (List.mem_filter.mp hc).2 (hbare c hc)
  rcases forall₂_or_first hread with ⟨es, htests⟩ | ⟨good, c, more, es, hsplit, hgood, hstops, hc⟩
  · obtain ⟨first, rest, rfl, hparse⟩ := parse_of_tests htests hfragment
    exact .inl ⟨first, rest, htests.imp fun _ _ h => h.1, hparse⟩
  · refine .inr ⟨⟨c, hsplit ▸ List.mem_append_right good List.mem_cons_self, hc⟩, ?_⟩
    rw [havingFragment?_eq, hsplit] at hfragment
    cases hgood with
    | nil =>
      cases hfragment
      exact hstops.parse_first _
    | @cons g e gs es hg hgs =>
      rw [List.cons_append] at hfragment
      cases hfragment
      rw [List.map_append, List.map_cons]
      exact hstops.parse_later (Nat.zero_le _) hg.2 (partReads_of_tests hgs f.mix) f.mix _

def inStock (operator : String) : FieldCondition where
  path := .column "stock"
  comparisons := [(.compare .ge, .count 3), (.compare (.verbatim operator), .string "a")]
  mix := .and

theorem bareText_of_lexes {text : String} {us : List Token}
    (hunquoted : ∀ x ∈ text.toList, Unquoted x) (hlexes : Lexes text.toList us)
    (hinert : ∀ t ∈ us, Inert t) : BareText text := by
  refine ⟨hunquoted, fun vs hvs => ?_⟩
  rw [hlexes true] at hvs
  cases hvs
  exact hinert

theorem parse_having_inStock :
    PlainName (inStock "<>").path.text ∧
    (∀ c ∈ (inStock "<>").accepted, BareOperator c) ∧
    (∀ c ∈ (inStock "~").accepted, BareOperator c) ∧
    parse ⟨"stock >= ? and stock <> ?", [.count 3, .string "a"]⟩ = .ok
      (.and (.compare (.column "stock") (.sign .greaterEqual) (.literal (.count 3)))
        (.compare (.column "stock") (.sign .lessGreater) (.literal (.string "a")))) ∧
    ∃ fault, parse ⟨"stock >= ? and stock ~ ?", [.count 3, .string "a"]⟩ =
      .error (.invalidQuery (.raw "stock >= ? and stock ~ ?" fault)) := by
  have hcolumn (operator : String) : PlainName (inStock operator).path.text := by
    show PlainName "stock"
    decide
  have hge : BareText ">=" :=
    bareText_of_lexes (by simp [Unquoted, backquote]) (.sign .greaterEqual) (by decide)
  have hne : BareText "<>" :=
    bareText_of_lexes (by simp [Unquoted, backquote]) (.sign .lessGreater) (by decide)
  have htilde : BareText "~" := by
    refine ⟨by simp [Unquoted, backquote], fun us hus => ?_⟩
    have hfault : lexFrom true ['~'] = .error (.unexpectedCharacter '~') :=
      lexFrom_fault (by decide) rfl
    rw [show "~".toList = ['~'] from rfl, hfault] at hus
    cases hus
  have hall {P : Operator × Json → Prop} (operator : String)
      (hstock : P (.compare .ge, .count 3))
      (hname : P (.compare (.verbatim operator), .string "a")) :
      ∀ c ∈ (inStock operator).accepted, P c :=
    List.forall_mem_cons.mpr ⟨hstock, List.forall_mem_singleton.mpr hname⟩
  have hbare {operator : String} (h : BareText operator) :
      ∀ c ∈ (inStock operator).accepted, BareOperator c := by
    refine hall operator ?_ ?_ <;>
    · intro comparison heq
      cases heq
      assumption
  have hnative {operator : String} (hascii : Ascii operator) {comparison : Comparison} {v : Json}
      (hsql : comparison.sql = operator) (hok : (Comparator.ofText? operator).isOk = true) :
      ¬ Foreign (.compare comparison, v) := by
    rintro ⟨_, heq, hforeign⟩
    cases heq
    subst hsql
    obtain ⟨k, hk⟩ := exists_of_isOk hok
    rcases hforeign with h | h
    · exact h hascii
    · rw [hk] at h
      cases h
  refine ⟨hcolumn "<>", hbare hne, hbare htilde, ?_, ?_⟩
  · rcases parse_having (hcolumn "<>") (hbare hne) rfl with
      ⟨first, rest, htests, hparse⟩ | ⟨⟨c, hc, hforeign⟩, _⟩
    · cases htests with
      | cons hfirst hrest =>
        cases hrest with
        | cons hsecond hnil =>
          cases hfirst
          cases hsecond
          cases hnil
          exact hparse
    · have hnone := hall "<>" (P := fun c => ¬ Foreign c)
        (hnative (by decide) rfl (by decide +kernel)) (hnative (by decide) rfl (by decide +kernel))
      exact absurd hforeign (hnone c hc)
  · rcases parse_having (hcolumn "~") (hbare htilde) rfl with
      ⟨first, rest, htests, _⟩ | ⟨_, hrefused⟩
    · cases htests with
      | cons hfirst hrest =>
        cases hrest with
        | cons hsecond hnil => cases hsecond
    · exact hrefused

def orAge : FieldCondition where
  path := .column "age"
  comparisons := [(.compare (.verbatim "or age >="), .count 5)]
  mix := .and

/-- Beyond bare operators nothing is promised: what comes after the connective is a test of its
own, though the call of the comparison fails. -/
theorem parse_orAge :
    Entry.keyedCondition "age.or age >=" (.count 5) = .ok (some (.field orAge)) ∧
    Comparator.ofText? "or age >=" =
      .error (.invalidQuery (.unsupportedOperator "or age >=")) ∧
    havingFragment? orAge = some ⟨"age or age >= ?", [.count 5]⟩ ∧
    parse ⟨"age or age >= ?", [.count 5]⟩ = .ok (.or (.truthy (.column "age"))
      (.compare (.column "age") (.sign .greaterEqual) (.literal (.count 5)))) := by
  have hage : (Operand.column "age").Spelled (.word "age") [] := .column (by decide)
  have hadult := TestSpelled.compare hage (.sign .greaterEqual) (.placeholder (.count 5))
  have hspelled := Expr.Spelled.or (.run (.link (.test (.truthy hage))))
    (show (Token.word "or").isKeyword "or" = true by decide) (.link (.test hadult))
  have hparse := hspelled.parse_textOf
  rw [if_pos (by decide)] at hparse
  exact ⟨rfl, rfl, rfl, hparse⟩

end RowSearch.Plan
