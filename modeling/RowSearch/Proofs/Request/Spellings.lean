import Mathlib.Data.List.TakeWhile
import RowSearch.Proofs.Answers
import RowSearch.Proofs.Text.Splitting
import RowSearch.Request.Criteria

/-! # Spellings of a condition

A comparison of a field that relations lead to can be spelled in several ways: the names joined by
dollars or by points, the operator behind the last point of the key or in a map, under a key or
without one. All spellings come to one condition, and a value without an operator is compared for
equality.
-/
namespace RowSearch

/-- A name that can stand in a path: not blank, without separators and without an arrow. -/
structure PathName (name : String) : Prop where
  notBlank : Text.trim name ≠ ""
  noSeparator : ∀ c ∈ name.toList, FieldPath.isSeparator c = false
  noArrow : ¬ ['-', '>'] <:+: name.toList

/-- An operator that can stand in a key: not blank, without blanks around it and without
separators. -/
structure KeyOperator (token : String) : Prop where
  notBlank : token ≠ ""
  trimmed : Text.trim token = token
  noSeparator : ∀ c ∈ token.toList, FieldPath.isSeparator c = false

/-- The condition that one comparison of a field asks; none where the operator is the key that
only tells how comparisons are joined. -/
def Condition.single? (relations : List String) (field operator : String) (v : Json) :
    Option Condition :=
  if operator = mixKey then none
  else some (.field ⟨⟨relations.map Text.trim, Text.trim field⟩, [(.ofToken operator, v)], .and⟩)

theorem lastPoint?_eq_none {cs : List Char} (h : '.' ∉ cs) : lastPoint? cs = none := by
  induction cs with
  | nil => rfl
  | cons c cs ih =>
    obtain ⟨hc, hcs⟩ := not_or.mp (mt List.mem_cons.mpr h)
    rw [lastPoint?, ih hcs]
    exact if_neg (Ne.symm hc)

theorem lastPoint?_append {before after : List Char} (h : '.' ∉ after) :
    lastPoint? (before ++ '.' :: after) = some (before, after) := by
  induction before with
  | nil => simp [lastPoint?, lastPoint?_eq_none h]
  | cons c before ih => simp [lastPoint?, ih]

theorem point_not_mem {text : String} (h : ∀ c ∈ text.toList, FieldPath.isSeparator c = false) :
    '.' ∉ text.toList :=
  fun hmem => absurd (h _ hmem) (by decide)

section Paths
variable {relations : List String} {field : String}
  (hnames : ∀ name ∈ relations ++ [field], PathName name)
include hnames

namespace FieldPath

/-- Names joined by a separator are read as the path of the names. -/
theorem ofChars?_intercalate {separator : Char} (hsep : isSeparator separator = true)
    (source : String) :
    ofChars? source ([separator].intercalate ((relations ++ [field]).map String.toList)) =
      .ok ⟨relations.map Text.trim, Text.trim field⟩ := by
  have hsplit : Text.splitChars isSeparator
      ([separator].intercalate ((relations ++ [field]).map String.toList)) =
      (relations ++ [field]).map String.toList := by
    refine Text.splitChars_intercalate hsep (by simp) ?_
    intro cs hcs
    obtain ⟨name, hname, rfl⟩ := List.mem_map.mp hcs
    exact (hnames name hname).noSeparator
  have hany : (((relations ++ [field]).map String.toList).map
      (Text.trimChars Text.isWhiteSpace)).any List.isEmpty = false := by
    rw [List.map_map, List.any_map, List.any_eq_false]
    intro name hname hempty
    apply (hnames name hname).notBlank
    simpa [Text.trim, Text.trimBy] using hempty
  rw [ofChars?, hsplit, ofSegments?, if_neg (by rw [hany]; exact Bool.false_ne_true)]
  simp [Text.trim, Text.trimBy, Function.comp_def]

/-- The names hold no arrow, and none comes about where two of them meet. -/
theorem parsePositional?_intercalate :
    parsePositional? (".".intercalate (relations ++ [field])) =
      .ok ⟨relations.map Text.trim, Text.trim field⟩ := by
  have hchars : (".".intercalate (relations ++ [field])).toList =
      ['.'].intercalate ((relations ++ [field]).map String.toList) := String.toList_intercalate
  have hbefore : Text.before? ['-', '>'] (".".intercalate (relations ++ [field])).toList = none := by
    rw [Text.before?_eq_none_iff, hchars]
    intro harrow
    obtain ⟨cs, hcs, harrow⟩ := Text.infix_intercalate (by decide) (by simp) harrow
    obtain ⟨name, hname, rfl⟩ := List.mem_map.mp hcs
    exact (hnames name hname).noArrow harrow
  rw [parsePositional?, beforeArrow, hbefore, Option.getD_none, String.ofList_toList, parse?, hchars]
  exact ofChars?_intercalate hnames (by decide) _

end FieldPath

namespace ConditionKey

/-- A key of names joined by dollars has no operator. -/
theorem parse?_dollars :
    parse? ("$".intercalate (relations ++ [field])) =
      .ok ⟨⟨relations.map Text.trim, Text.trim field⟩, none⟩ := by
  have hchars : ("$".intercalate (relations ++ [field])).toList =
      ['$'].intercalate ((relations ++ [field]).map String.toList) := String.toList_intercalate
  have hpoint : '.' ∉ ['$'].intercalate ((relations ++ [field]).map String.toList) := by
    apply Text.not_mem_intercalate (by decide)
    intro cs hcs
    obtain ⟨name, hname, rfl⟩ := List.mem_map.mp hcs
    exact point_not_mem (hnames name hname).noSeparator
  rw [parse?, hchars, lastPoint?_eq_none hpoint]
  simp only
  rw [FieldPath.parse?, hchars, FieldPath.ofChars?_intercalate hnames (by decide)]
  rfl

/-- What follows the last point of a key is the operator, however the names are joined. -/
theorem parse?_operator {separator : Char} (hsep : FieldPath.isSeparator separator = true)
    {operator : String} (hop : KeyOperator operator) :
    parse? ((String.singleton separator).intercalate (relations ++ [field]) ++ "." ++ operator) =
      .ok ⟨⟨relations.map Text.trim, Text.trim field⟩, some operator⟩ := by
  have hchars : ((String.singleton separator).intercalate (relations ++ [field]) ++ "." ++
      operator).toList =
      [separator].intercalate ((relations ++ [field]).map String.toList) ++
        '.' :: operator.toList := by
    simp [String.toList_intercalate]
  have hwhole : operator.toList.takeWhile (· ≠ '$') = operator.toList := by
    apply List.takeWhile_eq_self_iff.mpr
    intro c hc
    have hsep := hop.noSeparator c hc
    rw [FieldPath.isSeparator, Bool.or_eq_false_iff, beq_eq_false_iff_ne] at hsep
    simpa using hsep.2
  have htrim : Text.trimChars Text.isWhiteSpace operator.toList = operator.toList := by
    have := congrArg String.toList hop.trimmed
    simpa [Text.trim, Text.trimBy] using this
  have hne : operator.toList.isEmpty = false := by
    simpa using hop.notBlank
  rw [parse?, hchars, lastPoint?_append (point_not_mem hop.noSeparator)]
  simp only [hwhole, htrim, hne, Bool.false_eq_true, if_false, String.ofList_toList]
  rw [FieldPath.ofChars?_intercalate hnames hsep]
  rfl

end ConditionKey

namespace Entry

omit hnames in
theorem fieldCondition?_single (operator : String) (v : Json) :
    fieldCondition? ⟨relations.map Text.trim, Text.trim field⟩ [(operator, v)] =
      Condition.single? relations field operator v := by
  rw [fieldCondition?, Condition.single?]
  by_cases hmix : operator = mixKey
  · simp [hmix]
  · simp [hmix, Fields.get?, Connective.ofMix]

theorem keyed_operator (separator : Char) (hsep : FieldPath.isSeparator separator = true)
    {operator : String} (hop : KeyOperator operator) (v : Json) :
    (keyed ((String.singleton separator).intercalate (relations ++ [field]) ++ "." ++
      operator) v).condition = .ok (Condition.single? relations field operator v) := by
  simp only [keyed, condition]
  rw [keyedCondition, ConditionKey.parse?_operator hnames hsep hop,
    ← fieldCondition?_single]
  rfl

theorem keyed_dollars (v : Json) :
    (keyed ("$".intercalate (relations ++ [field])) v).condition =
      .ok (fieldCondition? ⟨relations.map Text.trim, Text.trim field⟩ (keyedOperators none v)) := by
  simp only [keyed, condition]
  rw [keyedCondition, ConditionKey.parse?_dollars hnames]
  rfl

theorem structured_points (operators : Fields) :
    (structured (".".intercalate (relations ++ [field])) (.object operators)).condition =
      .ok (fieldCondition? ⟨relations.map Text.trim, Text.trim field⟩ operators) := by
  have hparse := FieldPath.parsePositional?_intercalate hnames
  simp only [structured, condition, structuredCondition, Fields.get?, if_true, String.reduceEq,
    if_false, hparse]
  rfl

/-- All spellings of a comparison come to one condition, or to none where the operator is `mix`:
the operator in the key, behind names joined by dollars or by points, or in a map, under a key or
without one. A value that is no map asks for equality where no operator is given. -/
theorem condition_spellings {operator : String} (hop : KeyOperator operator) (v : Json) :
    (keyed ("$".intercalate (relations ++ [field]) ++ "." ++ operator) v).condition =
      .ok (Condition.single? relations field operator v) ∧
    (keyed (".".intercalate (relations ++ [field]) ++ "." ++ operator) v).condition =
      .ok (Condition.single? relations field operator v) ∧
    (keyed ("$".intercalate (relations ++ [field])) (.object [(operator, v)])).condition =
      .ok (Condition.single? relations field operator v) ∧
    (structured (".".intercalate (relations ++ [field])) (.object [(operator, v)])).condition =
      .ok (Condition.single? relations field operator v) ∧
    ((∀ fields, v ≠ .object fields) →
      (keyed ("$".intercalate (relations ++ [field])) v).condition =
        .ok (Condition.single? relations field "eq" v)) := by
  refine ⟨keyed_operator hnames '$' (by decide) hop v, keyed_operator hnames '.' (by decide) hop v,
    ?_, ?_, ?_⟩
  · rw [keyed_dollars hnames, keyedOperators, fieldCondition?_single]
  · rw [structured_points hnames, fieldCondition?_single]
  · intro hv
    have heq : keyedOperators none v = [("eq", v)] := by
      cases v with
      | object fields => exact absurd rfl (hv fields)
      | _ => rfl
    rw [keyed_dollars hnames, heq, fieldCondition?_single]

end Entry
end Paths

namespace Entry

def ownerCondition : Condition :=
  .field ⟨⟨["company", "owner"], "name"⟩, [(.compare (.verbatim "like"), .string "a%")], .and⟩

theorem condition_spellings_owner :
    (∀ name ∈ ["company", " owner"] ++ ["name"], PathName name) ∧ KeyOperator "like" ∧
    (keyed "company$ owner$name.like" (.string "a%")).condition = .ok (some ownerCondition) ∧
    (keyed "company. owner.name.like" (.string "a%")).condition = .ok (some ownerCondition) ∧
    (keyed "company$ owner$name" (.object [("like", .string "a%")])).condition =
      .ok (some ownerCondition) ∧
    (structured "company. owner.name" (.object [("like", .string "a%")])).condition =
      .ok (some ownerCondition) ∧
    (keyed "company$ owner$name" (.string "a%")).condition =
      .ok (Condition.single? ["company", " owner"] "name" "eq" (.string "a%")) := by
  have hnames : ∀ name ∈ ["company", " owner"] ++ ["name"], PathName name := by
    simp only [List.cons_append, List.nil_append, List.forall_mem_cons, List.not_mem_nil,
      false_implies, implies_true, and_true]
    exact ⟨⟨by decide, by simp [FieldPath.isSeparator], by decide⟩,
      ⟨by decide, by simp [FieldPath.isSeparator], by decide⟩,
      ⟨by decide, by simp [FieldPath.isSeparator], by decide⟩⟩
  have hop : KeyOperator "like" := ⟨by decide, by decide, by simp [FieldPath.isSeparator]⟩
  have hsingle : Condition.single? ["company", " owner"] "name" "like" (.string "a%") =
      some ownerCondition := rfl
  obtain ⟨hdollars, hpoints, hmap, hstructured, hequal⟩ :=
    condition_spellings hnames hop (.string "a%")
  rw [hsingle] at hdollars hpoints hmap hstructured
  exact ⟨hnames, hop, hdollars, hpoints, hmap, hstructured, hequal fun _ => Json.noConfusion⟩

end Entry
end RowSearch
