import RowSearch.Proofs.Plan.Recording
import RowSearch.Proofs.Plan.Scopes

/-! # Plans built

The plan of a request's criteria, part by part. Building fails at the first scope that is not
found and nowhere else: the conditions of having are fields and fragments only. A plan has a step
for the keyword at most, one for each condition, and then the steps that arrange the rows.
-/
namespace RowSearch

/-- Having keeps what its entries ask, and asks nothing but fields and fragments. -/
theorem Entry.condition_of_havingCondition {e : Entry} {asked? : Option HavingCondition}
    (h : e.havingCondition = .ok asked?) :
    e.condition = .ok (asked?.map HavingCondition.toCondition) := by
  rw [havingCondition] at h
  obtain ⟨condition?, hcondition, h⟩ := bind_eq_ok_iff.mp h
  rw [hcondition]
  match condition?, h with
  | none, h | some (.field _), h | some (.raw _), h =>
    cases h
    rfl

theorem Criteria.having_conditions {entries : List Entry} {having : List HavingCondition}
    (h : havingOf entries = .ok having) :
    wheresOf entries = .ok (having.map HavingCondition.toCondition) := by
  obtain ⟨found, hfound, rfl⟩ := map_eq_ok_iff.mp h
  refine map_eq_ok_iff.mpr ⟨found.map (·.map HavingCondition.toCondition), ?_, ?_⟩
  · rw [mapM_eq_ok_iff] at hfound ⊢
    exact List.forall₂_map_right_iff.mpr (hfound.imp fun _ _ => Entry.condition_of_havingCondition)
  · rw [List.filterMap_map, List.map_filterMap]
    rfl

def HavingCondition.asks : HavingCondition → Bool
  | .field f => !f.accepted.isEmpty
  | .raw _ => true

namespace Plan
variable {m : Model} {registry : Registry} {c : Criteria}

inductive StepOf (m : Model) (registry : Registry) : Condition → Step → Prop
  | field (f : FieldCondition) : StepOf m registry (.field f) (.field f)
  | raw (fragment : Fragment) : StepOf m registry (.raw fragment) (.raw fragment)
  | callback (body : List Call) : StepOf m registry (.callback body) (.callback body)
  | scope {ref : ScopeRef} {owner : Model} {body : ScopeBody}
      (howner : OwnedBy m registry ref owner) (hbody : owner.scope? ref.name = some body) :
      StepOf m registry (.scope ref) (.scope ref owner.name (body ref.args))

inductive HavingStepOf : HavingCondition → Step → Prop
  | field {f : FieldCondition} {fragment : Fragment} (h : havingFragment? f = some fragment) :
      HavingStepOf (.field f) (.having fragment)
  | raw (fragment : Fragment) : HavingStepOf (.raw fragment) (.having fragment)

/-- The parts of the plan of criteria. -/
structure Parts (m : Model) (registry : Registry) (c : Criteria)
    (keyword wheres groups having order window : Plan) : Prop where
  keyword_eq : keyword = (c.keyword?.bind (keywordStep? · m)).toList
  wheres_of : List.Forall₂ (StepOf m registry) c.wheres wheres
  groups_eq : groups = if c.groupBy.isEmpty then [] else [.groupBy c.groupBy]
  having_of : List.Forall₂ HavingStepOf (c.having.filter HavingCondition.asks) having
  order_eq : order = c.order.map .order
  window_eq : window = if 0 < c.limit then [.window c.offset c.limit] else []

theorem StepOf.conditional {condition : Condition} {s : Step} (h : StepOf m registry condition s) :
    s.conditional = true := by
  cases h <;> rfl

theorem whereStep_stepOf {condition : Condition} {s : Step}
    (h : whereStep m registry condition = .ok s) : StepOf m registry condition s := by
  cases condition with
  | field f =>
    cases h
    exact .field f
  | raw fragment =>
    cases h
    exact .raw fragment
  | callback body =>
    cases h
    exact .callback body
  | scope ref =>
    obtain ⟨owner, body, howner, hbody, rfl⟩ := scopeStep_eq_ok_iff.mp h
    exact .scope howner hbody

theorem keywordStep_conditional {keyword : String} {s : Step}
    (h : keywordStep? keyword m = some s) : s.conditional = true := by
  rw [keywordStep?] at h
  split at h
  · cases h
    rfl
  · split at h
    · cases h
      rfl
    · cases h

theorem havingStep?_of_asks {condition : HavingCondition} (h : condition.asks = true) :
    ∃ s, havingStep? condition = some s ∧ HavingStepOf condition s := by
  cases condition with
  | raw fragment => exact ⟨_, rfl, .raw fragment⟩
  | field f =>
    cases hfragment : havingFragment? f with
    | some fragment => exact ⟨_, by rw [havingStep?, hfragment]; rfl, .field hfragment⟩
    | none => simp_all [havingFragment?, HavingCondition.asks]

theorem havingStep?_of_not_asks {condition : HavingCondition} (h : condition.asks = false) :
    havingStep? condition = none := by
  cases condition with
  | raw fragment => cases h
  | field f => simp_all [havingStep?, havingFragment?, HavingCondition.asks]

theorem havingSteps (conditions : List HavingCondition) :
    List.Forall₂ HavingStepOf (conditions.filter HavingCondition.asks)
      (conditions.filterMap havingStep?) := by
  induction conditions with
  | nil => exact .nil
  | cons first rest ih =>
    cases hasks : first.asks with
    | true =>
      obtain ⟨s, hs, hof⟩ := havingStep?_of_asks hasks
      rw [List.filter_cons_of_pos hasks, List.filterMap_cons_some hs]
      exact .cons hof ih
    | false =>
      rw [List.filter_cons_of_neg (by simp [hasks]),
        List.filterMap_cons_none (havingStep?_of_not_asks hasks)]
      exact ih

theorem build_eq_error_iff {e : SearchError} :
    build c m registry = .error e ↔ c.wheres.mapM (whereStep m registry) = .error e := by
  rw [build, bind_eq_error_iff]
  simp [pure, Except.pure]

theorem build_answers_iff : (∃ p, build c m registry = .ok p) ↔
    ∃ steps, c.wheres.mapM (whereStep m registry) = .ok steps := by
  cases h : c.wheres.mapM (whereStep m registry) with
  | error e => simp [build_eq_error_iff.mpr h]
  | ok steps => simp [build, h, bind, Except.bind, pure, Except.pure]

/-- The plan of criteria is its parts, one after the other. -/
theorem exists_parts {p : Plan} (h : build c m registry = .ok p) :
    ∃ keyword wheres groups having order window,
      Parts m registry c keyword wheres groups having order window ∧
      p = keyword ++ wheres ++ groups ++ having ++ order ++ window := by
  obtain ⟨wheres, hwheres, h⟩ := bind_eq_ok_iff.mp h
  cases h
  refine ⟨_, wheres, _, _, _, _, ⟨rfl, ?_, rfl, havingSteps c.having, rfl, ?_⟩, rfl⟩
  · exact (mapM_eq_ok_iff.mp hwheres).imp fun _ _ => whereStep_stepOf
  · simp only [UInt64.pos_iff_ne_zero, ite_not]

namespace Parts
variable {keyword wheres groups having order window : Plan}

theorem keyword_length (h : Parts m registry c keyword wheres groups having order window) :
    keyword.length ≤ 1 := by
  rw [h.keyword_eq]
  cases c.keyword?.bind (keywordStep? · m) <;> simp

theorem conditional (h : Parts m registry c keyword wheres groups having order window) :
    ∀ s ∈ keyword ++ wheres, s.conditional = true := by
  refine List.forall_mem_append.mpr ⟨?_, ?_⟩
  · intro s hs
    rw [h.keyword_eq, Option.mem_toList] at hs
    obtain ⟨keyword, _, hs⟩ := Option.bind_eq_some_iff.mp hs
    exact keywordStep_conditional hs
  · exact forall_of_forall₂ h.wheres_of fun _ _ => StepOf.conditional

theorem not_conditional (h : Parts m registry c keyword wheres groups having order window) :
    ∀ s ∈ groups ++ having ++ order ++ window, s.conditional = false := by
  simp only [List.forall_mem_append]
  refine ⟨⟨⟨?_, ?_⟩, ?_⟩, ?_⟩
  · rw [h.groups_eq]
    split <;> simp [Step.conditional]
  · exact forall_of_forall₂ h.having_of fun _ _ hs => by cases hs <;> rfl
  · rw [h.order_eq]
    simp [Step.conditional]
  · rw [h.window_eq]
    split <;> simp [Step.conditional]

/-- The conditions of a plan are written down one by one, and what arranges the rows after them. -/
theorem record (h : Parts m registry c keyword wheres groups having order window)
    {ops : Transcript}
    (hops : Transcript.record (calls (keyword ++ wheres ++ groups ++ having ++ order ++ window)) =
      (ops, none)) :
    ∃ asked, List.Forall₂ Step.Asks (keyword ++ wheres) asked ∧
      ops = asked ++ (groups ++ having ++ order ++ window).flatMap Step.arrangement := by
  have hparts : keyword ++ wheres ++ groups ++ having ++ order ++ window =
      (keyword ++ wheres) ++ (groups ++ having ++ order ++ window) := by
    simp only [List.append_assoc]
  rw [hparts] at hops
  exact record_conditions h.conditional h.not_conditional hops

end Parts

/-- The plan of a request that has criteria. It cannot be built exactly where a scope among the
conditions is not found, and the first such scope is the error; having is never a reason, as all
it holds are fields and fragments. A plan is its parts. Written down it fails only where the body
of a callback or a scope fails, and otherwise starts with one operation for each condition. -/
theorem build_ofRequest {r : Request} (h : Criteria.ofRequest r = .ok c) (m : Model)
    (registry : Registry) :
    Criteria.wheresOf r.having = .ok (c.having.map HavingCondition.toCondition) ∧
    ((∃ p, build c m registry = .ok p) ↔
      ∀ ref ∈ r.scopes, ¬∃ name, Unresolved m registry ref name) ∧
    (∀ e, build c m registry = .error e ↔
      ∃ before ref after name, r.scopes = before ++ ref :: after ∧
        (∀ earlier ∈ before, ¬∃ name, Unresolved m registry earlier name) ∧
        Unresolved m registry ref name ∧ e = .scopeNotFound ref.name name) ∧
    ∀ p, build c m registry = .ok p →
      (∃ keyword wheres groups having order window,
        Parts m registry c keyword wheres groups having order window ∧ keyword.length ≤ 1 ∧
        p = keyword ++ wheres ++ groups ++ having ++ order ++ window ∧
        ∀ ops, Transcript.record p.calls = (ops, none) →
          ∃ asked, List.Forall₂ Step.Asks (keyword ++ wheres) asked ∧
            ops = asked ++ (groups ++ having ++ order ++ window).flatMap Step.arrangement) ∧
      (Transcript.record p.calls).2 = p.findSome? Step.refusal? := by
  obtain ⟨wheres, hwheres, h⟩ := bind_eq_ok_iff.mp h
  obtain ⟨having, hhaving, h⟩ := bind_eq_ok_iff.mp h
  cases h
  have hscopes : wheres.filterMap Condition.scope? = r.scopes := Criteria.scopes_of_wheresOf hwheres
  refine ⟨Criteria.having_conditions hhaving, ?_, ?_, ?_⟩
  · rw [build_answers_iff, wheres_answers_iff, hscopes]
  · intro e
    rw [build_eq_error_iff, wheres_eq_error_iff, hscopes]
  · intro p hp
    obtain ⟨keyword, wheres, groups, having, order, window, hparts, rfl⟩ := exists_parts hp
    exact ⟨⟨keyword, wheres, groups, having, order, window, hparts, hparts.keyword_length, rfl,
      fun _ => hparts.record⟩, record_failure _⟩

def teamRequest : Request where
  wheres := [
    .keyed "company$owner_profile$name.like" (.string "%a%"),
    .positional (.scope ⟨"scope_adults", none, []⟩),
    .keyed "age" (.object [("mix", .string "or")]),
    .positional (.scope ⟨"big", some "Company", [.count 9]⟩),
    .positional (.callback [.isNull .or "size", .take 1])]
  having := [
    .keyed "count.gt" (.count 1),
    .keyed "kind.in" (.array []),
    .positional (.raw ⟨"size", []⟩)]
  groupBy := [.column "kind"]
  order := [.column "kind" .asc]
  keyword? := some " ann "
  limit := 5

def user : Model :=
  Model.withScope ⟨"User", ["name"], []⟩ "adults" fun _ => [.compare .and "age" .gt (.count 17)]

def company : Model :=
  Model.withScope ⟨"Company", [], []⟩ "big" fun args => [.oneOf .and "size" args]

theorem build_ofRequest_team :
    ∃ c, Criteria.ofRequest teamRequest = .ok c ∧
      build c user [] = .error (.scopeNotFound "big" "Company") ∧
      ∃ p keyword wheres groups having order window, build c user [company] = .ok p ∧
        Parts user [company] c keyword wheres groups having order window ∧
        p = keyword ++ wheres ++ groups ++ having ++ order ++ window ∧
        (Transcript.record p.calls).2 = p.findSome? Step.refusal? := by
  obtain ⟨c, hc⟩ := exists_of_isOk (x := Criteria.ofRequest teamRequest) (by decide +kernel)
  have hscopes : teamRequest.scopes =
      [⟨"scope_adults", none, []⟩, ⟨"big", some "Company", [.count 9]⟩] := rfl
  have hfound {registry : Registry} {ref : ScopeRef}
      (h : (scopeStep ref user registry).isOk = true) :
      ¬∃ name, Unresolved user registry ref name := scopeStep_answers_iff.mp (exists_of_isOk h)
  refine ⟨c, hc, ?_, ?_⟩
  · obtain ⟨_, _, herror, _⟩ := build_ofRequest hc user []
    refine (herror _).mpr ⟨[⟨"scope_adults", none, []⟩], ⟨"big", some "Company", [.count 9]⟩, [],
      "Company", hscopes, ?_, ?_, rfl⟩
    · simpa using hfound (by decide +kernel)
    · exact .owner rfl (by decide) (by decide)
  · obtain ⟨_, hbuilt, _, hparts⟩ := build_ofRequest hc user [company]
    have hall : ∀ ref ∈ teamRequest.scopes, (scopeStep ref user [company]).isOk = true := by
      decide +kernel
    obtain ⟨p, hp⟩ := hbuilt.mpr fun ref href => hfound (hall ref href)
    obtain ⟨⟨keyword, wheres, groups, having, order, window, h, _, heq, _⟩, hrecord⟩ := hparts p hp
    exact ⟨p, keyword, wheres, groups, having, order, window, hp, h, heq, hrecord⟩

end Plan
end RowSearch
