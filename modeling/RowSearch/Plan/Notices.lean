import RowSearch.Log.Level
import RowSearch.Plan.Basic

/-! # Notices of planning

A keyword without a use, a having field none of whose comparisons is accepted and a comparison
that is left out are passed over in silence, except for the log. The calls of a plan may fail;
then the notices stop at the call that does.
-/
namespace RowSearch.Plan

def debug (text : String) : Notice := ⟨.debug, .plan, text⟩

def keywordNotices (c : Criteria) (m : Model) : List Notice :=
  match c.keyword?.map (keywordStep? · m) with
  | some none =>
    [debug (s!"model '{m.name}' has neither a {keywordScope} scope nor a '{keywordColumn}' " ++
      "column; keyword ignored")]
  | _ => []

def havingNotice? : HavingCondition → Option Notice
  | .field f =>
    if (havingFragment? f).isSome then none
    else some (debug s!"having on '{f.path.text}' has no applicable operators")
  | .raw _ => none

def buildNotices (c : Criteria) (m : Model) (registry : Registry) : List Notice :=
  let having :=
    if (c.wheres.mapM (whereStep m registry)).isOk then c.having.filterMap havingNotice? else []
  keywordNotices c m ++ having

def comparisonNotices (works : Call → Bool) (f : FieldCondition) : List Notice :=
  let reached := f.comparisons.takeWhile fun c =>
    !c.1.accepts c.2 || works (comparisonCall f.mix f.path.field c.1 c.2)
  (reached.filter fun c => !c.1.accepts c.2).map fun c =>
    debug s!"skipping '{f.path.field} {c.1.text}': not a non-empty list"

def stepNotices (works : Call → Bool) : Step → List Notice
  | .field f => comparisonNotices works f
  | _ => []

def callNotices (works : Call → Bool) : Plan → List Notice
  | [] => []
  | s :: rest =>
    stepNotices works s ++ if (stepCalls s).all works then callNotices works rest else []

end RowSearch.Plan
