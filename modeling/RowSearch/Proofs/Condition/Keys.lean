import RowSearch.Proofs.Answers
import RowSearch.Proofs.Request.Spellings

/-! # What a key spells

A key spells its names and its operator in order, blanks around each, one separator between any
two and a point before the operator. Every such text is read as what it spells. A text that is
read spells the key, or it does so up to a dollar behind its last point: what starts there is
passed over.
-/
namespace RowSearch

/-- A text between separators that is not blank. -/
structure Segment (cs : List Char) : Prop where
  noSeparator : ∀ c ∈ cs, FieldPath.isSeparator c = false
  notBlank : Text.trimChars Text.isWhiteSpace cs ≠ []

instance (cs : List Char) : Decidable (Segment cs) :=
  decidable_of_iff
    (cs.any FieldPath.isSeparator = false ∧ Text.trimChars Text.isWhiteSpace cs ≠ [])
    ⟨fun h => ⟨by simpa using h.1, h.2⟩, fun h => ⟨by simpa using h.noSeparator, h.notBlank⟩⟩

theorem Segment.countP_eq {cs : List Char} (h : Segment cs) :
    cs.countP FieldPath.isSeparator = 0 :=
  List.countP_eq_zero.mpr fun c hc => by simp [h.noSeparator c hc]

def segmentName (cs : List Char) : String := String.ofList (Text.trimChars Text.isWhiteSpace cs)

inductive FieldPath.Spelled : FieldPath → List Char → Prop where
  | field {cs : List Char} (h : Segment cs) : Spelled ⟨[], segmentName cs⟩ cs
  | relation {cs rest : List Char} {path : FieldPath} {separator : Char} (h : Segment cs)
      (hsep : isSeparator separator = true) (hrest : path.Spelled rest) :
      Spelled ⟨segmentName cs :: path.relations, path.field⟩ (cs ++ separator :: rest)

/-- A key with a point has an operator, and its last point stands before it. -/
inductive ConditionKey.Spelled : ConditionKey → List Char → Prop where
  | field {path : FieldPath} {cs : List Char} (h : path.Spelled cs) (hpoint : '.' ∉ cs) :
      Spelled ⟨path, none⟩ cs
  | operator {path : FieldPath} {cs token : List Char} (h : path.Spelled cs)
      (htoken : Segment token) : Spelled ⟨path, some (segmentName token)⟩ (cs ++ '.' :: token)

section Pieces
variable {sep : Char → Bool}

/-- A text has no separator, or a first one. -/
theorem Text.separator_cases (sep : Char → Bool) (cs : List Char) :
    (∀ c ∈ cs, sep c = false) ∨
      ∃ w d rest, cs = w ++ d :: rest ∧ (∀ c ∈ w, sep c = false) ∧ sep d = true := by
  induction cs with
  | nil => exact .inl (List.forall_mem_nil _)
  | cons c cs ih =>
    by_cases hc : sep c = true
    · exact .inr ⟨[], c, cs, rfl, List.forall_mem_nil _, hc⟩
    · have hc : sep c = false := Bool.eq_false_iff.mpr hc
      rcases ih with h | ⟨w, d, rest, rfl, hw, hd⟩
      · exact .inl (List.forall_mem_cons.mpr ⟨hc, h⟩)
      · exact .inr ⟨c :: w, d, rest, rfl, List.forall_mem_cons.mpr ⟨hc, hw⟩, hd⟩

theorem Text.splitChars_append_cons {w rest : List Char} {d : Char}
    (hw : ∀ c ∈ w, sep c = false) (hd : sep d = true) :
    splitChars sep (w ++ d :: rest) = w :: splitChars sep rest := by
  have hhead : ∀ c ∈ (d :: rest).head?, sep c = true := by simpa using hd
  rw [splitChars_append hw hhead, splitChars, if_pos hd, List.tail_cons]

end Pieces

namespace FieldPath
variable {source : String} {path : FieldPath} {cs w rest : List Char}

theorem ofSegments?_cons (source : String) (w : List Char) {ps : List (List Char)}
    (hps : ps ≠ []) :
    ofSegments? source (w :: ps) =
      if Text.trimChars Text.isWhiteSpace w = [] then .error (.malformed source .emptySegment)
      else (ofSegments? source ps).map fun p => ⟨segmentName w :: p.relations, p.field⟩ := by
  obtain ⟨p, ps, rfl⟩ := List.exists_cons_of_ne_nil hps
  simp only [ofSegments?, List.map_cons, List.any_cons]
  by_cases hw : Text.trimChars Text.isWhiteSpace w = []
  · simp [hw]
  · have hempty : (Text.trimChars Text.isWhiteSpace w).isEmpty = false := by simpa using hw
    rw [if_neg hw, hempty, Bool.false_or]
    split <;> rfl

theorem ofChars?_segment (source : String) (hw : ∀ c ∈ w, isSeparator c = false) :
    ofChars? source w =
      if Text.trimChars Text.isWhiteSpace w = [] then .error (.malformed source .emptySegment)
      else .ok ⟨[], segmentName w⟩ := by
  rw [ofChars?, Text.splitChars_eq_singleton hw, ofSegments?]
  by_cases hblank : Text.trimChars Text.isWhiteSpace w = [] <;> simp [hblank, segmentName]

theorem ofChars?_append (source : String) {separator : Char}
    (hw : ∀ c ∈ w, isSeparator c = false) (hsep : isSeparator separator = true) :
    ofChars? source (w ++ separator :: rest) =
      if Text.trimChars Text.isWhiteSpace w = [] then .error (.malformed source .emptySegment)
      else (ofChars? source rest).map fun p => ⟨segmentName w :: p.relations, p.field⟩ := by
  rw [ofChars?, Text.splitChars_append_cons hw hsep,
    ofSegments?_cons source w (Text.splitChars_ne_nil isSeparator rest)]
  rfl

theorem Spelled.ofChars?_eq (h : path.Spelled cs) (source : String) :
    ofChars? source cs = .ok path := by
  induction h with
  | field h => rw [ofChars?_segment source h.noSeparator, if_neg h.notBlank]
  | relation h hsep _ ih =>
    rw [ofChars?_append source h.noSeparator hsep, if_neg h.notBlank, ih]
    rfl

theorem spelled_of_ofChars? (h : ofChars? source cs = .ok path) : path.Spelled cs := by
  -- what stands behind the first separator is a shorter text of the rest of the path
  induction hlen : cs.length using Nat.strong_induction_on generalizing cs path with
  | _ n ih =>
    rcases Text.separator_cases isSeparator cs with hw | ⟨w, d, rest, rfl, hw, hd⟩
    · rw [ofChars?_segment source hw] at h
      split at h
      · cases h
      · next hblank =>
        cases h
        exact .field ⟨hw, hblank⟩
    · rw [ofChars?_append source hw hd] at h
      split at h
      · cases h
      · next hblank =>
        obtain ⟨p, hp, rfl⟩ := map_eq_ok_iff.mp h
        have hlt : rest.length < n := by
          rw [← hlen, List.length_append, List.length_cons]
          omega
        have hrest : p.Spelled rest := ih rest.length hlt hp rfl
        exact .relation ⟨hw, hblank⟩ hd hrest

theorem ofChars?_eq_ok_iff : ofChars? source cs = .ok path ↔ path.Spelled cs :=
  ⟨spelled_of_ofChars?, fun h => h.ofChars?_eq source⟩

/-- Each relation brings one separator. -/
theorem Spelled.countP_eq (h : path.Spelled cs) :
    cs.countP isSeparator = path.relations.length := by
  induction h with
  | field h => exact h.countP_eq
  | relation h hsep _ ih =>
    rw [List.countP_append, List.countP_cons_of_pos hsep, h.countP_eq, ih, List.length_cons]
    omega

end FieldPath

theorem lastPoint?_eq_none_iff {cs : List Char} : lastPoint? cs = none ↔ '.' ∉ cs := by
  refine ⟨fun h => ?_, lastPoint?_eq_none⟩
  induction cs with
  | nil => exact List.not_mem_nil
  | cons c cs ih =>
    rw [lastPoint?] at h
    cases hlast : lastPoint? cs with
    | some r =>
      rw [hlast] at h
      cases h
    | none =>
      rw [hlast] at h
      have hc : c ≠ '.' := fun heq => by simp [heq] at h
      exact List.not_mem_cons_of_ne_of_not_mem hc.symm (ih hlast)

theorem lastPoint?_eq_some_iff {cs before after : List Char} :
    lastPoint? cs = some (before, after) ↔ cs = before ++ '.' :: after ∧ '.' ∉ after := by
  refine ⟨fun h => ?_, fun ⟨hcs, hafter⟩ => hcs ▸ lastPoint?_append hafter⟩
  induction cs generalizing before with
  | nil => cases h
  | cons c cs ih =>
    rw [lastPoint?] at h
    cases hlast : lastPoint? cs with
    | some r =>
      rw [hlast] at h
      cases h
      obtain ⟨hcs, hafter⟩ := ih hlast
      exact ⟨congrArg (c :: ·) hcs, hafter⟩
    | none =>
      rw [hlast] at h
      by_cases hc : c = '.'
      · simp only [if_pos hc] at h
        cases h
        exact ⟨congrArg (· :: after) hc, lastPoint?_eq_none_iff.mp hlast⟩
      · simp [hc] at h

namespace ConditionKey
variable {k : ConditionKey} {cs : List Char}

/-- What is passed over behind a key: nothing, or what a dollar behind the operator starts. -/
def PassedOver (k : ConditionKey) (tail : List Char) : Prop :=
  tail = [] ∨ k.operator?.isSome = true ∧ tail.head? = some '$' ∧ '.' ∉ tail

def EndsWithOperator (cs : List Char) : Prop :=
  ∀ before after, cs = before ++ '.' :: after → '.' ∉ after → '$' ∉ after

theorem Spelled.countP_eq (h : k.Spelled cs) :
    cs.countP FieldPath.isSeparator = k.path.relations.length + k.operator?.toList.length := by
  cases h with
  | field h => rw [h.countP_eq]; rfl
  | operator h htoken =>
    rw [List.countP_append, List.countP_cons_of_pos (by decide), h.countP_eq, htoken.countP_eq]
    rfl

theorem parse?_of_operator {key : String} {before token tail : List Char}
    (hkey : key.toList = before ++ '.' :: (token ++ tail)) (htoken : '$' ∉ token)
    (htail : tail = [] ∨ tail.head? = some '$') (hpoint : '.' ∉ token ++ tail) :
    parse? key =
      if Text.trimChars Text.isWhiteSpace token = [] then .error (.malformed key .missingOperator)
      else (FieldPath.ofChars? key before).map (⟨·, some (segmentName token)⟩) := by
  have hall : ∀ c ∈ token, decide (c ≠ '$') = true := fun c hc =>
    decide_eq_true fun heq => htoken (heq ▸ hc)
  have htake : (token ++ tail).takeWhile (· ≠ '$') = token := by
    rw [List.takeWhile_append_of_pos hall]
    cases tail with
    | nil => simp
    | cons d tail =>
      have hd : d = '$' := by simpa using htail
      simp [hd]
  rw [parse?, hkey, lastPoint?_append hpoint]
  simp only [htake, List.isEmpty_iff]
  rfl

theorem parse?_eq_ok_iff {key : String} : parse? key = .ok k ↔
    ∃ cs tail, key.toList = cs ++ tail ∧ k.Spelled cs ∧ k.PassedOver tail := by
  constructor
  · intro h
    cases hlast : lastPoint? key.toList with
    | none =>
      have hpoint := lastPoint?_eq_none_iff.mp hlast
      rw [parse?, hlast] at h
      obtain ⟨path, hpath, rfl⟩ := map_eq_ok_iff.mp h
      have hspelled := FieldPath.ofChars?_eq_ok_iff.mp hpath
      exact ⟨key.toList, [], (List.append_nil _).symm, .field hspelled hpoint, .inl rfl⟩
    | some r =>
      obtain ⟨before, after⟩ := r
      obtain ⟨hkey, hpoint⟩ := lastPoint?_eq_some_iff.mp hlast
      have hafter := List.takeWhile_append_dropWhile (p := (· ≠ '$')) (l := after)
      generalize htoken : after.takeWhile (· ≠ '$') = token at hafter
      generalize htail : after.dropWhile (· ≠ '$') = tail at hafter
      have hdollar : '$' ∉ token := fun hmem => by
        rw [← htoken] at hmem
        simpa using List.mem_takeWhile_imp hmem
      have hhead : tail = [] ∨ tail.head? = some '$' := by
        cases tail with
        | nil => exact .inl rfl
        | cons d tail =>
          have hd := List.head?_dropWhile_not (· ≠ '$') after
          rw [htail] at hd
          exact .inr (by simpa using hd)
      subst hafter
      rw [parse?_of_operator hkey hdollar hhead hpoint] at h
      split at h
      · cases h
      · next hblank =>
        obtain ⟨path, hpath, rfl⟩ := map_eq_ok_iff.mp h
        have hspelled := FieldPath.ofChars?_eq_ok_iff.mp hpath
        rw [List.mem_append, not_or] at hpoint
        have hsegment : Segment token := by
          refine ⟨fun c hc => ?_, hblank⟩
          simp only [FieldPath.isSeparator, Bool.or_eq_false_iff, beq_eq_false_iff_ne]
          exact ⟨fun heq => hpoint.1 (heq ▸ hc), fun heq => hdollar (heq ▸ hc)⟩
        refine ⟨before ++ '.' :: token, tail, by simp [hkey], .operator hspelled hsegment, ?_⟩
        exact hhead.imp_right fun hhead => ⟨rfl, hhead, hpoint.2⟩
  · rintro ⟨cs, tail, hkey, hspelled, htail⟩
    cases hspelled with
    | field h hpoint =>
      have hnil : tail = [] := by
        rcases htail with htail | ⟨hoperator, _⟩
        · exact htail
        · cases hoperator
      rw [hnil, List.append_nil] at hkey
      rw [parse?, hkey, lastPoint?_eq_none hpoint]
      simp only [FieldPath.parse?, hkey, h.ofChars?_eq]
      rfl
    | @operator path before token h htoken =>
      have hnot (c : Char) (hc : FieldPath.isSeparator c = true) : c ∉ token := fun hmem => by
        rw [htoken.noSeparator c hmem] at hc
        cases hc
      have hpoint : '.' ∉ token ++ tail := by
        rw [List.mem_append, not_or]
        refine ⟨hnot '.' (by decide), ?_⟩
        rcases htail with rfl | ⟨_, _, htail⟩
        · exact List.not_mem_nil
        · exact htail
      have hkey : key.toList = before ++ '.' :: (token ++ tail) := by simp [hkey]
      rw [parse?_of_operator hkey (hnot '$' (by decide)) (htail.imp_right fun h => h.2.1) hpoint,
        if_neg htoken.notBlank, h.ofChars?_eq]
      rfl

theorem spelled_of_endsWithOperator {key : String} (hkey : EndsWithOperator key.toList)
    (h : parse? key = .ok k) : k.Spelled key.toList := by
  obtain ⟨cs, tail, hcs, hspelled, htail⟩ := parse?_eq_ok_iff.mp h
  rcases htail with rfl | ⟨hoperator, hhead, hpoint⟩
  · rwa [hcs, List.append_nil]
  · cases hspelled with
    | field => cases hoperator
    | @operator path before token _ htoken =>
      have hlast : key.toList = before ++ '.' :: (token ++ tail) := by simp [hcs]
      have hnone : '.' ∉ token ++ tail := by
        rw [List.mem_append, not_or]
        refine ⟨fun hmem => ?_, hpoint⟩
        exact absurd (htoken.noSeparator '.' hmem) (by decide)
      have hdollar : '$' ∈ tail := List.mem_of_mem_head? hhead
      exact absurd (List.mem_append_right token hdollar) (hkey before _ hlast hnone)

/-- A key is read where its text spells one, blanks around the names and one separator between any
two, and as what it spells; then it has a separator for each relation and one for the operator. No
other text is read but for what a dollar behind the last point starts, which is passed over. -/
theorem parse?_spelled (key : String) (k : ConditionKey) :
    (parse? key = .ok k ↔
      ∃ cs tail, key.toList = cs ++ tail ∧ k.Spelled cs ∧ k.PassedOver tail) ∧
    (EndsWithOperator key.toList → (parse? key = .ok k ↔ k.Spelled key.toList)) ∧
    (k.Spelled key.toList → parse? key = .ok k ∧ key.toList.countP FieldPath.isSeparator =
      k.path.relations.length + k.operator?.toList.length) := by
  have hread (h : k.Spelled key.toList) : parse? key = .ok k :=
    parse?_eq_ok_iff.mpr ⟨key.toList, [], (List.append_nil _).symm, h, .inl rfl⟩
  refine ⟨parse?_eq_ok_iff, fun hkey => ⟨fun h => ?_, hread⟩, fun h => ⟨hread h, h.countP_eq⟩⟩
  exact spelled_of_endsWithOperator hkey h

def ownerNameLike : ConditionKey := ⟨⟨["company", "owner"], "name"⟩, some "like"⟩

theorem parse?_spelled_ownerName :
    EndsWithOperator "company $owner. name.like ".toList ∧
    ownerNameLike.Spelled "company $owner. name.like ".toList ∧
    parse? "company $owner. name.like " = .ok ownerNameLike ∧
    "company $owner. name.like ".toList.countP FieldPath.isSeparator = 3 := by
  have hcompany : Segment "company ".toList := by decide
  have howner : Segment "owner".toList := by decide
  have hname : Segment " name".toList := by decide
  have hlike : Segment "like ".toList := by decide
  have howned : FieldPath.Spelled ⟨["owner"], "name"⟩ "owner. name".toList :=
    .relation howner (show FieldPath.isSeparator '.' = true by decide) (.field hname)
  have hpath : FieldPath.Spelled ⟨["company", "owner"], "name"⟩ "company $owner. name".toList :=
    .relation hcompany (show FieldPath.isSeparator '$' = true by decide) howned
  have hspelled : ownerNameLike.Spelled "company $owner. name.like ".toList :=
    .operator hpath hlike
  have hends : EndsWithOperator "company $owner. name.like ".toList := by
    intro before after hkey hafter
    have hlast : lastPoint? "company $owner. name.like ".toList =
        some ("company $owner. name".toList, "like ".toList) := by decide
    rw [lastPoint?_eq_some_iff.mpr ⟨hkey, hafter⟩] at hlast
    cases hlast
    decide
  obtain ⟨_, hiff, hcount⟩ := parse?_spelled "company $owner. name.like " ownerNameLike
  exact ⟨hends, hspelled, (hiff hends).mpr hspelled, (hcount hspelled).2⟩

/-- A key is read that has one separator more than what is read of it spells. -/
theorem parse?_ageAbove : parse? "age.gt$foo" = .ok ⟨FieldPath.column "age", some "gt"⟩ ∧
    "age.gt$foo".toList.countP FieldPath.isSeparator = 2 ∧
    ¬ Spelled ⟨FieldPath.column "age", some "gt"⟩ "age.gt$foo".toList := by
  refine ⟨rfl, by decide, fun h => ?_⟩
  exact absurd h.countP_eq (by decide)

end ConditionKey
end RowSearch
