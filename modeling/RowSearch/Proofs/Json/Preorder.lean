import Mathlib.Tactic.Common
import RowSearch.Json.Compare

/-! # The order of values

Values are compared as numbers, as texts or as truth values, depending on both of them, and values
with no common scale count as equal. Turning a comparison round always turns its answer round. But
a text stands between texts by its characters and between numbers by the number it reads as, and a
value without an order is equal to all others, so the order is transitive only where one scale
serves all pairs.
-/
namespace RowSearch

def Extended.place? : Extended → Option (Int × Int)
  | .finite d => some (0, d.value)
  | .infinite negative => some (if negative then (-1, 0) else (1, 0))
  | .undefined => none

def comparePlaces : Int × Int → Int × Int → Ordering :=
  compareLex (compareOn Prod.fst) (compareOn Prod.snd)

instance : Std.TransCmp comparePlaces :=
  inferInstanceAs (Std.TransCmp (compareLex (compareOn Prod.fst) (compareOn Prod.snd)))

theorem Extended.compare?_eq (x y : Extended) :
    x.compare? y = x.place?.bind fun p => y.place?.map (comparePlaces p) := by
  cases x with
  | undefined => rfl
  | finite a =>
    cases y with
    | undefined => rfl
    | finite b => rfl
    | infinite n => cases n <;> rfl
  | infinite n =>
    cases y with
    | undefined => cases n <;> rfl
    | finite b => cases n <;> rfl
    | infinite m => cases n <;> cases m <;> rfl

/-- An order that is turned round and carried on as it should be gives no answer in a circle. -/
theorem ne_gt_trans {α : Type} {cmp : α → α → Ordering} [Std.TransCmp cmp] {a b c : α}
    (hab : cmp a b ≠ .gt) (hbc : cmp b c ≠ .gt) : cmp a c ≠ .gt := by
  rw [ne_eq, Ordering.ne_gt_iff_isLE] at *
  exact Std.TransCmp.isLE_trans hab hbc

namespace Json

/-- What two values can be compared as. -/
inductive Scale where
  | numbers
  | texts
  | truths
deriving DecidableEq

def numberPlace? : Json → Option (Int × Int)
  | .number n => (Extended.finite n.approx).place?
  | .string s => (numeric? s).bind Extended.place?
  | _ => none

def scale? (a b : Json) : Option Scale :=
  match a, b with
  | .string _, .string _ => some .texts
  | .bool _, .bool _ => some .truths
  | a, b => if a.numberPlace?.isSome && b.numberPlace?.isSome then some .numbers else none

def compareNumbers (a b : Json) : Option Ordering :=
  a.numberPlace?.bind fun p => b.numberPlace?.map (comparePlaces p)

theorem compareNumbers_swap (a b : Json) :
    compareNumbers b a = (compareNumbers a b).map Ordering.swap := by
  unfold compareNumbers
  cases a.numberPlace? with
  | none => cases b.numberPlace? <;> rfl
  | some p =>
    cases b.numberPlace? with
    | none => rfl
    | some q => exact congrArg some Std.OrientedCmp.eq_swap

theorem compare?_eq (a b : Json) : a.compare? b =
    match a, b with
    | .string s, .string t => some (Ord.compare s t)
    | .bool s, .bool t => some (Ord.compare s t)
    | a, b => compareNumbers a b := by
  cases a with
  | number m =>
    cases b with
    | number n => rfl
    | string s =>
      show (numeric? s).bind _ = ((numeric? s).bind _).map _
      cases numeric? s with
      | none => rfl
      | some x => exact Extended.compare?_eq _ x
    | _ => rfl
  | string s =>
    cases b with
    | number n =>
      show (numeric? s).bind _ = ((numeric? s).bind _).bind _
      cases numeric? s with
      | none => rfl
      | some x => exact Extended.compare?_eq x _
    | string t => rfl
    | _ => simp [compare?, compareNumbers, numberPlace?]
  | bool s => cases b <;> rfl
  | _ => rfl

theorem compare?_swap (a b : Json) : b.compare? a = (a.compare? b).map Ordering.swap := by
  have hnumbers := compareNumbers_swap a b
  rw [compare?_eq, compare?_eq a b]
  cases a with
  | string s =>
    cases b with
    | string t => exact congrArg some Std.OrientedCmp.eq_swap
    | _ => exact hnumbers
  | bool s =>
    cases b with
    | bool t => exact congrArg some Std.OrientedCmp.eq_swap
    | _ => exact hnumbers
  | _ => cases b <;> exact hnumbers

section Scales
variable {a b c : Json} {scale : Scale}

theorem texts_of_scale? (h : a.scale? b = some .texts) : ∃ s t, a = .string s ∧ b = .string t := by
  unfold scale? at h
  split at h
  · exact ⟨_, _, rfl, rfl⟩
  · cases h
  · split at h <;> cases h

theorem truths_of_scale? (h : a.scale? b = some .truths) : ∃ s t, a = .bool s ∧ b = .bool t := by
  unfold scale? at h
  split at h
  · cases h
  · exact ⟨_, _, rfl, rfl⟩
  · split at h <;> cases h

theorem numbers_of_scale? (h : a.scale? b = some .numbers) : ∃ p q, a.numberPlace? = some p ∧
    b.numberPlace? = some q ∧ a.compare? b = some (comparePlaces p q) := by
  rw [compare?_eq]
  unfold scale? at h
  split at h
  · cases h
  · cases h
  · split at h
    · next hsome =>
      obtain ⟨ha, hb⟩ := Bool.and_eq_true_iff.mp hsome
      obtain ⟨p, hp⟩ := Option.isSome_iff_exists.mp ha
      obtain ⟨q, hq⟩ := Option.isSome_iff_exists.mp hb
      refine ⟨p, q, hp, hq, ?_⟩
      simp [compareNumbers, hp, hq]
    · cases h

theorem compare?_of_no_scale (h : a.scale? b = none) : a.compare? b = none := by
  rw [compare?_eq]
  unfold scale? at h
  split at h
  · cases h
  · cases h
  · split at h
    · cases h
    · next hnone =>
      unfold compareNumbers
      cases ha : a.numberPlace? with
      | none => rfl
      | some p =>
        cases hb : b.numberPlace? with
        | none => rfl
        | some q => simp [ha, hb] at hnone

/-- On one scale values stand in one line. -/
theorem compare?_trans (hab : a.scale? b = some scale) (hbc : b.scale? c = some scale)
    (hac : a.scale? c = some scale) (h : a.compare? b ≠ some .gt) (h' : b.compare? c ≠ some .gt) :
    a.compare? c ≠ some .gt := by
  cases scale with
  | texts =>
    obtain ⟨s, t, rfl, rfl⟩ := texts_of_scale? hab
    obtain ⟨_, u, _, rfl⟩ := texts_of_scale? hbc
    simp only [compare?, ne_eq, Option.some_inj] at h h' ⊢
    exact ne_gt_trans h h'
  | truths =>
    obtain ⟨s, t, rfl, rfl⟩ := truths_of_scale? hab
    obtain ⟨_, u, _, rfl⟩ := truths_of_scale? hbc
    simp only [compare?, ne_eq, Option.some_inj] at h h' ⊢
    exact ne_gt_trans h h'
  | numbers =>
    obtain ⟨p, q, hp, hq, heq⟩ := numbers_of_scale? hab
    obtain ⟨q', r, hq', hr, heq'⟩ := numbers_of_scale? hbc
    obtain ⟨p', r', hp', hr', heq''⟩ := numbers_of_scale? hac
    cases hp.symm.trans hp'
    cases hq.symm.trans hq'
    cases hr.symm.trans hr'
    rw [heq, ne_eq, Option.some_inj] at h
    rw [heq', ne_eq, Option.some_inj] at h'
    rw [heq'', ne_eq, Option.some_inj]
    exact ne_gt_trans h h'

end Scales

section Missing
variable {u v w : Option Json}

theorem compareMissing_swap (v w : Option Json) :
    compareMissing w v = (compareMissing v w).swap := by
  unfold compareMissing
  cases present v with
  | none => cases present w <;> rfl
  | some a =>
    cases present w with
    | none => rfl
    | some b =>
      show (b.compare? a).getD .eq = ((a.compare? b).getD .eq).swap
      rw [compare?_swap a b]
      cases a.compare? b <;> rfl

/-- Three values any two of which are compared on one scale, unless one of them is missing. -/
def OneScale (u v w : Option Json) : Prop :=
  ∀ a ∈ present u, ∀ b ∈ present v, ∀ c ∈ present w,
    a.scale? b = b.scale? c ∧ b.scale? c = a.scale? c

theorem getD_ne_gt_iff {o : Option Ordering} : o.getD .eq ≠ .gt ↔ o ≠ some .gt := by
  cases o <;> simp

theorem compareMissing_trans (hscale : OneScale u v w) (huv : compareMissing u v ≠ .gt)
    (hvw : compareMissing v w ≠ .gt) : compareMissing u w ≠ .gt := by
  unfold OneScale at hscale
  unfold compareMissing at *
  cases hu : present u with
  | none => cases present w <;> exact Ordering.noConfusion
  | some a =>
    cases hv : present v with
    | none =>
      rw [hu, hv] at huv
      exact absurd rfl huv
    | some b =>
      cases hw : present w with
      | none =>
        rw [hv, hw] at hvw
        exact absurd rfl hvw
      | some c =>
        rw [hu, hv] at huv
        rw [hv, hw] at hvw
        obtain ⟨hab, hbc⟩ := hscale a hu b hv c hw
        rw [getD_ne_gt_iff] at huv hvw ⊢
        cases hac : a.scale? c with
        | none =>
          rw [compare?_of_no_scale hac]
          exact nofun
        | some scale =>
          exact compare?_trans (hab.trans (hbc.trans hac)) (hbc.trans hac) hac huv hvw

/-- Some values stand in one line, where several may share a place. -/
structure PreorderOn (values : List (Option Json)) : Prop where
  swap : ∀ v ∈ values, ∀ w ∈ values, compareMissing w v = (compareMissing v w).swap
  trans : ∀ u ∈ values, ∀ v ∈ values, ∀ w ∈ values, compareMissing u v ≠ .gt →
    compareMissing v w ≠ .gt → compareMissing u w ≠ .gt

def kindScale? : Json → Option Scale
  | .number _ => some .numbers
  | .string _ => some .texts
  | .bool _ => some .truths
  | _ => none

def OneKind (values : List (Option Json)) : Prop :=
  ∀ v ∈ values, ∀ w ∈ values, ∀ a ∈ present v, ∀ b ∈ present w, a.kindScale? = b.kindScale?

theorem scale?_of_kind {a b : Json} (h : a.kindScale? = b.kindScale?) :
    a.scale? b = a.kindScale? := by
  cases a with
  | number m =>
    cases b with
    | number n => rfl
    | _ => cases h
  | string s =>
    cases b with
    | string t => rfl
    | _ => cases h
  | bool s =>
    cases b with
    | bool t => rfl
    | _ => cases h
  | _ => rfl

theorem preorderOn_of_oneKind {values : List (Option Json)} (h : OneKind values) :
    PreorderOn values := by
  refine ⟨fun v _ w _ => compareMissing_swap v w, fun u hu v hv w hw huv hvw => ?_⟩
  refine compareMissing_trans ?_ huv hvw
  intro a ha b hb c hc
  have hab := h u hu v hv a ha b hb
  have hbc := h v hv w hw b hb c hc
  rw [scale?_of_kind hab, scale?_of_kind hbc, scale?_of_kind (hab.trans hbc)]
  exact ⟨hab, hab.symm⟩

end Missing
end Json
end RowSearch
