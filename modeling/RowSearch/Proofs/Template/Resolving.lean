import RowSearch.Template.Value

/-! # Values that templates follow

A value that stands for another one is followed hop by hop: a producer is called, a choice picks a
branch, or null where that branch is not set. A value that becomes concrete in fewer hops than
there are rounds is followed to the end. In as many hops or more it is given up, and so is a value
that never becomes concrete.
-/
namespace RowSearch.TemplateValue

/-- The value becomes a concrete one after exactly so many hops. -/
inductive Becomes : TemplateValue → Nat → TemplateValue → Prop where
  | here {v : TemplateValue} (h : v.hop? = none) : Becomes v 0 v
  | hop {v w u : TemplateValue} {n : Nat} (h : v.hop? = some w) (hw : Becomes w n u) :
      Becomes v (n + 1) u

section Following
variable {v w u : TemplateValue} {n : Nat}

theorem resolveWithin_concrete (h : v.hop? = none) (left : Nat) :
    v.resolveWithin (left + 1) = .ok v := by
  rw [resolveWithin, h]

theorem resolveWithin_hop (h : v.hop? = some w) (left : Nat) :
    v.resolveWithin (left + 1) = w.resolveWithin left := by
  rw [resolveWithin, h]

/-- A value is followed to the end if a round is left to find it concrete, and given up if not. -/
theorem Becomes.resolveWithin_eq (h : v.Becomes n u) (left : Nat) :
    v.resolveWithin left = if n < left then .ok u else .error unresolved := by
  induction h generalizing left with
  | here h =>
    cases left with
    | zero => rfl
    | succ left => rw [resolveWithin_concrete h, if_pos left.succ_pos]
  | hop h _ ih =>
    cases left with
    | zero => rfl
    | succ left => simp only [resolveWithin_hop h, ih, Nat.succ_lt_succ_iff]

theorem resolveWithin_of_never (h : ∀ n u, ¬ v.Becomes n u) (left : Nat) :
    v.resolveWithin left = .error unresolved := by
  induction left generalizing v with
  | zero => rfl
  | succ left ih =>
    cases hv : v.hop? with
    | none => exact absurd (.here hv) (h 0 v)
    | some w =>
      have hw : ∀ n u, ¬ w.Becomes n u := fun n u hbecomes => h (n + 1) u (.hop hv hbecomes)
      rw [resolveWithin_hop hv, ih hw]

end Following

/-- A value that becomes concrete is resolved to what it becomes if that takes fewer hops than there
are rounds. If it takes as many or more, and where it never becomes concrete, it is an invalid
template. -/
theorem resolve_becomes (v : TemplateValue) :
    (∀ n u, v.Becomes n u → v.resolve =
      if n < rounds then .ok u else .error (.invalidTemplate (.unresolved rounds))) ∧
    ((∀ n u, ¬ v.Becomes n u) → v.resolve = .error (.invalidTemplate (.unresolved rounds))) := by
  constructor
  · intro n u h
    exact h.resolveWithin_eq rounds
  · intro h
    exact resolveWithin_of_never h rounds

def relay : Nat → TemplateValue
  | 0 => .value (.string "deep")
  | n + 1 => if n % 2 = 0 then .producer (relay n) else .choice false none (some (relay n))

theorem becomes_relay (n : Nat) : (relay n).Becomes n (.value (.string "deep")) := by
  induction n with
  | zero => exact .here rfl
  | succ n ih =>
    refine .hop (w := relay n) ?_ ih
    rw [relay]
    split <;> rfl

theorem never_becomes_endless (hops : Nat → Hop) (n : Nat) (u : TemplateValue) :
    ¬ (endless hops).Becomes n u := by
  intro h
  generalize hv : endless hops = v at h
  induction h generalizing hops with
  | here h =>
    subst hv
    cases h
  | hop h _ ih =>
    subst hv
    cases h
    exact ih _ rfl

theorem resolve_becomes_relay :
    (relay 15).Becomes 15 (.value (.string "deep")) ∧
    (relay 15).resolve = .ok (.value (.string "deep")) ∧
    (relay 17).Becomes 17 (.value (.string "deep")) ∧
    (relay 17).resolve = .error (.invalidTemplate (.unresolved 16)) ∧
    (choice true none (some (relay 0))).resolve = .ok (.value .null) ∧
    (producer (endless fun n => if n % 2 = 0 then .pick true else .call)).resolve =
      .error (.invalidTemplate (.unresolved 16)) := by
  have hnever (n : Nat) (u : TemplateValue) :
      ¬ (producer (endless fun n => if n % 2 = 0 then .pick true else .call)).Becomes n u := by
    rintro (_ | ⟨hv, hw⟩)
    · contradiction
    · cases hv
      exact never_becomes_endless _ _ _ hw
  have hnull : (choice true none (some (relay 0))).Becomes 1 (.value .null) :=
    .hop rfl (.here rfl)
  refine ⟨becomes_relay 15, ?_, becomes_relay 17, ?_, ?_, (resolve_becomes _).2 hnever⟩
  · rw [(resolve_becomes _).1 15 _ (becomes_relay 15), if_pos (by decide)]
  · rw [(resolve_becomes _).1 17 _ (becomes_relay 17), if_neg (by decide)]
  · rw [(resolve_becomes _).1 1 _ hnull, if_pos (by decide)]

theorem becomes_producers {u : TemplateValue} (hu : u.hop? = none) (n : Nat) :
    (Nat.repeat producer n u).Becomes n u := by
  induction n with
  | zero => exact .here hu
  | succ n ih => exact .hop rfl ih

/-- Sixteen calls lead to a value, and it is not looked at. -/
theorem resolve_sixteenCalls :
    (Nat.repeat producer rounds (.value (.bool true))).Becomes rounds (.value (.bool true)) ∧
    (Nat.repeat producer rounds (.value (.bool true))).resolve =
      .error (.invalidTemplate (.unresolved rounds)) :=
  ⟨becomes_producers rfl rounds, rfl⟩

end RowSearch.TemplateValue
