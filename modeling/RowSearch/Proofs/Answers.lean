import Mathlib.Data.List.Forall2
import Mathlib.Tactic.Common

/-! # Answers that may fail

Steps that may fail one after the other, the items of a list taken until one fails, and tests of
the items that stop at the first which decides or fails. The deciding answer tells of the item that
has given it, the opposite answer of every item.
-/
namespace RowSearch

variable {ε α β : Type}

theorem bind_eq_ok_iff {x : Except ε α} {k : α → Except ε β} {b : β} :
    x >>= k = .ok b ↔ ∃ a, x = .ok a ∧ k a = .ok b := by
  cases x with
  | error e => simp [bind, Except.bind]
  | ok a => simp [bind, Except.bind]

theorem bind_eq_error_iff {x : Except ε α} {k : α → Except ε β} {e : ε} :
    x >>= k = .error e ↔ x = .error e ∨ ∃ a, x = .ok a ∧ k a = .error e := by
  cases x with
  | error f => simp [bind, Except.bind]
  | ok a => simp [bind, Except.bind]

theorem map_eq_ok_iff {x : Except ε α} {g : α → β} {b : β} :
    x.map g = .ok b ↔ ∃ a, x = .ok a ∧ g a = b := by
  cases x <;> simp [Except.map]

theorem map_eq_error_iff {x : Except ε α} {g : α → β} {e : ε} :
    x.map g = .error e ↔ x = .error e := by
  cases x <;> simp [Except.map]

theorem map_map {γ : Type} (x : Except ε α) (f : α → β) (g : β → γ) :
    (x.map f).map g = x.map (g ∘ f) := by
  cases x <;> rfl

theorem exists_of_isOk {x : Except ε α} (h : x.isOk = true) : ∃ a, x = .ok a := by
  cases x with
  | error e => exact absurd h Bool.noConfusion
  | ok a => exact ⟨a, rfl⟩

/-- What a list does by its first item that stops it, where the items before it let it go on. -/
theorem first_iff (stops : List α → Prop) {fails goes : α → Prop} (hnil : ¬ stops [])
    (hcons : ∀ a l, stops (a :: l) ↔ fails a ∨ goes a ∧ stops l) {l : List α} :
    stops l ↔ ∃ before a after, l = before ++ a :: after ∧ (∀ b ∈ before, goes b) ∧ fails a := by
  induction l with
  | nil => simp [hnil]
  | cons x l ih =>
    rw [hcons, ih]
    constructor
    · rintro (hx | ⟨hx, before, a, after, rfl, hbefore, ha⟩)
      · exact ⟨[], x, l, rfl, fun _ hb => absurd hb List.not_mem_nil, hx⟩
      · exact ⟨x :: before, a, after, rfl, List.forall_mem_cons.mpr ⟨hx, hbefore⟩, ha⟩
    · rintro ⟨before, a, after, hl, hbefore, ha⟩
      cases before with
      | nil =>
        cases hl
        exact .inl ha
      | cons first before =>
        cases hl
        obtain ⟨hfirst, hbefore⟩ := List.forall_mem_cons.mp hbefore
        exact .inr ⟨hfirst, before, a, after, rfl, hbefore, ha⟩

section Lists
variable {f : α → Except ε β} {l : List α} {bs : List β}

theorem mapM_eq_ok_iff : l.mapM f = .ok bs ↔ List.Forall₂ (fun a b => f a = .ok b) l bs := by
  induction l generalizing bs with
  | nil => simp [pure, Except.pure, eq_comm]
  | cons a l ih =>
    rw [List.mapM_cons, List.forall₂_cons_left_iff, bind_eq_ok_iff]
    constructor
    · rintro ⟨b, hb, h⟩
      obtain ⟨rest, hrest, h⟩ := bind_eq_ok_iff.mp h
      cases h
      exact ⟨b, rest, hb, ih.mp hrest, rfl⟩
    · rintro ⟨b, rest, hb, hrest, rfl⟩
      exact ⟨b, hb, bind_eq_ok_iff.mpr ⟨rest, ih.mpr hrest, rfl⟩⟩

theorem exists_of_mem_mapM {b : β} (h : l.mapM f = .ok bs) (hb : b ∈ bs) :
    ∃ a ∈ l, f a = .ok b := by
  rw [mapM_eq_ok_iff] at h
  induction h with
  | nil => exact absurd hb List.not_mem_nil
  | cons hfirst _ ih =>
    rcases List.mem_cons.mp hb with rfl | hb
    · exact ⟨_, List.mem_cons_self, hfirst⟩
    · obtain ⟨a, ha, hf⟩ := ih hb
      exact ⟨a, List.mem_cons_of_mem _ ha, hf⟩

theorem mapM_answers_iff : (∃ bs, l.mapM f = .ok bs) ↔ ∀ a ∈ l, ∃ b, f a = .ok b := by
  induction l with
  | nil => simp [pure, Except.pure]
  | cons a l ih =>
    rw [List.forall_mem_cons, ← ih]
    simp only [mapM_eq_ok_iff, List.forall₂_cons_left_iff]
    constructor
    · rintro ⟨_, b, bs, hb, hbs, rfl⟩
      exact ⟨⟨b, hb⟩, bs, hbs⟩
    · rintro ⟨⟨b, hb⟩, bs, hbs⟩
      exact ⟨b :: bs, b, bs, hb, hbs, rfl⟩

theorem mapM_cons_eq_error_iff {a : α} {e : ε} :
    (a :: l).mapM f = .error e ↔ f a = .error e ∨ ∃ b, f a = .ok b ∧ l.mapM f = .error e := by
  rw [List.mapM_cons]
  simp only [bind_eq_error_iff, pure, Except.pure, reduceCtorEq, and_false, exists_false, or_false]

/-- The first item that fails decides the failure of a list. -/
theorem mapM_eq_error_iff {e : ε} :
    l.mapM f = .error e ↔ ∃ before a after, l = before ++ a :: after ∧
      (∀ b ∈ before, ∃ c, f b = .ok c) ∧ f a = .error e := by
  refine first_iff (fun l => l.mapM f = .error e) (by simp [pure, Except.pure]) fun a l => ?_
  rw [mapM_cons_eq_error_iff, exists_and_right]

theorem forall_of_forall₂ {r : α → β → Prop} {p : β → Prop} (h : List.Forall₂ r l bs)
    (hr : ∀ a b, r a b → p b) : ∀ b ∈ bs, p b := by
  induction h with
  | nil => exact fun _ hb => absurd hb List.not_mem_nil
  | cons hab _ ih => exact List.forall_mem_cons.mpr ⟨hr _ _ hab, ih⟩

end Lists

section Tests
variable {f : α → Except ε Bool} {l : List α} {d : Bool} {a : α} {e : ε}

/-- The test of a list that the answer `d` of one item decides. -/
def testM : (d : Bool) → (α → Except ε Bool) → List α → Except ε Bool
  | true, f, l => l.anyM f
  | false, f, l => l.allM f

theorem testM_nil : testM d f [] = .ok !d := by cases d <;> rfl

theorem testM_cons_of_error (h : f a = .error e) : testM d f (a :: l) = .error e := by
  cases d <;> simp [testM, h, bind, Except.bind]

theorem testM_cons_of_decided (h : f a = .ok d) : testM d f (a :: l) = .ok d := by
  cases d <;> simp [testM, h, bind, Except.bind, pure, Except.pure]

theorem testM_cons_of_open (h : f a = .ok !d) : testM d f (a :: l) = testM d f l := by
  cases d <;> simp [testM, h, bind, Except.bind]

theorem item_cases (f : α → Except ε Bool) (d : Bool) (a : α) :
    (∃ e, f a = .error e) ∨ f a = .ok d ∨ f a = .ok !d := by
  cases f a with
  | error e => exact .inl ⟨e, rfl⟩
  | ok b => cases b <;> cases d <;> simp

theorem testM_eq_not_iff : testM d f l = .ok !d ↔ ∀ a ∈ l, f a = .ok !d := by
  induction l with
  | nil => simp [testM_nil]
  | cons a l ih =>
    rw [List.forall_mem_cons]
    rcases item_cases f d a with ⟨e, h⟩ | h | h
    · simp [testM_cons_of_error h, h]
    · simp [testM_cons_of_decided h, h]
    · simp [testM_cons_of_open h, h, ih]

theorem exists_of_testM (h : testM d f l = .ok d) : ∃ a ∈ l, f a = .ok d := by
  induction l with
  | nil => simp [testM_nil] at h
  | cons a l ih =>
    rcases item_cases f d a with ⟨e, ha⟩ | ha | ha
    · rw [testM_cons_of_error ha] at h
      cases h
    · exact ⟨a, List.mem_cons_self, ha⟩
    · rw [testM_cons_of_open ha] at h
      obtain ⟨x, hx, hf⟩ := ih h
      exact ⟨x, List.mem_cons_of_mem a hx, hf⟩

/-- A test fails at the first item that fails, if no item before it decides. -/
theorem testM_eq_error_iff : testM d f l = .error e ↔ ∃ before a after,
    l = before ++ a :: after ∧ (∀ b ∈ before, f b = .ok !d) ∧ f a = .error e := by
  refine first_iff (fun l => testM d f l = .error e) (by simp [testM_nil]) fun a l => ?_
  rcases item_cases f d a with ⟨e, h⟩ | h | h
  · simp [testM_cons_of_error h, h]
  · simp [testM_cons_of_decided h, h]
  · simp [testM_cons_of_open h, h]

theorem testM_answers (h : ∀ a ∈ l, ∃ b, f a = .ok b) : ∃ b, testM d f l = .ok b := by
  cases hl : testM d f l with
  | ok b => exact ⟨b, rfl⟩
  | error e =>
    obtain ⟨before, a, after, rfl, -, ha⟩ := testM_eq_error_iff.mp hl
    obtain ⟨b, hb⟩ := h a (List.mem_append_right _ List.mem_cons_self)
    rw [ha] at hb
    cases hb

theorem allM_eq_true_iff : l.allM f = .ok true ↔ ∀ a ∈ l, f a = .ok true :=
  testM_eq_not_iff (d := false)

theorem anyM_eq_false_iff : l.anyM f = .ok false ↔ ∀ a ∈ l, f a = .ok false :=
  testM_eq_not_iff (d := true)

theorem exists_of_anyM_eq_true (h : l.anyM f = .ok true) : ∃ a ∈ l, f a = .ok true :=
  exists_of_testM h

theorem allM_eq_error_iff : l.allM f = .error e ↔ ∃ before a after,
    l = before ++ a :: after ∧ (∀ b ∈ before, f b = .ok true) ∧ f a = .error e :=
  testM_eq_error_iff (d := false)

theorem anyM_eq_error_iff : l.anyM f = .error e ↔ ∃ before a after,
    l = before ++ a :: after ∧ (∀ b ∈ before, f b = .ok false) ∧ f a = .error e :=
  testM_eq_error_iff (d := true)

theorem anyM_singleton (f : α → Except ε Bool) (a : α) : [a].anyM f = f a := by
  rw [List.anyM_cons]
  cases f a with
  | error e => rfl
  | ok b => cases b <;> rfl

/-- A test of some item that has come to an answer has found an item or none. -/
theorem anyM_eq_ok_iff {b : Bool} (h : l.anyM f = .ok b) :
    b = true ↔ ∃ a ∈ l, f a = .ok true := by
  cases b with
  | true => exact ⟨fun _ => exists_of_anyM_eq_true h, fun _ => rfl⟩
  | false =>
    refine ⟨fun hb => absurd hb Bool.false_ne_true, ?_⟩
    rintro ⟨a, ha, hf⟩
    have hn := anyM_eq_false_iff.mp h a ha
    rw [hf] at hn
    cases hn

end Tests
end RowSearch
