import RowSearch.Proofs.Json.Preorder
import RowSearch.Query.Rows

/-! # The order of rows

Rows are compared key by key, and the first key that tells them apart decides, in its direction. So
rows stand in one line as soon as the values of each sort field do. Turning a comparison of rows
round turns its answer round whatever the values are.
-/
namespace RowSearch

def Direction.orient : Direction → Ordering → Ordering
  | .asc, order => order
  | .desc, order => order.swap

namespace Query

def compareBy (key : String × Direction) (a b : Json) : Ordering :=
  key.2.orient (Json.compareMissing (a.at? key.1) (b.at? key.1))

def fieldValues (rows : List Json) (field : String) : List (Option Json) :=
  rows.map (·.at? field)

variable {rows : List Json}

theorem compareRows_cons (a b : Json) (key : String × Direction)
    (keys : List (String × Direction)) :
    compareRows a b (key :: keys) = (compareBy key a b).then (compareRows a b keys) := by
  obtain ⟨field, direction⟩ := key
  rw [compareRows, compareBy]
  cases Json.compareMissing (a.at? field) (b.at? field) <;> cases direction <;> rfl

theorem compareBy_swap (key : String × Direction) (a b : Json) :
    compareBy key b a = (compareBy key a b).swap := by
  have hvalues := Json.compareMissing_swap (a.at? key.1) (b.at? key.1)
  unfold compareBy
  rw [hvalues]
  cases key.2 <;> rfl

theorem compareRows_swap (a b : Json) (keys : List (String × Direction)) :
    compareRows b a keys = (compareRows a b keys).swap := by
  induction keys with
  | nil => rfl
  | cons key keys ih =>
    rw [compareRows_cons, compareRows_cons, compareBy_swap key a b, ih, Ordering.swap_then]

/-- A descending key is transitive as an ascending one is, with the ends exchanged. -/
theorem transCmp_compareBy {key : String × Direction}
    (h : Json.PreorderOn (fieldValues rows key.1)) :
    Std.TransCmp fun a b : { row // row ∈ rows } => compareBy key a.1 b.1 := by
  have hvalue (row : { row // row ∈ rows }) : row.1.at? key.1 ∈ fieldValues rows key.1 :=
    List.mem_map_of_mem row.2
  refine { eq_swap := fun {a b} => compareBy_swap key b.1 a.1, isLE_trans := ?_ }
  intro a b c hab hbc
  rw [← Ordering.ne_gt_iff_isLE] at hab hbc ⊢
  unfold compareBy at *
  cases hkey : key.2 with
  | asc =>
    rw [hkey] at hab hbc
    exact h.trans _ (hvalue a) _ (hvalue b) _ (hvalue c) hab hbc
  | desc =>
    rw [hkey] at hab hbc
    simp only [Direction.orient, ← Json.compareMissing_swap] at hab hbc ⊢
    exact h.trans _ (hvalue c) _ (hvalue b) _ (hvalue a) hbc hab

theorem transCmp_compareRows {keys : List (String × Direction)}
    (h : ∀ key ∈ keys, Json.PreorderOn (fieldValues rows key.1)) :
    Std.TransCmp fun a b : { row // row ∈ rows } => compareRows a.1 b.1 keys := by
  induction keys with
  | nil => exact { eq_swap := rfl, isLE_trans := fun _ _ => rfl }
  | cons key keys ih =>
    rw [List.forall_mem_cons] at h
    have hfirst := transCmp_compareBy h.1
    have hrest := ih h.2
    simp only [compareRows_cons]
    exact inferInstanceAs (Std.TransCmp (compareLex
      (fun a b : { row // row ∈ rows } => compareBy key a.1 b.1)
      fun a b : { row // row ∈ rows } => compareRows a.1 b.1 keys))

theorem compareRows_trans {keys : List (String × Direction)} {a b c : Json}
    (h : ∀ key ∈ keys, Json.PreorderOn (fieldValues rows key.1)) (ha : a ∈ rows) (hb : b ∈ rows)
    (hc : c ∈ rows) (hab : compareRows a b keys ≠ .gt) (hbc : compareRows b c keys ≠ .gt) :
    compareRows a c keys ≠ .gt := by
  have horder := transCmp_compareRows h
  rw [ne_eq, Ordering.ne_gt_iff_isLE] at hab hbc ⊢
  exact horder.isLE_trans (a := ⟨a, ha⟩) (b := ⟨b, hb⟩) (c := ⟨c, hc⟩) hab hbc

/-- Values that may be missing are turned round with their comparison, and those of which any two
are compared on one scale are in no circle. So the values of one kind stand in one line, nulls
among them, and rows stand in one line under all sort keys whose fields hold such values. -/
theorem compareRows_preorder (u v w : Option Json) :
    Json.compareMissing w v = (Json.compareMissing v w).swap ∧
    (Json.OneScale u v w → Json.compareMissing u v ≠ .gt → Json.compareMissing v w ≠ .gt →
      Json.compareMissing u w ≠ .gt) ∧
    (∀ values, Json.OneKind values → Json.PreorderOn values) ∧
    (∀ a b keys, compareRows b a keys = (compareRows a b keys).swap) ∧
    ∀ rows keys, (∀ key ∈ keys, Json.PreorderOn (fieldValues rows key.1)) →
      ∀ a ∈ rows, ∀ b ∈ rows, ∀ c ∈ rows, compareRows a b keys ≠ .gt →
        compareRows b c keys ≠ .gt → compareRows a c keys ≠ .gt := by
  refine ⟨Json.compareMissing_swap v w, ?_, ?_, compareRows_swap, ?_⟩
  · intro hscale huv hvw
    exact Json.compareMissing_trans hscale huv hvw
  · intro values h
    exact Json.preorderOn_of_oneKind h
  · intro rows keys h a ha b hb c hc hab hbc
    exact compareRows_trans h ha hb hc hab hbc

def oldBoat : Json := .object [("town", .string "Rome"), ("size", .count 30)]
def newBoat : Json := .object [("town", .string "Oslo"), ("size", .null)]
def lostBoat : Json := .object [("size", .count 2), ("town", .null)]

def boats : List Json := [lostBoat, oldBoat, newBoat, oldBoat]

def boatKeys : List (String × Direction) := [("town", .desc), ("size", .asc)]

theorem compareRows_preorder_boats :
    (Json.OneScale (some (.count 2)) (some (.string "10")) (some (.count 30)) ∧
      Json.compareMissing (some (.count 2)) (some (.string "10")) ≠ .gt ∧
      Json.compareMissing (some (.string "10")) (some (.count 30)) ≠ .gt ∧
      Json.compareMissing (some (.count 2)) (some (.count 30)) ≠ .gt) ∧
    (∀ key ∈ boatKeys, Json.OneKind (fieldValues boats key.1)) ∧
    compareRows oldBoat newBoat boatKeys ≠ .gt ∧ compareRows newBoat lostBoat boatKeys ≠ .gt ∧
    compareRows oldBoat lostBoat boatKeys ≠ .gt := by
  obtain ⟨_, htrans, hkind, _, hrows⟩ :=
    compareRows_preorder (some (.count 2)) (some (.string "10")) (some (.count 30))
  have hscale : Json.OneScale (some (.count 2)) (some (.string "10")) (some (.count 30)) := by
    rintro _ ⟨⟩ _ ⟨⟩ _ ⟨⟩
    decide +kernel
  have hone : Json.compareMissing (some (.count 2)) (some (.string "10")) ≠ .gt := by decide +kernel
  have hother : Json.compareMissing (some (.string "10")) (some (.count 30)) ≠ .gt := by
    decide +kernel
  have hboats : ∀ key ∈ boatKeys, Json.OneKind (fieldValues boats key.1) := by
    unfold Json.OneKind
    decide +kernel
  have hfirst : compareRows oldBoat newBoat boatKeys ≠ .gt := by decide +kernel
  have hsecond : compareRows newBoat lostBoat boatKeys ≠ .gt := by decide +kernel
  refine ⟨⟨hscale, hone, hother, htrans hscale hone hother⟩, hboats, hfirst, hsecond, ?_⟩
  exact hrows boats boatKeys (fun key hkey => hkind _ (hboats key hkey)) oldBoat (by simp [boats])
    newBoat (by simp [boats]) lostBoat (by simp [boats]) hfirst hsecond

/-- Texts that read as numbers and a number may stand in a circle: a text comes before the next one
by its characters, this one before the number, and the number before the first text. A value that
is neither equals all numbers, which are not equal to each other. -/
theorem compareMissing_circle :
    (Json.compareMissing (some (.string "100")) (some (.string "20")) = .lt ∧
      Json.compareMissing (some (.string "20")) (some (.count 50)) = .lt ∧
      Json.compareMissing (some (.string "100")) (some (.count 50)) = .gt) ∧
    Json.compareMissing (some (.count 2)) (some (.bool true)) = .eq ∧
    Json.compareMissing (some (.bool true)) (some (.count 1)) = .eq ∧
    Json.compareMissing (some (.count 2)) (some (.count 1)) = .gt := by
  decide +kernel

end Query
end RowSearch
