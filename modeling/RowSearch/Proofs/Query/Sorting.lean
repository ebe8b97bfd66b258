import RowSearch.Proofs.Answers
import RowSearch.Proofs.Query.RowOrder

/-! # Sorted rows

Where the values of each sort field stand in one line, a sort puts the rows in the order of the
keys: the first key that tells two rows apart decides in its direction, and rows that no key tells
apart keep their places. The rows are followed by their places, so that equal rows are told apart.
-/
namespace RowSearch.Query

def EqualBy (keys : List (String × Direction)) (a b : Json) : Prop :=
  ∀ key ∈ keys, compareBy key a b = .eq

/-- The first key that tells the rows apart puts the first row behind the second. -/
def GreaterBy (keys : List (String × Direction)) (a b : Json) : Prop :=
  ∃ before key after, keys = before ++ key :: after ∧ EqualBy before a b ∧
    compareBy key a b = .gt

section Lexicographic
variable {keys : List (String × Direction)} {a b : Json}

theorem compareRows_eq_iff : compareRows a b keys = .eq ↔ EqualBy keys a b := by
  unfold EqualBy
  induction keys with
  | nil => simp [compareRows]
  | cons key keys ih => rw [compareRows_cons, Ordering.then_eq_eq, ih, List.forall_mem_cons]

theorem compareRows_gt_iff : compareRows a b keys = .gt ↔ GreaterBy keys a b := by
  unfold GreaterBy EqualBy
  refine first_iff (fun keys => compareRows a b keys = .gt) Ordering.noConfusion ?_
  intro key keys
  rw [compareRows_cons, Ordering.then_eq_gt]

end Lexicographic

section Places
variable {α : Type} {le : α → α → Bool}

/-- A sort puts places of a list into an order in which ties follow the places. -/
theorem exists_places (le : α → α → Bool) (trans : ∀ a b c, le a b → le b c → le a c)
    (total : ∀ a b, le a b || le b a) (l : List α) :
    ∃ places : List Nat, places.Perm (List.range l.length) ∧
      places.map (l[·]?) = (l.mergeSort le).map some ∧
      places.Pairwise fun i j => ∀ a b, l[i]? = some a → l[j]? = some b →
        le a b ∧ (le b a → i < j) := by
  have hperm : (l.zipIdx.mergeSort (List.zipIdxLE le)).Perm l.zipIdx := List.mergeSort_perm _ _
  have hsorted := List.pairwise_mergeSort (List.zipIdxLE_trans trans) (List.zipIdxLE_total total)
    l.zipIdx
  have hfirst : (l.zipIdx.mergeSort (List.zipIdxLE le)).map Prod.fst = l.mergeSort le :=
    List.mergeSort_zipIdx
  generalize l.zipIdx.mergeSort (List.zipIdxLE le) = sorted at hperm hsorted hfirst
  have hplaces : (sorted.map Prod.snd).Perm (List.range l.length) := by
    have hrange : l.zipIdx.map Prod.snd = List.range l.length := by
      rw [List.zipIdx_map_snd, List.range_eq_range']
    rw [← hrange]
    exact hperm.map _
  have hget : ∀ p ∈ sorted, l[p.2]? = some p.1 := by
    intro p hp
    exact List.mem_zipIdx_iff_getElem?.mp (hperm.mem_iff.mp hp)
  refine ⟨sorted.map Prod.snd, hplaces, ?_, ?_⟩
  · rw [← hfirst, List.map_map, List.map_map]
    exact List.map_congr_left hget
  · have hdistinct : sorted.Pairwise fun p q => p.2 ≠ q.2 :=
      List.pairwise_map.mp (hplaces.nodup_iff.mpr List.nodup_range)
    rw [List.pairwise_map]
    refine (hsorted.and hdistinct).imp_of_mem ?_
    rintro ⟨x, i⟩ ⟨y, j⟩ hp hq ⟨hle, hne⟩ a b ha hb
    cases (hget _ hp).symm.trans ha
    cases (hget _ hq).symm.trans hb
    unfold List.zipIdxLE at hle
    split at hle
    · next hxy =>
      refine ⟨hxy, fun hyx => ?_⟩
      rw [if_pos hyx, decide_eq_true_eq] at hle
      exact Nat.lt_of_le_of_ne hle hne
    · cases hle

/-- The order need only be one on the items of the list, which are sorted as members of it. -/
theorem exists_places_of_mem {l : List α}
    (trans : ∀ a ∈ l, ∀ b ∈ l, ∀ c ∈ l, le a b → le b c → le a c)
    (total : ∀ a ∈ l, ∀ b ∈ l, le a b || le b a) :
    ∃ places : List Nat, places.Perm (List.range l.length) ∧
      places.map (l[·]?) = (l.mergeSort le).map some ∧
      places.Pairwise fun i j => ∀ a b, l[i]? = some a → l[j]? = some b →
        le a b ∧ (le b a → i < j) := by
  let leMember (a b : { a // a ∈ l }) : Bool := le a.1 b.1
  have hmembers : (l.attach.mergeSort leMember).map Subtype.val = l.mergeSort le := by
    have hmap := List.map_mergeSort (r := leMember) (s := le) (f := Subtype.val) (l := l.attach)
      fun _ _ _ _ => rfl
    rw [hmap, List.attach_map_subtype_val]
  have hget (i : Nat) : l[i]? = l.attach[i]?.map Subtype.val := by
    rw [← List.getElem?_map, List.attach_map_subtype_val]
  obtain ⟨places, hperm, hplaces, hsorted⟩ := exists_places leMember
    (fun a b c => trans a a.2 b b.2 c c.2) (fun a b => total a a.2 b b.2) l.attach
  refine ⟨places, ?_, ?_, hsorted.imp ?_⟩
  · rwa [List.length_attach] at hperm
  · have hvalues := congrArg (List.map (Option.map Subtype.val)) hplaces
    rw [List.map_map, List.map_map] at hvalues
    rw [← hmembers, List.map_map]
    exact (List.map_congr_left fun i _ => hget i).trans hvalues
  · intro i j hij a b ha hb
    rw [hget, Option.map_eq_some_iff] at ha hb
    obtain ⟨a', ha, rfl⟩ := ha
    obtain ⟨b', hb, rfl⟩ := hb
    exact hij a' b' ha hb

end Places

section Rows
variable {keys : List (String × Direction)} {rows : List Json}

/-- A value that is not there comes before the others under an ascending key, and behind them under
a descending one. -/
theorem compareBy_missing {field : String} {a b : Json}
    (ha : Json.present (a.at? field) = none) (hb : Json.present (b.at? field) ≠ none) :
    compareBy (field, .asc) a b = .lt ∧ compareBy (field, .desc) a b = .gt := by
  obtain ⟨v, hv⟩ := Option.ne_none_iff_exists'.mp hb
  have hless : Json.compareMissing (a.at? field) (b.at? field) = .lt := by
    unfold Json.compareMissing
    rw [ha, hv]
  unfold compareBy
  rw [hless]
  exact ⟨rfl, rfl⟩

theorem sortRows_places (h : ∀ key ∈ keys, Json.PreorderOn (fieldValues rows key.1)) :
    ∃ places : List Nat, places.Perm (List.range rows.length) ∧
      places.map (rows[·]?) = (sortRows keys rows).map some ∧
      places.Pairwise fun i j => ∀ a b, rows[i]? = some a → rows[j]? = some b →
        ¬ GreaterBy keys a b ∧ (EqualBy keys a b → i < j) := by
  have htrans : ∀ a ∈ rows, ∀ b ∈ rows, ∀ c ∈ rows, compareRows a b keys != .gt →
      compareRows b c keys != .gt → compareRows a c keys != .gt := by
    intro a ha b hb c hc hab hbc
    rw [bne_iff_ne] at hab hbc ⊢
    exact compareRows_trans h ha hb hc hab hbc
  have htotal : ∀ a ∈ rows, ∀ b ∈ rows,
      compareRows a b keys != .gt || compareRows b a keys != .gt := by
    intro a _ b _
    rw [compareRows_swap a b]
    cases compareRows a b keys <;> rfl
  obtain ⟨places, hperm, hget, hsorted⟩ := exists_places_of_mem htrans htotal
  refine ⟨places, hperm, hget, hsorted.imp ?_⟩
  intro i j hij a b ha hb
  obtain ⟨hle, htie⟩ := hij a b ha hb
  rw [← compareRows_gt_iff, ← compareRows_eq_iff]
  refine ⟨bne_iff_ne.mp hle, fun heq => htie ?_⟩
  rw [compareRows_swap a b, heq]
  rfl

end Rows

/-- Rows whose values stand in one line at each sort field, as values of one kind do with nulls
among them, are put into the order of the keys: the result holds the rows of all places, each once,
no row stands before one that is less by the first key that tells them apart, and rows that no key
tells apart keep their order. What is missing or null comes first under an ascending key and last
under a descending one. -/
theorem sortRows_sorted (keys : List (String × Direction)) (rows : List Json)
    (h : ∀ key ∈ keys, Json.PreorderOn (fieldValues rows key.1)) :
    (sortRows keys rows).Perm rows ∧
    (∃ places : List Nat, places.Perm (List.range rows.length) ∧
      places.map (rows[·]?) = (sortRows keys rows).map some ∧
      places.Pairwise fun i j => ∀ a b, rows[i]? = some a → rows[j]? = some b →
        ¬ GreaterBy keys a b ∧ (EqualBy keys a b → i < j)) ∧
    (∀ field a b, Json.present (a.at? field) = none → Json.present (b.at? field) ≠ none →
      compareBy (field, .asc) a b = .lt ∧ compareBy (field, .desc) a b = .gt) ∧
    ∀ values, Json.OneKind values → Json.PreorderOn values := by
  refine ⟨List.mergeSort_perm _ _, sortRows_places h, ?_, ?_⟩
  · intro field a b ha hb
    exact compareBy_missing ha hb
  · intro values hvalues
    exact Json.preorderOn_of_oneKind hvalues

theorem sortRows_sorted_boats :
    (∀ key ∈ boatKeys, Json.PreorderOn (fieldValues boats key.1)) ∧
    (∃ places : List Nat, places.Perm (List.range 4) ∧
      places.map (boats[·]?) = (sortRows boatKeys boats).map some ∧
      places.Pairwise fun i j => ∀ a b, boats[i]? = some a → boats[j]? = some b →
        ¬ GreaterBy boatKeys a b ∧ (EqualBy boatKeys a b → i < j)) ∧
    GreaterBy boatKeys lostBoat oldBoat ∧ GreaterBy boatKeys newBoat oldBoat ∧
    GreaterBy boatKeys lostBoat newBoat := by
  have hkinds : ∀ key ∈ boatKeys, Json.OneKind (fieldValues boats key.1) := by
    unfold Json.OneKind
    decide +kernel
  have hboats : ∀ key ∈ boatKeys, Json.PreorderOn (fieldValues boats key.1) := by
    intro key hkey
    exact Json.preorderOn_of_oneKind (hkinds key hkey)
  obtain ⟨_, hplaces, _, _⟩ := sortRows_sorted boatKeys boats hboats
  have hgreater (a b : Json) (h : compareBy ("town", .desc) a b = .gt) : GreaterBy boatKeys a b :=
    ⟨[], _, _, rfl, fun _ hkey => absurd hkey List.not_mem_nil, h⟩
  exact ⟨hboats, hplaces, hgreater _ _ rfl, hgreater _ _ rfl, hgreater _ _ rfl⟩

end RowSearch.Query
