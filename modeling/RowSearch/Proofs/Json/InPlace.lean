import RowSearch.Proofs.Json.Removal

/-! # Values taken out in place

Taking a value out of a document answers what stands at the path, if the path's last step is a key
of an object, and then nothing but that key of that object is gone. Where it answers nothing the
document is the one it was. Paths are compared by where they lead: a place of a list may be
written in several ways.
-/
namespace RowSearch.Json
variable {v w x a : Json} {key path : String} {parents way more : List String} {fields : Fields}

theorem walk?_append (v : Json) (way more : List String) :
    v.walk? (way ++ more) = (v.walk? way).bind (walk? · more) := by
  induction way generalizing v with
  | nil => rfl
  | cons s way ih =>
    rw [List.cons_append, walk?, walk?, Option.bind_assoc]
    exact Option.bind_congr fun inner _ => ih inner

theorem walk?_singleton (v : Json) (s : String) : v.walk? [s] = v.step? s :=
  Option.bind_fun_some _

/-- A value put in its own place changes nothing. -/
theorem replace_self {s : String} (h : v.step? s = some x) : v.replace s x = v := by
  cases v with
  | object fields => exact congrArg object (Fields.insert_of_get?_eq_some h)
  | array items =>
    obtain ⟨n, hn, hitem⟩ := Option.bind_eq_some_iff.mp h
    obtain ⟨hlt, rfl⟩ := List.getElem?_eq_some_iff.mp hitem
    simp only [replace, hn, List.set_getElem_self]
  | _ => cases h

section Change
variable {α : Type} {change : Json → Option α × Json}

theorem changeAt_fst (change : Json → Option α × Json) (v : Json) (parents : List String) :
    (v.changeAt change parents).1 = (v.walk? parents).bind fun inner => (change inner).1 := by
  induction parents generalizing v with
  | nil => rfl
  | cons s parents ih =>
    rw [changeAt, walk?]
    cases v.step? s with
    | none => rfl
    | some inner => exact ih inner

/-- If a change keeps the value when it answers nothing, in place it keeps the document. -/
theorem changeAt_snd_of_none (hchange : ∀ inner, (change inner).1 = none → (change inner).2 = inner)
    (h : (v.changeAt change parents).1 = none) : (v.changeAt change parents).2 = v := by
  induction parents generalizing v with
  | nil => exact hchange v h
  | cons s parents ih =>
    rw [changeAt] at h ⊢
    cases hs : v.step? s with
    | none => rfl
    | some inner =>
      rw [hs] at h
      have hinner : (inner.changeAt change parents).2 = inner := ih h
      show v.replace s (inner.changeAt change parents).2 = v
      rw [hinner, replace_self hs]

end Change

theorem takeKey_fst (key : String) (v : Json) : (takeKey key v).1 = v.get? key := by
  cases v <;> rfl

theorem takeKey_snd_of_none (h : (takeKey key v).1 = none) : (takeKey key v).2 = v := by
  cases v with
  | object fields => exact congrArg object (Fields.erase_of_get?_eq_none h)
  | _ => rfl

/-- A removal is the value taken out in place with the document afterwards. -/
theorem removeAt?_eq (v : Json) (key : String) (parents : List String) :
    v.removeAt? key parents = (v.changeAt (takeKey key) parents).1.map
      (·, (v.changeAt (takeKey key) parents).2) := by
  induction parents generalizing v with
  | nil => cases v <;> rfl
  | cons s parents ih =>
    rw [removeAt?, changeAt]
    cases v.step? s with
    | none => rfl
    | some inner =>
      rw [Option.bind_some, ih, Option.map_map]
      rfl

theorem remove?_eq_take (doc : Json) (path : String) :
    doc.remove? path = (doc.take path).1.map (·, (doc.take path).2) :=
  removeAt?_eq _ _ _

theorem take_fst (h : steps path = parents ++ [key]) (doc : Json) :
    (doc.take path).1 = (doc.walk? parents).bind (get? key) := by
  rw [take, h]
  simp only [List.getLastD_concat, List.dropLast_concat, changeAt_fst, takeKey_fst]

theorem take_snd_of_none {doc : Json} (h : (doc.take path).1 = none) : (doc.take path).2 = doc :=
  changeAt_snd_of_none (fun _ => takeKey_snd_of_none) h

/-- A path without a point leads nowhere but from an object. -/
theorem at?_eq (v : Json) (path : String) : v.at? path =
    if '.' ∈ path.toList ∨ v.object?.isSome = true then v.walk? (steps path) else none := by
  by_cases hpoint : '.' ∈ path.toList
  · rw [at?, if_pos (List.contains_iff_mem.mpr hpoint), if_pos (.inl hpoint)]
  · cases v with
    | object fields => rw [at?_object, if_pos (.inr rfl)]
    | _ => rw [at?_of_plain hpoint, if_neg (by simp [hpoint, object?])]; rfl

theorem walk?_of_at? (h : v.at? path = some x) : v.walk? (steps path) = some x := by
  rw [at?_eq] at h
  split at h
  · exact h
  · cases h

theorem at?_eq_walk? (hsteps : steps path = parents ++ [key])
    (hparent : v.walk? parents = some (.object fields)) : v.at? path = v.walk? (steps path) := by
  rw [at?_eq, if_pos]
  by_cases hpoint : '.' ∈ path.toList
  · exact .inl hpoint
  · -- a path of one step has the document itself for the object
    rw [steps_of_plain hpoint] at hsteps
    obtain rfl : parents = [] := by simpa using congrArg List.dropLast hsteps.symm
    obtain rfl := Option.some.inj hparent
    exact .inr rfl

/-- What is taken is the value at the path, under the last step of it in an object. -/
theorem take_fst_eq_some_iff {doc : Json} : (doc.take path).1 = some x ↔
    doc.at? path = some x ∧ ∃ fields, doc.walk? (steps path).dropLast = some (.object fields) := by
  obtain ⟨parents, key, hsteps⟩ := exists_steps path
  have hwalk : doc.walk? (steps path) = (doc.walk? parents).bind (step? · key) := by
    rw [hsteps, walk?_append]
    exact Option.bind_congr fun inner _ => walk?_singleton inner key
  rw [take_fst hsteps, hsteps, List.dropLast_concat]
  constructor
  · intro h
    obtain ⟨inner, hinner, hget⟩ := Option.bind_eq_some_iff.mp h
    cases inner with
    | object fields =>
      refine ⟨?_, fields, hinner⟩
      rw [at?_eq_walk? hsteps hinner, hwalk, hinner]
      exact hget
    | _ => cases hget
  · rintro ⟨hat, fields, hparent⟩
    rw [at?_eq_walk? hsteps hparent, hwalk, hparent] at hat
    rw [hparent]
    exact hat

theorem isSome_object?_replace (v : Json) (s : String) (new : Json) :
    (v.replace s new).object?.isSome = v.object?.isSome := by
  cases v with
  | array items =>
    rw [replace]
    split <;> rfl
  | _ => rfl

/-- What is left of an object is an object. -/
theorem isSome_object?_removeAt? (h : removeAt? v key parents = some (x, w)) :
    w.object?.isSome = v.object?.isSome := by
  cases parents with
  | nil =>
    obtain ⟨fields, rfl, _, rfl⟩ := removeAt?_nil h
    rfl
  | cons s parents =>
    obtain ⟨inner, left, _, _, rfl⟩ := removeAt?_cons h
    exact isSome_object?_replace v s left

/-- Whether a path leads to the value at a location or through it. -/
def Passes (doc : Json) (location path : String) : Prop :=
  (doc.at? location).isSome = true ∧ doc.LeadsThrough (steps location) (steps path)

instance (doc : Json) (location path : String) : Decidable (doc.Passes location path) :=
  inferInstanceAs (Decidable (_ ∧ _))

/-- Whether a value keeps its outline when keys are lost and what stands in it may change: the
other keys in their order, a list of the same length, or the value itself. -/
def KeepsOutline (lost : String → Prop) [DecidablePred lost] : Json → Json → Prop
  | .object fields, .object rest => Fields.keys rest = (Fields.keys fields).filter (¬ lost ·)
  | .array items, .array rest => rest.length = items.length
  | v, w => w = v

section Outline
variable {lost lost' : String → Prop} [DecidablePred lost] [DecidablePred lost']

theorem KeepsOutline.congr (hlost : ∀ k, lost k ↔ lost' k) (h : KeepsOutline lost v w) :
    KeepsOutline lost' v w := by
  have hlost : lost = lost' := funext fun k => propext (hlost k)
  subst hlost
  convert h

theorem keepsOutline_self (hlost : ∀ k, ¬ lost k) (v : Json) : KeepsOutline lost v v := by
  cases v with
  | object fields => exact (List.filter_eq_self.mpr fun k _ => decide_eq_true (hlost k)).symm
  | _ => exact Eq.refl _

theorem keepsOutline_erase (hlost : ∀ k, lost k ↔ k = key) (fields : Fields) :
    KeepsOutline lost (object fields) (object (Fields.erase key fields)) := by
  have hkeys : (Fields.erase key fields).keys = (Fields.keys fields).filter (¬ lost ·) := by
    simp only [Fields.keys_erase, hlost, ne_eq]
  exact hkeys

theorem keepsOutline_replace {s : String} (hlost : ∀ k, ¬ lost k) (h : v.step? s = some x)
    (new : Json) : KeepsOutline lost v (v.replace s new) := by
  cases v with
  | object fields =>
    have hkeys : (Fields.insert s new fields).keys = Fields.keys fields :=
      Fields.keys_insert (Fields.mem_keys_of_get?_eq_some h)
    exact hkeys.trans (keepsOutline_self hlost (object fields))
  | array items =>
    obtain ⟨n, hn, _⟩ := Option.bind_eq_some_iff.mp h
    rw [replace, hn]
    exact List.length_set
  | _ => cases h

end Outline

theorem LeadsThrough.length_le (h : v.LeadsThrough way more) : way.length ≤ more.length := by
  induction way generalizing v more with
  | nil => exact Nat.zero_le _
  | cons s way ih =>
    cases more with
    | nil => exact h.elim
    | cons t more =>
      obtain ⟨_, next, _, h⟩ := h
      exact Nat.succ_le_succ (ih h)

/-- Every value of a document keeps its outline, but for the key that leads to the removed one. -/
theorem exists_outline (h : removeAt? v key parents = some (x, w)) (hway : v.walk? way = some a)
    (hthrough : ¬ v.LeadsThrough (parents ++ [key]) way) : ∃ b, w.walk? way = some b ∧
      KeepsOutline (fun k => v.LeadsThrough (parents ++ [key]) (way ++ [k])) a b := by
  induction parents generalizing v w way with
  | nil =>
    obtain ⟨fields, rfl, hx, rfl⟩ := removeAt?_nil h
    cases way with
    | nil =>
      obtain rfl := Option.some.inj hway
      refine ⟨_, rfl, keepsOutline_erase (fun k => ?_) fields⟩
      exact ⟨fun hpath => hpath.1.symm, fun heq => ⟨heq.symm, x, hx, trivial⟩⟩
    | cons t way =>
      have hne : t ≠ key := by
        rintro rfl
        exact hthrough ⟨rfl, x, hx, trivial⟩
      refine ⟨a, ?_, keepsOutline_self (fun k hpath => hne hpath.1.symm) a⟩
      rw [walk?, step?, Fields.get?_erase, if_neg hne]
      exact hway
  | cons s parents ih =>
    obtain ⟨inner, left, hinner, hleft, rfl⟩ := removeAt?_cons h
    cases way with
    | nil =>
      obtain rfl := Option.some.inj hway
      refine ⟨_, rfl, keepsOutline_replace (fun k hpath => ?_) hinner left⟩
      -- the removed value stands deeper than any key of the document itself
      have hlength := hpath.length_le
      simp at hlength
    | cons t way =>
      by_cases hsame : v.SameStep s t
      · have hinner' : v.step? t = some inner := hsame.step?_eq ▸ hinner
        rw [walk?, hinner', Option.bind_some] at hway
        rw [List.cons_append, leadsThrough_cons_iff hinner] at hthrough
        obtain ⟨b, hb, houtline⟩ := ih hleft hway fun hpath => hthrough ⟨hsame, hpath⟩
        refine ⟨b, ?_, houtline.congr fun k => ?_⟩
        · rw [walk?, (step?_replace hinner).1 hsame]
          exact hb
        · rw [List.cons_append, List.cons_append, leadsThrough_cons_iff hinner]
          exact (and_iff_right hsame).symm
      · refine ⟨a, ?_, keepsOutline_self (fun k hpath => hsame hpath.1) a⟩
        rw [walk?, (step?_replace hinner).2 hsame]
        exact hway

/-- Of a document nothing but the value at a location is gone. What is apart from it stays the
same, and what stands above it keeps its outline, but for the one key. -/
structure OnlyLoses (doc : Json) (location : List String) (left : Json) : Prop where
  gone : ∀ way, doc.LeadsThrough location way → left.walk? way = none
  kept : ∀ way, ¬ doc.LeadsThrough location way → ¬ doc.LeadsThrough way location →
    left.walk? way = doc.walk? way
  outline : ∀ way a, doc.walk? way = some a → ¬ doc.LeadsThrough location way →
    ∃ b, left.walk? way = some b ∧
      KeepsOutline (fun k => doc.LeadsThrough location (way ++ [k])) a b

theorem onlyLoses_of_removeAt? (h : removeAt? v key parents = some (x, w)) :
    v.OnlyLoses (parents ++ [key]) w where
  gone _ hpath := walk?_removed h hpath
  kept _ hthrough habove := walk?_kept h hthrough habove
  outline _ _ hway hthrough := exists_outline h hway hthrough

/-- Paths that neither pass by the removed value nor end above it lead where they led. -/
theorem at?_kept {other : String} (h : removeAt? v key parents = some (x, w))
    (hsteps : steps path = parents ++ [key]) (hat : v.at? path = some x)
    (hthrough : ¬ v.Passes path other) (habove : ¬ v.Passes other path) :
    w.at? other = v.at? other := by
  have hother := v.at?_eq other
  rw [at?_eq w, isSome_object?_removeAt? h, hother]
  split
  · next hwalked =>
    rw [if_pos hwalked] at hother
    refine walk?_kept h (fun hpath => hthrough ⟨?_, hsteps ▸ hpath⟩) fun hpath => ?_
    · rw [hat]
      rfl
    · refine habove ⟨?_, hsteps ▸ hpath⟩
      rw [hother]
      exact hpath.isSome
  · rfl

/-- A value taken out is the one at the path. The path leads nowhere afterwards, and of the
document nothing else is gone. Where nothing is taken the document is the one it was. A value
under a key of an object is always taken. -/
theorem take_onlyLoses (doc : Json) (path : String) :
    (∀ x left, doc.take path = (some x, left) →
      doc.at? path = some x ∧ left.at? path = none ∧ doc.OnlyLoses (steps path) left ∧
      ∀ other, ¬ doc.Passes path other → ¬ doc.Passes other path →
        left.at? other = doc.at? other) ∧
    (∀ left, doc.take path = (none, left) → left = doc) ∧
    (∀ x fields, doc.at? path = some x →
      doc.walk? (steps path).dropLast = some (.object fields) →
      ∃ left, doc.take path = (some x, left)) := by
  obtain ⟨parents, key, hsteps⟩ := exists_steps path
  refine ⟨?_, ?_, ?_⟩
  · intro x left htake
    have hremoved : doc.removeAt? key parents = some (x, left) := by
      rw [← remove?_eq hsteps, remove?_eq_take, htake]
      rfl
    have hat : doc.at? path = some x :=
      (take_fst_eq_some_iff.mp (congrArg Prod.fst htake)).1
    have honly : doc.OnlyLoses (steps path) left := hsteps ▸ onlyLoses_of_removeAt? hremoved
    refine ⟨hat, ?_, honly, fun other => at?_kept hremoved hsteps hat⟩
    have hnone : left.walk? (steps path) = none := by
      apply honly.gone
      apply leadsThrough_self
      rw [walk?_of_at? hat]
      rfl
    rw [at?_eq, hnone, ite_self]
  · intro left htake
    have hnone : (doc.take path).2 = doc := take_snd_of_none (congrArg Prod.fst htake)
    rw [htake] at hnone
    exact hnone
  · intro x fields hat hparent
    have hfst : (doc.take path).1 = some x := take_fst_eq_some_iff.mpr ⟨hat, fields, hparent⟩
    exact ⟨(doc.take path).2, Prod.ext hfst rfl⟩

def library : Json := .object [
  ("shelves", .array [
    .object [("book", .count 1), ("b.k", .null), ("page", .count 3)], .bool true]),
  ("open", .bool true)]

theorem take_onlyLoses_library : ∃ left,
    library.take "shelves.+0.book" = (some (.count 1), left) ∧
    left.at? "shelves.+0.book" = none ∧ left.walk? ["shelves", "0", "book"] = none ∧
    left.at? "shelves.0.page" = some (.count 3) ∧
    left.walk? ["shelves", "00", "b.k"] = some .null := by
  obtain ⟨htaken, _, htakes⟩ := take_onlyLoses library "shelves.+0.book"
  have hparent : library.walk? (steps "shelves.+0.book").dropLast =
      some (.object [("book", .count 1), ("b.k", .null), ("page", .count 3)]) := by rfl
  obtain ⟨left, htake⟩ := htakes (.count 1) _ (by rfl) hparent
  obtain ⟨_, hnone, honly, hkept⟩ := htaken _ _ htake
  refine ⟨left, htake, hnone, honly.gone _ (by decide), ?_, ?_⟩
  · exact hkept "shelves.0.page" (by decide) (by decide)
  · exact honly.kept _ (by decide) (by decide)

end RowSearch.Json
