import Mathlib.Data.List.Forall2
import Mathlib.Data.List.Nodup
import Mathlib.Data.List.Perm.Subperm
import RowSearch.Json.Compare
import RowSearch.Proofs.Json.Fields
import RowSearch.Proofs.Json.Texts

/-! # Canonical texts

Equal documents have one canonical text, since the text sorts the keys of objects. Keys stand in it
as they are, so a key with a quote in it can end early and take other fields for its own. Among
documents without such keys the text tells unequal documents apart: every value has a definite end
in it, whatever follows.
-/
namespace RowSearch.Json

/-- Documents made of some numbers and with some keys; no object has a key twice. -/
inductive Made (numbers : Number → Prop) (names : String → Prop) : Json → Prop where
  | null : Made numbers names .null
  | bool (b : Bool) : Made numbers names (.bool b)
  | number {n : Number} (h : numbers n) : Made numbers names (.number n)
  | string (s : String) : Made numbers names (.string s)
  | array {items : List Json} (h : ∀ v ∈ items, Made numbers names v) :
      Made numbers names (.array items)
  | object {fields : Fields} (hkeys : fields.keys.Nodup) (hnames : ∀ key ∈ fields.keys, names key)
      (h : ∀ f ∈ fields, Made numbers names f.2) : Made numbers names (.object fields)

variable {numbers : Number → Prop} {names : String → Prop} {a b : Json}

section Small
variable {k l : String} {v w : Json}

theorem Made.single (hk : names k) (hv : v.Made numbers names) :
    (Json.object [(k, v)]).Made numbers names :=
  .object (List.nodup_singleton k) (List.forall_mem_singleton.mpr hk)
    (List.forall_mem_singleton.mpr hv)

theorem Made.pair (hne : k ≠ l) (hk : names k) (hl : names l) (hv : v.Made numbers names)
    (hw : w.Made numbers names) : (Json.object [(k, v), (l, w)]).Made numbers names :=
  .object (List.nodup_cons.mpr ⟨mt List.mem_singleton.mp hne, List.nodup_singleton l⟩)
    (List.forall_mem_cons.mpr ⟨hk, List.forall_mem_singleton.mpr hl⟩)
    (List.forall_mem_cons.mpr ⟨hv, List.forall_mem_singleton.mpr hw⟩)

end Small

section Sameness

theorem same_array_iff {items others : List Json} :
    same (.array items) (.array others) = true ↔
      List.Forall₂ (fun v w => same v w = true) items others := by
  rw [same]
  induction items generalizing others with
  | nil => cases others <;> simp [sameItems]
  | cons v vs ih =>
    cases others with
    | nil => simp [sameItems]
    | cons w ws => rw [sameItems, Bool.and_eq_true, ih, List.forall₂_cons]

theorem sameFields_iff {fields others : Fields} : sameFields fields others = true ↔
    ∀ f ∈ fields, ∃ w, others.get? f.1 = some w ∧ same f.2 w = true := by
  induction fields with
  | nil => simp [sameFields]
  | cons f rest ih =>
    obtain ⟨k, v⟩ := f
    rw [sameFields, Bool.and_eq_true, ih, List.forall_mem_cons]
    cases others.get? k <;> simp

theorem same_object_iff {fields others : Fields} :
    same (.object fields) (.object others) = true ↔ fields.length = others.length ∧
      ∀ f ∈ fields, ∃ w, others.get? f.1 = some w ∧ same f.2 w = true := by
  rw [same, Bool.and_eq_true, beq_iff_eq, sameFields_iff]

end Sameness

section Sorting

theorem canonicalItems_eq (items : List Json) : canonicalItems items = items.map canonical := by
  induction items with
  | nil => rfl
  | cons v vs ih => rw [canonicalItems, ih, List.map_cons]

theorem canonicalFields_eq (fields : Fields) :
    canonicalFields fields = fields.map fun f => (f.1, canonical f.2) := by
  induction fields with
  | nil => rfl
  | cons f rest ih => rw [canonicalFields, ih, List.map_cons]

theorem keys_canonicalFields (fields : Fields) :
    (canonicalFields fields).map Prod.fst = fields.keys := by
  rw [canonicalFields_eq, List.map_map]
  rfl

theorem sortByKey_perm (texts : List (String × List Char)) : (sortByKey texts).Perm texts :=
  List.mergeSort_perm _ _

theorem mem_sortByKey {fields : Fields} {t : String × List Char} :
    t ∈ sortByKey (canonicalFields fields) ↔ ∃ f ∈ fields, (f.1, canonical f.2) = t := by
  rw [(sortByKey_perm _).mem_iff, canonicalFields_eq, List.mem_map]

/-- Texts under keys of their own are sorted in one way only. -/
theorem sortByKey_eq_of_perm {texts others : List (String × List Char)}
    (hkeys : (texts.map Prod.fst).Nodup) (h : texts.Perm others) :
    sortByKey texts = sortByKey others := by
  have hsorted (texts : List (String × List Char)) :
      (sortByKey texts).Pairwise fun s t => decide (s.1 ≤ t.1) = true :=
    List.pairwise_mergeSort (fun s t u => by simpa using String.le_trans)
      (fun s t => by simpa using String.le_total s.1 t.1) texts
  have hperm : (sortByKey texts).Perm (sortByKey others) :=
    (sortByKey_perm texts).trans (h.trans (sortByKey_perm others).symm)
  apply hperm.eq_of_pairwise _ (hsorted texts) (hsorted others)
  intro s t hs ht hst hts
  have hs : s ∈ texts := (sortByKey_perm texts).mem_iff.mp hs
  have ht : t ∈ texts := h.mem_iff.mpr ((sortByKey_perm others).mem_iff.mp ht)
  have hkey : s.1 = t.1 := String.le_antisymm (of_decide_eq_true hst) (of_decide_eq_true hts)
  exact List.inj_on_of_nodup_map hkeys hs ht hkey

theorem sortByKey_of_pairwise {texts : List (String × List Char)}
    (h : texts.Pairwise fun s t => s.1 ≤ t.1) : sortByKey texts = texts :=
  List.mergeSort_of_pairwise (h.imp decide_eq_true)

end Sorting

theorem canonicalFields_perm {fields others : Fields} (hkeys : fields.keys.Nodup)
    (hlength : fields.length = others.length)
    (h : ∀ f ∈ fields, ∃ w, (f.1, w) ∈ others ∧ canonical f.2 = canonical w) :
    (canonicalFields fields).Perm (canonicalFields others) := by
  have hnodup : (canonicalFields fields).Nodup := by
    apply List.Nodup.of_map Prod.fst
    rw [keys_canonicalFields]
    exact hkeys
  have hsubset : canonicalFields fields ⊆ canonicalFields others := by
    rw [canonicalFields_eq, canonicalFields_eq]
    intro t ht
    obtain ⟨f, hf, rfl⟩ := List.mem_map.mp ht
    obtain ⟨w, hw, htext⟩ := h f hf
    exact List.mem_map.mpr ⟨(f.1, w), hw, by rw [htext]⟩
  apply (List.subperm_of_subset hnodup hsubset).perm_of_length_le
  rw [canonicalFields_eq, canonicalFields_eq, List.length_map, List.length_map, hlength]

theorem map_eq_map_of_forall₂ {α β : Type} {R : α → α → Prop} {f : α → β} {items others : List α}
    (h : List.Forall₂ R items others) (hf : ∀ v ∈ items, ∀ w ∈ others, R v w → f v = f w) :
    items.map f = others.map f := by
  induction h with
  | nil => rfl
  | cons hvw _ ih =>
    rw [List.map_cons, List.map_cons, hf _ List.mem_cons_self _ List.mem_cons_self hvw, ih]
    intro v hv w hw
    exact hf v (List.mem_cons_of_mem _ hv) w (List.mem_cons_of_mem _ hw)

/-- The same documents have the same text. -/
theorem canonical_eq_of_same (hsame : ∀ m n, numbers m → numbers n → (m == n) = true → m = n)
    (ha : a.Made numbers names) (hb : b.Made numbers names) (h : same a b = true) :
    canonical a = canonical b := by
  induction ha generalizing b with
  | null => cases hb <;> first | rfl | simp [same] at h
  | bool x => cases hb <;> simp_all [same]
  | number hn =>
    cases hb with
    | number hm => rw [hsame _ _ hn hm h]
    | _ => simp [same] at h
  | string s => cases hb <;> simp_all [same]
  | array _ ih =>
    cases hb with
    | array hothers =>
      have hitems := map_eq_map_of_forall₂ (same_array_iff.mp h)
        fun v hv w hw hvw => ih v hv (hothers w hw) hvw
      rw [canonical, canonical, canonicalItems_eq, canonicalItems_eq, hitems]
    | _ => simp [same] at h
  | object hkeys _ _ ih =>
    cases hb with
    | object hothers _ hvalues =>
      obtain ⟨hlength, hfields⟩ := same_object_iff.mp h
      rw [canonical, canonical, sortByKey_eq_of_perm]
      · rw [keys_canonicalFields]
        exact hkeys
      · apply canonicalFields_perm hkeys hlength
        intro f hf
        obtain ⟨w, hget, hw⟩ := hfields f hf
        have hmem := Fields.mem_of_get?_eq_some hget
        exact ⟨w, hmem, ih f hf (hvalues _ hmem) hw⟩
    | _ => simp [same] at h

section Marks

def mark : Json → Char
  | .null => 'n'
  | .bool _ => 't'
  | .number _ => '0'
  | .string _ => '"'
  | .array _ => '['
  | .object _ => '{'

theorem mark_mem (a : Json) : a.mark ∈ ['n', 't', '0', '"', '[', '{'] := by
  cases a <;> simp [mark]

def markOf (c : Char) : Char :=
  if c.isDigit || c == '-' then '0' else if c == 'f' then 't' else c

theorem exists_markOf (hnumbers : Legible numbers) (ha : a.Made numbers names) :
    ∃ c rest, canonical a = c :: rest ∧ markOf c = a.mark := by
  cases ha with
  | null => exact ⟨_, _, rfl, rfl⟩
  | bool b => cases b <;> exact ⟨_, _, rfl, rfl⟩
  | number hn =>
    obtain ⟨c, rest, htext, hc⟩ := hnumbers.head _ hn
    exact ⟨c, rest, htext, if_pos hc⟩
  | string s => exact ⟨_, _, rfl, rfl⟩
  | array _ => exact ⟨_, _, rfl, rfl⟩
  | object _ _ _ => exact ⟨_, _, rfl, rfl⟩

/-- No value starts with a bracket that closes. -/
theorem canonical_head_ne (hnumbers : Legible numbers) (ha : a.Made numbers names) :
    (canonical a).head? ≠ some ']' ∧ canonical a ≠ [] := by
  obtain ⟨c, rest, hc, hmark⟩ := exists_markOf hnumbers ha
  rw [hc]
  refine ⟨?_, List.cons_ne_nil _ _⟩
  intro h
  cases h
  have hmem := mark_mem a
  rw [← hmark] at hmem
  exact absurd hmem (by decide)

theorem mark_eq (hnumbers : Legible numbers) (ha : a.Made numbers names)
    (hb : b.Made numbers names) {x y : List Char} (h : canonical a ++ x = canonical b ++ y) :
    a.mark = b.mark := by
  obtain ⟨c, rest, hc, hmark⟩ := exists_markOf hnumbers ha
  obtain ⟨d, others, hd, hmark'⟩ := exists_markOf hnumbers hb
  rw [hc, hd] at h
  rw [← hmark, ← hmark', (List.cons.inj h).1]

end Marks

section Separated
variable {α : Type} {R : α → α → Prop} {text : α → List Char} {close : Char}
  {items others : List α} {x y : List Char}

theorem separated_cons (t : List Char) (texts : List (List Char)) :
    separated [','] (t :: texts) = t ++ texts.flatMap (',' :: ·) := by
  rw [separated, List.intercalate]
  induction texts generalizing t with
  | nil => simp
  | cons u texts ih => simp [List.intersperse, ih]

/-- What may follow a value: nothing that could belong to a number. -/
def AfterValue (x : List Char) : Prop := x.takeWhile isNumeralChar = []

theorem afterValue_nil : AfterValue [] := rfl

theorem afterValue_cons {c : Char} (h : isNumeralChar c = false) (x : List Char) :
    AfterValue (c :: x) :=
  List.takeWhile_cons_of_neg (by rw [h]; exact Bool.false_ne_true)

theorem afterValue_flatMap (hclose : isNumeralChar close = false) (items : List α) (x : List Char) :
    AfterValue (items.flatMap (fun v => ',' :: text v) ++ close :: x) := by
  cases items with
  | nil => exact afterValue_cons hclose x
  | cons v vs => exact afterValue_cons rfl _

/-- Two texts that agree up to what follows them only if their values do. -/
def ToldApart (R : α → α → Prop) (text : α → List Char) (v w : α) : Prop :=
  ∀ x y, AfterValue x → AfterValue y → text v ++ x = text w ++ y → R v w ∧ x = y

/-- Values that their texts tell apart are told apart one after the other. -/
theorem flatMap_append_inj (hcomma : close ≠ ',') (hclose : isNumeralChar close = false)
    (hinj : ∀ v ∈ items, ∀ w ∈ others, ToldApart R text v w)
    (h : items.flatMap (fun v => ',' :: text v) ++ close :: x =
      others.flatMap (fun v => ',' :: text v) ++ close :: y) :
    List.Forall₂ R items others ∧ x = y := by
  induction items generalizing others with
  | nil =>
    cases others with
    | nil => exact ⟨.nil, (List.cons.inj h).2⟩
    | cons w ws => exact absurd (List.cons.inj h).1 hcomma
  | cons v vs ih =>
    cases others with
    | nil => exact absurd (List.cons.inj h).1.symm hcomma
    | cons w ws =>
      rw [List.flatMap_cons, List.flatMap_cons, List.append_assoc, List.append_assoc] at h
      obtain ⟨hvw, hrest⟩ := hinj v List.mem_cons_self w List.mem_cons_self _ _
        (afterValue_flatMap hclose vs x) (afterValue_flatMap hclose ws y) (List.cons.inj h).2
      obtain ⟨hrests, hxy⟩ := ih (fun v hv w hw => hinj v (List.mem_cons_of_mem _ hv) w
        (List.mem_cons_of_mem _ hw)) hrest
      exact ⟨.cons hvw hrests, hxy⟩

theorem separated_append_inj (hcomma : close ≠ ',') (hclose : isNumeralChar close = false)
    (hstart : ∀ v ∈ items ++ others, (text v).head? ≠ some close ∧ text v ≠ [])
    (hinj : ∀ v ∈ items, ∀ w ∈ others, ToldApart R text v w)
    (h : separated [','] (items.map text) ++ close :: x =
      separated [','] (others.map text) ++ close :: y) :
    List.Forall₂ R items others ∧ x = y := by
  have hnot (v : α) (hv : v ∈ items ++ others) (u x : List Char) : text v ++ u ≠ close :: x := by
    intro heq
    obtain ⟨hhead, hne⟩ := hstart v hv
    obtain ⟨c, rest, hc⟩ := List.exists_cons_of_ne_nil hne
    rw [hc] at heq hhead
    exact hhead (congrArg some (List.cons.inj heq).1)
  have hflat (v : α) (vs : List α) (x : List Char) :
      separated [','] ((v :: vs).map text) ++ close :: x =
        text v ++ (vs.flatMap (fun v => ',' :: text v) ++ close :: x) := by
    rw [List.map_cons, separated_cons, List.append_assoc, List.flatMap_map]
  cases items with
  | nil =>
    cases others with
    | nil => exact ⟨.nil, (List.cons.inj h).2⟩
    | cons w ws =>
      rw [hflat] at h
      exact absurd h.symm (hnot w List.mem_cons_self _ _)
  | cons v vs =>
    cases others with
    | nil =>
      rw [hflat] at h
      exact absurd h (hnot v List.mem_cons_self _ _)
    | cons w ws =>
      rw [hflat, hflat] at h
      apply flatMap_append_inj hcomma hclose hinj
      rw [List.flatMap_cons, List.flatMap_cons, List.append_assoc, List.append_assoc]
      exact congrArg (',' :: ·) h

end Separated

section Injectivity

/-- A key that ends where its quotes end. -/
def Unquoted (key : String) : Prop := '"' ∉ key.toList

instance : DecidablePred Unquoted := fun key => inferInstanceAs (Decidable ('"' ∉ key.toList))

theorem canonicalField_append_inj {f g : String × List Char} (hf : Unquoted f.1)
    (hg : Unquoted g.1) {x y : List Char} (h : canonicalField f ++ x = canonicalField g ++ y) :
    f.1 = g.1 ∧ f.2 ++ x = g.2 ++ y := by
  have hchars {key : String} (hkey : Unquoted key) : ∀ c ∈ key.toList, (c != '"') = true := by
    intro c hc
    rw [bne_iff_ne]
    rintro rfl
    exact hkey hc
  simp only [canonicalField, List.cons_append, List.append_assoc] at h
  obtain ⟨hkeys, hvalues⟩ :=
    append_inj_of_all (hchars hf) (hchars hg) rfl rfl (List.cons.inj h).2
  exact ⟨String.toList_injective hkeys, (List.cons.inj (List.cons.inj hvalues).2).2⟩

/-- Objects are the same if their fields have the same texts. -/
theorem same_of_perm {fields others : Fields} (hkeys : others.keys.Nodup)
    (h : (canonicalFields fields).Perm (canonicalFields others))
    (hsame : ∀ f ∈ fields, ∀ g ∈ others, canonical f.2 = canonical g.2 → same f.2 g.2 = true) :
    same (.object fields) (.object others) = true := by
  rw [canonicalFields_eq, canonicalFields_eq] at h
  refine same_object_iff.mpr ⟨?_, ?_⟩
  · have hlength := h.length_eq
    rw [List.length_map, List.length_map] at hlength
    exact hlength
  · intro f hf
    have hmem := h.mem_iff.mp (List.mem_map_of_mem hf)
    obtain ⟨g, hg, heq⟩ := List.mem_map.mp hmem
    obtain ⟨hkey, htext⟩ := Prod.mk.inj heq
    exact ⟨g.2, hkey ▸ Fields.get?_eq_some_of_mem hkeys hg, hsame f hf g hg htext.symm⟩

def Same (a b : Json) : Prop := same a b = true

theorem array_toldApart (hnumbers : Legible numbers) {items others : List Json}
    (hitems : ∀ v ∈ items, v.Made numbers names) (hothers : ∀ w ∈ others, w.Made numbers names)
    (hinj : ∀ v ∈ items, ∀ w ∈ others, ToldApart Same canonical v w) :
    ToldApart Same canonical (.array items) (.array others) := by
  intro x y _ _ h
  rw [canonical, canonical, canonicalItems_eq, canonicalItems_eq, List.cons_append,
    List.cons_append, List.append_assoc, List.append_assoc] at h
  have hstart : ∀ v ∈ items ++ others, (canonical v).head? ≠ some ']' ∧ canonical v ≠ [] := by
    intro v hv
    exact canonical_head_ne hnumbers ((List.mem_append.mp hv).elim (hitems v) (hothers v))
  obtain ⟨hsame, hrest⟩ :=
    separated_append_inj (by decide) (by decide) hstart hinj (List.cons.inj h).2
  exact ⟨same_array_iff.mpr hsame, hrest⟩

theorem object_toldApart {fields others : Fields} (hkeys : others.keys.Nodup)
    (hnames : ∀ key ∈ fields.keys, Unquoted key) (hnames' : ∀ key ∈ others.keys, Unquoted key)
    (hinj : ∀ f ∈ fields, ∀ g ∈ others, ToldApart Same canonical f.2 g.2) :
    ToldApart Same canonical (.object fields) (.object others) := by
  intro x y _ _ h
  rw [canonical, canonical, List.cons_append, List.cons_append, List.append_assoc,
    List.append_assoc] at h
  have hstart : ∀ t ∈ sortByKey (canonicalFields fields) ++ sortByKey (canonicalFields others),
      (canonicalField t).head? ≠ some '}' ∧ canonicalField t ≠ [] := by
    intro t _
    exact ⟨by simp [canonicalField], by simp [canonicalField]⟩
  -- a key ends at the next quote, so the sorted fields agree one by one
  have hfields : ∀ s ∈ sortByKey (canonicalFields fields),
      ∀ t ∈ sortByKey (canonicalFields others), ToldApart Eq canonicalField s t := by
    intro s hs t ht x y hx hy hst
    obtain ⟨f, hf, rfl⟩ := mem_sortByKey.mp hs
    obtain ⟨g, hg, rfl⟩ := mem_sortByKey.mp ht
    obtain ⟨hkey, hvalue⟩ := canonicalField_append_inj (hnames _ (List.mem_map_of_mem hf))
      (hnames' _ (List.mem_map_of_mem hg)) hst
    dsimp only at hkey hvalue
    obtain ⟨_, hxy⟩ := hinj f hf g hg x y hx hy hvalue
    rw [hxy] at hvalue
    exact ⟨Prod.ext hkey (List.append_cancel_right hvalue), hxy⟩
  obtain ⟨hsorted, hrest⟩ :=
    separated_append_inj (by decide) (by decide) hstart hfields (List.cons.inj h).2
  rw [List.forall₂_eq_eq_eq] at hsorted
  have hperm : (canonicalFields fields).Perm (canonicalFields others) :=
    (sortByKey_perm _).symm.trans (hsorted ▸ sortByKey_perm _)
  refine ⟨same_of_perm hkeys hperm ?_, hrest⟩
  intro f hf g hg htext
  exact (hinj f hf g hg [] [] afterValue_nil afterValue_nil (by rw [htext])).1

/-- The text of a document tells it apart from all others, whatever follows. -/
theorem canonical_toldApart (hnumbers : Legible numbers) (ha : a.Made numbers Unquoted)
    (hb : b.Made numbers Unquoted) : ToldApart Same canonical a b := by
  -- by induction on one document; the first character leaves the other no kind but its own
  induction ha generalizing b with
  | null =>
    intro x y _ _ h
    have hmark := mark_eq hnumbers .null hb h
    cases hb with
    | null => exact ⟨rfl, List.append_cancel_left h⟩
    | _ => simp [mark] at hmark
  | bool c =>
    intro x y _ _ h
    have hmark := mark_eq hnumbers (.bool c) hb h
    cases hb with
    | bool d =>
      cases c <;> cases d
      · exact ⟨rfl, List.append_cancel_left h⟩
      · cases h
      · cases h
      · exact ⟨rfl, List.append_cancel_left h⟩
    | _ => simp [mark] at hmark
  | @number m hm =>
    intro x y hx hy h
    have hmark := mark_eq hnumbers (.number hm) hb h
    cases hb with
    | @number n hn =>
      obtain ⟨htext, hrest⟩ :=
        append_inj_of_all (hnumbers.chars m hm) (hnumbers.chars n hn) hx hy h
      cases hnumbers.inj m n hm hn htext
      exact ⟨m.beq_self, hrest⟩
    | _ => simp [mark] at hmark
  | string s =>
    intro x y _ _ h
    have hmark := mark_eq hnumbers (.string s) hb h
    cases hb with
    | string t =>
      have hread := readScalar?_quote s x
      have hread' := readScalar?_quote t y
      rw [show quote s ++ x = quote t ++ y from h, hread'] at hread
      cases hread
      exact ⟨beq_self_eq_true s, rfl⟩
    | _ => simp [mark] at hmark
  | array hitems ih =>
    intro x y hx hy h
    have hmark := mark_eq hnumbers (.array hitems) hb h
    cases hb with
    | array hothers =>
      exact array_toldApart hnumbers hitems hothers
        (fun v hv w hw => ih v hv (hothers w hw)) x y hx hy h
    | _ => simp [mark] at hmark
  | object hkeys hnames hvalues ih =>
    intro x y hx hy h
    have hmark := mark_eq hnumbers (.object hkeys hnames hvalues) hb h
    cases hb with
    | object hkeys' hnames' hvalues' =>
      exact object_toldApart hkeys' hnames hnames'
        (fun f hf g hg => ih f hf (hvalues' g hg)) x y hx hy h
    | _ => simp [mark] at hmark

theorem same_of_canonical_eq (hnumbers : Legible numbers) (ha : a.Made numbers Unquoted)
    (hb : b.Made numbers Unquoted) (h : canonical a = canonical b) : same a b = true :=
  (canonical_toldApart hnumbers ha hb [] [] afterValue_nil afterValue_nil (by rw [h])).1

end Injectivity

end RowSearch.Json
