import Mathlib.Data.List.Infix
import RowSearch.Text.Split

/-! # Texts put together and cut again

A text joined from pieces by a separator that none of them holds is cut into the same pieces, and
a sequence of characters that no piece holds and that the separator takes no part in is not to be
found in the whole.
-/
namespace RowSearch.Text
variable {sep : Char → Bool} {c : Char} {w rest : List Char} {ps : List (List Char)}

theorem splitChars_append (hw : ∀ c ∈ w, sep c = false) (hrest : ∀ c ∈ rest.head?, sep c = true) :
    splitChars sep (w ++ rest) = w :: (splitChars sep rest).tail := by
  induction w with
  | nil =>
    cases rest with
    | nil => rfl
    | cons d ds => rw [List.nil_append, splitChars, if_pos (hrest d rfl), List.tail_cons]
  | cons c w ih =>
    have hc : ¬ sep c = true := by simp [hw c List.mem_cons_self]
    have htail := ih fun d hd => hw d (List.mem_cons_of_mem c hd)
    rw [List.cons_append, splitChars, if_neg hc, htail]

theorem splitChars_eq_singleton (hw : ∀ c ∈ w, sep c = false) : splitChars sep w = [w] := by
  simpa [splitChars] using @splitChars_append sep w [] hw (by simp)

theorem not_mem_of_mem_splitChars {cs piece : List Char} (h : piece ∈ splitChars sep cs) :
    ∀ c ∈ piece, sep c = false := by
  induction cs generalizing piece with
  | nil =>
    rw [List.mem_singleton.mp h]
    intro c hc
    cases hc
  | cons d cs ih =>
    unfold splitChars at h
    by_cases hd : sep d = true
    · rw [if_pos hd] at h
      rcases List.mem_cons.mp h with rfl | h
      · intro c hc
        cases hc
      · exact ih h
    · rw [if_neg hd] at h
      obtain ⟨first, rest, hpieces⟩ := List.exists_cons_of_ne_nil (splitChars_ne_nil sep cs)
      rw [hpieces] at h ih
      rcases List.mem_cons.mp h with rfl | h
      · exact List.forall_mem_cons.mpr ⟨Bool.eq_false_iff.mpr hd, ih List.mem_cons_self⟩
      · exact ih (List.mem_cons_of_mem _ h)

/-- The pieces of a text, joined again by the separator, are the text. -/
theorem intercalate_splitChars (c : Char) (cs : List Char) :
    [c].intercalate (splitChars (· == c) cs) = cs := by
  induction cs with
  | nil => simp [splitChars]
  | cons d cs ih =>
    rw [splitChars]
    cases hsplit : splitChars (· == c) cs with
    | nil => exact absurd hsplit (splitChars_ne_nil _ cs)
    | cons piece more =>
      rw [hsplit] at ih
      by_cases hd : d = c
      · rw [if_pos (by simpa using hd), List.intercalate_cons_cons, ih, hd]
        rfl
      · rw [if_neg (by simpa using hd)]
        cases more with
        | nil => simpa using ih
        | cons q more =>
          rw [List.intercalate_cons_cons] at ih ⊢
          rw [← ih]
          rfl

theorem splitChars_intercalate (hc : sep c = true) (hne : ps ≠ [])
    (h : ∀ p ∈ ps, ∀ d ∈ p, sep d = false) : splitChars sep ([c].intercalate ps) = ps := by
  induction ps with
  | nil => exact absurd rfl hne
  | cons p ps ih =>
    obtain ⟨hp, hps⟩ := List.forall_mem_cons.mp h
    cases ps with
    | nil => rw [List.intercalate_singleton, splitChars_eq_singleton hp]
    | cons q ps =>
      rw [List.intercalate_cons_cons, List.append_assoc, splitChars_append hp (by simpa using hc),
        List.singleton_append, splitChars, if_pos hc, List.tail_cons,
        ih (List.cons_ne_nil q ps) hps]

theorem not_mem_intercalate {d : Char} (hc : c ≠ d) (h : ∀ p ∈ ps, d ∉ p) :
    d ∉ [c].intercalate ps := by
  induction ps with
  | nil => simp
  | cons p ps ih =>
    obtain ⟨hp, hps⟩ := List.forall_mem_cons.mp h
    cases ps with
    | nil => simpa using hp
    | cons q ps =>
      have hrest := ih hps
      simp only [List.intercalate_cons_cons, List.mem_append, List.mem_singleton, not_or]
      exact ⟨⟨hp, hc.symm⟩, hrest⟩

theorem trimChars_infix (p : Char → Bool) (cs : List Char) : trimChars p cs <:+: cs := by
  have hfront : cs.dropWhile p <:+ cs := List.dropWhile_suffix p
  have hback : (cs.dropWhile p).reverse.dropWhile p <:+ (cs.dropWhile p).reverse :=
    List.dropWhile_suffix p
  have hprefix := List.reverse_prefix.mpr hback
  rw [List.reverse_reverse] at hprefix
  exact hprefix.isInfix.trans hfront.isInfix

theorem isSome_dropPrefix? (needle cs : List Char) :
    (dropPrefix? needle cs).isSome = true ↔ needle <+: cs := by
  induction needle generalizing cs with
  | nil => simp [dropPrefix?]
  | cons n needle ih =>
    cases cs with
    | nil => simp [dropPrefix?]
    | cons c cs =>
      rw [dropPrefix?, List.cons_prefix_cons, ← ih]
      by_cases hn : n = c <;> simp [hn]

/-- A word up to a character is the first one up to this character or no prefix. -/
theorem dropPrefix?_append_cons {c : Char} {p w : List Char} (hp : c ∉ p) (hw : c ∉ w)
    (rest : List Char) :
    dropPrefix? (p ++ [c]) (w ++ c :: rest) = if w = p then some rest else none := by
  induction p generalizing w with
  | nil =>
    cases w with
    | nil => simp [dropPrefix?]
    | cons d w =>
      obtain ⟨hd, -⟩ := not_or.mp (mt List.mem_cons.mpr hw)
      simp [dropPrefix?, hd]
  | cons a p ih =>
    obtain ⟨ha, hp⟩ := not_or.mp (mt List.mem_cons.mpr hp)
    cases w with
    | nil => simp [dropPrefix?, Ne.symm ha]
    | cons d w =>
      obtain ⟨-, hw⟩ := not_or.mp (mt List.mem_cons.mpr hw)
      rw [List.cons_append, List.cons_append, dropPrefix?, ih hp hw]
      by_cases had : a = d
      · simp [had]
      · simp [had, Ne.symm had]

/-- There is a text before the first occurrence where there is an occurrence. -/
theorem before?_eq_none_iff {needle cs : List Char} :
    before? needle cs = none ↔ ¬ needle <:+: cs := by
  induction cs with
  | nil => cases needle <;> simp [before?]
  | cons c cs ih =>
    rw [before?, List.infix_cons_iff, ← isSome_dropPrefix?]
    cases (dropPrefix? needle (c :: cs)).isSome <;> simp [ih]

section Apart
variable {needle : List Char} (hc : c ∉ needle)
include hc

theorem prefix_of_append_cons (h : needle <+: w ++ c :: rest) : needle <+: w := by
  have hw : w ++ [c] <+: w ++ c :: rest := ⟨rest, by simp⟩
  rcases List.prefix_or_prefix_of_prefix h hw with h | h
  · rcases List.prefix_concat_iff.mp h with rfl | h
    · exact absurd (by simp) hc
    · exact h
  · exact absurd (h.subset (by simp)) hc

theorem infix_of_append_cons (h : needle <:+: w ++ c :: rest) :
    needle <:+: w ∨ needle <:+: rest := by
  induction w with
  | nil =>
    rcases List.infix_cons_iff.mp h with h | h
    · exact .inl (prefix_of_append_cons (w := []) hc h).isInfix
    · exact .inr h
  | cons x w ih =>
    rcases List.infix_cons_iff.mp h with h | h
    · exact .inl (prefix_of_append_cons (w := x :: w) hc h).isInfix
    · exact (ih h).imp_left fun h => List.infix_cons_iff.mpr (.inr h)

/-- What the separator takes no part in is found in a piece. -/
theorem infix_intercalate (hne : ps ≠ []) (h : needle <:+: [c].intercalate ps) :
    ∃ p ∈ ps, needle <:+: p := by
  induction ps with
  | nil => exact absurd rfl hne
  | cons p ps ih =>
    cases ps with
    | nil => exact ⟨p, List.mem_cons_self, by simpa using h⟩
    | cons q ps =>
      rw [List.intercalate_cons_cons, List.append_assoc, List.singleton_append] at h
      rcases infix_of_append_cons hc h with h | h
      · exact ⟨p, List.mem_cons_self, h⟩
      · obtain ⟨r, hr, hneedle⟩ := ih (List.cons_ne_nil q ps) h
        exact ⟨r, List.mem_cons_of_mem p hr, hneedle⟩

end Apart
end RowSearch.Text
