import RowSearch.Raw.Parser
import Mathlib.Data.List.Basic

/-! # Plain names

A plain name is a column's name that stands in an expression as it is: one word, and none that
reads as a constant or a negation. Keywords are told apart by ASCII case alone; that a word is a
constant is asked of its lower case, which comes to the same, for no other letter has one of the
letters of a constant as its lower case.
-/
namespace RowSearch.Raw

/-- The words that are no column where an operand can stand. -/
def reservedWords : List String := ["not", "null", "true", "false"]

def isIdentifier (name : String) : Bool :=
  match name.toList with
  | c :: cs => isWordStart c && cs.all isWordChar
  | [] => false

structure PlainName (name : String) : Prop where
  identifier : isIdentifier name = true
  notReserved : ∀ word ∈ reservedWords, sameIgnoringCase name word = false

instance (name : String) : Decidable (PlainName name) :=
  decidable_of_iff
    (isIdentifier name = true ∧ ∀ word ∈ reservedWords, sameIgnoringCase name word = false)
    ⟨fun h => ⟨h.1, h.2⟩, fun h => ⟨h.identifier, h.notReserved⟩⟩

def Ascii (text : String) : Prop := ∀ c ∈ text.toList, c.toNat < 128

instance (text : String) : Decidable (Ascii text) :=
  List.decidableBAll (fun c : Char => c.toNat < 128) text.toList

section Characters
variable {c : Char}

/-- A fact of ASCII characters, checked one by one. -/
theorem of_ascii {p : Char → Bool} (h : (List.range 128).all fun n => p (Char.ofNat n))
    (hc : c.toNat < 128) : p c = true := by
  rw [← Char.ofNat_toNat c]
  exact List.all_eq_true.mp h c.toNat (List.mem_range.mpr hc)

theorem alphanumeric_whiteSpace_disjoint :
    ∀ r ∈ Text.alphabeticRanges ++ Text.numericRanges, ∀ w ∈ Text.whiteSpaceRanges,
      r.2 < w.1 ∨ w.2 < r.1 := by
  decide +kernel

/-- Letters and digits are no white space. -/
theorem isWhiteSpace_of_isAlphanumeric (h : Text.isAlphanumeric c = true) :
    Text.isWhiteSpace c = false := by
  by_cases hc : c.toNat < 128
  · have hall := of_ascii (p := fun c => !Text.isAlphanumeric c || !Text.isWhiteSpace c)
      (by decide +kernel) hc
    simpa [h] using hall
  · have hrange : Text.inRanges (Text.alphabeticRanges ++ Text.numericRanges) c = true := by
      simpa [Text.isAlphanumeric, Text.isAlphabetic, Text.isNumeric, hc, Text.inRanges] using h
    obtain ⟨r, hr, hin⟩ := List.any_eq_true.mp hrange
    have hapart : Text.inRanges Text.whiteSpaceRanges c = false := by
      rw [Text.inRanges, List.any_eq_false]
      intro w hw
      have := alphanumeric_whiteSpace_disjoint r hr w hw
      simp only [Bool.and_eq_true, decide_eq_true_eq] at hin ⊢
      omega
    have hblank : c ≠ ' ' := by
      rintro rfl
      exact hc (by decide)
    have htab : ¬(9 ≤ c.toNat ∧ c.toNat ≤ 13) := by omega
    simpa [Text.isWhiteSpace, hapart, hblank] using htab

theorem isWhiteSpace_of_isWordChar (h : isWordChar c = true) : Text.isWhiteSpace c = false := by
  rw [isWordChar, Bool.or_eq_true, Bool.or_eq_true, beq_iff_eq, beq_iff_eq] at h
  rcases h with (h | rfl) | rfl
  · exact isWhiteSpace_of_isAlphanumeric h
  · decide
  · decide

theorem isWordChar_of_isWordStart (h : isWordStart c = true) : isWordChar c = true := by
  rcases Bool.or_eq_true_iff.mp h with h | h <;> simp [isWordChar, Text.isAlphanumeric, h]

theorem toLower_of_not_ascii (h : 128 ≤ c.toNat) : c.toLower = c := by
  have hupper : ¬(c.val ≥ 'A'.val ∧ c.val ≤ 'Z'.val) :=
    fun hc => absurd (Nat.le_trans h hc.2) (by decide)
  exact dif_neg hupper

theorem isWordStart_toLower (c : Char) : isWordStart c.toLower = isWordStart c := by
  by_cases hc : c.toNat < 128
  · exact beq_iff_eq.mp (of_ascii (p := fun c => isWordStart c.toLower == isWordStart c)
      (by decide +kernel) hc)
  · rw [toLower_of_not_ascii (Nat.not_lt.mp hc)]

theorem isWordChar_toLower (c : Char) : isWordChar c.toLower = isWordChar c := by
  by_cases hc : c.toNat < 128
  · exact beq_iff_eq.mp (of_ascii (p := fun c => isWordChar c.toLower == isWordChar c)
      (by decide +kernel) hc)
  · rw [toLower_of_not_ascii (Nat.not_lt.mp hc)]

/-- No run of lower cases leads from above ASCII to a letter other than the k. -/
theorem lowerRuns_above : ∀ r ∈ Text.lowerRuns,
    128 ≤ r.first + r.shift ∨ (r.first = r.last ∧ r.first + r.shift = 'k'.toNat) := by
  decide +kernel

theorem lower_of_ascii (h : c.toNat < 128) : Text.lower c = [c.toLower] := if_pos h

/-- In the lower case of a character above ASCII something is left that no constant has. -/
theorem exists_mem_lower (h : 128 ≤ c.toNat) :
    ∃ d ∈ Text.lower c, 128 ≤ d.toNat ∨ d.toNat = 0 ∨ d = 'k' := by
  rw [Text.lower, if_neg (Nat.not_lt.mpr h)]
  split
  · exact ⟨Char.ofNat 0x307, by simp, Or.inl (by decide)⟩
  · refine ⟨_, List.mem_singleton_self _, ?_⟩
    rw [Text.mapByRuns]
    cases hrun : Text.lowerRuns.find? (·.covers c.toNat) with
    | none => exact Or.inl h
    | some r =>
      have hcovers : r.covers c.toNat = true :=
        List.find?_some (p := fun r : Text.Run => r.covers c.toNat) hrun
      simp only [Text.Run.covers, Bool.and_eq_true, decide_eq_true_eq] at hcovers
      obtain ⟨⟨hfirst, hlast⟩, _⟩ := hcovers
      rcases lowerRuns_above r (List.mem_of_find?_eq_some hrun) with hr | ⟨hone, hk⟩
      · dsimp only
        by_cases hvalid : (Int.toNat (c.toNat + r.shift)).isValidChar
        · rw [Char.ofNat, dif_pos hvalid]
          left
          show 128 ≤ Int.toNat (c.toNat + r.shift)
          omega
        · rw [Char.ofNat, dif_neg hvalid]
          exact Or.inr (Or.inl rfl)
      · have hc : (c.toNat : Int) + r.shift = 'k'.toNat := by omega
        exact Or.inr (Or.inr (by simp only [hc]; rfl))

def fromAscii (d : Char) : Bool := d.toNat < 128 && d.toNat != 0 && d != 'k'

theorem map_toLower_of_lower {cs word : List Char} (hword : word.all fromAscii = true)
    (h : cs.flatMap Text.lower = word) : cs.map Char.toLower = word := by
  have hascii : ∀ c ∈ cs, c.toNat < 128 := by
    intro c hc
    by_contra hge
    obtain ⟨d, hd, habove⟩ := exists_mem_lower (Nat.not_lt.mp hge)
    have hmem : d ∈ word := h ▸ List.mem_flatMap.mpr ⟨c, hc, hd⟩
    obtain ⟨⟨hlt, hzero⟩, hk⟩ : (d.toNat < 128 ∧ d.toNat ≠ 0) ∧ d ≠ 'k' := by
      simpa [fromAscii] using List.all_eq_true.mp hword d hmem
    rcases habove with hd | hd | hd
    · omega
    · exact hzero hd
    · exact hk hd
  rw [← h, List.flatMap_congr fun c hc => lower_of_ascii (hascii c hc)]
  exact (List.flatMap_pure_eq_map Char.toLower cs).symm

end Characters

/-- Whether a text is an identifier does not depend on the case of its letters. -/
theorem isIdentifier_of_sameIgnoringCase {text word : String}
    (h : sameIgnoringCase text word = true) (hword : isIdentifier word = true) :
    isIdentifier text = true := by
  rw [sameIgnoringCase, beq_iff_eq] at h
  have hlower (name : String) : isIdentifier name =
      match name.toList.map Char.toLower with
      | c :: cs => isWordStart c && cs.all isWordChar
      | [] => false := by
    rw [isIdentifier]
    cases name.toList with
    | nil => rfl
    | cons c cs => simp only [List.map_cons, List.all_map, Function.comp_def, isWordStart_toLower,
        isWordChar_toLower]
  rw [hlower, h, ← hlower, hword]

/-- A word is a constant only if it is the constant's name in some ASCII case. -/
theorem sameIgnoringCase_of_lower {text word : String}
    (hword : word.toList.all fromAscii = true)
    (hlower : word.toList.map Char.toLower = word.toList)
    (h : text.toList.flatMap Text.lower = word.toList) : sameIgnoringCase text word = true := by
  rw [sameIgnoringCase, map_toLower_of_lower hword h, hlower]
  exact beq_self_eq_true _

namespace PlainName
variable {name : String}

theorem not_constant (h : PlainName name) (word : String) (hmem : word ∈ reservedWords) :
    name.toList.flatMap Text.lower ≠ word.toList := by
  intro hlower
  have hnot := h.notReserved word hmem
  have hall : ∀ word ∈ reservedWords, word.toList.all fromAscii = true ∧
      word.toList.map Char.toLower = word.toList := by
    decide
  obtain ⟨hascii, hself⟩ := hall word hmem
  rw [sameIgnoringCase_of_lower hascii hself hlower] at hnot
  cases hnot

/-- A plain name that no parenthesis follows is read as the column it names. -/
theorem wordOperand_eq (h : PlainName name) {p : Pending}
    (hp : p.tokens.head? ≠ some .opening) :
    wordOperand name p = .ok (.column name, p) := by
  have hnull := h.not_constant "null" (by decide)
  have htrue := h.not_constant "true" (by decide)
  have hfalse := h.not_constant "false" (by decide)
  obtain ⟨tokens, bindings⟩ := p
  simp only [wordOperand, hnull, htrue, hfalse, if_false]
  split
  · next hopening => exact absurd (by simp_all) hp
  · rfl

end PlainName
end RowSearch.Raw
