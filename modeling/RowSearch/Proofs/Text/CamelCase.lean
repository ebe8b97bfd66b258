import Mathlib.Data.List.Chain
import RowSearch.Proofs.Raw.Names
import RowSearch.Proofs.Text.Splitting
import RowSearch.Text.Words

/-! # Names in camel case

A name in snake case is words joined by underscores. In camel case every word but the first starts
with its capital, and the name is cut again before the capitals that show where a word starts: a
capital behind a small letter does, and so does one behind capitals and digits alone if a small
letter follows it. Words that start with a digit, or that meet in two capitals, grow together; a
name comes back as it was exactly where no words do.
-/
namespace RowSearch.Text

def capitalOf (c : Char) : Char := (upper c).headD c

/-- A character of the words of a name: a small letter with a capital of its own, or a letter or
digit without case. -/
structure NameChar (c : Char) : Prop where
  alphanumeric : isAlphanumeric c = true
  notUppercase : isUppercase c = false
  lower_eq : lower c = [c]
  upper_eq : upper c = [capitalOf c]
  alphanumeric_capital : isAlphanumeric (capitalOf c) = true
  uppercase_capital : isUppercase (capitalOf c) = isLowercase c
  lowercase_capital : isLowercase (capitalOf c) = false
  lower_capital : lower (capitalOf c) = [c]
  notFinal : capitalOf c ≠ 'Σ'

instance (c : Char) : Decidable (NameChar c) :=
  decidable_of_iff (isAlphanumeric c = true ∧ isUppercase c = false ∧ lower c = [c] ∧
      upper c = [capitalOf c] ∧ isAlphanumeric (capitalOf c) = true ∧
      isUppercase (capitalOf c) = isLowercase c ∧ isLowercase (capitalOf c) = false ∧
      lower (capitalOf c) = [c] ∧ capitalOf c ≠ 'Σ')
    ⟨fun ⟨a, b, c, d, e, f, g, h, i⟩ => ⟨a, b, c, d, e, f, g, h, i⟩,
      fun ⟨a, b, c, d, e, f, g, h, i⟩ => ⟨a, b, c, d, e, f, g, h, i⟩⟩

theorem toNat_lt_of_ascii {c : Char} (h : c.isLower = true ∨ c.isDigit = true) :
    c.toNat < 128 := by
  rcases h with h | h
  · have hle := of_decide_eq_true (Bool.and_eq_true_iff.mp h).2
    exact Nat.lt_of_le_of_lt hle (by decide)
  · have hle := of_decide_eq_true (Bool.and_eq_true_iff.mp h).2
    exact Nat.lt_of_le_of_lt hle (by decide)

/-- The small letters and the digits of ASCII are characters of names. -/
theorem nameChar_of_ascii {c : Char} (h : c.isLower = true ∨ c.isDigit = true) : NameChar c := by
  have hall := Raw.of_ascii (p := fun c => !(c.isLower || c.isDigit) || decide (NameChar c))
    (by decide +kernel) (toNat_lt_of_ascii h)
  rcases h with h | h <;> simpa [h] using hall

def capitalized : List Char → List Char
  | [] => []
  | c :: cs => capitalOf c :: cs

section Words
variable {w : List Char} {s : CaseState} {word : List Char}

theorem lowerWord_eq_flatMap (h : 'Σ' ∉ w) : lowerWord w = w.flatMap lower := by
  induction w with
  | nil => rfl
  | cons c cs ih =>
    obtain ⟨hc, hcs⟩ := not_or.mp (mt List.mem_cons.mpr h)
    cases cs with
    | nil => simp [lowerWord, Ne.symm hc]
    | cons d ds =>
      rw [List.flatMap_cons, ← ih hcs, lowerWord]
      exact List.cons_ne_nil d ds

theorem NameChar.ne_sigma {c : Char} (h : NameChar c) : c ≠ 'Σ' := by
  rintro rfl
  exact absurd h.notUppercase (by decide +kernel)

variable (hw : ∀ c ∈ w, NameChar c)
include hw

theorem flatMap_lower : w.flatMap lower = w := by
  rw [List.flatMap_congr fun c hc => (hw c hc).lower_eq, List.flatMap_singleton']

theorem lowerWord_eq : lowerWord w = w := by
  rw [lowerWord_eq_flatMap fun h => (hw _ h).ne_sigma rfl, flatMap_lower hw]

theorem capitalWord_eq : capitalWord w = capitalized w := by
  cases w with
  | nil => rfl
  | cons c cs =>
    obtain ⟨hc, hcs⟩ := List.forall_mem_cons.mp hw
    rw [capitalWord, hc.upper_eq, lowerWord_eq hcs]
    rfl

theorem lowerWord_capitalized : lowerWord (capitalized w) = w := by
  cases w with
  | nil => rfl
  | cons c cs =>
    obtain ⟨hc, hcs⟩ := List.forall_mem_cons.mp hw
    have hsigma : 'Σ' ∉ capitalOf c :: cs := by
      intro hmem
      rcases List.mem_cons.mp hmem with h | h
      · exact hc.notFinal h.symm
      · exact (hcs _ h).ne_sigma rfl
    rw [capitalized, lowerWord_eq_flatMap hsigma, List.flatMap_cons, hc.lower_capital,
      flatMap_lower hcs]
    rfl

/-- Small letters end in the lower case, characters without case keep the case before them. -/
theorem foldl_after : w.foldl CaseState.after s = if w.any isLowercase then .lower else s := by
  induction w generalizing s with
  | nil => rfl
  | cons c cs ih =>
    obtain ⟨hc, hcs⟩ := List.forall_mem_cons.mp hw
    rw [List.foldl_cons, ih hcs, List.any_cons, CaseState.after, hc.notUppercase]
    cases isLowercase c <;> simp

end Words

def startsSmall (w : List Char) : Bool := w.head?.any isLowercase

/-- Whether the capital of a word shows that the word starts there. -/
def Parted (s : CaseState) (w : List Char) : Prop :=
  startsSmall w = true ∧ (s = .lower ∨ s = .upper ∧ startsSmall w.tail = true)

instance (s : CaseState) (w : List Char) : Decidable (Parted s w) :=
  inferInstanceAs (Decidable (_ ∧ _))

def caseAfter (s : CaseState) (w : List Char) : CaseState := (capitalized w).foldl CaseState.after s

/-- The words of a name in camel case. `word` is what has grown together so far. -/
def regroup (s : CaseState) (word : List Char) : List (List Char) → List (List Char)
  | [] => [word]
  | w :: ws =>
    if Parted s w then word :: regroup (caseAfter .unknown w) (capitalized w) ws
    else regroup (caseAfter s w) (word ++ capitalized w) ws

structure NameWord (w : List Char) : Prop where
  ne_nil : w ≠ []
  chars : ∀ c ∈ w, NameChar c

instance (w : List Char) : Decidable (NameWord w) :=
  have := List.decidableBAll NameChar w
  decidable_of_iff (w ≠ [] ∧ ∀ c ∈ w, NameChar c)
    ⟨fun h => ⟨h.1, h.2⟩, fun h => ⟨h.ne_nil, h.chars⟩⟩

theorem CaseState.after_of_isLowercase {s : CaseState} {c : Char} (h : isLowercase c = true) :
    s.after c = .lower := by
  rw [CaseState.after, if_pos h]

/-- A word that starts with a small letter ends in the lower case. -/
theorem foldl_after_of_startsSmall {w : List Char} (hw : ∀ c ∈ w, NameChar c)
    (h : startsSmall w = true) {s : CaseState} : w.foldl CaseState.after s = .lower := by
  cases w with
  | nil => cases h
  | cons c cs =>
    rw [List.foldl_cons, CaseState.after_of_isLowercase h,
      foldl_after (List.forall_mem_cons.mp hw).2, ite_self]

section Runs
variable {s : CaseState} {c d : Char} {word tail rest : List Char} {ws : List (List Char)}

/-- Inside a word nothing is cut, so that what a run gives is decided at the word's end. -/
theorem cutRun_tail {r : CaseState → List Char → List (List Char)}
    (htail : ∀ d ∈ tail, NameChar d)
    (h : ¬(s = .upper ∧ isUppercase c = true ∧ startsSmall tail = true))
    (hend : ∀ s c word, cutRun s word (c :: rest) = r (s.after c) (word.reverse ++ [c])) :
    cutRun s word (c :: (tail ++ rest)) =
      r ((c :: tail).foldl CaseState.after s) (word.reverse ++ c :: tail) := by
  induction tail generalizing s c word with
  | nil => exact hend s c word
  | cons d tail ih =>
    obtain ⟨hd, htail⟩ := List.forall_mem_cons.mp htail
    have hnext : cutRun (s.after c) (c :: word) (d :: (tail ++ rest)) = _ :=
      ih htail (by simp [hd.notUppercase])
    rw [List.cons_append, cutRun, if_neg (by simp [hd.notUppercase])]
    rw [startsSmall, List.head?_cons, Option.any_some] at h
    rw [if_neg h, hnext]
    simp

/-- A capital behind a small letter starts a word. -/
theorem cutRun_capital (hd : NameChar d) :
    cutRun s word (c :: capitalOf d :: rest) =
      if s.after c = .lower ∧ isLowercase d = true then
        (c :: word).reverse :: cutRun .unknown [] (capitalOf d :: rest)
      else cutRun (s.after c) (c :: word) (capitalOf d :: rest) := by
  rw [cutRun, hd.uppercase_capital, hd.lowercase_capital]
  simp

/-- A capital behind capitals starts a word if a small letter follows. -/
theorem cutRun_upper (hd : NameChar d) (hsmall : isLowercase d = true) {e : Char}
    (he : NameChar e) (hnext : isLowercase e = true) :
    cutRun .upper word (capitalOf d :: e :: rest) =
      word.reverse :: cutRun .unknown [capitalOf d] (e :: rest) := by
  rw [cutRun, if_neg (by simp [he.notUppercase]),
    if_pos ⟨rfl, hd.uppercase_capital.trans hsmall, hnext⟩]

/-- A run of words in camel case is cut where the words are parted. -/
theorem cutRun_words (hws : ∀ w ∈ ws, NameWord w) (htail : ∀ d ∈ tail, NameChar d)
    (h : ¬(s = .upper ∧ isUppercase c = true ∧ startsSmall tail = true)) :
    cutRun s word (c :: (tail ++ ws.flatMap capitalized)) =
      regroup ((c :: tail).foldl CaseState.after s) (word.reverse ++ c :: tail) ws := by
  induction ws generalizing s c word tail with
  | nil =>
    refine cutRun_tail (r := fun s word => regroup s word []) htail h fun s c word => ?_
    simp [cutRun, regroup]
  | cons w ws ih =>
    refine cutRun_tail (r := fun s word => regroup s word (w :: ws)) htail h
      fun s c word => ?_
    obtain ⟨hw, hlater⟩ := List.forall_mem_cons.mp hws
    obtain ⟨d, more, rfl⟩ := List.exists_cons_of_ne_nil hw.ne_nil
    obtain ⟨hd, hmore⟩ := List.forall_mem_cons.mp hw.chars
    rw [List.flatMap_cons, capitalized, List.cons_append, cutRun_capital hd, regroup,
      ← List.reverse_cons]
    by_cases hp : Parted (s.after c) (d :: more)
    · rw [if_pos hp]
      obtain ⟨hsmall, hlower | ⟨hupper, hnext⟩⟩ := hp
      · rw [if_pos ⟨hlower, hsmall⟩, ih hlater hmore (s := .unknown) (by simp)]
        rfl
      · -- the capital is cut off one character later, and the letter behind it sets the case
        rw [hupper, if_neg (by simp)]
        cases more with
        | nil => cases hnext
        | cons e more =>
          obtain ⟨he, hmore⟩ := List.forall_mem_cons.mp hmore
          rw [List.cons_append, cutRun_upper hd hsmall he hnext,
            ih hlater hmore (s := .unknown) (by simp)]
          simp [caseAfter, capitalized, CaseState.after_of_isLowercase (c := e) hnext]
    · have hfirst : ¬(s.after c = .lower ∧ isLowercase d = true) := by
        rintro ⟨hlower, hsmall⟩
        exact hp ⟨hsmall, .inl hlower⟩
      have hsecond : ¬(s.after c = .upper ∧ isUppercase (capitalOf d) = true ∧
          startsSmall more = true) := by
        rintro ⟨hupper, hd', hnext⟩
        exact hp ⟨hd.uppercase_capital.symm.trans hd', .inr ⟨hupper, hnext⟩⟩
      rw [if_neg hp, if_neg hfirst, ih hlater hmore hsecond]
      rfl

end Runs

def AllParted : CaseState → List (List Char) → Prop
  | _, [] => True
  | s, w :: ws => Parted s w ∧ AllParted (caseAfter .unknown w) ws

instance AllParted.decidable :
    (s : CaseState) → (ws : List (List Char)) → Decidable (AllParted s ws)
  | _, [] => .isTrue trivial
  | s, w :: ws =>
    have := AllParted.decidable (caseAfter .unknown w) ws
    inferInstanceAs (Decidable (Parted s w ∧ AllParted (caseAfter .unknown w) ws))

section Regrouping
variable {s : CaseState} {word w : List Char} {ws : List (List Char)}

theorem regroup_of_allParted (h : AllParted s ws) :
    regroup s word ws = word :: ws.map capitalized := by
  induction ws generalizing s word with
  | nil => rfl
  | cons w ws ih => rw [regroup, if_pos h.1, ih h.2, List.map_cons]

theorem length_regroup_le : (regroup s word ws).length ≤ ws.length + 1 := by
  induction ws generalizing s word with
  | nil => simp [regroup]
  | cons w ws ih =>
    rw [regroup]
    split
    · simpa using ih
    · exact Nat.le_succ_of_le ih

/-- Where some words grow together there are fewer words. -/
theorem length_regroup_lt (h : ¬ AllParted s ws) : (regroup s word ws).length < ws.length + 1 := by
  induction ws generalizing s word with
  | nil => exact absurd trivial h
  | cons w ws ih =>
    rw [regroup]
    split
    · next hp => simpa using ih fun hws => h ⟨hp, hws⟩
    · exact Nat.lt_succ_of_le length_regroup_le

theorem regroup_ne_nil : regroup s word ws ≠ [] := by
  induction ws generalizing s word with
  | nil => simp [regroup]
  | cons w ws ih =>
    rw [regroup]
    split
    · exact List.cons_ne_nil _ _
    · exact ih

theorem ne_nil_of_mem_regroup (hword : word ≠ []) (hws : ∀ w ∈ ws, w ≠ []) :
    ∀ p ∈ regroup s word ws, p ≠ [] := by
  induction ws generalizing s word with
  | nil => simpa [regroup] using hword
  | cons w ws ih =>
    obtain ⟨hw, hws⟩ := List.forall_mem_cons.mp hws
    have hcapital : capitalized w ≠ [] := by
      obtain ⟨c, cs, rfl⟩ := List.exists_cons_of_ne_nil hw
      exact List.cons_ne_nil _ _
    rw [regroup]
    split
    · exact List.forall_mem_cons.mpr ⟨hword, ih hcapital hws⟩
    · exact ih (by simp [hword]) hws

theorem flatten_regroup : (regroup s word ws).flatten = word ++ ws.flatMap capitalized := by
  induction ws generalizing s word with
  | nil => simp [regroup]
  | cons w ws ih =>
    rw [regroup]
    split <;> simp [ih]

/-- Whether of two neighbouring words the earlier holds a letter behind its capital or the later
has one right behind its own. -/
def StandApart (w v : List Char) : Prop :=
  w.tail.any isLowercase = true ∨ startsSmall v.tail = true

instance : DecidableRel StandApart := fun _ _ => inferInstanceAs (Decidable (_ ∨ _))

theorem parted_caseAfter_iff {v : List Char} (hw : NameWord w) (h : startsSmall w = true) :
    Parted (caseAfter .unknown w) v ↔ startsSmall v = true ∧ StandApart w v := by
  obtain ⟨c, cs, rfl⟩ := List.exists_cons_of_ne_nil hw.ne_nil
  obtain ⟨hc, hcs⟩ := List.forall_mem_cons.mp hw.chars
  have hupper : CaseState.unknown.after (capitalOf c) = .upper := by
    rw [CaseState.after, hc.lowercase_capital, hc.uppercase_capital]
    exact if_pos h
  rw [Parted, caseAfter, capitalized, List.foldl_cons, hupper, foldl_after hcs, StandApart,
    List.tail_cons]
  cases cs.any isLowercase <;> simp

structure ComesApart (ws : List (List Char)) : Prop where
  letters : ∀ w ∈ ws, startsSmall w = true
  neighbours : ws.IsChain StandApart

instance (ws : List (List Char)) : Decidable (ComesApart ws) :=
  decidable_of_iff ((∀ w ∈ ws, startsSmall w = true) ∧ ws.IsChain StandApart)
    ⟨fun h => ⟨h.1, h.2⟩, fun h => ⟨h.letters, h.neighbours⟩⟩

theorem allParted_cons_iff (hws : ∀ v ∈ w :: ws, NameWord v) (h : startsSmall w = true) :
    AllParted (caseAfter .unknown w) ws ↔ ComesApart (w :: ws) := by
  induction ws generalizing w with
  | nil => exact iff_of_true trivial ⟨by simpa using h, List.isChain_singleton w⟩
  | cons v ws ih =>
    obtain ⟨hw, hws⟩ := List.forall_mem_cons.mp hws
    rw [AllParted, parted_caseAfter_iff hw h]
    constructor
    · rintro ⟨⟨hv, hnext⟩, hrest⟩
      obtain ⟨hletters, hchain⟩ := (ih hws hv).mp hrest
      exact ⟨List.forall_mem_cons.mpr ⟨h, hletters⟩, List.isChain_cons_cons.mpr ⟨hnext, hchain⟩⟩
    · rintro ⟨hletters, hchain⟩
      obtain ⟨-, hletters⟩ := List.forall_mem_cons.mp hletters
      obtain ⟨hnext, hchain⟩ := List.isChain_cons_cons.mp hchain
      have hv := hletters v List.mem_cons_self
      exact ⟨⟨hv, hnext⟩, (ih hws hv).mpr ⟨hletters, hchain⟩⟩

/-- Behind a word that ends in the lower case, words are parted where they come apart. -/
theorem allParted_lower_iff (hws : ∀ v ∈ ws, NameWord v) :
    AllParted .lower ws ↔ ComesApart ws := by
  cases ws with
  | nil => exact iff_of_true trivial ⟨by simp, List.isChain_nil⟩
  | cons w ws =>
    constructor
    · intro ⟨⟨hw, _⟩, hrest⟩
      exact (allParted_cons_iff hws hw).mp hrest
    · intro h
      have hw := h.letters w List.mem_cons_self
      exact ⟨⟨hw, .inl rfl⟩, (allParted_cons_iff hws hw).mpr h⟩

end Regrouping

def snakeWords (name : String) : List (List Char) := splitChars (· == '_') name.toList

/-- A name in snake case: words of small letters and digits joined by single underscores, with a
letter in front. -/
structure SnakeName (name : String) : Prop where
  words : ∀ w ∈ snakeWords name, NameWord w
  letter : startsSmall name.toList = true

instance (name : String) : Decidable (SnakeName name) :=
  decidable_of_iff ((∀ w ∈ snakeWords name, NameWord w) ∧ startsSmall name.toList = true)
    ⟨fun h => ⟨h.1, h.2⟩, fun h => ⟨h.words, h.letter⟩⟩

/-- Words of small letters and digits of ASCII, with a letter in front, make a name in snake
case. -/
theorem SnakeName.of_ascii {name : String}
    (hwords : ∀ w ∈ snakeWords name, w ≠ [] ∧ w.all (fun c => c.isLower || c.isDigit) = true)
    (hletter : name.toList.head?.any Char.isLower = true) : SnakeName name := by
  constructor
  · intro w hw
    obtain ⟨hne, hall⟩ := hwords w hw
    refine ⟨hne, fun c hc => nameChar_of_ascii ?_⟩
    exact Bool.or_eq_true_iff.mp (List.all_eq_true.mp hall c hc)
  · rw [startsSmall]
    cases hname : name.toList with
    | nil => simp [hname] at hletter
    | cons c cs =>
      rw [hname, List.head?_cons, Option.any_some] at hletter
      rw [List.head?_cons, Option.any_some, isLowercase, if_pos (toNat_lt_of_ascii (.inl hletter))]
      exact hletter

theorem NameChar.ne_underscore {c : Char} (h : NameChar c) : (c == '_') = false := by
  rw [beq_eq_false_iff_ne]
  rintro rfl
  exact absurd h.alphanumeric (by decide +kernel)

theorem intercalate_snakeWords (name : String) :
    ['_'].intercalate (snakeWords name) = name.toList :=
  intercalate_splitChars '_' name.toList

theorem SnakeName.exists_words {name : String} (h : SnakeName name) :
    ∃ first rest, snakeWords name = first :: rest ∧ NameWord first ∧
      (∀ w ∈ rest, NameWord w) ∧ startsSmall first = true := by
  obtain ⟨first, rest, hsplit⟩ : ∃ first rest, snakeWords name = first :: rest :=
    List.exists_cons_of_ne_nil (splitChars_ne_nil (· == '_') name.toList)
  have hwords := h.words
  rw [hsplit] at hwords
  obtain ⟨hfirst, hrest⟩ := List.forall_mem_cons.mp hwords
  refine ⟨first, rest, hsplit, hfirst, hrest, ?_⟩
  have hletter := h.letter
  rw [← intercalate_snakeWords, hsplit] at hletter
  obtain ⟨c, cs, rfl⟩ := List.exists_cons_of_ne_nil hfirst.ne_nil
  cases rest <;> simpa [startsSmall] using hletter

inductive CamelChar : Char → Prop where
  | small {c : Char} (h : NameChar c) : CamelChar c
  | capital {c : Char} (h : NameChar c) : CamelChar (capitalOf c)

namespace CamelChar
variable {c : Char}

theorem alphanumeric (h : CamelChar c) : isAlphanumeric c = true := by
  cases h with
  | small h => exact h.alphanumeric
  | capital h => exact h.alphanumeric_capital

theorem ne_sigma (h : CamelChar c) : c ≠ 'Σ' := by
  cases h with
  | small h => exact h.ne_sigma
  | capital h => exact h.notFinal

theorem lower (h : CamelChar c) : ∃ d, lower c = [d] ∧ NameChar d := by
  cases h with
  | small h => exact ⟨c, h.lower_eq, h⟩
  | capital h => exact ⟨_, h.lower_capital, h⟩

end CamelChar

inductive CamelWord : List Char → Prop where
  | small {w : List Char} (h : NameWord w) : CamelWord w
  | capital {w : List Char} (h : NameWord w) : CamelWord (capitalized w)

theorem CamelWord.exists_cons {word : List Char} (h : CamelWord word) :
    ∃ c cs, word = c :: cs ∧ CamelChar c ∧ ∀ d ∈ cs, NameChar d := by
  cases h with
  | small h =>
    obtain ⟨c, cs, rfl⟩ := List.exists_cons_of_ne_nil h.ne_nil
    obtain ⟨hc, hcs⟩ := List.forall_mem_cons.mp h.chars
    exact ⟨c, cs, rfl, .small hc, hcs⟩
  | @capital w h =>
    obtain ⟨c, cs, rfl⟩ := List.exists_cons_of_ne_nil h.ne_nil
    obtain ⟨hc, hcs⟩ := List.forall_mem_cons.mp h.chars
    exact ⟨capitalOf c, cs, rfl, .capital hc, hcs⟩

theorem CamelWord.chars {word : List Char} (h : CamelWord word) : ∀ c ∈ word, CamelChar c := by
  obtain ⟨c, cs, rfl, hc, hcs⟩ := h.exists_cons
  exact List.forall_mem_cons.mpr ⟨hc, fun d hd => .small (hcs d hd)⟩

theorem lowerWord_camel {w : List Char} (hw : ∀ c ∈ w, CamelChar c) :
    lowerWord w = w.flatMap lower :=
  lowerWord_eq_flatMap fun h => (hw _ h).ne_sigma rfl

theorem nameWord_lowerWord {w : List Char} (hne : w ≠ []) (hw : ∀ c ∈ w, CamelChar c) :
    NameWord (lowerWord w) := by
  rw [lowerWord_camel hw]
  constructor
  · obtain ⟨c, cs, rfl⟩ := List.exists_cons_of_ne_nil hne
    obtain ⟨d, hd, -⟩ := (hw c List.mem_cons_self).lower
    simp [hd]
  · intro d hd
    obtain ⟨c, hc, hd⟩ := List.mem_flatMap.mp hd
    obtain ⟨e, he, hsmall⟩ := (hw c hc).lower
    rw [he, List.mem_singleton] at hd
    exact hd ▸ hsmall

theorem cutRun_word {w : List Char} (hw : NameWord w) : cutRun .unknown [] w = [w] := by
  obtain ⟨c, cs, rfl⟩ := List.exists_cons_of_ne_nil hw.ne_nil
  have hcut : cutRun .unknown [] (c :: (cs ++ [].flatMap capitalized)) = _ :=
    cutRun_words (by simp) (List.forall_mem_cons.mp hw.chars).2 (by simp)
  simpa [regroup] using hcut

section Names
variable {word : List Char} {ws : List (List Char)} (hws : ∀ w ∈ ws, NameWord w)
include hws

/-- The words of a name in snake case are what its underscores separate. -/
theorem nameWords_intercalate (hne : ws ≠ []) : nameWords (['_'].intercalate ws) = ws := by
  have hchars : ∀ w ∈ ws, ∀ c ∈ w, (!isAlphanumeric c) = false := by
    intro w hw c hc
    simp [((hws w hw).chars c hc).alphanumeric]
  rw [nameWords, splitChars_intercalate (by decide +kernel) hne hchars,
    List.flatMap_congr fun w hw => cutRun_word (hws w hw), List.flatMap_singleton']

/-- Words joined by underscores are told apart. -/
theorem intercalate_injective {vs : List (List Char)} (hvs : ∀ v ∈ vs, NameWord v) (hne : ws ≠ [])
    (hne' : vs ≠ []) (h : ['_'].intercalate ws = ['_'].intercalate vs) : ws = vs := by
  rw [← nameWords_intercalate hws hne, h, nameWords_intercalate hvs hne']

variable (hword : CamelWord word)
include hword

theorem camelChar_of_mem_append : ∀ c ∈ word ++ ws.flatMap capitalized, CamelChar c := by
  intro c hc
  rcases List.mem_append.mp hc with hc | hc
  · exact hword.chars c hc
  · obtain ⟨w, hw, hc⟩ := List.mem_flatMap.mp hc
    exact (CamelWord.capital (hws w hw)).chars c hc

/-- The words of a name in camel case are those that have grown together. -/
theorem nameWords_append :
    nameWords (word ++ ws.flatMap capitalized) =
      regroup (word.foldl CaseState.after .unknown) word ws := by
  have hchars : ∀ c ∈ word ++ ws.flatMap capitalized, (!isAlphanumeric c) = false := by
    intro c hc
    simp [(camelChar_of_mem_append hws hword c hc).alphanumeric]
  have hsplit := splitChars_eq_singleton hchars
  obtain ⟨c, cs, rfl, -, hcs⟩ := hword.exists_cons
  rw [nameWords, hsplit, List.flatMap_singleton, List.cons_append,
    cutRun_words hws hcs (s := .unknown) (by simp)]
  rfl

variable {s : CaseState}

theorem camelChar_of_mem_regroup : ∀ p ∈ regroup s word ws, ∀ c ∈ p, CamelChar c := by
  intro p hp c hc
  refine camelChar_of_mem_append hws hword c ?_
  rw [← flatten_regroup]
  exact List.mem_flatten.mpr ⟨p, hp, hc⟩

theorem nameWord_of_mem_regroup : ∀ p ∈ (regroup s word ws).map lowerWord, NameWord p := by
  intro p hp
  obtain ⟨q, hq, rfl⟩ := List.mem_map.mp hp
  obtain ⟨c, cs, hcons, -⟩ := hword.exists_cons
  have hne : word ≠ [] := hcons ▸ List.cons_ne_nil c cs
  exact nameWord_lowerWord (ne_nil_of_mem_regroup hne (fun w hw => (hws w hw).ne_nil) q hq)
    (camelChar_of_mem_regroup hws hword q hq)

/-- No letter is lost where words grow together. -/
theorem flatten_map_lowerWord :
    ((regroup s word ws).map lowerWord).flatten = lowerWord word ++ ws.flatten := by
  have hback : (ws.flatMap capitalized).flatMap lower = ws.flatten := by
    rw [List.flatMap_assoc, ← List.flatMap_id]
    refine List.flatMap_congr fun w hw => ?_
    rw [← lowerWord_camel (CamelWord.capital (hws w hw)).chars,
      lowerWord_capitalized (hws w hw).chars, id]
  have hpieces : (regroup s word ws).map lowerWord = (regroup s word ws).map (·.flatMap lower) :=
    List.map_congr_left fun p hp => lowerWord_camel (camelChar_of_mem_regroup hws hword p hp)
  have hwhole : ((regroup s word ws).map (·.flatMap lower)).flatten =
      (regroup s word ws).flatten.flatMap lower := by
    rw [← List.flatMap_def, ← List.flatMap_id, List.flatMap_assoc]
    rfl
  rw [hpieces, hwhole, flatten_regroup, List.flatMap_append, hback, lowerWord_camel hword.chars]

omit hword in
/-- The words come back exactly where all are parted. -/
theorem map_lowerWord_regroup_iff :
    (regroup s word ws).map lowerWord = lowerWord word :: ws ↔ AllParted s ws := by
  constructor
  · intro h
    by_contra hparted
    have hlength := congrArg List.length h
    have hless : (regroup s word ws).length < ws.length + 1 := length_regroup_lt hparted
    rw [List.length_map, List.length_cons] at hlength
    omega
  · intro h
    have hback : ws.map (lowerWord ∘ capitalized) = ws :=
      (List.map_congr_left fun w hw => lowerWord_capitalized (hws w hw).chars).trans
        (List.map_id' ws)
    rw [regroup_of_allParted h, List.map_cons, List.map_map, hback]

omit hword in
/-- In snake case a name in camel case has its words back exactly where they come apart. -/
theorem intercalate_regroup_iff {first : List Char} (hfirst : NameWord first) :
    ['_'].intercalate ((regroup .lower first ws).map lowerWord) = ['_'].intercalate (first :: ws) ↔
      ComesApart ws := by
  have hpieces := nameWord_of_mem_regroup (s := .lower) hws (.small hfirst)
  have hwords : ∀ w ∈ first :: ws, NameWord w := List.forall_mem_cons.mpr ⟨hfirst, hws⟩
  have hne : (regroup .lower first ws).map lowerWord ≠ [] :=
    mt List.map_eq_nil_iff.mp regroup_ne_nil
  have hwhole : (regroup .lower first ws).map lowerWord = lowerWord first :: ws ↔ _ :=
    map_lowerWord_regroup_iff hws
  rw [lowerWord_eq hfirst.chars, allParted_lower_iff hws] at hwhole
  rw [← hwhole]
  exact ⟨intercalate_injective hpieces hwords hne (List.cons_ne_nil first ws), congrArg _⟩

end Names

def upperCamelCase (name : String) : String :=
  String.ofList ((nameWords name.toList).flatMap capitalWord)

section Snake
variable {name : String} (h : ∀ w ∈ snakeWords name, NameWord w)
include h

theorem nameWords_snake : nameWords name.toList = snakeWords name := by
  rw [← intercalate_snakeWords,
    nameWords_intercalate h (splitChars_ne_nil (· == '_') name.toList)]

/-- The camel case of a name joins its words, all but the first with their capital. -/
theorem lowerCamelCase_toList {first : List Char} {rest : List (List Char)}
    (hsplit : snakeWords name = first :: rest) :
    (lowerCamelCase name).toList = first ++ rest.flatMap capitalized := by
  rw [lowerCamelCase, nameWords_snake h, hsplit]
  rw [hsplit] at h
  obtain ⟨hfirst, hrest⟩ := List.forall_mem_cons.mp h
  simp only
  rw [String.toList_ofList, lowerWord_eq hfirst.chars,
    List.flatMap_congr fun w hw => capitalWord_eq (hrest w hw).chars]

theorem upperCamelCase_toList :
    (upperCamelCase name).toList = (snakeWords name).flatMap capitalized := by
  rw [upperCamelCase, String.toList_ofList, nameWords_snake h,
    List.flatMap_congr fun w hw => capitalWord_eq (h w hw).chars]

end Snake

/-- A name in snake case comes back from camel case exactly where its words come apart there. -/
theorem SnakeName.snakeCase_lowerCamelCase_iff {name : String} (h : SnakeName name) :
    snakeCase (lowerCamelCase name) = name ↔ ComesApart (snakeWords name).tail := by
  obtain ⟨first, rest, hsplit, hfirst, hrest, hletter⟩ := h.exists_words
  rw [snakeCase, ← String.toList_inj, String.toList_ofList, lowerCamelCase_toList h.words hsplit,
    nameWords_append hrest (.small hfirst), foldl_after_of_startsSmall hfirst.chars hletter,
    ← intercalate_snakeWords, hsplit, List.tail_cons]
  exact intercalate_regroup_iff hrest hfirst

/-- A name whose words grow together is written otherwise in camel case. -/
theorem SnakeName.lowerCamelCase_ne {name : String} (h : SnakeName name)
    (hgrown : ¬ ComesApart (snakeWords name).tail) : lowerCamelCase name ≠ name := by
  intro hsame
  obtain ⟨first, rest, hsplit, hfirst, hrest, -⟩ := h.exists_words
  have hchars : ∀ c ∈ name.toList, (c == '_') = false := by
    intro c hc
    rw [← hsame, lowerCamelCase_toList h.words hsplit] at hc
    rw [beq_eq_false_iff_ne]
    rintro rfl
    have hcamel := camelChar_of_mem_append hrest (.small hfirst) _ hc
    exact absurd hcamel.alphanumeric (by decide +kernel)
  have hone : snakeWords name = [name.toList] := splitChars_eq_singleton hchars
  rw [hone, List.tail_cons] at hgrown
  exact hgrown (by decide)

end RowSearch.Text
