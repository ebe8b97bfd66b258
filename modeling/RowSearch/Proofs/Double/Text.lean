import Mathlib.Data.List.TakeWhile
import RowSearch.Double.Reading
import RowSearch.Proofs.Double.Shortest

/-! # The text of a double

Whatever the notation, the text of a double writes the number of its digits: the zeros that are
dropped or filled in are made up for by the point and the exponent. So different doubles have
different texts, the zeros of both signs among them.
-/
namespace RowSearch

section Digits
variable {ds fs : List Char}

theorem digitsValue_eq (ds : List Char) : digitsValue ds = Nat.ofDigitChars 10 ds 0 :=
  Nat.ofDigitChars_eq_foldl.symm

theorem digitsValue_append_zeros (ds : List Char) (k : ℕ) :
    digitsValue (ds ++ List.replicate k '0') = 10 ^ k * digitsValue ds := by
  rw [digitsValue_eq, digitsValue_eq, Nat.ofDigitChars_append, Nat.ofDigitChars_replicate_zero]

theorem digitsValue_zeros_append (k : ℕ) (ds : List Char) :
    digitsValue (List.replicate k '0' ++ ds) = digitsValue ds := by
  rw [digitsValue_eq, digitsValue_eq, Nat.ofDigitChars_append, Nat.ofDigitChars_replicate_zero,
    Nat.mul_zero]

theorem digitsValue_toDigits (n : ℕ) : digitsValue (Nat.toDigits 10 n) = n := by
  rw [digitsValue_eq]
  exact Nat.ofDigitChars_ten_toDigits

def isNumeralChar (c : Char) : Bool := c.isDigit || "-+.e".toList.contains c

def AllDigits (cs : List Char) : Prop := ∀ c ∈ cs, c.isDigit = true

theorem AllDigits.append (hds : AllDigits ds) (hfs : AllDigits fs) : AllDigits (ds ++ fs) :=
  List.forall_mem_append.mpr ⟨hds, hfs⟩

theorem AllDigits.take (hds : AllDigits ds) (k : ℕ) : AllDigits (ds.take k) :=
  fun c hc => hds c (List.mem_of_mem_take hc)

theorem AllDigits.drop (hds : AllDigits ds) (k : ℕ) : AllDigits (ds.drop k) :=
  fun c hc => hds c (List.mem_of_mem_drop hc)

theorem AllDigits.isNumeralChar (hds : AllDigits ds) : ∀ c ∈ ds, isNumeralChar c = true := by
  intro c hc
  rw [RowSearch.isNumeralChar, hds c hc, Bool.true_or]

theorem allDigits_zeros (k : ℕ) : AllDigits (List.replicate k '0') := by
  intro c hc
  rw [List.eq_of_mem_replicate hc]
  rfl

theorem allDigits_zero : AllDigits ['0'] := allDigits_zeros 1

theorem allDigits_toDigits (n : ℕ) : AllDigits (Nat.toDigits 10 n) :=
  fun _ => Nat.isDigit_of_mem_toDigits (by decide) (by decide)

end Digits

namespace Double

section Stripped

/-- What is stripped is zeros. -/
theorem exists_stripZeros (ds : List Char) :
    ∃ k, ds = stripZeros ds ++ List.replicate k '0' := by
  refine ⟨(ds.reverse.takeWhile (· == '0')).length, ?_⟩
  have hzeros : ds.reverse.takeWhile (· == '0') =
      List.replicate (ds.reverse.takeWhile (· == '0')).length '0' := by
    rw [List.eq_replicate_iff]
    refine ⟨rfl, ?_⟩
    intro c hc
    have hzero := List.mem_takeWhile_imp (p := (· == '0')) hc
    exact beq_iff_eq.mp hzero
  have hsplit := congrArg List.reverse
    (List.takeWhile_append_dropWhile (p := (· == '0')) (l := ds.reverse))
  rw [List.reverse_append, List.reverse_reverse, hzeros, List.reverse_replicate] at hsplit
  exact hsplit.symm

end Stripped

def decimalOf (cs : List Char) : Decimal :=
  let mantissa := cs.takeWhile (· != 'e')
  let fraction := (mantissa.dropWhile Char.isDigit).drop 1
  ⟨digitsValue (mantissa.takeWhile Char.isDigit ++ fraction),
    (readExponent? (cs.dropWhile (· != 'e'))).getD 0 - fraction.length⟩

section Notations
variable {whole point tail ds : List Char} {e : ℤ}

theorem decimalOf_append (hwhole : AllDigits whole)
    (hpoint : point.takeWhile Char.isDigit = []) (hplain : ∀ c ∈ point, (c != 'e') = true)
    (htail : tail.takeWhile (· != 'e') = []) (he : readExponent? tail = some e) :
    decimalOf (whole ++ point ++ tail) =
      ⟨digitsValue (whole ++ point.drop 1), e - (point.drop 1).length⟩ := by
  have hmantissa : ∀ c ∈ whole ++ point, (c != 'e') = true := by
    intro c hc
    rcases List.mem_append.mp hc with hc | hc
    · rw [bne_iff_ne]
      rintro rfl
      exact absurd (hwhole _ hc) (by decide)
    · exact hplain c hc
  have hrest : tail.dropWhile (· != 'e') = tail := by
    have hsplit := List.takeWhile_append_dropWhile (p := (· != 'e')) (l := tail)
    rw [htail, List.nil_append] at hsplit
    exact hsplit
  have hfraction : point.dropWhile Char.isDigit = point := by
    have hsplit := List.takeWhile_append_dropWhile (p := Char.isDigit) (l := point)
    rw [hpoint, List.nil_append] at hsplit
    exact hsplit
  unfold decimalOf
  dsimp only
  rw [List.takeWhile_append_of_pos hmantissa, List.dropWhile_append_of_pos hmantissa, htail, hrest,
    he, List.append_nil, List.takeWhile_append_of_pos hwhole, List.dropWhile_append_of_pos hwhole,
    hpoint, hfraction, List.append_nil]
  rfl

theorem readExponent?_signed (e : ℤ) :
    readExponent? ('e' :: (if e < 0 then '-' else '+') :: Nat.toDigits 10 e.natAbs) = some e := by
  have hdigits : (Nat.toDigits 10 e.natAbs).all Char.isDigit = true := by
    rw [List.all_eq_true]
    exact allDigits_toDigits _
  have hne : (Nat.toDigits 10 e.natAbs).isEmpty = false :=
    List.isEmpty_eq_false_iff.mpr Nat.toDigits_ne_nil
  by_cases he : e < 0
  · simp [readExponent?, he, hdigits, hne, digitsValue_toDigits, abs_of_neg he]
  · simp [readExponent?, he, hdigits, hne, digitsValue_toDigits, abs_of_nonneg (not_lt.mp he)]

theorem units_eq (d : ℕ) (e : ℤ) : Decimal.units ⟨d, e⟩ = 4 * one * (d * 10 ^ e) := rfl

/-- Zeros behind the digits are made up for by the exponent. -/
theorem units_shift (d k : ℕ) (e : ℤ) :
    Decimal.units ⟨10 ^ k * d, e - k⟩ = Decimal.units ⟨d, e⟩ := by
  have hten : (10 : ℚ) ≠ 0 := by norm_num
  rw [units_eq, units_eq, zpow_sub₀ hten, zpow_natCast, Nat.cast_mul, Nat.cast_pow, Nat.cast_ofNat]
  congr 1
  field_simp

/-- Digits with a fraction, without an exponent. -/
theorem decimalOf_fraction (hwhole : AllDigits whole)
    (hds : AllDigits ds) (htail : tail.takeWhile (· != 'e') = [])
    (he : readExponent? tail = some e) :
    decimalOf (whole ++ '.' :: ds ++ tail) = ⟨digitsValue (whole ++ ds), e - ds.length⟩ := by
  have hplain : ∀ c ∈ '.' :: ds, (c != 'e') = true := by
    intro c hc
    rw [bne_iff_ne]
    rintro rfl
    rcases List.mem_cons.mp hc with hc | hc
    · exact absurd hc (by decide)
    · exact absurd (hds _ hc) (by decide)
  rw [decimalOf_append hwhole rfl hplain htail he]
  rfl

theorem units_small (hds : AllDigits ds) (k : ℕ) :
    (decimalOf (['0', '.'] ++ List.replicate k '0' ++ ds)).units =
      Decimal.units ⟨digitsValue ds, -k - ds.length⟩ := by
  have htext : ['0', '.'] ++ List.replicate k '0' ++ ds =
      ['0'] ++ '.' :: (List.replicate k '0' ++ ds) ++ [] := by simp
  have hzeros : ['0'] ++ (List.replicate k '0' ++ ds) = List.replicate (k + 1) '0' ++ ds := rfl
  rw [htext, decimalOf_fraction (e := 0) allDigits_zero ((allDigits_zeros k).append hds) rfl rfl,
    hzeros, digitsValue_zeros_append, List.length_append, List.length_replicate]
  congr 2
  omega

theorem units_whole (hds : AllDigits ds) (k : ℕ) :
    (decimalOf (ds ++ List.replicate k '0' ++ ['.', '0'])).units =
      Decimal.units ⟨digitsValue ds, k⟩ := by
  have htext : ds ++ List.replicate k '0' ++ ['.', '0'] =
      ds ++ List.replicate k '0' ++ '.' :: ['0'] ++ [] := by simp
  have hzeros : ds ++ List.replicate k '0' ++ ['0'] = ds ++ List.replicate (k + 1) '0' := by
    rw [List.replicate_succ', List.append_assoc]
  have hexponent : 0 - ((['0'] : List Char).length : ℤ) = k - (k + 1 : ℕ) := by
    rw [List.length_singleton]
    omega
  rw [htext, decimalOf_fraction (e := 0) (hds.append (allDigits_zeros k)) allDigits_zero rfl rfl,
    hzeros, digitsValue_append_zeros, hexponent, units_shift]

theorem units_split (hds : AllDigits ds) {k : ℕ} (hk : k ≤ ds.length) :
    (decimalOf (ds.take k ++ '.' :: ds.drop k)).units =
      Decimal.units ⟨digitsValue ds, k - ds.length⟩ := by
  have htext : ds.take k ++ '.' :: ds.drop k = ds.take k ++ '.' :: ds.drop k ++ [] :=
    (List.append_nil _).symm
  rw [htext, decimalOf_fraction (e := 0) (hds.take k) (hds.drop k) rfl rfl,
    List.take_append_drop, List.length_drop]
  congr 2
  omega

theorem units_scientific (hds : AllDigits ds) (hne : ds ≠ []) {point : ℤ}
    (hsmall : ¬ (-5 < point ∧ point ≤ 0)) (hplain : ¬ (0 < point ∧ point ≤ 16)) :
    (decimalOf (layout ds point)).units = Decimal.units ⟨digitsValue ds, point - ds.length⟩ := by
  have hread := readExponent?_signed (point - 1)
  unfold layout
  rw [if_neg hsmall, if_neg hplain]
  dsimp only
  generalize htail : 'e' :: (if point - 1 < 0 then '-' else '+') ::
    Nat.toDigits 10 (point - 1).natAbs = tail at hread ⊢
  have hhead : tail.takeWhile (· != 'e') = [] := by
    rw [← htail]
    rfl
  -- a single digit stands without a point
  obtain ⟨d, rest, rfl⟩ := List.exists_cons_of_ne_nil hne
  have hd : AllDigits [d] := List.forall_mem_singleton.mpr (hds d List.mem_cons_self)
  cases rest with
  | nil =>
    have htext : [d] ++ tail = [d] ++ [] ++ tail := rfl
    show (decimalOf ([d] ++ tail)).units = _
    rw [htext, decimalOf_append hd rfl (fun c hc => absurd hc List.not_mem_nil) hhead hread]
    congr 2
    simp
  | cons f fs =>
    have htext : d :: '.' :: f :: fs ++ tail = [d] ++ '.' :: (f :: fs) ++ tail := rfl
    show (decimalOf (d :: '.' :: f :: fs ++ tail)).units = _
    rw [htext, decimalOf_fraction hd (List.forall_mem_cons.mp hds).2 hhead hread]
    congr 2
    simp only [List.length_cons]
    omega

/-- Every layout writes the digits at the place of their point. -/
theorem units_layout (hds : AllDigits ds) (hne : ds ≠ []) (point : ℤ) :
    (decimalOf (layout ds point)).units = Decimal.units ⟨digitsValue ds, point - ds.length⟩ := by
  by_cases hsmall : -5 < point ∧ point ≤ 0
  · unfold layout
    rw [if_pos hsmall, units_small hds]
    congr 2
    omega
  · by_cases hplain : 0 < point ∧ point ≤ 16
    · unfold layout
      rw [if_neg hsmall, if_pos hplain]
      split
      · rw [units_whole hds]
        congr 2
        omega
      · rw [units_split hds (by omega)]
        congr 2
        omega
    · exact units_scientific hds hne hsmall hplain

theorem layout_chars (hds : AllDigits ds) (point : ℤ) :
    ∀ c ∈ layout ds point, isNumeralChar c = true := by
  have happend {cs fs : List Char} (hcs : ∀ c ∈ cs, isNumeralChar c = true)
      (hfs : ∀ c ∈ fs, isNumeralChar c = true) : ∀ c ∈ cs ++ fs, isNumeralChar c = true :=
    List.forall_mem_append.mpr ⟨hcs, hfs⟩
  have hzeros (k : ℕ) := (allDigits_zeros k).isNumeralChar
  have hpoint : ∀ c ∈ ['.', '0'], isNumeralChar c = true :=
    List.forall_mem_cons.mpr ⟨rfl, List.forall_mem_singleton.mpr rfl⟩
  unfold layout
  split
  · have hbefore : ∀ c ∈ ['0', '.'], isNumeralChar c = true :=
      List.forall_mem_cons.mpr ⟨rfl, List.forall_mem_singleton.mpr rfl⟩
    exact happend (happend hbefore (hzeros _)) hds.isNumeralChar
  · split
    · split
      · exact happend (happend hds.isNumeralChar (hzeros _)) hpoint
      · exact happend (hds.take _).isNumeralChar
          (List.forall_mem_cons.mpr ⟨rfl, (hds.drop _).isNumeralChar⟩)
    · have hexponent : ∀ c ∈ 'e' :: (if point - 1 < 0 then '-' else '+') ::
          Nat.toDigits 10 (point - 1).natAbs, isNumeralChar c = true := by
        refine List.forall_mem_cons.mpr ⟨rfl, List.forall_mem_cons.mpr ⟨?_, ?_⟩⟩
        · split <;> rfl
        · exact (allDigits_toDigits _).isNumeralChar
      refine happend ?_ hexponent
      split
      · obtain ⟨hd, hfs⟩ := List.forall_mem_cons.mp hds.isNumeralChar
        exact List.forall_mem_cons.mpr ⟨hd, List.forall_mem_cons.mpr ⟨rfl, hfs⟩⟩
      · exact hds.isNumeralChar

theorem layout_head (hds : AllDigits ds) (hne : ds ≠ []) (point : ℤ) :
    ∃ c rest, layout ds point = c :: rest ∧ c.isDigit = true := by
  obtain ⟨d, ds, rfl⟩ := List.exists_cons_of_ne_nil hne
  have hd : d.isDigit = true := hds d List.mem_cons_self
  unfold layout
  split
  · exact ⟨'0', _, rfl, rfl⟩
  · split
    · next hplain =>
      split
      · exact ⟨d, _, rfl, hd⟩
      · obtain ⟨k, hk⟩ : ∃ k, point.toNat = k + 1 := ⟨point.toNat - 1, by omega⟩
        rw [hk]
        exact ⟨d, _, rfl, hd⟩
    · cases ds with
      | nil => exact ⟨d, _, rfl, hd⟩
      | cons f fs => exact ⟨d, _, rfl, hd⟩

/-- Doubles do not look like integers. -/
theorem layout_mark (ds : List Char) (point : ℤ) :
    '.' ∈ layout ds point ∨ 'e' ∈ layout ds point := by
  unfold layout
  split
  · left
    simp
  · split
    · left
      split <;> simp
    · right
      simp

end Notations

section Texts
variable {u v : ℕ}

def magnitudeText (units : ℕ) : List Char :=
  if units = 0 then ['0', '.', '0']
  else
    let ds := Nat.toDigits 10 (shortest units).digits
    layout (stripZeros ds) (ds.length + (shortest units).exponent)

theorem toList_text (d : Double) :
    d.text.toList = (if d.negative then ['-'] else []) ++ magnitudeText d.units := by
  unfold text magnitudeText
  dsimp only
  split
  · rw [String.toList_ofList]
  · rw [String.toList_ofList]

theorem units_shortest_pos (hu : OnGrid u) (hpos : 0 < u) : 0 < (shortest u).units := by
  have hlow := ((Interval.holds_iff _ _).mp (holds_shortest hu hpos)).bounds.1
  have hunit : unit u ≤ u := Nat.le_of_dvd hpos hu.grid
  have hcases := unitBelow_cases u
  refine lt_of_lt_of_le ?_ hlow
  rw [interval_eq, Nat.cast_pos]
  show 0 < 4 * u - 2 * unitBelow u
  omega

theorem units_zero (e : ℤ) : Decimal.units ⟨0, e⟩ = 0 := by
  rw [units_eq, Nat.cast_zero, zero_mul, mul_zero]

/-- A positive double has digits. -/
theorem digits_shortest_pos (hu : OnGrid u) (hpos : 0 < u) : 0 < (shortest u).digits := by
  have hunits := units_shortest_pos hu hpos
  generalize shortest u = s at hunits ⊢
  obtain ⟨digits, exponent⟩ := s
  rw [Nat.pos_iff_ne_zero]
  rintro rfl
  rw [units_zero] at hunits
  exact lt_irrefl _ hunits

theorem stripped (n : ℕ) (hn : 0 < n) : ∃ k,
    (Nat.toDigits 10 n).length = (stripZeros (Nat.toDigits 10 n)).length + k ∧
    n = 10 ^ k * digitsValue (stripZeros (Nat.toDigits 10 n)) ∧
    stripZeros (Nat.toDigits 10 n) ≠ [] ∧
    AllDigits (stripZeros (Nat.toDigits 10 n)) := by
  obtain ⟨k, hk⟩ := exists_stripZeros (Nat.toDigits 10 n)
  have hvalue : n = 10 ^ k * digitsValue (stripZeros (Nat.toDigits 10 n)) := by
    rw [← digitsValue_append_zeros, ← hk, digitsValue_toDigits]
  refine ⟨k, ?_, hvalue, ?_, ?_⟩
  · conv_lhs => rw [hk, List.length_append, List.length_replicate]
  · intro hnil
    rw [hnil] at hvalue
    exact absurd hvalue (Nat.ne_of_gt hn)
  · intro c hc
    have hmem : c ∈ Nat.toDigits 10 n := by
      rw [hk]
      exact List.mem_append_left _ hc
    exact allDigits_toDigits n c hmem

/-- The text of a magnitude writes its digits. -/
theorem units_magnitudeText (hu : OnGrid u) (hpos : 0 < u) :
    (decimalOf (magnitudeText u)).units = (shortest u).units := by
  have hdigits := digits_shortest_pos hu hpos
  unfold magnitudeText
  rw [if_neg (Nat.ne_of_gt hpos)]
  dsimp only
  generalize shortest u = s at hdigits ⊢
  obtain ⟨k, hlength, hvalue, hne, hstripped⟩ := stripped s.digits hdigits
  have hexponent : ((Nat.toDigits 10 s.digits).length : ℤ) + s.exponent -
      (stripZeros (Nat.toDigits 10 s.digits)).length - k = s.exponent := by
    rw [hlength]
    omega
  rw [units_layout hstripped hne, ← units_shift _ k, ← hvalue, hexponent]

theorem magnitudeText_inj (hu : OnGrid u) (hv : OnGrid v) (h : magnitudeText u = magnitudeText v) :
    u = v := by
  have hzero {w : ℕ} (hw : OnGrid w) (hpos : 0 < w) (heq : magnitudeText 0 = magnitudeText w) :
      False := by
    have hread : decimalOf (magnitudeText 0) = ⟨0, -1⟩ := by decide
    have hunits := units_magnitudeText hw hpos
    rw [← heq, hread, units_zero] at hunits
    exact absurd hunits (ne_of_lt (units_shortest_pos hw hpos))
  rcases Nat.eq_zero_or_pos u with rfl | hu'
  · rcases Nat.eq_zero_or_pos v with rfl | hv'
    · rfl
    · exact (hzero hv hv' h).elim
  · rcases Nat.eq_zero_or_pos v with rfl | hv'
    · exact (hzero hu hu' h.symm).elim
    · apply shortest_inj hu hv hu' hv'
      rw [← units_magnitudeText hu hu', h, units_magnitudeText hv hv']

theorem magnitudeText_spec (hu : OnGrid u) :
    (∀ c ∈ magnitudeText u, isNumeralChar c = true) ∧
      (∃ c rest, magnitudeText u = c :: rest ∧ c.isDigit = true) ∧
      ('.' ∈ magnitudeText u ∨ 'e' ∈ magnitudeText u) := by
  unfold magnitudeText
  split
  · refine ⟨?_, ⟨'0', _, rfl, rfl⟩, .inl (by simp)⟩
    exact List.forall_mem_cons.mpr ⟨rfl, List.forall_mem_cons.mpr
      ⟨rfl, List.forall_mem_singleton.mpr rfl⟩⟩
  · next hne =>
    obtain ⟨k, _, _, hstripped, hdigits⟩ :=
      stripped _ (digits_shortest_pos hu (Nat.pos_of_ne_zero hne))
    exact ⟨layout_chars hdigits _, layout_head hdigits hstripped _, layout_mark _ _⟩

end Texts

theorem text_spec {d : Double} (hd : OnGrid d.units) :
    (∀ c ∈ d.text.toList, isNumeralChar c = true) ∧
      (∃ c rest, d.text.toList = c :: rest ∧ (c.isDigit || c == '-') = true) ∧
      ('.' ∈ d.text.toList ∨ 'e' ∈ d.text.toList) := by
  obtain ⟨hchars, ⟨c, rest, hc, hdigit⟩, hmark⟩ := magnitudeText_spec hd
  rw [toList_text]
  cases d.negative with
  | false => exact ⟨hchars, ⟨c, rest, hc, by rw [hdigit, Bool.true_or]⟩, hmark⟩
  | true =>
    exact ⟨List.forall_mem_cons.mpr ⟨rfl, hchars⟩, ⟨'-', _, rfl, rfl⟩,
      hmark.imp (List.mem_cons_of_mem _) (List.mem_cons_of_mem _)⟩

/-- Doubles that a document can hold are told apart by their texts. -/
theorem text_inj {d e : Double} (hd : OnGrid d.units) (he : OnGrid e.units)
    (h : d.text = e.text) : d = e := by
  obtain ⟨negative, u⟩ := d
  obtain ⟨negative', v⟩ := e
  have htexts := congrArg String.toList h
  rw [toList_text, toList_text] at htexts
  obtain ⟨_, ⟨c, rest, hc, hdigit⟩, _⟩ := magnitudeText_spec hd
  obtain ⟨_, ⟨c', rest', hc', hdigit'⟩, _⟩ := magnitudeText_spec he
  dsimp only at htexts hc hc' hd he
  have hsign {c : Char} (h : c.isDigit = true) : '-' ≠ c := by
    rintro rfl
    exact absurd h (by decide)
  cases negative <;> cases negative'
  · rw [magnitudeText_inj hd he htexts]
  · rw [hc] at htexts
    exact absurd (List.cons.inj htexts).1.symm (hsign hdigit)
  · rw [hc'] at htexts
    exact absurd (List.cons.inj htexts).1 (hsign hdigit')
  · rw [magnitudeText_inj hd he (List.cons.inj htexts).2]

end Double
end RowSearch
