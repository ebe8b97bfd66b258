import RowSearch.Search.Page

/-! # Windows without words

The offset of a page and the end of a page are words cut to the largest. As long as there are
fewer rows than a word counts, the cut goes unseen: the window of a page shows the rows that exact
numbers give, and tells rightly whether more follow. A probe for one row more tells the same.
-/
namespace RowSearch
variable {α : Type}

/-- The rows at the positions of a page, by its number, from one on, and its size. -/
def pageRows (rows : List α) (number size : Nat) : List α :=
  (rows.drop ((number - 1) * size)).take size

theorem length_pageRows (rows : List α) (number size : Nat) :
    (pageRows rows number size).length = min size (rows.length - (number - 1) * size) := by
  rw [pageRows, List.length_take, List.length_drop]

theorem toNat_saturate (n : Nat) : (saturate n).toNat = min n maxCount := by
  have hlt : min n maxCount < UInt64.size := by
    have hmax : maxCount < UInt64.size := by decide
    omega
  exact UInt64.toNat_ofNat_of_lt' hlt

theorem toNat_le_maxCount (n : UInt64) : n.toNat ≤ maxCount := Nat.le_pred_of_lt n.toNat_lt

theorem toNat_pos {n : UInt64} (h : n ≠ 0) : 0 < n.toNat :=
  Nat.pos_of_ne_zero fun hz => h (UInt64.toNat_inj.mp hz)

namespace PageWindow
variable (w : PageWindow)

theorem toNat_page_of (page size : UInt64) : (of page size).page.toNat = max page.toNat 1 := by
  rw [of]
  by_cases h : page = 0
  · rw [if_pos h, h]
    rfl
  · rw [if_neg h]
    exact (Nat.max_eq_left (toNat_pos h)).symm

theorem drop_offset {rows : List α} (h : rows.length < UInt64.size) :
    rows.drop w.offset.toNat = rows.drop ((w.page.toNat - 1) * w.size.toNat) := by
  have hmax : maxCount + 1 = UInt64.size := by decide
  rw [offset, toNat_saturate]
  by_cases hle : (w.page.toNat - 1) * w.size.toNat ≤ maxCount
  · rw [Nat.min_eq_left hle]
  · rw [List.drop_eq_nil_of_le (by omega), List.drop_eq_nil_of_le (by omega)]

variable {w} (hw : 1 ≤ w.page.toNat)
include hw

theorem end_eq : (w.page.toNat - 1) * w.size.toNat + w.size.toNat =
    w.page.toNat * w.size.toNat := by
  obtain ⟨n, hn⟩ := Nat.exists_eq_add_of_le' hw
  rw [hn, Nat.add_sub_cancel, Nat.succ_mul]

theorem hasMore_eq (total : UInt64) :
    w.hasMore total = decide (w.page.toNat * w.size.toNat < total.toNat) := by
  have htotal := toNat_le_maxCount total
  rw [hasMore, offset, decide_eq_decide, UInt64.lt_iff_toNat_lt, toNat_saturate, toNat_saturate,
    ← end_eq hw]
  omega

/-- A probe for one row more than a page shows finds one when more rows follow the page. -/
theorem probe_eq {rows : List α} (h : rows.length < UInt64.size) :
    decide (w.size.toNat < ((rows.drop w.offset.toNat).take
        (saturate (w.size.toNat + 1)).toNat).length) =
      decide (w.page.toNat * w.size.toNat < rows.length) := by
  have hsize := toNat_le_maxCount w.size
  have hmax : maxCount + 1 = UInt64.size := by decide
  rw [drop_offset w h, decide_eq_decide, List.length_take, List.length_drop, toNat_saturate,
    ← end_eq hw]
  omega

omit hw in
theorem take_probe {rows : List α} (h : rows.length < UInt64.size) :
    ((rows.drop w.offset.toNat).take (saturate (w.size.toNat + 1)).toNat).take w.size.toNat =
      pageRows rows w.page.toNat w.size.toNat := by
  have hsize := toNat_le_maxCount w.size
  have hle : w.size.toNat ≤ (saturate (w.size.toNat + 1)).toNat := by
    rw [toNat_saturate]
    omega
  rw [List.take_take, Nat.min_eq_left hle, drop_offset w h, pageRows]

end PageWindow

/-- The number of pages that rows make: one at least, and no page is begun that stays empty. -/
def pageCount (n size : Nat) : Nat := max 1 ((n + size - 1) / size)

theorem one_le_pageCount (n size : Nat) : 1 ≤ pageCount n size := Nat.le_max_left _ _

/-- A page is not the last one when rows follow it. -/
theorem lt_pageCount_iff {n size k : Nat} (hs : 0 < size) (hk : 1 ≤ k) :
    k < pageCount n size ↔ k * size < n := by
  have hdiv : k < (n + size - 1) / size ↔ k * size < n := by
    rw [← Nat.succ_le_iff, Nat.le_div_iff_mul_le hs, Nat.succ_mul]
    omega
  rw [pageCount, ← hdiv]
  omega

theorem le_pageCount_mul {n size : Nat} (hs : 0 < size) : n ≤ pageCount n size * size := by
  have hlast := lt_pageCount_iff (n := n) hs (one_le_pageCount n size)
  omega

theorem pageCount_lt {n size bound : Nat} (hs : 0 < size) (hn : n < bound) (hb : 1 < bound) :
    pageCount n size < bound := by
  have hle : (n + size - 1) / size ≤ n := by
    rw [Nat.div_le_iff_le_mul_add_pred hs]
    have hmul : n * 1 ≤ n * size := Nat.mul_le_mul_left n hs
    have hcomm := Nat.mul_comm size n
    omega
  rw [pageCount]
  omega

theorem length_pageRows_of_lt {rows : List α} {number size : Nat} (hs : 0 < size)
    (hn : 1 ≤ number) (h : number < pageCount rows.length size) :
    (pageRows rows number size).length = size := by
  have hmore := (lt_pageCount_iff hs hn).mp h
  obtain ⟨n, rfl⟩ := Nat.exists_eq_add_of_le' hn
  rw [length_pageRows, Nat.add_sub_cancel]
  rw [Nat.succ_mul] at hmore
  omega

/-- The first pages together are the first rows. -/
theorem flatMap_pageRows (rows : List α) (size m : Nat) :
    (List.range' 1 m).flatMap (pageRows rows · size) = rows.take (m * size) := by
  induction m with
  | zero => simp
  | succ m ih =>
    rw [List.range'_1_concat, List.flatMap_append, ih, List.flatMap_singleton, pageRows,
      Nat.add_sub_cancel_left, Nat.succ_mul, List.take_add]

/-- All pages together are all rows, each once and in order. -/
theorem flatMap_pageRows_pageCount (rows : List α) {size : Nat} (hs : 0 < size) :
    (List.range' 1 (pageCount rows.length size)).flatMap (pageRows rows · size) = rows := by
  rw [flatMap_pageRows, List.take_of_length_le (le_pageCount_mul hs)]

end RowSearch
