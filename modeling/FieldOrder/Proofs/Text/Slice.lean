import FieldOrder.Text.Slice

namespace FieldOrder.Text

theorem clip_of_nonneg (size : Nat) {i : Int} (h : 0 ≤ i) : clip size i = min i.toNat size := by
  simp [clip, Int.not_lt.mpr h]

theorem clip_mono (size : Nat) {i j : Int} (hi : 0 ≤ i) (hij : i ≤ j) :
    clip size i ≤ clip size j := by
  rw [clip_of_nonneg size hi, clip_of_nonneg size (by omega)]
  omega

@[simp] theorem toList_sliceTo (s : String) (stop : Int) :
    (sliceTo s stop).toList = s.toList.take (clip s.toList.length stop) := by
  rw [sliceTo, String.toList_ofList, String.length_toList]

@[simp] theorem toList_sliceFrom (s : String) (start : Int) :
    (sliceFrom s start).toList = s.toList.drop (clip s.toList.length start) := by
  rw [sliceFrom, String.toList_ofList, String.length_toList]

variable (s : String) {a b c : Int}

theorem slice_append (ha : 0 ≤ a) (hab : a ≤ b) (hbc : b ≤ c) :
    slice s a b ++ slice s b c = slice s a c := by
  have h := clip_mono s.toList.length ha hab
  have h' := clip_mono s.toList.length (by omega) hbc
  apply String.toList_injective
  rw [String.toList_append, toList_slice, toList_slice, toList_slice,
    show clip s.toList.length c - clip s.toList.length a =
      (clip s.toList.length b - clip s.toList.length a) +
        (clip s.toList.length c - clip s.toList.length b) by omega,
    List.take_add, List.drop_drop, Nat.add_sub_cancel' h]

theorem slice_append_sliceFrom (ha : 0 ≤ a) (hab : a ≤ b) :
    slice s a b ++ sliceFrom s b = sliceFrom s a := by
  have h := clip_mono s.toList.length ha hab
  have parts := List.take_append_drop (clip s.toList.length b - clip s.toList.length a)
    (s.toList.drop (clip s.toList.length a))
  rw [List.drop_drop, Nat.add_sub_cancel' h] at parts
  apply String.toList_injective
  rw [String.toList_append, toList_slice, toList_sliceFrom, toList_sliceFrom]
  exact parts

theorem slice_infix {e : Int} (ha : 0 ≤ a) (hab : a ≤ b) (hbc : b ≤ c) (hce : c ≤ e) :
    (slice s b c).toList <:+: (slice s a e).toList := by
  have whole : slice s a e = slice s a b ++ slice s b c ++ slice s c e := by
    rw [slice_append s ha hab hbc, slice_append s ha (by omega) hce]
  rw [whole, String.toList_append, String.toList_append]
  exact List.infix_append _ _ _

@[simp] theorem slice_self : slice s a a = "" := by
  apply String.toList_injective
  simp

@[simp] theorem slice_zero (stop : Int) : slice s 0 stop = sliceTo s stop := by
  apply String.toList_injective
  simp [clip]

@[simp] theorem sliceFrom_zero : sliceFrom s 0 = s := by
  apply String.toList_injective
  simp [clip]

/-- A text in three parts, the middle one between two positions. -/
theorem sliceTo_append_slice_append_sliceFrom (ha : 0 ≤ a) (hab : a ≤ b) :
    sliceTo s a ++ slice s a b ++ sliceFrom s b = s := by
  rw [← slice_zero, slice_append s (Int.le_refl 0) ha hab,
    slice_append_sliceFrom s (Int.le_refl 0) (Int.le_trans ha hab), sliceFrom_zero]

theorem sliceTo_append (ha : 0 ≤ a) (hab : a ≤ b) (hb : b ≤ s.length) (t : String) :
    sliceTo (sliceTo s b ++ t) a = sliceTo s a := by
  have size : s.toList.length = s.length := String.length_toList
  apply String.toList_injective
  simp only [toList_sliceTo, String.toList_append, clip_of_nonneg _ ha,
    clip_of_nonneg _ (show 0 ≤ b by omega), List.length_append, List.length_take, size]
  rw [List.take_append_of_le_length (by simp; omega), List.take_take]
  congr 1
  omega

theorem sliceFrom_append (hb : 0 ≤ b) (inText : b ≤ s.length) (t : String) :
    sliceFrom (sliceTo s b ++ t) b = t := by
  have size : s.toList.length = s.length := String.length_toList
  apply String.toList_injective
  simp only [toList_sliceFrom, toList_sliceTo, String.toList_append, clip_of_nonneg _ hb,
    List.length_append, List.length_take, size]
  exact List.drop_left' (by simp; omega)

/-- Behind a position, what follows the text up to an earlier one loses its first characters. -/
theorem sliceFrom_append_of_le (ha : 0 ≤ a) (hab : a ≤ b) (inText : a ≤ s.length) (t u : String)
    (ht : b - a ≤ t.length) : sliceFrom (sliceTo s a ++ (t ++ u)) b =
      .ofList (t.toList.drop (b - a).toNat) ++ u := by
  have size : s.toList.length = s.length := String.length_toList
  have sizeT : t.toList.length = t.length := String.length_toList
  have front : (s.toList.take a.toNat).length = a.toNat := by
    rw [List.length_take, size]
    omega
  apply String.toList_injective
  simp only [toList_sliceFrom, toList_sliceTo, String.toList_append, String.toList_ofList,
    clip_of_nonneg _ ha, clip_of_nonneg _ (Int.le_trans ha hab), List.length_append, size,
    Nat.min_eq_left (show a.toNat ≤ s.length by omega), front]
  rw [Nat.min_eq_left (by omega), List.drop_append, front, List.drop_of_length_le (by omega),
    List.nil_append, List.drop_append_of_le_length (by omega),
    show (b - a).toNat = b.toNat - a.toNat by omega]

theorem toList_slice_of_le (ha : 0 ≤ a) (hab : a ≤ b) (hb : b ≤ s.length) :
    (slice s a b).toList = (s.toList.take b.toNat).drop a.toNat := by
  have size : s.toList.length = s.length := String.length_toList
  rw [toList_slice, clip_of_nonneg _ ha, clip_of_nonneg _ (by omega), List.drop_take, size,
    Nat.min_eq_left (by omega), Nat.min_eq_left (by omega)]

theorem infix_intercalate {α : Type} (separator : List α) {xs : List (List α)} {x : List α}
    (h : x ∈ xs) : x <:+: separator.intercalate xs := by
  induction xs with
  | nil => cases h
  | cons y ys ih =>
    cases ys with
    | nil => simp [List.mem_singleton.mp h]
    | cons z zs =>
      rw [List.intercalate_cons_cons]
      rcases List.mem_cons.mp h with rfl | h
      · rw [List.append_assoc]
        exact (List.prefix_append _ _).isInfix
      · exact (ih h).trans (List.suffix_append _ _).isInfix

end FieldOrder.Text
