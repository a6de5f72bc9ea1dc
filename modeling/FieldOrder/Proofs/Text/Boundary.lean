import FieldOrder.Proofs.Text.Utf8

namespace FieldOrder.Text

theorem encode_cons (c : Char) (cs : List Char) : encode (c :: cs) = encodeChar c ++ encode cs :=
  List.flatMap_cons

theorem encode_append (cs ds : List Char) : encode (cs ++ ds) = encode cs ++ encode ds :=
  List.flatMap_append

theorem length_encode_cons (c : Char) (cs : List Char) :
    (encode (c :: cs)).length = utf8Width c + (encode cs).length := by
  rw [encode_cons, List.length_append, length_encodeChar]

/-- How many of the characters end at or before a byte position. -/
def charsUpTo : List Char → Nat → Nat
  | [], _ => 0
  | c :: cs, p => if utf8Width c ≤ p then charsUpTo cs (p - utf8Width c) + 1 else 0

theorem charsUpTo_cons_of_le {c : Char} {p : Nat} (h : utf8Width c ≤ p) (cs : List Char) :
    charsUpTo (c :: cs) p = charsUpTo cs (p - utf8Width c) + 1 := if_pos h

theorem charsUpTo_cons_of_lt {c : Char} {p : Nat} (h : p < utf8Width c) (cs : List Char) :
    charsUpTo (c :: cs) p = 0 := if_neg (Nat.not_le.mpr h)

@[simp] theorem charsUpTo_zero (cs : List Char) : charsUpTo cs 0 = 0 := by
  cases cs with
  | nil => rfl
  | cons c cs => exact charsUpTo_cons_of_lt (one_le_utf8Width c) cs

theorem charsUpTo_mono (cs : List Char) {p q : Nat} (h : p ≤ q) :
    charsUpTo cs p ≤ charsUpTo cs q := by
  induction cs generalizing p q with
  | nil => exact Nat.le_refl 0
  | cons c cs ih =>
    rcases Nat.lt_or_ge p (utf8Width c) with hp | hp
    · rw [charsUpTo_cons_of_lt hp]
      omega
    · rw [charsUpTo_cons_of_le hp, charsUpTo_cons_of_le (Nat.le_trans hp h)]
      exact Nat.succ_le_succ (ih (by omega))

theorem charsUpTo_le_length (cs : List Char) (p : Nat) : charsUpTo cs p ≤ cs.length := by
  induction cs generalizing p with
  | nil => exact Nat.le_refl 0
  | cons c cs ih =>
    rcases Nat.lt_or_ge p (utf8Width c) with hp | hp
    · rw [charsUpTo_cons_of_lt hp]
      exact Nat.zero_le _
    · rw [charsUpTo_cons_of_le hp]
      exact Nat.succ_le_succ (ih _)

theorem charsUpTo_of_length_le (cs : List Char) {p : Nat} (h : (encode cs).length ≤ p) :
    charsUpTo cs p = cs.length := by
  induction cs generalizing p with
  | nil => rfl
  | cons c cs ih =>
    rw [length_encode_cons] at h
    rw [charsUpTo_cons_of_le (by omega), ih (by omega), List.length_cons]

/-- The bytes of the first characters hold just these. -/
theorem charsUpTo_length_encode_take (cs : List Char) {k : Nat} (h : k ≤ cs.length) :
    charsUpTo cs (encode (cs.take k)).length = k := by
  induction cs generalizing k with
  | nil => exact (Nat.le_zero.mp h).symm
  | cons c cs ih =>
    cases k with
    | zero => simp [encode]
    | succ k =>
      rw [List.take_succ_cons, length_encode_cons, charsUpTo_cons_of_le (Nat.le_add_right _ _),
        Nat.add_sub_cancel_left, ih (Nat.le_of_succ_le_succ h)]

theorem length_le_length_encode (cs : List Char) : cs.length ≤ (encode cs).length := by
  induction cs with
  | nil => exact Nat.le_refl 0
  | cons c cs ih =>
    have := one_le_utf8Width c
    rw [length_encode_cons, List.length_cons]
    omega

theorem charsUpTo_of_length_eq {cs : List Char} (h : (encode cs).length = cs.length) (p : Nat) :
    charsUpTo cs p = min p cs.length := by
  induction cs generalizing p with
  | nil => exact (Nat.min_zero p).symm
  | cons c cs ih =>
    have one := one_le_utf8Width c
    have rest := length_le_length_encode cs
    rw [length_encode_cons, List.length_cons] at h
    have width : utf8Width c = 1 := by omega
    cases p with
    | zero => simp
    | succ p =>
      rw [charsUpTo_cons_of_le (by omega), width, Nat.add_sub_cancel, ih (by omega),
        List.length_cons]
      omega

/-- The byte positions at which the characters of a text end. -/
def charEnds (cs : List Char) : List Nat :=
  (List.range cs.length).map fun i => (encode (cs.take (i + 1))).length

theorem charEnds_cons (c : Char) (cs : List Char) :
    charEnds (c :: cs) = utf8Width c :: (charEnds cs).map (utf8Width c + ·) := by
  simp only [charEnds, List.length_cons, List.range_succ_eq_map, List.map_cons, List.map_map,
    List.take_succ_cons]
  refine List.cons_eq_cons.mpr ⟨by simp [encode, length_encodeChar], ?_⟩
  refine List.map_congr_left fun i _ => ?_
  simp [length_encode_cons]

theorem one_le_of_mem_charEnds {cs : List Char} {e : Nat} (h : e ∈ charEnds cs) : 1 ≤ e := by
  obtain ⟨i, hi, rfl⟩ := List.mem_map.mp h
  have chars := length_le_length_encode (cs.take (i + 1))
  rw [List.length_take_of_le (List.mem_range.mp hi)] at chars
  omega

/-- To go on from character to character as long as they end early enough is to count those that
do. -/
theorem charsUpTo_eq_countP (cs : List Char) (p : Nat) :
    charsUpTo cs p = (charEnds cs).countP (· ≤ p) := by
  induction cs generalizing p with
  | nil => rfl
  | cons c cs ih =>
    rw [charEnds_cons, List.countP_cons, List.countP_map]
    rcases Nat.lt_or_ge p (utf8Width c) with hp | hp
    · have late : (charEnds cs).countP ((fun e => decide (e ≤ p)) ∘ (utf8Width c + ·)) = 0 :=
        List.countP_eq_zero.mpr fun e _ => by simp; omega
      rw [charsUpTo_cons_of_lt hp, late]
      simp [hp]
    · have shifted : (fun e => decide (e ≤ p)) ∘ (utf8Width c + ·) =
          fun e => decide (e ≤ p - utf8Width c) := by
        funext e
        simp only [Function.comp_apply, decide_eq_decide]
        omega
      rw [charsUpTo_cons_of_le hp, ih, shifted]
      simp [hp]

theorem charsUpTo_of_inside {cs : List Char} {k p : Nat} (hk : k < cs.length)
    (low : (encode (cs.take k)).length ≤ p) (high : p < (encode (cs.take (k + 1))).length) :
    charsUpTo cs p = k := by
  induction cs generalizing k p with
  | nil => simp at hk
  | cons c cs ih =>
    rw [List.take_succ_cons, length_encode_cons] at high
    cases k with
    | zero =>
      simp [encode] at high
      exact charsUpTo_cons_of_lt high cs
    | succ k =>
      rw [List.take_succ_cons, length_encode_cons] at low
      rw [charsUpTo_cons_of_le (by omega), ih (Nat.lt_of_succ_lt_succ hk) (by omega) (by omega)]

/-- A byte position at which no character is cut in two. -/
def Boundary (cs : List Char) (p : Nat) : Prop := ∃ k ≤ cs.length, p = (encode (cs.take k)).length

instance (cs : List Char) (p : Nat) : Decidable (Boundary cs p) :=
  inferInstanceAs (Decidable (∃ k, k ≤ cs.length ∧ p = (encode (cs.take k)).length))

namespace Boundary
variable {cs : List Char} {p q : Nat}

theorem eq_length_encode (h : Boundary cs p) :
    p = (encode (cs.take (charsUpTo cs p))).length := by
  obtain ⟨k, hk, rfl⟩ := h
  rw [charsUpTo_length_encode_take cs hk]

theorem charsUpTo_lt (hp : Boundary cs p) (h : p < q) (hq : Boundary cs q) :
    charsUpTo cs p < charsUpTo cs q := by
  have le := charsUpTo_mono cs (Nat.le_of_lt h)
  have ne : charsUpTo cs p ≠ charsUpTo cs q := by
    intro eq
    have := hp.eq_length_encode.trans (eq ▸ hq.eq_length_encode.symm)
    omega
  omega

theorem drop_take_encode (hp : Boundary cs p) (h : p ≤ q) (hq : Boundary cs q) :
    ((encode cs).take q).drop p =
      encode ((cs.drop (charsUpTo cs p)).take (charsUpTo cs q - charsUpTo cs p)) := by
  have front := hp.eq_length_encode
  have back := hq.eq_length_encode
  have le := charsUpTo_mono cs h
  generalize charsUpTo cs p = k at *
  generalize charsUpTo cs q = l at *
  have upTo : (encode cs).take q = encode (cs.take l) := by
    conv => lhs; rw [← List.take_append_drop l cs, encode_append]
    exact List.take_left' back.symm
  have parts : cs.take l = cs.take k ++ (cs.drop k).take (l - k) := by
    rw [← List.take_add, Nat.add_sub_cancel' le]
  rw [upTo, parts, encode_append]
  exact List.drop_left' front.symm

end Boundary

end FieldOrder.Text
