import FieldOrder.Syntax.Document
import FieldOrder.Proofs.Text.Boundary
import FieldOrder.Proofs.Text.Slice
import Mathlib.Data.List.GetD

namespace FieldOrder.Document
open Text

theorem getD_charTable (i : Nat) (cs : List Char) {p : Nat} (h : p < (encode cs).length) :
    (charTable i cs).getD p 0 = i + charsUpTo cs p := by
  induction cs generalizing i p with
  | nil => simp [encode] at h
  | cons c cs ih =>
    rw [length_encode_cons] at h
    rcases Nat.lt_or_ge p (utf8Width c) with hp | hp
    · rw [charTable, charsUpTo_cons_of_lt hp, List.getD_append _ _ _ _ (by simpa using hp)]
      simp [hp]
    · rw [charTable, charsUpTo_cons_of_le hp, List.getD_append_right _ _ _ _ (by simpa using hp),
        List.length_replicate, ih (i + 1) (by omega)]
      omega

theorem charOfByte_eq (d : Document) (p : Int) : d.charOfByte p = charsUpTo d.chars p.toNat := by
  rw [charOfByte]
  split
  · rw [Int.toNat_of_nonpos ‹_›, charsUpTo_zero]
  · split
    · rw [charsUpTo_of_length_le]
      have : d.bytes.length = (encode d.chars).length := rfl
      omega
    · split
      · next inText bytes =>
        rw [charsUpTo_of_length_eq bytes]
        omega
      · next inText _ =>
        have : d.bytes.length = (encode d.chars).length := rfl
        rw [getD_charTable 0 d.chars (by omega), Nat.zero_add]

theorem length_charTable (i : Nat) (cs : List Char) :
    (charTable i cs).length = (encode cs).length := by
  induction cs generalizing i with
  | nil => rfl
  | cons c cs ih =>
    rw [charTable, List.length_append, List.length_replicate, ih, length_encode_cons]

theorem getElem?_charTable (d : Document) {p : Nat} (h : p < d.bytes.length) :
    (charTable 0 d.chars)[p]? = some (d.charOfByte p) := by
  have size : p < (charTable 0 d.chars).length := by
    rw [length_charTable]
    exact h
  have entry := getD_charTable 0 d.chars h
  rw [List.getD_eq_getElem _ _ size, Nat.zero_add] at entry
  rw [List.getElem?_eq_getElem size, entry, charOfByte_eq, Int.toNat_natCast]

theorem charOfByte_eq_countP (d : Document) (p : Int) :
    d.charOfByte p = (charEnds d.chars).countP fun e : Nat => (e : Int) ≤ p := by
  rw [charOfByte_eq, charsUpTo_eq_countP]
  refine List.countP_congr fun e he => ?_
  have := one_le_of_mem_charEnds he
  simp only [decide_eq_true_eq]
  omega

theorem charOfByte_mono (d : Document) {p q : Int} (h : p ≤ q) :
    d.charOfByte p ≤ d.charOfByte q := by
  rw [charOfByte_eq, charOfByte_eq]
  exact charsUpTo_mono _ (Int.toNat_le_toNat h)

theorem charOfByte_le_length (d : Document) (p : Int) : d.charOfByte p ≤ d.text.length := by
  rw [charOfByte_eq, ← String.length_toList]
  exact charsUpTo_le_length _ _

theorem charOfByte_lt (d : Document) {p q : Nat} (hp : Boundary d.chars p) (h : p < q)
    (hq : Boundary d.chars q) : d.charOfByte p < d.charOfByte q := by
  rw [charOfByte_eq, charOfByte_eq]
  exact hp.charsUpTo_lt h hq

theorem le_of_charOfByte_le (d : Document) {p q : Nat} (hp : Boundary d.chars p)
    (hq : Boundary d.chars q) (h : d.charOfByte p ≤ d.charOfByte q) : p ≤ q := by
  apply Nat.not_lt.mp
  intro behind
  exact absurd h (Nat.not_le.mpr (d.charOfByte_lt hq behind hp))

theorem lt_of_charOfByte_lt (d : Document) {p q : Nat} (h : d.charOfByte p < d.charOfByte q) :
    p < q := by
  apply Nat.not_le.mp
  intro behind
  exact absurd h (Nat.not_lt.mpr (d.charOfByte_mono (Int.ofNat_le.mpr behind)))

/-- Read as bytes or as characters, a node that starts and ends at boundaries has one text. -/
theorem nodeText_eq_slice (d : Document) {n : Node} (start : Boundary d.chars n.start)
    (stop : Boundary d.chars n.stop) (h : n.start ≤ n.stop) :
    d.nodeText n = .ok (slice d.text (d.nodeRange n).1 (d.nodeRange n).2) := by
  have first : (d.nodeRange n).1 = charsUpTo d.chars n.start := d.charOfByte_eq n.start
  have last : (d.nodeRange n).2 = charsUpTo d.chars n.stop := d.charOfByte_eq n.stop
  have bytes : (d.bytes.take n.stop).drop n.start = _ := start.drop_take_encode h stop
  rw [nodeText, bytes, decode_encode, first, last]
  refine congrArg Except.ok ?_
  apply String.toList_injective
  have inText (p : Nat) :
      clip d.text.toList.length (charsUpTo d.chars p) = charsUpTo d.chars p := by
    rw [clip_of_nonneg _ (by omega), Int.toNat_natCast]
    exact Nat.min_eq_left (charsUpTo_le_length d.chars p)
  rw [String.toList_ofList, toList_slice, inText, inText]
  rfl

/-- A node that ends before it starts has no text, either way. -/
theorem nodeText_of_stop_lt (d : Document) {n : Node} (h : n.stop < n.start) :
    d.nodeText n = .ok (slice d.text (d.nodeRange n).1 (d.nodeRange n).2) := by
  have bytes : (d.bytes.take n.stop).drop n.start = [] :=
    List.drop_of_length_le (by rw [List.length_take]; omega)
  have order : (d.nodeRange n).2 ≤ (d.nodeRange n).1 :=
    d.charOfByte_mono (Int.ofNat_le.mpr (Nat.le_of_lt h))
  have clipped := clip_mono d.text.toList.length (Int.natCast_nonneg _) (Int.ofNat_le.mpr order)
  rw [nodeText, bytes, ← show encode [] = [] from rfl, decode_encode]
  refine congrArg Except.ok ?_
  apply String.toList_injective
  rw [String.toList_ofList, toList_slice, Nat.sub_eq_zero_of_le clipped, List.take_zero]

/-- The character position of a byte is the number of characters that end at or before it, so that
bytes and characters give a node the same text. -/
theorem charOfByte_counts (d : Document) :
    (∀ p : Int, (d.charOfByte p = (charEnds d.chars).countP fun e : Nat => (e : Int) ≤ p) ∧
      (p ≤ 0 → d.charOfByte p = 0)) ∧
      (∀ p : Nat, p < d.bytes.length → (charTable 0 d.chars)[p]? = some (d.charOfByte p)) ∧
      (∀ p q : Int, p ≤ q → d.charOfByte p ≤ d.charOfByte q) ∧
      (∀ k ≤ d.chars.length, d.charOfByte (encode (d.chars.take k)).length = k) ∧
      (∀ k < d.chars.length, ∀ p : Nat, (encode (d.chars.take k)).length ≤ p →
        p < (encode (d.chars.take (k + 1))).length → d.charOfByte p = k) ∧
      ∀ n : Node, Boundary d.chars n.start → Boundary d.chars n.stop →
        d.nodeText n = .ok (slice d.text (d.nodeRange n).1 (d.nodeRange n).2) := by
  refine ⟨fun p => ⟨d.charOfByte_eq_countP p, fun h => ?_⟩, fun p => d.getElem?_charTable,
    fun p q => d.charOfByte_mono, fun k hk => ?_, fun k hk p low high => ?_,
    fun n start stop => ?_⟩
  · rw [charOfByte_eq, Int.toNat_of_nonpos h, charsUpTo_zero]
  · rw [charOfByte_eq, Int.toNat_natCast, charsUpTo_length_encode_take d.chars hk]
  · rw [charOfByte_eq, Int.toNat_natCast, charsUpTo_of_inside hk low high]
  · rcases Nat.lt_or_ge n.stop n.start with h | h
    · exact d.nodeText_of_stop_lt h
    · exact d.nodeText_eq_slice start stop h

theorem charOfByte_counts_widths :
    let d : Document := ⟨"aé€😀", none⟩
    let n : Node := .mk ⟨"string_fragment", none, 1, 6, true, false⟩ []
    charEnds d.chars = [1, 3, 6, 10] ∧ d.charOfByte 5 = 2 ∧ d.charOfByte 8 = 3 ∧
      (charTable 0 d.chars)[8]? = some 3 ∧ d.charOfByte 5 ≤ d.charOfByte 8 ∧
      Boundary d.chars n.start ∧ Boundary d.chars n.stop ∧ d.nodeText n = .ok "é€" := by
  intro d n
  obtain ⟨counts, table, mono, -, inside, texts⟩ := d.charOfByte_counts
  have inEuro : d.charOfByte 5 = 2 := inside 2 (by decide) 5 (by decide) (by decide)
  have inFace : d.charOfByte 8 = 3 := inside 3 (by decide) 8 (by decide) (by decide)
  have start : Boundary d.chars n.start := by decide
  have stop : Boundary d.chars n.stop := by decide
  have entry := table 8 (by decide)
  have text := texts n start stop
  have covered : slice d.text (d.nodeRange n).1 (d.nodeRange n).2 = "é€" := by decide +kernel
  rw [covered] at text
  exact ⟨by decide, inEuro, inFace, inFace ▸ entry, mono 5 8 (by decide), start, stop, text⟩

theorem slice_nodeRange_infix (d : Document) {n m : Node} (start : m.start ≤ n.start)
    (h : n.start ≤ n.stop) (stop : n.stop ≤ m.stop) :
    (slice d.text (d.nodeRange n).1 (d.nodeRange n).2).toList <:+:
      (slice d.text (d.nodeRange m).1 (d.nodeRange m).2).toList :=
  slice_infix d.text (Int.natCast_nonneg _)
    (Int.ofNat_le.mpr (d.charOfByte_mono (Int.ofNat_le.mpr start)))
    (Int.ofNat_le.mpr (d.charOfByte_mono (Int.ofNat_le.mpr h)))
    (Int.ofNat_le.mpr (d.charOfByte_mono (Int.ofNat_le.mpr stop)))

/-- Bisection ends at an entry that is small enough if it starts at one. -/
theorem getD_lastAtMost_le (starts : List Nat) (k : Int) (lo hi : Nat)
    (h : (starts.getD lo 0 : Int) ≤ k) : (starts.getD (lastAtMost starts k lo hi) 0 : Int) ≤ k := by
  fun_induction lastAtMost starts k lo hi with
  | case1 lo hi between middle small ih => exact ih small
  | case2 lo hi between middle large ih => exact ih h
  | case3 lo hi done => exact h

theorem one_le_lineColumn (d : Document) {k : Int} (h : 0 ≤ k) :
    1 ≤ (d.lineColumn k).1 ∧ 1 ≤ (d.lineColumn k).2 := by
  have first : (d.lineStarts.getD 0 0 : Int) ≤ k := h
  have start := getD_lastAtMost_le d.lineStarts k 0 (d.lineStarts.length - 1) first
  simp only [lineColumn]
  omega

end FieldOrder.Document
