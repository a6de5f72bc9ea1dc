import FieldOrder.Proofs.Syntax.Position
import Mathlib.Algebra.Group.Nat.Defs
import Mathlib.Data.List.DropRight
import Mathlib.Data.Nat.Size
import Mathlib.Data.Prod.Lex
import Mathlib.Logic.Function.Iterate

namespace FieldOrder.Document

theorem lineStarts_pairwise (d : Document) : d.lineStarts.Pairwise (· < ·) := by
  have indices : d.chars.zipIdx.Pairwise fun a b => a.2 < b.2 := by
    apply List.pairwise_map.mp
    rw [List.zipIdx_map_snd]
    exact List.pairwise_lt_range'
  rw [lineStarts]
  refine .cons ?_ (List.pairwise_map.mpr ((indices.filter _).imp Nat.succ_lt_succ))
  intro start h
  obtain ⟨c, -, rfl⟩ := List.mem_map.mp h
  exact Nat.succ_pos _

theorem lastAtMost_le (starts : List Nat) (k : Int) {lo hi : Nat} (h : lo ≤ hi) :
    lastAtMost starts k lo hi ≤ hi := by
  fun_induction lastAtMost starts k lo hi with
  | case1 lo hi between middle small ih => exact ih (by omega)
  | case2 lo hi between middle large ih =>
    have := ih (by omega)
    omega
  | case3 lo hi done => exact h

/-- Bisection of ascending entries passes over none that is small enough. -/
theorem lt_getD_of_lastAtMost_lt {starts : List Nat} (ascending : starts.Pairwise (· < ·)) (k : Int)
    {lo hi : Nat} (inList : hi < starts.length) {i : Nat} (behind : lastAtMost starts k lo hi < i)
    (h : i ≤ hi) : k < starts.getD i 0 := by
  fun_induction lastAtMost starts k lo hi with
  | case1 lo hi between middle small ih => exact ih inList behind h
  | case2 lo hi between middle large ih =>
    by_cases low : i ≤ middle - 1
    · exact ih (by omega) behind low
    · -- The entry is the middle one, which is too large, or lies behind that.
      have least : starts.getD middle 0 ≤ starts.getD i 0 := by
        rcases Nat.eq_or_lt_of_le (show middle ≤ i by omega) with rfl | above
        · exact Nat.le_refl _
        · rw [List.getD_eq_getElem _ _ (by omega), List.getD_eq_getElem _ _ (by omega)]
          exact Nat.le_of_lt (List.pairwise_iff_getElem.mp ascending _ _ _ _ above)
      omega
  | case3 lo hi done => omega

/-- The line of a position starts at or before it, and all lines below start behind it. -/
theorem exists_line (d : Document) {k : Int} (h : 0 ≤ k) : ∃ i < d.lineStarts.length,
    d.lineColumn k = ((i : Int) + 1, k - d.lineStarts.getD i 0 + 1) ∧
      (d.lineStarts.getD i 0 : Int) ≤ k ∧
      ∀ j, i < j → j < d.lineStarts.length → k < d.lineStarts.getD j 0 := by
  have nonempty : 0 < d.lineStarts.length := by simp [lineStarts]
  have within := lastAtMost_le d.lineStarts k (Nat.zero_le (d.lineStarts.length - 1))
  refine ⟨_, Nat.lt_of_le_of_lt within (by omega), rfl, ?_, ?_⟩
  · exact getD_lastAtMost_le d.lineStarts k 0 _ h
  · intro j behind hj
    exact lt_getD_of_lastAtMost_lt d.lineStarts_pairwise k (by omega) behind (by omega)

/-- Positions compare as their lines do, and within a line as their columns do. -/
theorem compare_lineColumn (d : Document) {k l : Int} (hk : 0 ≤ k) (hl : 0 ≤ l) :
    (compare (d.lineColumn k).1 (d.lineColumn l).1).then
      (compare (d.lineColumn k).2 (d.lineColumn l).2) = compare k l := by
  obtain ⟨i, hi, lineK, startK, belowK⟩ := d.exists_line hk
  obtain ⟨j, hj, lineL, startL, belowL⟩ := d.exists_line hl
  rw [lineK, lineL]
  rcases Nat.lt_trichotomy i j with above | rfl | below
  · have before : k < l := Int.lt_of_lt_of_le (belowK j above hj) startL
    have line : (i : Int) + 1 < (j : Int) + 1 := by omega
    rw [Int.compare_eq_lt.mpr line, Int.compare_eq_lt.mpr before]
    rfl
  · have lt : k - d.lineStarts.getD i 0 + 1 < l - d.lineStarts.getD i 0 + 1 ↔ k < l := by omega
    have eq : k - d.lineStarts.getD i 0 + 1 = l - d.lineStarts.getD i 0 + 1 ↔ k = l := by omega
    rw [Std.compare_self]
    simp only [Ordering.then, compare, compareOfLessAndEq, lt, eq]
  · have behind : l < k := Int.lt_of_lt_of_le (belowL i below hi) startK
    have line : (j : Int) + 1 < (i : Int) + 1 := by omega
    rw [Int.compare_eq_gt.mpr line, Int.compare_eq_gt.mpr behind]
    rfl

theorem lineColumn_lt_iff (d : Document) (k l : Nat) :
    toLex (d.lineColumn k) < toLex (d.lineColumn l) ↔ k < l := by
  have positions := d.compare_lineColumn (Int.natCast_nonneg k) (Int.natCast_nonneg l)
  rw [Prod.Lex.toLex_lt_toLex, ← Int.compare_eq_lt, ← Int.compare_eq_eq, ← Int.compare_eq_lt,
    ← Ordering.then_eq_lt, positions, Int.compare_eq_lt, Int.ofNat_lt]

theorem lineColumn_injective (d : Document) {k l : Nat} (same : d.lineColumn k = d.lineColumn l) :
    k = l := by
  have positions := d.compare_lineColumn (Int.natCast_nonneg k) (Int.natCast_nonneg l)
  rw [same, Std.compare_self, Std.compare_self] at positions
  exact Int.ofNat_inj.mp (Int.compare_eq_eq.mp positions.symm)

section
variable (starts : List Nat) (k : Int)

/-- One round of bisection, given the bounds before it. -/
def narrowed : Nat × Nat → Nat × Nat
  | (lo, hi) =>
    if lo < hi then
      if (starts.getD ((lo + hi + 1) / 2) 0 : Int) ≤ k then ((lo + hi + 1) / 2, hi)
      else (lo, (lo + hi + 1) / 2 - 1)
    else (lo, hi)

/-- A round keeps what the bisection will find. -/
theorem lastAtMost_narrowed (b : Nat × Nat) :
    lastAtMost starts k (narrowed starts k b).1 (narrowed starts k b).2 =
      lastAtMost starts k b.1 b.2 := by
  obtain ⟨lo, hi⟩ := b
  by_cases between : lo < hi
  · rw [lastAtMost.eq_def starts k lo hi]
    by_cases small : (starts.getD ((lo + hi + 1) / 2) 0 : Int) ≤ k <;>
      simp only [narrowed, between, small, if_true, if_false]
  · simp only [narrowed, between, if_false]

theorem narrowed_within {b : Nat × Nat} (h : b.1 ≤ b.2) :
    (narrowed starts k b).1 ≤ (narrowed starts k b).2 ∧ (narrowed starts k b).2 ≤ b.2 ∧
      2 * ((narrowed starts k b).2 - (narrowed starts k b).1) ≤ b.2 - b.1 := by
  obtain ⟨lo, hi⟩ := b
  simp only [narrowed]
  split
  · split <;> dsimp at h ⊢ <;> omega
  · dsimp at h ⊢
    omega

theorem iterate_narrowed (n : Nat) {b : Nat × Nat} (h : b.1 ≤ b.2) :
    let c := (narrowed starts k)^[n] b
    c.1 ≤ c.2 ∧ c.2 ≤ b.2 ∧ 2 ^ n * (c.2 - c.1) ≤ b.2 - b.1 ∧
      lastAtMost starts k c.1 c.2 = lastAtMost starts k b.1 b.2 := by
  induction n with
  | zero => simpa using h
  | succ n ih =>
    obtain ⟨ordered, below, halved, found⟩ := ih
    rw [Function.iterate_succ_apply']
    obtain ⟨ordered', below', halved'⟩ := narrowed_within starts k ordered
    refine ⟨ordered', Nat.le_trans below' below, ?_, ?_⟩
    · rw [Nat.pow_succ, Nat.mul_assoc]
      exact Nat.le_trans (Nat.mul_le_mul_left _ halved') halved
    · rw [lastAtMost_narrowed, found]

/-- After as many rounds as their distance has binary digits the bounds have met, where the
bisection ends. -/
theorem iterate_narrowed_size {b : Nat × Nat} (h : b.1 ≤ b.2) :
    (narrowed starts k)^[(b.2 - b.1).size] b =
      (lastAtMost starts k b.1 b.2, lastAtMost starts k b.1 b.2) := by
  obtain ⟨ordered, -, halved, found⟩ := iterate_narrowed starts k (b.2 - b.1).size h
  generalize (narrowed starts k)^[(b.2 - b.1).size] b = c at *
  have short : b.2 - b.1 < 2 ^ (b.2 - b.1).size := Nat.lt_size_self _
  have met : c.2 - c.1 = 0 := by
    by_contra apart
    have := Nat.le_mul_of_pos_right (2 ^ (b.2 - b.1).size) (Nat.pos_of_ne_zero apart)
    omega
  have same : c.1 = c.2 := by omega
  rw [lastAtMost, if_neg (by omega)] at found
  exact Prod.ext found (same ▸ found)

end

/-- The positions behind the newlines of characters, the first of which is at a given position. -/
def newlineEnds (i : Nat) (cs : List Char) : List Nat :=
  ((cs.zipIdx i).filter (·.1 == '\n')).map (·.2 + 1)

theorem newlineEnds_append (i : Nat) (cs ds : List Char) :
    newlineEnds i (cs ++ ds) = newlineEnds i cs ++ newlineEnds (i + cs.length) ds := by
  simp only [newlineEnds, List.zipIdx_append, List.filter_append, List.map_append]

theorem length_newlineEnds (i : Nat) (cs : List Char) :
    (newlineEnds i cs).length = cs.count '\n' := by
  induction cs generalizing i with
  | nil => rfl
  | cons c cs ih =>
    have first : newlineEnds i [c] = if c = '\n' then [i + 1] else [] := by
      by_cases h : c = '\n' <;> simp [newlineEnds, h]
    rw [← List.singleton_append, newlineEnds_append, List.length_append, List.count_append, ih,
      first]
    by_cases h : c = '\n' <;> simp [h]

theorem within_of_mem_newlineEnds {i e : Nat} {cs : List Char} (h : e ∈ newlineEnds i cs) :
    i < e ∧ e ≤ i + cs.length := by
  obtain ⟨⟨c, j⟩, mem, rfl⟩ := List.mem_map.mp h
  obtain ⟨low, high, -⟩ := List.mem_zipIdx (List.mem_of_mem_filter mem)
  exact ⟨Nat.lt_succ_of_le low, high⟩

/-- The last line starts behind the last newline. -/
theorem getLast?_newlineEnds (cs : List Char) :
    (0 :: newlineEnds 0 cs).getLast? = some (cs.rdropWhile (· != '\n')).length := by
  induction cs using List.reverseRecOn with
  | nil => rfl
  | append_singleton cs c ih =>
    rw [newlineEnds_append, Nat.zero_add]
    by_cases h : c = '\n'
    · subst h
      rw [List.rdropWhile_concat_neg _ _ _ (by simp), List.length_append, ← List.cons_append]
      exact List.getLast?_concat
    · have none : newlineEnds cs.length [c] = [] := by simp [newlineEnds, h]
      rw [List.rdropWhile_concat_pos _ _ _ (by simpa using h), none, List.append_nil, ih]

theorem lineStarts_eq_append (d : Document) {k : Nat} (inText : k ≤ d.chars.length) :
    d.lineStarts = (0 :: newlineEnds 0 (d.chars.take k)) ++ newlineEnds k (d.chars.drop k) := by
  have whole : d.lineStarts = 0 :: newlineEnds 0 d.chars := rfl
  have size : (d.chars.take k).length = k := List.length_take_of_le inText
  rw [whole, List.cons_append]
  conv => lhs; rw [← List.take_append_drop k d.chars, newlineEnds_append, size, Nat.zero_add]

theorem eq_count_of_line (d : Document) {i k : Nat} (inText : k ≤ d.chars.length)
    (hi : i < d.lineStarts.length) (start : d.lineStarts.getD i 0 ≤ k)
    (below : ∀ j, i < j → j < d.lineStarts.length → k < d.lineStarts.getD j 0) :
    i = (d.chars.take k).count '\n' := by
  have parts := d.lineStarts_eq_append inText
  have lines : (0 :: newlineEnds 0 (d.chars.take k)).length = (d.chars.take k).count '\n' + 1 :=
    congrArg (· + 1) (length_newlineEnds 0 _)
  have first : ∀ e ∈ 0 :: newlineEnds 0 (d.chars.take k), e ≤ k := by
    refine List.forall_mem_cons.mpr ⟨Nat.zero_le k, fun e he => ?_⟩
    have within := within_of_mem_newlineEnds he
    rw [List.length_take_of_le inText] at within
    omega
  have later : ∀ e ∈ newlineEnds k (d.chars.drop k), k < e :=
    fun e he => (within_of_mem_newlineEnds he).1
  generalize 0 :: newlineEnds 0 (d.chars.take k) = upTo at *
  generalize newlineEnds k (d.chars.drop k) = behind at *
  rw [parts, List.length_append] at hi below
  rw [parts] at start
  -- The line after a smaller one would start behind the position, and a greater one does.
  rcases Nat.lt_trichotomy i ((d.chars.take k).count '\n') with above | same | beyond
  · have inUpTo : (d.chars.take k).count '\n' < upTo.length := by omega
    have small := first _ (List.getElem_mem inUpTo)
    have large := below _ above (by omega)
    rw [List.getD_append _ _ _ _ (by omega), List.getD_eq_getElem _ _ (by omega)] at large
    omega
  · exact same
  · have large := later _ (List.getElem_mem (show i - upTo.length < behind.length by omega))
    rw [List.getD_append_right _ _ _ _ (by omega), List.getD_eq_getElem _ _ (by omega)] at start
    omega

/-- A position lies behind as many newlines as its line has before it, and as far behind the last of
these as its column says. -/
theorem lineColumn_eq (d : Document) {k : Nat} (inText : k ≤ d.chars.length) :
    d.lineColumn k = (((d.chars.take k).count '\n' : Int) + 1,
      (((d.chars.take k).rtakeWhile (· != '\n')).length : Int) + 1) := by
  obtain ⟨i, hi, place, start, below⟩ := d.exists_line (Int.natCast_nonneg k)
  obtain rfl := d.eq_count_of_line inText hi (Int.ofNat_le.mp start)
    fun j hij hj => Int.ofNat_lt.mp (below j hij hj)
  have lines := length_newlineEnds 0 (d.chars.take k)
  have lineStart : d.lineStarts.getD ((d.chars.take k).count '\n') 0 =
      ((d.chars.take k).rdropWhile (· != '\n')).length := by
    have last := getLast?_newlineEnds (d.chars.take k)
    rw [List.getLast?_eq_getElem?, List.length_cons, lines, Nat.add_sub_cancel] at last
    rw [d.lineStarts_eq_append inText, List.getD_append _ _ _ _ (by simp [lines]),
      List.getD_eq_getElem?_getD, last, Option.getD_some]
  have whole := congrArg List.length
    (List.rdropWhile_append_rtakeWhile (p := (· != '\n')) (l := d.chars.take k))
  rw [List.length_append, List.length_take_of_le inText] at whole
  rw [place, lineStart]
  refine Prod.ext rfl ?_
  dsimp only
  omega

/-- A position of a text is found in few rounds, none of which looks beyond the starts of lines. Its
line and column are those that counting newlines, and characters behind the last of them, gives; and
they are in the order of positions. -/
theorem lineColumn_locates (d : Document) (k : Nat) (inText : k ≤ d.chars.length) :
    let line := (d.chars.take k).count '\n'
    let last := d.lineStarts.length - 1
    (∀ rounds, let bounds := (narrowed d.lineStarts k)^[rounds] (0, last)
      bounds.1 ≤ bounds.2 ∧ bounds.2 < d.lineStarts.length) ∧
      (narrowed d.lineStarts k)^[last.size] (0, last) = (line, line) ∧
      d.lineColumn k = ((line : Int) + 1,
        (((d.chars.take k).rtakeWhile (· != '\n')).length : Int) + 1) ∧
      1 ≤ (d.lineColumn k).1 ∧ 1 ≤ (d.lineColumn k).2 ∧
      ∀ l : Nat, (d.lineColumn k = d.lineColumn l → k = l) ∧
        (toLex (d.lineColumn k) < toLex (d.lineColumn l) ↔ k < l) := by
  intro line last
  have nonempty : 0 < d.lineStarts.length := by simp [lineStarts]
  have start : (0, last).1 ≤ (0, last).2 := Nat.zero_le last
  have place := d.lineColumn_eq inText
  obtain ⟨one, one'⟩ := d.one_le_lineColumn (Int.natCast_nonneg k)
  refine ⟨fun rounds => ?_, ?_, place, one, one',
    fun l => ⟨d.lineColumn_injective, d.lineColumn_lt_iff k l⟩⟩
  · obtain ⟨ordered, below, -⟩ := iterate_narrowed d.lineStarts k rounds start
    exact ⟨ordered, by omega⟩
  · have found : (lastAtMost d.lineStarts k 0 last : Int) + 1 = line + 1 := congrArg Prod.fst place
    have met := iterate_narrowed_size d.lineStarts k start
    simp only [show lastAtMost d.lineStarts k 0 last = line by omega] at met
    exact met

theorem lineColumn_locates_trailing :
    let d : Document := ⟨"a\n\nbc\n", none⟩
    6 ≤ d.chars.length ∧ d.lineStarts = [0, 2, 3, 6] ∧
      (narrowed [0, 2, 3, 6] 6)^[2] (0, 3) = (3, 3) ∧ d.lineColumn 6 = (4, 1) ∧
      toLex (d.lineColumn 5) < toLex (d.lineColumn 6) := by
  intro d
  have inText : 6 ≤ d.chars.length := by decide
  obtain ⟨-, met, place, -⟩ := d.lineColumn_locates 6 inText
  obtain ⟨-, -, -, -, -, others⟩ := d.lineColumn_locates 5 (by decide)
  have lines : d.lineStarts = [0, 2, 3, 6] := by decide
  have newlines : (d.chars.take 6).count '\n' = 3 := by decide
  have inLine : ((d.chars.take 6).rtakeWhile (· != '\n')).length = 0 := by decide
  have rounds : (d.lineStarts.length - 1).size = 2 := by decide +kernel
  rw [newlines, rounds, lines] at met
  rw [newlines, inLine] at place
  exact ⟨inText, lines, met, place, (others 6).2.mpr (by decide)⟩

end FieldOrder.Document
