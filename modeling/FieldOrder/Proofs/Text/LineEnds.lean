import FieldOrder.Proofs.Text.Utf8
import FieldOrder.Text.Blank

namespace FieldOrder.Text

theorem not_mem_unifyLineEnds (cs : List Char) : '\r' ∉ unifyLineEnds cs := by
  fun_induction unifyLineEnds cs with
  | case1 => simp
  | case2 rest ih => simp [ih]
  | case3 c rest _ ih =>
    by_cases h : c = '\r'
    · simp [h, ih]
    · simp [h, ih, Ne.symm h]

theorem unifyLineEnds_eq_self {cs : List Char} (h : '\r' ∉ cs) : unifyLineEnds cs = cs := by
  fun_induction unifyLineEnds cs with
  | case1 => rfl
  | case2 rest ih => simp at h
  | case3 c rest _ ih =>
    obtain ⟨ne, h⟩ := not_or.mp (mt List.mem_cons.mpr h)
    rw [if_neg (Ne.symm ne), ih h]

theorem cr_mem_encodeChar {c : Char} (h : 13 ∈ encodeChar c) : c = '\r' := by
  have valid : c.toNat < 0xD800 ∨ 0xDFFF < c.toNat ∧ c.toNat < 0x110000 := c.valid
  have small {n : Nat} (bound : n < 256) (eq : 13 = byte n) : 13 = n := by
    rw [← toNat_byte bound, ← eq]
    rfl
  rcases utf8Width_cases c with ⟨w, low⟩ | ⟨w, low, high⟩ | ⟨w, low, high⟩ | ⟨w, low⟩
  · have eq : 13 = byte c.toNat := by simpa [encodeChar, w] using h
    rw [← Char.ofNat_toNat c, ← small (by omega) eq]
  -- All bytes of the longer forms are above those of ASCII.
  · simp only [encodeChar, w, List.mem_cons, List.not_mem_nil, or_false] at h
    rcases h with h | h <;> have := small (by omega) h <;> omega
  · simp only [encodeChar, w, List.mem_cons, List.not_mem_nil, or_false] at h
    rcases h with h | h | h <;> have := small (by omega) h <;> omega
  · simp only [encodeChar, w, List.mem_cons, List.not_mem_nil, or_false] at h
    rcases h with h | h | h | h <;> have := small (by omega) h <;> omega

theorem cr_mem_encode {cs : List Char} : 13 ∈ encode cs ↔ '\r' ∈ cs := by
  rw [encode, List.mem_flatMap]
  constructor
  · rintro ⟨c, hc, h⟩
    exact cr_mem_encodeChar h ▸ hc
  · intro h
    exact ⟨'\r', h, by decide⟩

/-- A file is what was read from it if it has no carriage return. -/
theorem encode_unifyLineEnds {bytes : List UInt8} {cs : List Char} (h : decode bytes = .ok cs) :
    encode (unifyLineEnds cs) = bytes ↔ 13 ∉ bytes := by
  have written := encode_of_decode h
  rw [← written, cr_mem_encode]
  constructor
  · intro same
    have read := decode_encode (unifyLineEnds cs)
    rw [same, decode_encode] at read
    rw [Except.ok.inj read]
    exact not_mem_unifyLineEnds cs
  · intro none
    rw [unifyLineEnds_eq_self none]

end FieldOrder.Text
