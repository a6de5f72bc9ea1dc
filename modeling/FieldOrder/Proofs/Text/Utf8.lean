import FieldOrder.Text.Utf8

namespace FieldOrder.Text

theorem toNat_byte {n : Nat} (h : n < 256) : (byte n).toNat = n := by
  simp [byte]
  omega

theorem utf8Width_cases (c : Char) :
    (utf8Width c = 1 ∧ c.toNat < 0x80) ∨
      (utf8Width c = 2 ∧ 0x80 ≤ c.toNat ∧ c.toNat < 0x800) ∨
      (utf8Width c = 3 ∧ 0x800 ≤ c.toNat ∧ c.toNat < 0x10000) ∨
      (utf8Width c = 4 ∧ 0x10000 ≤ c.toNat) := by
  rw [utf8Width]
  split
  · omega
  · split
    · omega
    · split <;> omega

theorem one_le_utf8Width (c : Char) : 1 ≤ utf8Width c := by
  have := utf8Width_cases c
  omega

theorem length_encodeChar (c : Char) : (encodeChar c).length = utf8Width c := by
  rcases utf8Width_cases c with ⟨h, -⟩ | ⟨h, -⟩ | ⟨h, -⟩ | ⟨h, -⟩ <;> simp [encodeChar, h]

theorem decodeStep_one {n : Nat} (h : n < 0x80) (rest : List UInt8) :
    decodeStep n rest = .char (Char.ofNat n) 0 := by
  simp [decodeStep, h]

theorem decodeStep_two {n : Nat} (low : 0x80 ≤ n) (high : n < 0x800) (rest : List UInt8) :
    decodeStep (0xC0 + n / 64) (byte (0x80 + n % 64) :: rest) = .char (Char.ofNat n) 1 := by
  have second := toNat_byte (n := 0x80 + n % 64) (by omega)
  have continued : isContinuation (0x80 + n % 64) = true := by
    simp [isContinuation]
    omega
  have value : (0xC0 + n / 64) % 32 * 64 + (0x80 + n % 64) % 64 = n := by omega
  rw [decodeStep, if_neg (by omega), if_neg (by omega), if_pos (by omega)]
  simp only [second, continued, if_true, List.foldl_cons, List.foldl_nil, value]

theorem decodeStep_three {n : Nat} (low : 0x800 ≤ n) (high : n < 0x10000)
    (valid : n < 0xD800 ∨ 0xDFFF < n) (rest : List UInt8) :
    decodeStep (0xE0 + n / 4096) (byte (0x80 + n / 64 % 64) :: byte (0x80 + n % 64) :: rest) =
      .char (Char.ofNat n) 2 := by
  have second := toNat_byte (n := 0x80 + n / 64 % 64) (by omega)
  have third := toNat_byte (n := 0x80 + n % 64) (by omega)
  have follows : mayFollow (0xE0 + n / 4096) (0x80 + n / 64 % 64) = true := by
    simp [mayFollow, isContinuation]
    omega
  have continued : isContinuation (0x80 + n % 64) = true := by
    simp [isContinuation]
    omega
  have value : ((0xE0 + n / 4096) % 16 * 64 + (0x80 + n / 64 % 64) % 64) * 64 +
      (0x80 + n % 64) % 64 = n := by omega
  rw [decodeStep, if_neg (by omega), if_neg (by omega), if_neg (by omega), if_pos (by omega)]
  simp only [second, third, follows, continued, Bool.not_true, Bool.false_eq_true, if_false,
    List.foldl_cons, List.foldl_nil, value]

theorem decodeStep_four {n : Nat} (low : 0x10000 ≤ n) (high : n < 0x110000) (rest : List UInt8) :
    decodeStep (0xF0 + n / 262144) (byte (0x80 + n / 4096 % 64) :: byte (0x80 + n / 64 % 64) ::
      byte (0x80 + n % 64) :: rest) = .char (Char.ofNat n) 3 := by
  have second := toNat_byte (n := 0x80 + n / 4096 % 64) (by omega)
  have third := toNat_byte (n := 0x80 + n / 64 % 64) (by omega)
  have fourth := toNat_byte (n := 0x80 + n % 64) (by omega)
  have follows : mayFollow (0xF0 + n / 262144) (0x80 + n / 4096 % 64) = true := by
    simp [mayFollow, isContinuation]
    omega
  have continued (k : Nat) : isContinuation (0x80 + k % 64) = true := by
    simp [isContinuation]
    omega
  have value : (((0xF0 + n / 262144) % 8 * 64 + (0x80 + n / 4096 % 64) % 64) * 64 +
      (0x80 + n / 64 % 64) % 64) * 64 + (0x80 + n % 64) % 64 = n := by omega
  rw [decodeStep, if_neg (by omega), if_neg (by omega), if_neg (by omega), if_neg (by omega),
    if_pos (by omega)]
  simp only [second, third, fourth, follows, continued, Bool.not_true, Bool.false_eq_true,
    if_false, List.foldl_cons, List.foldl_nil, value]

/-- The bytes of a character are read as that character, whatever follows them. -/
theorem exists_decodeStep (c : Char) (rest : List UInt8) :
    ∃ b more, encodeChar c = b :: more ∧
      decodeStep b.toNat (more ++ rest) = .char c more.length := by
  have valid : c.toNat < 0xD800 ∨ 0xDFFF < c.toNat ∧ c.toNat < 0x110000 := c.valid
  have same : Char.ofNat c.toNat = c := Char.ofNat_toNat c
  rcases utf8Width_cases c with ⟨w, h⟩ | ⟨w, h, h'⟩ | ⟨w, h, h'⟩ | ⟨w, h⟩
  · refine ⟨byte c.toNat, [], by simp [encodeChar, w], ?_⟩
    rw [toNat_byte (by omega), decodeStep_one h, same]
    rfl
  · have bytes : encodeChar c = [byte (0xC0 + c.toNat / 64), byte (0x80 + c.toNat % 64)] := by
      simp [encodeChar, w]
    refine ⟨_, _, bytes, ?_⟩
    rw [toNat_byte (by omega)]
    exact (decodeStep_two h h' rest).trans (by rw [same]; rfl)
  · have bytes : encodeChar c = [byte (0xE0 + c.toNat / 4096),
        byte (0x80 + c.toNat / 64 % 64), byte (0x80 + c.toNat % 64)] := by
      simp [encodeChar, w]
    refine ⟨_, _, bytes, ?_⟩
    rw [toNat_byte (by omega)]
    exact (decodeStep_three h h' (by omega) rest).trans (by rw [same]; rfl)
  · have bytes : encodeChar c = [byte (0xF0 + c.toNat / 262144),
        byte (0x80 + c.toNat / 4096 % 64), byte (0x80 + c.toNat / 64 % 64),
        byte (0x80 + c.toNat % 64)] := by
      simp [encodeChar, w]
    refine ⟨_, _, bytes, ?_⟩
    rw [toNat_byte (by omega)]
    exact (decodeStep_four h (by omega) rest).trans (by rw [same]; rfl)

theorem decodeFrom_encode (position : Nat) (cs : List Char) :
    decodeFrom position (encode cs) = .ok cs := by
  induction cs generalizing position with
  | nil => simp [encode, decodeFrom]
  | cons c cs ih =>
    obtain ⟨b, more, bytes, step⟩ := exists_decodeStep c (encode cs)
    have split : encode (c :: cs) = b :: (more ++ encode cs) := by
      rw [encode, List.flatMap_cons, bytes]
      rfl
    rw [split, decodeFrom, step]
    simp only [List.drop_left, ih]
    rfl

/-- Reading gives back what was written. -/
theorem decode_encode (cs : List Char) : decode (encode cs) = .ok cs := decodeFrom_encode 0 cs

theorem byte_toNat (b : UInt8) : byte b.toNat = b := UInt8.ofNat_toNat

theorem toNat_ofNat {n : Nat} (valid : n < 0xD800 ∨ 0xDFFF < n ∧ n < 0x110000) :
    (Char.ofNat n).toNat = n := by
  have isChar : n.isValidChar := valid
  rw [Char.ofNat, dif_pos isChar]
  rfl

section
variable {b b₁ b₂ b₃ : UInt8}

theorem encodeChar_one (h : b.toNat < 0x80) : encodeChar (Char.ofNat b.toNat) = [b] := by
  have value := toNat_ofNat (n := b.toNat) (by omega)
  have width : utf8Width (Char.ofNat b.toNat) = 1 := by rw [utf8Width, value, if_pos h]
  simp only [encodeChar, width, value, byte_toNat]

theorem encodeChar_two (low : 0xC2 ≤ b.toNat) (high : b.toNat < 0xE0)
    (h₁ : isContinuation b₁.toNat = true) :
    encodeChar (Char.ofNat (b.toNat % 32 * 64 + b₁.toNat % 64)) = [b, b₁] := by
  simp only [isContinuation, Bool.and_eq_true, decide_eq_true_eq] at h₁
  let n := b.toNat % 32 * 64 + b₁.toNat % 64
  have value := toNat_ofNat (n := n) (by omega)
  have width : utf8Width (Char.ofNat n) = 2 := by
    rw [utf8Width, value, if_neg (by omega), if_pos (by omega)]
  have lead : 0xC0 + n / 64 = b.toNat := by omega
  have last : 0x80 + n % 64 = b₁.toNat := by omega
  change encodeChar (Char.ofNat n) = _
  simp only [encodeChar, width, value, lead, last, byte_toNat]

theorem encodeChar_three (low : 0xE0 ≤ b.toNat) (high : b.toNat < 0xF0)
    (h₁ : mayFollow b.toNat b₁.toNat = true) (h₂ : isContinuation b₂.toNat = true) :
    encodeChar (Char.ofNat ((b.toNat % 16 * 64 + b₁.toNat % 64) * 64 + b₂.toNat % 64)) =
      [b, b₁, b₂] := by
  simp only [mayFollow, isContinuation, Bool.and_eq_true, Bool.or_eq_true, decide_eq_true_eq,
    bne_iff_ne] at h₁ h₂
  let n := (b.toNat % 16 * 64 + b₁.toNat % 64) * 64 + b₂.toNat % 64
  have value := toNat_ofNat (n := n) (by omega)
  have width : utf8Width (Char.ofNat n) = 3 := by
    rw [utf8Width, value, if_neg (by omega), if_neg (by omega), if_pos (by omega)]
  have lead : 0xE0 + n / 4096 = b.toNat := by omega
  have second : 0x80 + n / 64 % 64 = b₁.toNat := by omega
  have last : 0x80 + n % 64 = b₂.toNat := by omega
  change encodeChar (Char.ofNat n) = _
  simp only [encodeChar, width, value, lead, second, last, byte_toNat]

theorem encodeChar_four (low : 0xF0 ≤ b.toNat) (high : b.toNat < 0xF5)
    (h₁ : mayFollow b.toNat b₁.toNat = true) (h₂ : isContinuation b₂.toNat = true)
    (h₃ : isContinuation b₃.toNat = true) :
    encodeChar (Char.ofNat (((b.toNat % 8 * 64 + b₁.toNat % 64) * 64 + b₂.toNat % 64) * 64 +
      b₃.toNat % 64)) = [b, b₁, b₂, b₃] := by
  simp only [mayFollow, isContinuation, Bool.and_eq_true, Bool.or_eq_true, decide_eq_true_eq,
    bne_iff_ne] at h₁ h₂ h₃
  let n := ((b.toNat % 8 * 64 + b₁.toNat % 64) * 64 + b₂.toNat % 64) * 64 + b₃.toNat % 64
  have value := toNat_ofNat (n := n) (by omega)
  have width : utf8Width (Char.ofNat n) = 4 := by
    rw [utf8Width, value, if_neg (by omega), if_neg (by omega), if_neg (by omega)]
  have lead : 0xF0 + n / 262144 = b.toNat := by omega
  have second : 0x80 + n / 4096 % 64 = b₁.toNat := by omega
  have third : 0x80 + n / 64 % 64 = b₂.toNat := by omega
  have last : 0x80 + n % 64 = b₃.toNat := by omega
  change encodeChar (Char.ofNat n) = _
  simp only [encodeChar, width, value, lead, second, third, last, byte_toNat]

theorem encodeChar_of_decodeStep {rest : List UInt8} {c : Char} {more : Nat}
    (h : decodeStep b.toNat rest = .char c more) : encodeChar c ++ rest.drop more = b :: rest := by
  -- One case for each width; the leading byte and the bounds that the reader checked give the bytes
  -- back.
  simp only [decodeStep] at h
  split at h
  · next one =>
    cases h
    rw [encodeChar_one one]
    rfl
  split at h
  · cases h
  split at h
  · next low high =>
    rcases rest with _ | ⟨b₁, rest⟩
    · cases h
    · dsimp only at h
      split at h
      · next h₁ =>
        cases h
        simp only [List.foldl_cons, List.foldl_nil]
        rw [encodeChar_two (by omega) high h₁]
        rfl
      · cases h
  split at h
  · next low high =>
    rcases rest with _ | ⟨b₁, _ | ⟨b₂, rest⟩⟩
    · cases h
    · dsimp only at h
      split at h <;> cases h
    · dsimp only at h
      split at h
      · cases h
      split at h
      · cases h
      · next h₁ h₂ =>
        cases h
        simp only [List.foldl_cons, List.foldl_nil]
        rw [encodeChar_three (by omega) high (by simpa using h₁) (by simpa using h₂)]
        rfl
  split at h
  · next low high =>
    rcases rest with _ | ⟨b₁, _ | ⟨b₂, _ | ⟨b₃, rest⟩⟩⟩
    · cases h
    · dsimp only at h
      split at h <;> cases h
    · dsimp only at h
      split at h
      · cases h
      · split at h <;> cases h
    · dsimp only at h
      split at h
      · cases h
      split at h
      · cases h
      split at h
      · cases h
      · next h₁ h₂ h₃ =>
        cases h
        simp only [List.foldl_cons, List.foldl_nil]
        rw [encodeChar_four (by omega) high (by simpa using h₁) (by simpa using h₂)
          (by simpa using h₃)]
        rfl
  · cases h

end

theorem encode_of_decodeFrom {position : Nat} {bytes : List UInt8} {cs : List Char}
    (h : decodeFrom position bytes = .ok cs) : encode cs = bytes := by
  fun_induction decodeFrom position bytes generalizing cs with
  | case1 =>
    cases h
    rfl
  | case2 position b rest c more step ih =>
    cases later : decodeFrom (position + more + 1) (rest.drop more) with
    | error e => simp [later, Except.map] at h
    | ok cs' =>
      rw [later] at h
      cases h
      rw [encode, List.flatMap_cons, ← encode, ih later, encodeChar_of_decodeStep step]
  | case3 => cases h

/-- Writing gives back what was read. -/
theorem encode_of_decode {bytes : List UInt8} {cs : List Char} (h : decode bytes = .ok cs) :
    encode cs = bytes := encode_of_decodeFrom h

end FieldOrder.Text
