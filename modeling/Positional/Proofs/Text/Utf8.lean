import Positional.Text.Utf8

/-!
# Reading back what was encoded

The first byte of a character tells how many bytes follow it, and the bytes of a character are read
as that character whatever stands behind them.  So the bytes of a text are read as the text.
-/

namespace Positional.Text.Utf8

variable {surrogates : Bool} {first : UInt8} {code : Nat} {rest : List UInt8}

/-! ## First bytes -/

theorem step_ascii (h : first.toNat < 0x80) :
    step surrogates first rest = .code first.toNat rest := by
  unfold step
  rw [if_pos (UInt8.lt_iff_toNat_lt.2 h)]

theorem step_eq_stepTwo (hlow : 0xC2 ≤ first.toNat) (hhigh : first.toNat < 0xE0) :
    step surrogates first rest = stepTwo first rest := by
  unfold step
  simp only [UInt8.lt_iff_toNat_lt, UInt8.reduceToNat]
  rw [if_neg (by omega), if_neg (by omega), if_pos hhigh]

theorem step_eq_stepThree (hlow : 0xE0 ≤ first.toNat) (hhigh : first.toNat < 0xF0) :
    step surrogates first rest = stepThree surrogates first rest := by
  unfold step
  simp only [UInt8.lt_iff_toNat_lt, UInt8.reduceToNat]
  rw [if_neg (by omega), if_neg (by omega), if_neg (by omega), if_pos hhigh]

theorem step_eq_stepFour (hlow : 0xF0 ≤ first.toNat) (hhigh : first.toNat < 0xF5) :
    step surrogates first rest = stepFour first rest := by
  unfold step
  simp only [UInt8.lt_iff_toNat_lt, UInt8.reduceToNat]
  rw [if_neg (by omega), if_neg (by omega), if_neg (by omega), if_neg (by omega), if_pos hhigh]

/-! ## Continuation bytes -/

theorem toNat_tail (bits : Nat) : (UInt8.ofNat (bits % 64 + 0x80)).toNat = bits % 64 + 0x80 := by
  rw [UInt8.toNat_ofNat']
  omega

theorem isTail_tail (bits : Nat) : isTail (UInt8.ofNat (bits % 64 + 0x80)) = true := by
  simp only [isTail, Bool.and_eq_true, decide_eq_true_eq, UInt8.le_iff_toNat_le,
    UInt8.lt_iff_toNat_lt, toNat_tail, UInt8.reduceToNat]
  omega

theorem tailBits_tail (bits : Nat) : tailBits (UInt8.ofNat (bits % 64 + 0x80)) = bits % 64 := by
  rw [tailBits, toNat_tail]
  omega

theorem isSecondOfThree_tail {bits : Nat} (hlow : first.toNat = 0xE0 → 0x20 ≤ bits % 64)
    (hhigh : first.toNat = 0xED → bits % 64 < 0x20) :
    isSecondOfThree surrogates first (UInt8.ofNat (bits % 64 + 0x80)) = true := by
  simp only [isSecondOfThree, isTail_tail, Bool.true_and, Bool.and_eq_true, Bool.or_eq_true,
    bne_iff_ne, ne_eq, decide_eq_true_eq, ← UInt8.toNat_inj, UInt8.le_iff_toNat_le,
    UInt8.lt_iff_toNat_lt, toNat_tail, UInt8.reduceToNat]
  omega

theorem isSecondOfFour_tail {bits : Nat} (hlow : first.toNat = 0xF0 → 0x10 ≤ bits % 64)
    (hhigh : first.toNat = 0xF4 → bits % 64 < 0x10) :
    isSecondOfFour first (UInt8.ofNat (bits % 64 + 0x80)) = true := by
  simp only [isSecondOfFour, isTail_tail, Bool.true_and, Bool.and_eq_true, Bool.or_eq_true,
    bne_iff_ne, ne_eq, decide_eq_true_eq, ← UInt8.toNat_inj, UInt8.le_iff_toNat_le,
    UInt8.lt_iff_toNat_lt, toNat_tail, UInt8.reduceToNat]
  omega

/-! ## Characters -/

theorem step_one (h : code ≤ 0x7F) :
    step surrogates (UInt8.ofNat code) rest = .code code rest := by
  have hfirst : (UInt8.ofNat code).toNat = code :=
    UInt8.toNat_ofNat_of_lt' (by unfold UInt8.size; omega)
  rw [step_ascii (by omega), hfirst]

theorem step_two (hlow : 0x7F < code) (hhigh : code ≤ 0x7FF) :
    step surrogates (UInt8.ofNat (code / 64 % 32 + 0xC0))
      (UInt8.ofNat (code % 64 + 0x80) :: rest) = .code code rest := by
  have hfirst : (UInt8.ofNat (code / 64 % 32 + 0xC0)).toNat = code / 64 % 32 + 0xC0 :=
    UInt8.toNat_ofNat_of_lt' (by unfold UInt8.size; omega)
  have hcode : (code / 64 % 32 + 0xC0) % 32 * 64 + code % 64 = code := by omega
  rw [step_eq_stepTwo (by omega) (by omega), stepTwo, if_pos (isTail_tail code), tailBits_tail,
    hfirst, hcode]

theorem step_three (hlow : 0x7FF < code) (hhigh : code ≤ 0xFFFF) (hvalid : code.isValidChar) :
    step surrogates (UInt8.ofNat (code / 4096 % 16 + 0xE0))
      (UInt8.ofNat (code / 64 % 64 + 0x80) :: UInt8.ofNat (code % 64 + 0x80) :: rest) =
        .code code rest := by
  have hfirst : (UInt8.ofNat (code / 4096 % 16 + 0xE0)).toNat = code / 4096 % 16 + 0xE0 :=
    UInt8.toNat_ofNat_of_lt' (by unfold UInt8.size; omega)
  unfold Nat.isValidChar at hvalid
  have hsecond : isSecondOfThree surrogates (UInt8.ofNat (code / 4096 % 16 + 0xE0))
      (UInt8.ofNat (code / 64 % 64 + 0x80)) = true := isSecondOfThree_tail (by omega) (by omega)
  have hcode : (code / 4096 % 16 + 0xE0) % 16 * 4096 + code / 64 % 64 * 64 + code % 64 = code := by
    omega
  rw [step_eq_stepThree (by omega) (by omega), stepThree, hsecond, if_neg (by decide),
    if_pos (isTail_tail code), tailBits_tail, tailBits_tail, hfirst, hcode]

theorem step_four (hlow : 0xFFFF < code) (hvalid : code.isValidChar) :
    step surrogates (UInt8.ofNat (code / 262144 % 8 + 0xF0))
      (UInt8.ofNat (code / 4096 % 64 + 0x80) :: UInt8.ofNat (code / 64 % 64 + 0x80) ::
        UInt8.ofNat (code % 64 + 0x80) :: rest) = .code code rest := by
  unfold Nat.isValidChar at hvalid
  have hfirst : (UInt8.ofNat (code / 262144 % 8 + 0xF0)).toNat = code / 262144 % 8 + 0xF0 :=
    UInt8.toNat_ofNat_of_lt' (by unfold UInt8.size; omega)
  have hsecond : isSecondOfFour (UInt8.ofNat (code / 262144 % 8 + 0xF0))
      (UInt8.ofNat (code / 4096 % 64 + 0x80)) = true := isSecondOfFour_tail (by omega) (by omega)
  have hcode : (code / 262144 % 8 + 0xF0) % 8 * 262144 + code / 4096 % 64 * 4096 +
      code / 64 % 64 * 64 + code % 64 = code := by omega
  rw [step_eq_stepFour (by omega) (by omega), stepFour, hsecond, isTail_tail, if_neg (by decide),
    if_neg (by decide), if_pos (isTail_tail code), tailBits_tail, tailBits_tail, tailBits_tail,
    hfirst, hcode]

/-- A character is read from its own bytes, whatever stands behind them. -/
theorem step_utf8EncodeChar (c : Char) (rest : List UInt8) :
    ∃ first more, String.utf8EncodeChar c = first :: more ∧
      step surrogates first (more ++ rest) = .code c.toNat rest := by
  have hvalid : c.val.toNat.isValidChar := c.valid
  unfold String.utf8EncodeChar Char.toNat
  generalize c.val.toNat = code at hvalid ⊢
  -- one case for each number of bytes
  simp only
  split
  · rename_i hone
    exact ⟨_, _, rfl, step_one hone⟩
  · rename_i hone
    split
    · rename_i htwo
      exact ⟨_, _, rfl, step_two (by omega) htwo⟩
    · rename_i htwo
      split
      · rename_i hthree
        exact ⟨_, _, rfl, step_three (by omega) hthree hvalid⟩
      · rename_i hthree
        exact ⟨_, _, rfl, step_four (by omega) hvalid⟩

/-! ## Texts -/

theorem decodeFrom_utf8EncodeChar (c : Char) (offset : Nat) (rest : List UInt8) :
    ∃ next, decodeFrom surrogates offset (String.utf8EncodeChar c ++ rest) =
      (decodeFrom surrogates next rest).map (c.toNat :: ·) := by
  obtain ⟨first, more, hbytes, hstep⟩ := @step_utf8EncodeChar surrogates c rest
  rw [hbytes, List.cons_append, decodeFrom]
  split
  · rename_i read left hread
    rw [hstep] at hread
    cases hread
    exact ⟨_, rfl⟩
  · rename_i hread
    rw [hstep] at hread
    cases hread

theorem decodeFrom_encode (offset : Nat) (text : List Char) :
    decodeFrom surrogates offset (encode text) = .ok (text.map Char.toNat) := by
  induction text generalizing offset with
  | nil =>
      rw [encode, List.flatMap_nil, decodeFrom]
      rfl
  | cons c text ih =>
      obtain ⟨next, hread⟩ := @decodeFrom_utf8EncodeChar surrogates c offset (encode text)
      rw [encode, List.flatMap_cons]
      rw [encode] at hread ih
      rw [hread, ih]
      rfl

/-- A text is read back from its bytes. -/
theorem decode_encode (text : List Char) : decode (encode text) = .ok text := by
  have hchars : (text.map Char.toNat).map Char.ofNat = text := by
    rw [List.map_map]
    exact List.map_id'' Char.ofNat_toNat text
  rw [decode, decodeFrom_encode, Except.map, hchars]

end Positional.Text.Utf8
