import Positional.Json.Printer
import Positional.Proofs.Json.Quoted

/-!
# Texts written as JSON

RFC 8259 gives a text many forms between quotes: a character stands for itself or is escaped by a
letter, by its code or, beyond the basic plane, by the codes of a surrogate pair.  Each form spells
units that join to the text.  The printer's form is one of them, so every text has one.
-/

namespace Positional.Json.Quoted

open Text.Encoding (isHighHalf isLowHalf joinHalves ofUnits16)

/-! ## The forms of a text -/

def IsHexDigit (c : Char) (value : Nat) : Prop :=
  "0123456789abcdef".toList[value]? = some c ∨ "0123456789ABCDEF".toList[value]? = some c

inductive Codes : List Char → Nat → Prop
  | mk {a b c d : Char} {i j k l : Nat} : IsHexDigit a i → IsHexDigit b j → IsHexDigit c k →
      IsHexDigit d l → Codes [a, b, c, d] (0x1000 * i + 0x100 * j + 0x10 * k + l)

def shortEscapes : List (Char × Char) :=
  [('"', '"'), ('\\', '\\'), ('/', '/'), ('b', '\x08'), ('f', '\x0c'), ('n', '\n'), ('r', '\r'),
    ('t', '\t')]

/-- What stands between the quotes, and the text that it denotes. -/
inductive Writes : List Char → List Char → Prop
  | nil : Writes [] []
  | plain {c : Char} {rest text : List Char} : 0x20 ≤ c.toNat → c ≠ '"' → c ≠ '\\' →
      Writes rest text → Writes (c :: rest) (c :: text)
  | short {letter c : Char} {rest text : List Char} : (letter, c) ∈ shortEscapes →
      Writes rest text → Writes ('\\' :: letter :: rest) (c :: text)
  | code {digits rest text : List Char} {c : Char} : Codes digits c.toNat → Writes rest text →
      Writes ('\\' :: 'u' :: (digits ++ rest)) (c :: text)
  | pair {digits others rest text : List Char} {high low : Nat} {c : Char} : Codes digits high →
      Codes others low → 0xD800 ≤ high → high < 0xDC00 → 0xDC00 ≤ low → low < 0xE000 →
        c.toNat = 0x10000 + 0x400 * (high - 0xD800) + (low - 0xDC00) → Writes rest text →
          Writes ('\\' :: 'u' :: (digits ++ '\\' :: 'u' :: (others ++ rest))) (c :: text)

variable {body text : List Char} {digits : List Char} {n : Nat}

/-! ## Units of a form -/

theorem hexValue?_of_isHexDigit {c : Char} {value : Nat} (h : IsHexDigit c value) :
    hexValue? c = some value := by
  have hdigits : ∀ digits : List Char, digits.length = 16 →
      (∀ i : Fin 16, digits[i.val]?.all (hexValue? · = some i.val)) →
        digits[value]? = some c → hexValue? c = some value := by
    intro digits hlength hall hget
    have hvalue : value < 16 := by
      rw [← hlength]
      exact (List.getElem?_eq_some_iff.1 hget).1
    have hc := hall ⟨value, hvalue⟩
    rw [hget] at hc
    exact of_decide_eq_true hc
  rcases h with h | h
  · exact hdigits _ rfl (by decide) h
  · exact hdigits _ rfl (by decide) h

theorem Codes.fourDigits (h : Codes digits n) : FourDigits digits n := by
  obtain ⟨ha, hb, hc, hd⟩ := h
  rename_i a b c d i j k l
  have hvalue : 0x1000 * i + 0x100 * j + 0x10 * k + l = ((i * 16 + j) * 16 + k) * 16 + l := by
    omega
  rw [hvalue]
  exact .mk (hexValue?_of_isHexDigit ha) (hexValue?_of_isHexDigit hb)
    (hexValue?_of_isHexDigit hc) (hexValue?_of_isHexDigit hd)

theorem shortEscape?_of_mem {letter c : Char} (h : (letter, c) ∈ shortEscapes) :
    shortEscape? letter = some c := by
  simp only [shortEscapes, List.mem_cons, Prod.mk.injEq, List.not_mem_nil, or_false] at h
  rcases h with ⟨rfl, rfl⟩ | ⟨rfl, rfl⟩ | ⟨rfl, rfl⟩ | ⟨rfl, rfl⟩ | ⟨rfl, rfl⟩ | ⟨rfl, rfl⟩ |
    ⟨rfl, rfl⟩ | ⟨rfl, rfl⟩ <;> rfl

theorem Writes.exists_spells (h : Writes body text) :
    ∃ units, Spells body units ∧ ofUnits16 units = text.map .char := by
  induction h with
  | nil => exact ⟨[], .nil, rfl⟩
  | @plain c rest text hcontrol hquote hbackslash _ ih =>
      obtain ⟨units, hunits, htext⟩ := ih
      refine ⟨_, .plain hcontrol hquote hbackslash hunits, ?_⟩
      rw [Text.Encoding.ofUnits16_char, htext, List.map_cons]
  | @short letter c rest text hletter _ ih =>
      obtain ⟨units, hunits, htext⟩ := ih
      refine ⟨_, .short (shortEscape?_of_mem hletter) hunits, ?_⟩
      rw [Text.Encoding.ofUnits16_char, htext, List.map_cons]
  | @code digits rest text c hcode _ ih =>
      obtain ⟨units, hunits, htext⟩ := ih
      refine ⟨_, .unit hcode.fourDigits hunits, ?_⟩
      rw [Text.Encoding.ofUnits16_char, htext, List.map_cons]
  | @pair digits others rest text high low c hhigh hlow hhigh₀ hhigh₁ hlow₀ hlow₁ hc _ ih =>
      obtain ⟨units, hunits, htext⟩ := ih
      -- each code is a unit of its own, and the two are joined only where units are read as text
      refine ⟨_, .unit hhigh.fourDigits (.unit hlow.fourDigits hunits), ?_⟩
      have hhighHalf : isHighHalf high = true := by simp [isHighHalf, hhigh₀, hhigh₁]
      have hlowHalf : isLowHalf low = true := by simp [isLowHalf, hlow₀, hlow₁]
      have hjoin : joinHalves high low = c.toNat := by
        unfold joinHalves
        omega
      rw [Text.Encoding.ofUnits16_pair units hhighHalf hlowHalf, hjoin, CodePoint.ofNat_toNat,
        htext, List.map_cons]

/-! ## The printer's form -/

theorem isHexDigit_digitChar {value : Nat} (h : value < 16) :
    IsHexDigit (Nat.digitChar value) value := by
  have hdigits : ∀ i : Fin 16, "0123456789abcdef".toList[i.val]? = some (Nat.digitChar i.val) := by
    decide
  exact .inl (hdigits ⟨value, h⟩)

theorem codes_hex (h : n < 0x10000) : Codes (Text.Quoted.hex 4 n) n := by
  have hhex : Text.Quoted.hex 4 n = [Nat.digitChar (n / 16 / 16 / 16 % 16),
      Nat.digitChar (n / 16 / 16 % 16), Nat.digitChar (n / 16 % 16), Nat.digitChar (n % 16)] := by
    simp [Text.Quoted.hex]
  have hvalue : n = 0x1000 * (n / 16 / 16 / 16 % 16) + 0x100 * (n / 16 / 16 % 16) +
      0x10 * (n / 16 % 16) + n % 16 := by
    omega
  have hdigit : ∀ m, IsHexDigit (Nat.digitChar (m % 16)) (m % 16) := fun m =>
    isHexDigit_digitChar (Nat.mod_lt m (by decide))
  have hcodes := Codes.mk (hdigit (n / 16 / 16 / 16)) (hdigit (n / 16 / 16)) (hdigit (n / 16))
    (hdigit n)
  rwa [← hvalue, ← hhex] at hcodes

theorem mem_shortEscapes_of_shortLetter? {c letter : Char}
    (h : Printer.shortLetter? c = some letter) : (letter, c) ∈ shortEscapes := by
  obtain ⟨before, after, hsplit, -⟩ := List.lookup_eq_some_iff.1 h
  have hmem : (c, letter) ∈ [('\x08', 'b'), ('\t', 't'), ('\n', 'n'), ('\x0c', 'f'),
      ('\r', 'r')] := by
    rw [hsplit]
    exact List.mem_append_right _ List.mem_cons_self
  simp only [List.mem_cons, Prod.mk.injEq, List.not_mem_nil, or_false] at hmem
  rcases hmem with ⟨rfl, rfl⟩ | ⟨rfl, rfl⟩ | ⟨rfl, rfl⟩ | ⟨rfl, rfl⟩ | ⟨rfl, rfl⟩ <;> decide

theorem Writes.character (c : Char) (h : Writes body text) :
    Writes (Printer.character c ++ body) (c :: text) := by
  unfold Printer.character
  split
  · rename_i hc
    rw [Bool.or_eq_true, decide_eq_true_eq, decide_eq_true_eq] at hc
    rcases hc with rfl | rfl <;> exact .short (by decide) h
  · rename_i hc
    rw [Bool.or_eq_true, decide_eq_true_eq, decide_eq_true_eq, not_or] at hc
    split
    · rename_i hcontrol
      have hlt : c.toNat < 0x20 := hcontrol
      split
      · rename_i letter hletter
        exact .short (mem_shortEscapes_of_shortLetter? hletter) h
      · exact .code (codes_hex (by omega)) h
    · rename_i hcontrol
      have hge : 0x20 ≤ c.toNat := Nat.not_lt.1 hcontrol
      exact .plain hge hc.1 hc.2 h

theorem writes_printed (text : List Char) : Writes (text.flatMap Printer.character) text := by
  induction text with
  | nil => exact .nil
  | cons c text ih => exact ih.character c

end Positional.Json.Quoted
