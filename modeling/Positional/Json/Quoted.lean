import Positional.Text.Cursor
import Positional.Text.Encoding

/-!
# Quoted texts in JSON

Reading the text between double quotes, with its escapes.  A control character must be escaped.  A
character beyond the basic plane may be escaped as a surrogate pair; half of a pair that stands
alone is kept as it is.  A refusal says where the fault is.
-/

namespace Positional.Json.Quoted

def hexValue? (c : Char) : Option Nat :=
  if '0' ≤ c && c ≤ '9' then some (c.toNat - 48)
  else if 'a' ≤ c && c ≤ 'f' then some (c.toNat - 87)
  else if 'A' ≤ c && c ≤ 'F' then some (c.toNat - 55)
  else none

/-- Four hexadecimal digits that do not end the text, with what comes after them. -/
def hexUnit? : List CodePoint → Option (Nat × List CodePoint)
  | .char a :: .char b :: .char c :: .char d :: next :: rest => do
    let a ← hexValue? a
    let b ← hexValue? b
    let c ← hexValue? c
    let d ← hexValue? d
    return (((a * 16 + b) * 16 + c) * 16 + d, next :: rest)
  | _ => none

def shortEscape? : Char → Option Char
  | '"' => some '"'
  | '\\' => some '\\'
  | '/' => some '/'
  | 'b' => some '\x08'
  | 'f' => some '\x0c'
  | 'n' => some '\n'
  | 'r' => some '\r'
  | 't' => some '\t'
  | _ => none

/-- What reading one code point of a quoted text comes to: the code point and the place after it, or
the offset of the fault. -/
abbrev Step := Except Nat (CodePoint × Cursor CodePoint)

/-- The second half of a surrogate pair, after the first: the half and the place after it, none if
no second half comes next.  The escape of a second half is read only where something follows it. -/
def secondHalf? (place : Cursor CodePoint) : Except Nat (Option (Nat × Cursor CodePoint)) :=
  match place.rest with
  | .char '\\' :: .char 'u' :: digits =>
    if (digits.drop 4).isEmpty then .ok none
    else
      match hexUnit? digits with
      | none => .error (place.offset + 1)
      | some (unit, rest) =>
        if Text.Encoding.isLowHalf unit then .ok (some (unit, ⟨place.offset + 6, rest⟩))
        else .ok none
  | _ => .ok none

/-- The code point of an escaped code unit; the place is that of the digits. -/
def unicodeEscape (place : Cursor CodePoint) : Step :=
  match hexUnit? place.rest with
  | none => .error (place.offset - 1)
  | some (unit, rest) =>
    let after : Cursor CodePoint := ⟨place.offset + 4, rest⟩
    if Text.Encoding.isHighHalf unit then do
      match ← secondHalf? after with
      | some (low, further) =>
        return (.ofNat (Text.Encoding.joinHalves unit low), further)
      | none => return (.ofNat unit, after)
    else .ok (.ofNat unit, after)

/-- The code point of an escape; the place is that after the backslash, and `opening` is the offset
of the opening quote. -/
def escaped (opening : Nat) (place : Cursor CodePoint) : Step :=
  match place.rest with
  | [] => .error opening
  | .char 'u' :: digits => unicodeEscape ⟨place.offset + 1, digits⟩
  | code :: rest =>
    match code.char?.bind shortEscape? with
    | some shown => .ok (.char shown, ⟨place.offset + 1, rest⟩)
    | none => .error (place.offset - 1)

theorem hexUnit?_length {digits rest : List CodePoint} {unit : Nat}
    (h : hexUnit? digits = some (unit, rest)) : rest.length + 4 = digits.length := by
  unfold hexUnit? at h
  split at h
  · simp only [Option.bind_eq_bind, Option.bind_eq_some_iff, Option.pure_def, Option.some.injEq,
      Prod.mk.injEq] at h
    obtain ⟨_, _, _, _, _, _, _, _, _, hrest⟩ := h
    simp [← hrest]
  · simp at h

theorem secondHalf?_length {place further : Cursor CodePoint} {unit : Nat}
    (h : secondHalf? place = .ok (some (unit, further))) :
    further.rest.length < place.rest.length := by
  unfold secondHalf? at h
  split at h
  · rename_i digits hplace
    split at h
    · simp at h
    · split at h
      · simp at h
      · rename_i low rest hunit
        have hlength := hexUnit?_length hunit
        split at h
        · simp only [Except.ok.injEq, Option.some.injEq, Prod.mk.injEq] at h
          obtain ⟨_, hfurther⟩ := h
          subst hfurther
          simp [hplace]
          omega
        · simp at h
  · simp at h

theorem unicodeEscape_length {place after : Cursor CodePoint}
    {code : CodePoint}
    (h : unicodeEscape place = .ok (code, after)) : after.rest.length < place.rest.length := by
  unfold unicodeEscape at h
  split at h
  · simp at h
  · rename_i unit rest hunit
    have hlength := hexUnit?_length hunit
    simp only at h
    split at h
    · cases hsecond : secondHalf? ⟨place.offset + 4, rest⟩ with
      | error offset => simp [hsecond, bind, Except.bind] at h
      | ok found =>
          cases found with
          | none =>
              simp only [hsecond, bind, Except.bind, pure, Except.pure, Except.ok.injEq,
                Prod.mk.injEq] at h
              simp [← h.2]
              omega
          | some pair =>
              have hpair := secondHalf?_length hsecond
              simp only [hsecond, bind, Except.bind, pure, Except.pure, Except.ok.injEq,
                Prod.mk.injEq] at h
              rw [← h.2]
              simp only at hpair
              omega
    · simp only [Except.ok.injEq, Prod.mk.injEq] at h
      simp [← h.2]
      omega

theorem escaped_length {opening : Nat} {place after : Cursor CodePoint}
    {code : CodePoint}
    (h : escaped opening place = .ok (code, after)) : after.rest.length < place.rest.length := by
  unfold escaped at h
  split at h
  · simp at h
  · rename_i digits hplace
    have hlength := unicodeEscape_length h
    simp only at hlength
    simp [hplace]
    omega
  · rename_i c rest _ hplace
    split at h
    · simp only [Except.ok.injEq, Prod.mk.injEq] at h
      simp [hplace, ← h.2]
    · simp at h

/-- Read up to the closing quote: the text, and the place after the quote.  The place is after the
opening quote, whose offset is `opening`. -/
def read (opening : Nat) (place : Cursor CodePoint) :
    Except Nat (List CodePoint × Cursor CodePoint) :=
  match _hplace : place.rest with
  | [] => .error opening
  | .char '"' :: rest => .ok ([], ⟨place.offset + 1, rest⟩)
  | .char '\\' :: rest =>
    match _hstep : escaped opening ⟨place.offset + 1, rest⟩ with
    | .error offset => .error offset
    | .ok (code, after) => (read opening after).map fun (text, last) => (code :: text, last)
  | code :: rest =>
    if code.toNat < 0x20 then .error place.offset
    else (read opening ⟨place.offset + 1, rest⟩).map fun (text, last) => (code :: text, last)
termination_by place.rest.length
decreasing_by
  · have := escaped_length _hstep
    simp only at this
    simp [_hplace]
    omega
  · simp [_hplace]

/-- Read a whole text that is one quoted text and nothing else. -/
def decode? : List CodePoint → Option (List CodePoint)
  | .char '"' :: rest =>
    match read 0 ⟨1, rest⟩ with
    | .ok (text, last) => if last.rest.isEmpty then some text else none
    | .error _ => none
  | _ => none

end Positional.Json.Quoted
