import Positional.Json.Quoted
import Positional.Proofs.Text.Utf8

/-!
# The grammar of quoted texts

Between the quotes of a JSON text stand plain characters and escapes.  Each of them spells one code
unit, a character beyond the basic plane being one unit if it is plain and two if it is escaped as a
surrogate pair.  A quoted text of characters is read exactly if it is spelled in this way, and what
it is read as are its units with pairs joined; half of a pair that stands alone is read as it is.
-/

namespace Positional

namespace Text

/-! ## Units -/

namespace Encoding

theorem isHalf_char (c : Char) : isHighHalf c.toNat = false ∧ isLowHalf c.toNat = false := by
  have hvalid : c.toNat.isValidChar := c.valid
  simp only [Nat.isValidChar] at hvalid
  simp only [isHighHalf, isLowHalf, Bool.and_eq_false_iff, decide_eq_false_iff_not]
  omega

theorem ofUnits16_pair {high low : Nat} (rest : List Nat) (hhigh : isHighHalf high = true)
    (hlow : isLowHalf low = true) :
    ofUnits16 (high :: low :: rest) = .ofNat (joinHalves high low) :: ofUnits16 rest := by
  rw [ofUnits16, hhigh, hlow]
  rfl

theorem ofUnits16_alone {unit : Nat} {rest : List Nat}
    (h : isHighHalf unit = true → ∀ low, rest.head? = some low → isLowHalf low = false) :
    ofUnits16 (unit :: rest) = .ofNat unit :: ofUnits16 rest := by
  cases rest with
  | nil => rfl
  | cons low more =>
      rw [ofUnits16, if_neg]
      intro hpair
      rw [Bool.and_eq_true] at hpair
      rw [h hpair.1 low rfl] at hpair
      cases hpair.2

theorem ofUnits16_char (c : Char) (rest : List Nat) :
    ofUnits16 (c.toNat :: rest) = .char c :: ofUnits16 rest := by
  rw [ofUnits16_alone, CodePoint.ofNat_toNat]
  intro hhigh
  rw [(isHalf_char c).1] at hhigh
  cases hhigh

end Encoding

end Text

namespace Json.Quoted

open CodePoint (char)
open Text.Encoding (isHighHalf isLowHalf joinHalves ofUnits16)

/-! ## The grammar -/

/-- Four hexadecimal digits and the number that they denote. -/
inductive FourDigits : List Char → Nat → Prop
  | mk {a b c d : Char} {i j k l : Nat} : hexValue? a = some i → hexValue? b = some j →
      hexValue? c = some k → hexValue? d = some l →
        FourDigits [a, b, c, d] (((i * 16 + j) * 16 + k) * 16 + l)

/-- What stands between the quotes, and the units that it spells. -/
inductive Spells : List Char → List Nat → Prop
  | nil : Spells [] []
  | plain {c : Char} {rest : List Char} {units : List Nat} :
      0x20 ≤ c.toNat → c ≠ '"' → c ≠ '\\' → Spells rest units →
        Spells (c :: rest) (c.toNat :: units)
  | short {c shown : Char} {rest : List Char} {units : List Nat} :
      shortEscape? c = some shown → Spells rest units →
        Spells ('\\' :: c :: rest) (shown.toNat :: units)
  | unit {digits rest : List Char} {unit : Nat} {units : List Nat} :
      FourDigits digits unit → Spells rest units →
        Spells ('\\' :: 'u' :: (digits ++ rest)) (unit :: units)

variable {opening offset unit : Nat} {place after last : Cursor CodePoint} {body : List Char}
  {rest text : List CodePoint} {units : List Nat} {c shown : Char} {code : CodePoint}

/-! ## Escapes -/

theorem hexUnit?_eq_some_iff :
    hexUnit? text = some (unit, rest) ↔
      ∃ digits, FourDigits digits unit ∧ text = digits.map char ++ rest ∧ rest ≠ [] := by
  constructor
  · intro h
    unfold hexUnit? at h
    split at h
    · simp only [Option.bind_eq_bind, Option.bind_eq_some_iff, Option.pure_def, Option.some.injEq,
        Prod.mk.injEq] at h
      obtain ⟨i, hi, j, hj, k, hk, l, hl, rfl, rfl⟩ := h
      exact ⟨_, .mk hi hj hk hl, rfl, List.cons_ne_nil _ _⟩
    · cases h
  · rintro ⟨digits, ⟨hi, hj, hk, hl⟩, rfl, hrest⟩
    obtain ⟨next, more, rfl⟩ := List.exists_cons_of_ne_nil hrest
    simp [hexUnit?, hi, hj, hk, hl]

theorem shortEscape?_unicode : shortEscape? 'u' = none := rfl

theorem escaped_short (opening offset : Nat) (rest : List CodePoint)
    (h : shortEscape? c = some shown) :
    escaped opening ⟨offset, char c :: rest⟩ = .ok (char shown, ⟨offset + 1, rest⟩) := by
  unfold escaped
  split
  · rename_i hnil
    cases hnil
  · rename_i hunicode
    obtain ⟨hc, rfl⟩ := List.cons.inj hunicode
    obtain rfl := CodePoint.char.inj hc
    rw [shortEscape?_unicode] at h
    cases h
  · rename_i hcons
    obtain ⟨rfl, rfl⟩ := List.cons.inj hcons
    rw [CodePoint.char?, Option.bind_some, h]

theorem escaped_unit (opening offset : Nat) (digits : List CodePoint) :
    escaped opening ⟨offset, char 'u' :: digits⟩ = unicodeEscape ⟨offset + 1, digits⟩ := rfl

/-- The units of what is spelled start with a second half only where one is escaped. -/
theorem Spells.head_cases (h : Spells body units) :
    (∀ low, units.head? = some low → isLowHalf low = false) ∨
      ∃ digits low rest more, FourDigits digits low ∧ isLowHalf low = true ∧ Spells rest more ∧
        body = '\\' :: 'u' :: (digits ++ rest) ∧ units = low :: more := by
  have hchar : ∀ (c : Char) (low : Nat), some c.toNat = some low → isLowHalf low = false := by
    intro c low hlow
    rw [← Option.some.inj hlow]
    exact (Text.Encoding.isHalf_char c).2
  cases h with
  | nil => exact .inl fun low hlow => by cases hlow
  | plain _ _ _ _ => exact .inl (hchar _)
  | short _ _ => exact .inl (hchar _)
  | unit hdigits hrest =>
      rename_i digits rest unit more
      cases hlow : isLowHalf unit with
      | false =>
          left
          intro low hhead
          rw [← Option.some.inj hhead]
          exact hlow
      | true => exact .inr ⟨digits, unit, rest, more, hdigits, hlow, hrest, rfl, rfl⟩

theorem secondHalf?_digits {digits : List Char} (hdigits : FourDigits digits unit)
    (offset : Nat) (hrest : rest ≠ []) :
    secondHalf? ⟨offset, char '\\' :: char 'u' :: (digits.map char ++ rest)⟩ =
      .ok (if isLowHalf unit then some (unit, ⟨offset + 6, rest⟩) else none) := by
  have hunit := hexUnit?_eq_some_iff.2 ⟨digits, hdigits, rfl, hrest⟩
  have hfour : ((digits.map char ++ rest).drop 4).isEmpty = false := by
    cases hdigits
    simpa using hrest
  simp only [secondHalf?, hfour, hunit, Bool.false_eq_true, if_false]
  cases isLowHalf unit <;> rfl

theorem secondHalf?_eq_none (h : Spells body units)
    (hlow : ∀ low, units.head? = some low → isLowHalf low = false) (offset : Nat)
    (rest : List CodePoint) :
    secondHalf? ⟨offset, body.map char ++ char '"' :: rest⟩ = .ok none := by
  cases h with
  | nil => rfl
  | plain _ _ hbackslash _ =>
      simp only [secondHalf?, List.map_cons, List.cons_append]
      split
      · rename_i hplace
        exact (hbackslash (CodePoint.char.inj (List.cons.inj hplace).1)).elim
      · rfl
  | short hshort _ =>
      simp only [secondHalf?, List.map_cons, List.cons_append]
      split
      · rename_i hplace
        have hunicode := CodePoint.char.inj (List.cons.inj (List.cons.inj hplace).2).1
        rw [hunicode, shortEscape?_unicode] at hshort
        cases hshort
      · rfl
  | unit hdigits _ =>
      rw [List.map_cons, List.map_cons, List.map_append, List.cons_append, List.cons_append,
        List.append_assoc, secondHalf?_digits hdigits offset (by simp), hlow _ rfl]
      rfl

/-! ## Reading what is spelled -/

theorem read_quote (opening offset : Nat) (rest : List CodePoint) :
    read opening ⟨offset, char '"' :: rest⟩ = .ok ([], ⟨offset + 1, rest⟩) := by
  rw [read]
  rfl

theorem read_plain (opening offset : Nat) (rest : List CodePoint) (hcontrol : 0x20 ≤ c.toNat)
    (hquote : c ≠ '"') (hbackslash : c ≠ '\\') :
    read opening ⟨offset, char c :: rest⟩ =
      (read opening ⟨offset + 1, rest⟩).map fun (text, last) => (char c :: text, last) := by
  rw [read]
  split
  · rename_i hplace
    cases hplace
  · rename_i hplace
    exact (hquote (CodePoint.char.inj (List.cons.inj hplace).1)).elim
  · rename_i hplace
    exact (hbackslash (CodePoint.char.inj (List.cons.inj hplace).1)).elim
  · rename_i hplace
    obtain ⟨rfl, rfl⟩ := List.cons.inj hplace
    rw [if_neg (by rw [CodePoint.toNat]; omega)]

theorem read_escaped (h : escaped opening ⟨offset + 1, rest⟩ = .ok (code, after)) :
    read opening ⟨offset, char '\\' :: rest⟩ =
      (read opening after).map fun (text, last) => (code :: text, last) := by
  rw [read]
  split
  · rename_i hplace
    cases hplace
  · rename_i hplace
    exact absurd (List.cons.inj hplace).1 (by decide)
  · rename_i hplace
    obtain ⟨-, rfl⟩ := List.cons.inj hplace
    split
    · rename_i hstep
      rw [h] at hstep
      cases hstep
    · rename_i hstep
      rw [h] at hstep
      obtain ⟨rfl, rfl⟩ := Prod.mk.inj (Except.ok.inj hstep)
      rfl
  · rename_i hother hplace
    exact (hother (List.cons.inj hplace).1.symm).elim

theorem read_unicode (h : unicodeEscape ⟨offset + 2, rest⟩ = .ok (code, after)) :
    read opening ⟨offset, char '\\' :: char 'u' :: rest⟩ =
      (read opening after).map fun (text, last) => (code :: text, last) :=
  read_escaped ((escaped_unit opening (offset + 1) rest).trans h)

/-- An escaped unit stands for itself, unless it is a first half and a second one comes next. -/
theorem read_alone {digits : List Char} (hdigits : FourDigits digits unit) (hrest : rest ≠ [])
    (opening offset : Nat)
    (halone : isHighHalf unit = true → secondHalf? ⟨offset + 6, rest⟩ = .ok none) :
    read opening ⟨offset, char '\\' :: char 'u' :: (digits.map char ++ rest)⟩ =
      (read opening ⟨offset + 6, rest⟩).map fun (text, last) => (.ofNat unit :: text, last) := by
  have hunit := hexUnit?_eq_some_iff.2 ⟨digits, hdigits, rfl, hrest⟩
  refine read_unicode ?_
  simp only [unicodeEscape, hunit]
  split
  · rename_i hhigh
    rw [halone hhigh]
    rfl
  · rfl

theorem read_pair {digits others : List Char} {low : Nat} (hdigits : FourDigits digits unit)
    (hothers : FourDigits others low) (hhigh : isHighHalf unit = true)
    (hlow : isLowHalf low = true) (hrest : rest ≠ []) (opening offset : Nat) :
    read opening ⟨offset, char '\\' :: char 'u' ::
        (digits.map char ++ char '\\' :: char 'u' :: (others.map char ++ rest))⟩ =
      (read opening ⟨offset + 12, rest⟩).map fun (text, last) =>
        (.ofNat (joinHalves unit low) :: text, last) := by
  have hunit :
      hexUnit? (digits.map char ++ char '\\' :: char 'u' :: (others.map char ++ rest)) =
        some (unit, char '\\' :: char 'u' :: (others.map char ++ rest)) :=
    hexUnit?_eq_some_iff.2 ⟨digits, hdigits, rfl, by simp⟩
  have hsecond := secondHalf?_digits hothers (offset + 6) hrest
  rw [if_pos hlow] at hsecond
  refine read_unicode ?_
  simp only [unicodeEscape, hunit, hhigh, if_true, hsecond]
  rfl

/-- What is spelled is read as its units with pairs joined.  The induction is on the length, since
the two halves of a pair are read together. -/
theorem exists_read (h : Spells body units) (opening offset : Nat) (rest : List CodePoint) :
    ∃ last, read opening ⟨offset, body.map char ++ char '"' :: rest⟩ =
      .ok (ofUnits16 units, ⟨last, rest⟩) := by
  induction hlength : body.length using Nat.strongRecOn generalizing body units offset with
  | ind length ih =>
      subst hlength
      cases h with
      | nil => exact ⟨_, read_quote opening offset rest⟩
      | plain hcontrol hquote hbackslash hmore =>
          obtain ⟨last, hread⟩ := ih _ (Nat.lt_succ_self _) hmore (offset + 1) rfl
          refine ⟨last, ?_⟩
          rw [List.map_cons, List.cons_append, read_plain opening offset _ hcontrol hquote hbackslash,
            hread, Text.Encoding.ofUnits16_char]
          rfl
      | short hshort hmore =>
          rename_i escape shown more units
          have hlength : more.length < ('\\' :: escape :: more).length := by
            simp only [List.length_cons]
            omega
          obtain ⟨last, hread⟩ := ih _ hlength hmore (offset + 2) rfl
          refine ⟨last, ?_⟩
          rw [List.map_cons, List.map_cons, List.cons_append, List.cons_append,
            read_escaped (escaped_short opening (offset + 1) _ hshort), hread,
            Text.Encoding.ofUnits16_char]
          rfl
      | unit hdigits hmore =>
          rename_i digits more unit units
          by_cases halone : isHighHalf unit = true →
              ∀ low, units.head? = some low → isLowHalf low = false
          · have hlength : more.length < ('\\' :: 'u' :: (digits ++ more)).length := by
              simp only [List.length_cons, List.length_append]
              omega
            obtain ⟨last, hread⟩ := ih _ hlength hmore (offset + 6) rfl
            refine ⟨last, ?_⟩
            rw [List.map_cons, List.map_cons, List.map_append, List.cons_append, List.cons_append,
              List.append_assoc, read_alone hdigits (by simp) opening offset fun hhigh =>
                secondHalf?_eq_none hmore (halone hhigh) _ rest,
              hread, Text.Encoding.ofUnits16_alone halone]
            rfl
          · rw [Classical.not_imp] at halone
            obtain ⟨hhigh, hpair⟩ := halone
            rcases hmore.head_cases with
              hlow | ⟨others, low, behind, lows, hothers, hlow, hbehind, rfl, rfl⟩
            · exact (hpair hlow).elim
            · have hlength : behind.length <
                  ('\\' :: 'u' :: (digits ++ '\\' :: 'u' :: (others ++ behind))).length := by
                simp only [List.length_cons, List.length_append]
                omega
              obtain ⟨last, hread⟩ := ih _ hlength hbehind (offset + 12) rfl
              refine ⟨last, ?_⟩
              simp only [List.map_cons, List.map_append, List.cons_append, List.append_assoc]
              rw [read_pair hdigits hothers hhigh hlow (by simp) opening offset, hread,
                Text.Encoding.ofUnits16_pair lows hhigh hlow]
              rfl

/-! ## Spelling what is read -/

theorem exists_second_digits {low : Nat} {further : Cursor CodePoint}
    (h : secondHalf? place = .ok (some (low, further))) :
    ∃ digits, FourDigits digits low ∧
      place.rest = char '\\' :: char 'u' :: (digits.map char ++ further.rest) := by
  unfold secondHalf? at h
  split at h
  · rename_i text hplace
    split at h
    · cases h
    · split at h
      · cases h
      · rename_i unit rest hunit
        obtain ⟨digits, hdigits, rfl, -⟩ := hexUnit?_eq_some_iff.1 hunit
        split at h
        · obtain ⟨rfl, rfl⟩ := Prod.mk.inj (Option.some.inj (Except.ok.inj h))
          exact ⟨digits, hdigits, hplace⟩
        · cases h
  · cases h

theorem exists_spelling_unicode {further : Cursor CodePoint}
    (h : unicodeEscape place = .ok (code, further)) :
    ∃ front : List Char, place.rest = front.map char ++ further.rest ∧
      ∀ body units, Spells body units → ∃ more, Spells ('\\' :: 'u' :: (front ++ body)) more := by
  unfold unicodeEscape at h
  split at h
  · cases h
  · rename_i unit rest hunit
    obtain ⟨digits, hdigits, hplace, -⟩ := hexUnit?_eq_some_iff.1 hunit
    have halone : ∀ body units, Spells body units →
        ∃ more, Spells ('\\' :: 'u' :: (digits ++ body)) more :=
      fun body units hbody => ⟨_, .unit hdigits hbody⟩
    dsimp only at h
    split at h
    · cases hsecond : secondHalf? ⟨place.offset + 4, rest⟩ with
      | error fault =>
          rw [hsecond] at h
          cases h
      | ok second =>
          rw [hsecond] at h
          cases second with
          | none =>
              obtain ⟨rfl, rfl⟩ := Prod.mk.inj (Except.ok.inj h)
              exact ⟨digits, hplace, halone⟩
          | some pair =>
              obtain ⟨low, beyond⟩ := pair
              obtain ⟨rfl, rfl⟩ := Prod.mk.inj (Except.ok.inj h)
              obtain ⟨others, hothers, hrest⟩ := exists_second_digits hsecond
              refine ⟨digits ++ '\\' :: 'u' :: others, ?_, ?_⟩
              · rw [hplace, List.map_append, List.append_assoc]
                exact congrArg (digits.map char ++ ·) hrest
              · intro body units hbody
                obtain ⟨more, hmore⟩ := halone _ _ (.unit hothers hbody)
                exact ⟨more, by rwa [List.append_assoc, List.cons_append, List.cons_append]⟩
    · obtain ⟨rfl, rfl⟩ := Prod.mk.inj (Except.ok.inj h)
      exact ⟨digits, hplace, halone⟩

/-- What an escape is read from, with what is spelled behind it, is spelled. -/
theorem exists_spelling_escaped (h : escaped opening place = .ok (code, after)) :
    ∃ front : List Char, place.rest = front.map char ++ after.rest ∧
      ∀ body units, Spells body units → ∃ more, Spells ('\\' :: (front ++ body)) more := by
  unfold escaped at h
  split at h
  · cases h
  · rename_i digits hplace
    obtain ⟨front, hfront, hspells⟩ := exists_spelling_unicode h
    exact ⟨'u' :: front, hplace.trans (congrArg (char 'u' :: ·) hfront), hspells⟩
  · rename_i escape rest hne hplace
    split at h
    · rename_i shown hshort
      obtain ⟨rfl, rfl⟩ := Prod.mk.inj (Except.ok.inj h)
      cases escape with
      | char c => exact ⟨[c], hplace, fun body units hbody => ⟨_, .short hshort hbody⟩⟩
      | half _ => cases hshort
    · cases h

theorem exists_spelling (hchars : ∀ code ∈ place.rest, code.isHalf = false)
    (h : read opening place = .ok (text, last)) :
    ∃ body units, place.rest = body.map char ++ char '"' :: last.rest ∧ Spells body units := by
  fun_induction read opening place generalizing text with
  | case1 place hplace => cases h
  | case2 place rest hplace =>
      obtain ⟨rfl, rfl⟩ := Prod.mk.inj (Except.ok.inj h)
      exact ⟨[], [], hplace, .nil⟩
  | case3 place rest hplace fault hstep => cases h
  | case4 place rest hplace code after hstep ih =>
      cases hread : read opening after with
      | error fault =>
          rw [hread] at h
          cases h
      | ok result =>
          obtain ⟨more, further⟩ := result
          rw [hread] at h
          obtain ⟨rfl, rfl⟩ := Prod.mk.inj (Except.ok.inj h)
          obtain ⟨front, hfront, hescape⟩ := exists_spelling_escaped hstep
          have hafter : ∀ code ∈ after.rest, code.isHalf = false := by
            intro code hmem
            apply hchars
            rw [hplace]
            refine List.mem_cons_of_mem _ ?_
            rw [show rest = front.map char ++ after.rest from hfront]
            exact List.mem_append_right _ hmem
          obtain ⟨body, units, hbody, hspells⟩ := ih hafter hread
          obtain ⟨all, hall⟩ := hescape body units hspells
          refine ⟨_, _, ?_, hall⟩
          rw [hplace, List.map_cons, List.cons_append, List.map_append, List.append_assoc, ← hbody]
          exact congrArg (char '\\' :: ·) hfront
  | case5 place code rest hquote hbackslash hplace hcontrol => cases h
  | case6 place code rest hquote hbackslash hplace hcontrol ih =>
      cases hread : read opening ⟨place.offset + 1, rest⟩ with
      | error fault =>
          rw [hread] at h
          cases h
      | ok result =>
          obtain ⟨more, further⟩ := result
          rw [hread] at h
          obtain ⟨rfl, rfl⟩ := Prod.mk.inj (Except.ok.inj h)
          rw [hplace, List.forall_mem_cons] at hchars
          obtain ⟨body, units, hbody, hspells⟩ := ih hchars.2 hread
          cases code with
          | half _ => cases hchars.1
          | char c =>
              rw [CodePoint.toNat] at hcontrol
              refine ⟨_, _, ?_, .plain (by omega) (fun hc => hquote (congrArg char hc))
                (fun hc => hbackslash (congrArg char hc)) hspells⟩
              rw [hplace, List.map_cons, List.cons_append]
              exact congrArg (char c :: ·) hbody

/-- A quoted text and nothing else is read exactly if it is spelled, as its units with pairs
joined. -/
theorem decode?_eq_some_iff {rest : List Char} :
    decode? (('"' :: rest).map char) = some text ↔
      ∃ body units, rest = body ++ ['"'] ∧ Spells body units ∧ text = ofUnits16 units := by
  have hchars : ∀ code ∈ rest.map char, code.isHalf = false := by
    intro code hmem
    obtain ⟨c, -, rfl⟩ := List.mem_map.1 hmem
    rfl
  have hquoted : ∀ body : List Char, (body ++ ['"']).map char = body.map char ++ [char '"'] :=
    fun body => List.map_append
  rw [List.map_cons, decode?]
  constructor
  · intro h
    split at h
    · rename_i found last hread
      split at h
      · rename_i hend
        obtain rfl := Option.some.inj h
        obtain ⟨body, units, hbody, hspells⟩ := exists_spelling hchars hread
        obtain ⟨final, hfinal⟩ := exists_read hspells 0 1 []
        rw [List.isEmpty_iff.1 hend, ← hquoted] at hbody
        obtain rfl := (List.map_inj_right fun _ _ => CodePoint.char.inj).1 hbody
        rw [hquoted, hfinal] at hread
        exact ⟨body, units, rfl, hspells, (Prod.mk.inj (Except.ok.inj hread)).1.symm⟩
      · cases h
    · cases h
  · rintro ⟨body, units, rfl, hspells, rfl⟩
    obtain ⟨final, hfinal⟩ := exists_read hspells 0 1 []
    rw [hquoted, hfinal]
    rfl

end Json.Quoted

end Positional
