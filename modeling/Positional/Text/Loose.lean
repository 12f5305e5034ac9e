/-!
# Texts with lone halves

A text is a sequence of characters, and a `String` holds nothing else.  Reading escapes can bring
about more: half of a surrogate pair that stands alone is a code point, though no character.  A
loose text is a sequence of code points, lone halves included.  It can be put together and quoted
like any other text, but it has bytes only where no half is in it.
-/

namespace Positional

/-- A code point: a character, or half of a surrogate pair that stands alone. -/
inductive CodePoint where
  | char (c : Char)
  | half (offset : Fin 2048)
deriving DecidableEq

namespace CodePoint

def firstHalf : Nat := 0xD800

def toNat : CodePoint → Nat
  | char c => c.toNat
  | half offset => firstHalf + offset

/-- The code point of a number that is not above the last plane. -/
def ofNat (code : Nat) : CodePoint :=
  if h : firstHalf ≤ code ∧ code < firstHalf + 2048 then half ⟨code - firstHalf, by omega⟩
  else char (Char.ofNat code)

def char? : CodePoint → Option Char
  | char c => some c
  | half _ => none

def isHalf : CodePoint → Bool
  | char _ => false
  | half _ => true

def chars? : List CodePoint → Option (List Char)
  | [] => some []
  | char c :: rest => (chars? rest).map (c :: ·)
  | half _ :: _ => none

@[simp] theorem isHalf_char (c : Char) : (char c).isHalf = false := rfl

theorem ofNat_toNat (c : Char) : ofNat c.toNat = char c := by
  have hvalid : c.toNat.isValidChar := c.valid
  simp only [Nat.isValidChar] at hvalid
  rw [ofNat, dif_neg (by simp only [firstHalf]; omega), Char.ofNat_toNat]

theorem chars?_map_char (text : List Char) : chars? (text.map char) = some text := by
  induction text with
  | nil => rfl
  | cons c rest ih => simp [chars?, ih]

theorem eq_map_char_of_chars? {codes : List CodePoint} {text : List Char}
    (h : chars? codes = some text) : codes = text.map char := by
  induction codes generalizing text with
  | nil =>
      obtain rfl := Option.some.inj h
      rfl
  | cons code rest ih =>
      cases code with
      | char c =>
          obtain ⟨more, hmore, rfl⟩ := Option.map_eq_some_iff.1 h
          rw [ih hmore, List.map_cons]
      | half _ => cases h

end CodePoint

/-- Lone halves that stand next to each other, and how many code points are before them. -/
structure HalfRun where
  position : Nat
  halves : List CodePoint
deriving DecidableEq

/-- A text that may hold lone halves of surrogate pairs. -/
structure LooseText where
  codes : List CodePoint
deriving DecidableEq

namespace LooseText

def ofString (s : String) : LooseText :=
  ⟨s.toList.map .char⟩

instance : Coe String LooseText := ⟨ofString⟩

instance : Append LooseText := ⟨fun s t => ⟨s.codes ++ t.codes⟩⟩

def join (texts : List LooseText) : LooseText :=
  ⟨texts.flatMap codes⟩

/-- The text as characters, none if a half is in it. -/
def toString? (text : LooseText) : Option String :=
  (CodePoint.chars? text.codes).map String.ofList

def firstRun (text : LooseText) : HalfRun :=
  ⟨(text.codes.takeWhile fun code => !code.isHalf).length,
    (text.codes.dropWhile fun code => !code.isHalf).takeWhile CodePoint.isHalf⟩

theorem append_def (s t : LooseText) : s ++ t = ⟨s.codes ++ t.codes⟩ := rfl

theorem append_assoc (s t u : LooseText) : s ++ t ++ u = s ++ (t ++ u) := by
  simp [append_def]

@[simp] theorem empty_append (t : LooseText) : ofString "" ++ t = t := rfl

@[simp] theorem append_empty (s : LooseText) : s ++ ofString "" = s := by
  simp [append_def, ofString]

@[simp] theorem codes_ofString (s : String) : (ofString s).codes = s.toList.map .char := rfl

theorem ofString_append (s t : String) : ofString (s ++ t) = ofString s ++ ofString t := by
  simp [append_def, ofString]

theorem ofString_ofList (text : List Char) :
    ofString (String.ofList text) = ⟨text.map .char⟩ := by
  rw [ofString, String.toList_ofList]

theorem join_nil : join [] = ofString "" := rfl

theorem join_cons (t : LooseText) (rest : List LooseText) : join (t :: rest) = t ++ join rest := by
  rw [join, List.flatMap_cons]
  rfl

/-- A text has characters exactly if it holds no half, and then they are the text itself. -/
theorem toString?_eq_some_iff {text : LooseText} {s : String} :
    text.toString? = some s ↔ text = ofString s := by
  constructor
  · intro h
    obtain ⟨chars, hchars, rfl⟩ := Option.map_eq_some_iff.1 h
    rw [ofString_ofList, ← CodePoint.eq_map_char_of_chars? hchars]
  · rintro rfl
    rw [toString?, codes_ofString, CodePoint.chars?_map_char, Option.map_some,
      String.ofList_toList]

theorem ofString_inj {s t : String} : ofString s = ofString t ↔ s = t := by
  constructor
  · intro h
    have hs := toString?_eq_some_iff.2 h
    rw [toString?_eq_some_iff.2 rfl] at hs
    exact Option.some.inj hs
  · exact congrArg ofString

end LooseText

end Positional
