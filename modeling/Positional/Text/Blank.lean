/-!
# Blank characters

Trimming a text at both ends by a class of characters, and the classes that settings, typed
arguments and numerals are trimmed by.
-/

namespace Positional.Text

def trim {α : Type} (blank : α → Bool) (text : List α) : List α :=
  ((text.dropWhile blank).reverse.dropWhile blank).reverse

/-- The code points that count as white space in a setting: the Unicode white space and the four
information separators. -/
def blankCodes : List Nat :=
  [0x09, 0x0A, 0x0B, 0x0C, 0x0D, 0x1C, 0x1D, 0x1E, 0x1F, 0x20, 0x85, 0xA0, 0x1680,
    0x2000, 0x2001, 0x2002, 0x2003, 0x2004, 0x2005, 0x2006, 0x2007, 0x2008, 0x2009, 0x200A,
    0x2028, 0x2029, 0x202F, 0x205F, 0x3000]

def isBlank (c : Char) : Bool :=
  blankCodes.contains c.toNat

/-- White space around a typed argument: space, tab, form feed, carriage return, line feed. -/
def isPadding (c : Char) : Bool :=
  c = ' ' || c = '\t' || c = '\x0c' || c = '\r' || c = '\n'

/-- White space around a numeral: the six blanks of ASCII, and every blank beyond ASCII.  The
information separators, which `isBlank` accepts, are no white space here. -/
def isNumeralBlank (c : Char) : Bool :=
  isPadding c || c = '\x0b' || (0x7F < c.toNat && isBlank c)

/-- A text that neither starts nor ends with a blank is left as it is. -/
theorem trim_eq_self {α : Type} {blank : α → Bool} {text : List α}
    (hfirst : text.head?.all (fun c => !blank c) = true)
    (hlast : text.getLast?.all (fun c => !blank c) = true) :
    trim blank text = text := by
  have drop_self : ∀ {cs : List α}, cs.head?.all (fun c => !blank c) = true →
      cs.dropWhile blank = cs := by
    intro cs h
    cases cs with
    | nil => rfl
    | cons c rest => simp_all
  unfold trim
  rw [drop_self hfirst, drop_self (by rwa [List.head?_reverse]), List.reverse_reverse]

end Positional.Text
