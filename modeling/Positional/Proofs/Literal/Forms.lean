import Positional.Literal
import Positional.Proofs.Text.Blank
import Positional.Proofs.Double.Reading
import Positional.Proofs.Json.Quoted

/-!
# The forms of literals

A literal is `true`, `false`, `null`, a number or a quoted text.  An argument that is one of these,
but for white space around it, is read as what it denotes, and every other argument is kept as it
is.  A quoted text ends at the first quote that an even number of backslashes stands before, so no
escaped quote ends it.
-/

namespace Positional.Literal

open Numeral (Sign isDigit)
open Double.Parts (Written)
open Json.Quoted (Spells)

/-! ## Closing quotes -/

def slashes (text : List Char) : Nat :=
  (text.reverse.takeWhile (· = '\\')).length

/-- Behind `front`, no quote in `body` closes and a quote after it does. -/
structure Closes (front body : List Char) : Prop where
  unbroken : '\n' ∉ body
  inner (before after : List Char) :
    body = before ++ '"' :: after → slashes (front ++ before) % 2 = 1
  final : slashes (front ++ body) % 2 = 0

variable {front body rest core : List Char} {c : Char} {value : Value}

theorem slashes_backslash (front : List Char) : slashes (front ++ ['\\']) = slashes front + 1 := by
  simp [slashes]

theorem slashes_other (front : List Char) (h : c ≠ '\\') : slashes (front ++ [c]) = 0 := by
  simp [slashes, h]

theorem closes_nil : Closes front [] ↔ slashes front % 2 = 0 := by
  constructor
  · intro h
    simpa using h.final
  · intro h
    exact ⟨List.not_mem_nil, fun before after hbody => by simp at hbody, by simpa using h⟩

theorem closes_cons :
    Closes front (c :: body) ↔
      c ≠ '\n' ∧ (c = '"' → slashes front % 2 = 1) ∧ Closes (front ++ [c]) body := by
  constructor
  · intro h
    refine ⟨?_, ?_, ?_, ?_, ?_⟩
    · rintro rfl
      exact h.unbroken List.mem_cons_self
    · rintro rfl
      simpa using h.inner [] body rfl
    · exact fun hmem => h.unbroken (List.mem_cons_of_mem c hmem)
    · rintro before after rfl
      simpa using h.inner (c :: before) after rfl
    · simpa using h.final
  · rintro ⟨hbreak, hquote, hunbroken, hinner, hfinal⟩
    refine ⟨?_, ?_, by simpa using hfinal⟩
    · intro hmem
      rcases List.mem_cons.1 hmem with rfl | hmem
      · exact hbreak rfl
      · exact hunbroken hmem
    · intro before after hbody
      cases before with
      | nil =>
          rw [List.append_nil]
          exact hquote (List.cons.inj hbody).1
      | cons d more =>
          obtain ⟨rfl, hmore⟩ := List.cons.inj hbody
          simpa using hinner more after hmore

theorem exists_quoted_cons {P : List Char → Prop} :
    (∃ body, c :: rest = body ++ ['"'] ∧ P body) ↔
      (c = '"' ∧ rest = [] ∧ P []) ∨ ∃ body, rest = body ++ ['"'] ∧ P (c :: body) := by
  constructor
  · rintro ⟨body, hbody, hP⟩
    cases body with
    | nil =>
        obtain ⟨rfl, rfl⟩ := List.cons.inj hbody
        exact .inl ⟨rfl, rfl, hP⟩
    | cons d more =>
        obtain ⟨rfl, rfl⟩ := List.cons.inj hbody
        exact .inr ⟨more, rfl, hP⟩
  · rintro (⟨rfl, rfl, hP⟩ | ⟨body, rfl, hP⟩)
    · exact ⟨[], rfl, hP⟩
    · exact ⟨c :: body, rfl, hP⟩

theorem closesAtEnd_backslash (escaped : Bool) (rest : List CodePoint) :
    closesAtEnd escaped (.char '\\' :: rest) = closesAtEnd (!escaped) rest := by
  rw [closesAtEnd]

theorem closesAtEnd_other (escaped : Bool) {rest : List CodePoint} (hbackslash : c ≠ '\\')
    (hlast : c = '"' → rest ≠ []) :
    closesAtEnd escaped (.char c :: rest) =
      (c != '\n' && (c != '"' || escaped) && closesAtEnd false rest) := by
  have hsame : ∀ d : Char, (CodePoint.char c != .char d) = (c != d) := by
    intro d
    rw [Bool.eq_iff_iff, bne_iff_ne, bne_iff_ne, ne_eq, CodePoint.char.injEq]
  rw [closesAtEnd, hsame, hsame]
  · intro hc hnil
    exact hlast (CodePoint.char.inj hc) hnil
  · exact fun hc => hbackslash (CodePoint.char.inj hc)

/-- The scan for the closing quote tells whether it is the last character. -/
theorem closesAtEnd_iff :
    closesAtEnd (decide (slashes front % 2 = 1)) (rest.map .char) = true ↔
      ∃ body, rest = body ++ ['"'] ∧ Closes front body := by
  induction rest generalizing front with
  | nil => simp [closesAtEnd]
  | cons c more ih =>
      rw [exists_quoted_cons]
      simp only [closes_nil, closes_cons]
      by_cases hbackslash : c = '\\'
      · subst hbackslash
        have hparity : (!decide (slashes front % 2 = 1)) =
            decide (slashes (front ++ ['\\']) % 2 = 1) := by
          rw [slashes_backslash, ← decide_not, decide_eq_decide]
          omega
        rw [List.map_cons, closesAtEnd_backslash, hparity, ih]
        simp
      · by_cases hlast : c = '"' ∧ more = []
        · obtain ⟨rfl, rfl⟩ := hlast
          simp [closesAtEnd]
        · have hparity : false = decide (slashes (front ++ [c]) % 2 = 1) := by
            rw [slashes_other front hbackslash]
            rfl
          rw [List.map_cons, closesAtEnd_other _ hbackslash fun hquote hnil =>
            hlast ⟨hquote, List.map_eq_nil_iff.1 hnil⟩, hparity]
          simp only [Bool.and_eq_true, bne_iff_ne, ne_eq, Bool.or_eq_true, decide_eq_true_eq, ih]
          constructor
          · rintro ⟨⟨hbreak, hquote⟩, body, hmore, hcloses⟩
            refine .inr ⟨body, hmore, hbreak, fun hc => ?_, hcloses⟩
            exact hquote.resolve_left fun hne => hne hc
          · rintro (⟨hc, hmore, -⟩ | ⟨body, hmore, hbreak, hquote, hcloses⟩)
            · exact (hlast ⟨hc, hmore⟩).elim
            · exact ⟨⟨hbreak, Decidable.not_or_of_imp hquote⟩, body, hmore, hcloses⟩

theorem closesAtEnd_quote :
    closesAtEnd false (rest.map .char) = true ↔
      ∃ body, rest = body ++ ['"'] ∧ Closes ['"'] body := by
  have hquote : decide (slashes ['"'] % 2 = 1) = false := rfl
  rw [← hquote, closesAtEnd_iff]

/-! ## The forms -/

/-- What a literal without white space around it denotes. -/
inductive Denotes : List Char → Value → Prop
  | truth : Denotes ['t', 'r', 'u', 'e'] (.bool true)
  | falsehood : Denotes ['f', 'a', 'l', 's', 'e'] (.bool false)
  | nothing : Denotes ['n', 'u', 'l', 'l'] .none
  | whole {sign digits : List Char} {negative : Bool} : Sign sign negative → digits ≠ [] →
      (∀ c ∈ digits, isDigit c = true) → digits.length ≤ Numeral.digitLimit →
        Denotes (sign ++ digits) (.int (Numeral.signed negative (Numeral.value digits)))
  /-- a number with a point or an exponent -/
  | decimal {core : List Char} {parts : Double.Parts} {number : Double} : Written core parts →
      parts.isWhole = false → Double.read (String.ofList core) = .ok number →
        Denotes core (.float number)
  /-- a quoted text that is spelled as JSON spells one -/
  | quoted {body : List Char} {units : List Nat} : Closes ['"'] body → Spells body units →
      Denotes ('"' :: (body ++ ['"'])) (.text ⟨Text.Encoding.ofUnits16 units⟩)
  /-- a quoted text that JSON does not know, taken as it is -/
  | verbatim {body : List Char} : Closes ['"'] body → (∀ units, ¬ Spells body units) →
      Denotes ('"' :: (body ++ ['"'])) (.text (String.ofList body))

/-- A sign and more digits than can be read. -/
def TooLong (core : List Char) : Prop :=
  ∃ sign digits negative, core = sign ++ digits ∧ Sign sign negative ∧
    (∀ c ∈ digits, isDigit c = true) ∧ Numeral.digitLimit < digits.length

/-! ### Words and numbers -/

theorem value?_unquoted (h : core.head? ≠ some '"') :
    value? (core.map .char) = plainValue? core := by
  have hchars : (CodePoint.chars? (core.map .char)).bind plainValue? = plainValue? core := by
    rw [CodePoint.chars?_map_char, Option.bind_some]
  rw [value?]
  · exact hchars
  · intro rest hrest
    cases core with
    | nil => cases hrest
    | cons c more =>
        obtain rfl := CodePoint.char.inj (List.cons.inj hrest).1
        exact h rfl

theorem value?_of_written {parts : Double.Parts} (h : Written core parts) :
    value? (core.map .char) = some (numberValue core parts) := by
  have hhead : ∀ c rest, core = c :: rest → c ∈ Double.Parts.alphabet := by
    rintro c rest rfl
    exact h.mem_alphabet List.mem_cons_self
  have hother : ∀ c ∉ Double.Parts.alphabet, ∀ rest, core ≠ c :: rest :=
    fun c hc rest hcore => hc (hhead c rest hcore)
  have hquote : core.head? ≠ some '"' := by
    intro hc
    obtain ⟨rest, hcore⟩ := List.head?_eq_some_iff.1 hc
    exact hother '"' (by decide) rest hcore
  rw [value?_unquoted hquote, plainValue?, if_neg (hother 't' (by decide) _),
    if_neg (hother 'f' (by decide) _), if_neg (hother 'n' (by decide) _),
    Double.Parts.read?_eq_some_iff.2 h, Option.map_some]

theorem written_whole {sign digits : List Char} {negative : Bool} (hsign : Sign sign negative)
    (hne : digits ≠ []) (hdigits : ∀ c ∈ digits, isDigit c = true) :
    Written (sign ++ digits) ⟨negative, digits, none, none⟩ := by
  have hwritten := Written.mk hsign hdigits .absent .absent (.inl hne)
  simpa using hwritten

theorem exists_whole {parts : Double.Parts} (h : Written core parts)
    (hwhole : parts.isWhole = true) :
    ∃ sign, core = sign ++ parts.whole ∧ Sign sign parts.negative ∧ parts.whole ≠ [] ∧
      ∀ c ∈ parts.whole, isDigit c = true := by
  obtain ⟨hsign, hdigits, hfraction, hpower, hsome⟩ := h
  simp only [Double.Parts.isWhole, Bool.and_eq_true, Option.isNone_iff_eq_none] at hwhole
  obtain ⟨rfl, rfl⟩ := hwhole
  cases hfraction
  cases hpower
  refine ⟨_, by simp, hsign, ?_, hdigits⟩
  simpa using hsome

/-! ### Quoted texts -/

theorem value?_quoted :
    value? (('"' :: rest).map .char) =
      if closesAtEnd false (rest.map .char) then some (.text (quotedText (('"' :: rest).map .char)))
      else none := rfl

theorem value?_of_closes (h : Closes ['"'] body) :
    value? (('"' :: (body ++ ['"'])).map .char) =
      some (.text (quotedText (('"' :: (body ++ ['"'])).map .char))) := by
  rw [value?_quoted, if_pos (closesAtEnd_quote.2 ⟨body, rfl, h⟩)]

theorem quotedText_of_spells {units : List Nat} (h : Spells body units) :
    quotedText (('"' :: (body ++ ['"'])).map .char) = ⟨Text.Encoding.ofUnits16 units⟩ := by
  rw [quotedText, Json.Quoted.decode?_eq_some_iff.2 ⟨body, units, rfl, h, rfl⟩, Option.getD_some]

theorem quotedText_of_not_spells (h : ∀ units, ¬ Spells body units) :
    quotedText (('"' :: (body ++ ['"'])).map .char) = String.ofList body := by
  have hnone : Json.Quoted.decode? (('"' :: (body ++ ['"'])).map .char) = none := by
    rw [Option.eq_none_iff_forall_ne_some]
    intro text htext
    obtain ⟨other, units, hbody, hspells, -⟩ := Json.Quoted.decode?_eq_some_iff.1 htext
    obtain rfl := List.append_cancel_right hbody
    exact h units hspells
  rw [quotedText, hnone, Option.getD_none, LooseText.ofString_ofList]
  simp

/-! ### All literals -/

theorem value?_of_denotes (h : Denotes core value) : value? (core.map .char) = some value := by
  cases h with
  | truth => rfl
  | falsehood => rfl
  | nothing => rfl
  | whole hsign hne hdigits hlimit =>
      rw [value?_of_written (written_whole hsign hne hdigits)]
      exact congrArg some (if_pos hlimit)
  | decimal hwritten hwhole hread =>
      rw [Double.Parts.read_of_written hwritten] at hread
      obtain rfl := Except.ok.inj hread
      rw [value?_of_written hwritten, numberValue, hwhole]
      rfl
  | quoted hcloses hspells => rw [value?_of_closes hcloses, quotedText_of_spells hspells]
  | verbatim hcloses hspells => rw [value?_of_closes hcloses, quotedText_of_not_spells hspells]

theorem denotes_numberValue {parts : Double.Parts} (h : Written core parts) :
    Denotes core (numberValue core parts) ∨ TooLong core := by
  cases hwhole : parts.isWhole with
  | false =>
      left
      rw [numberValue, hwhole]
      exact .decimal h hwhole (Double.Parts.read_of_written h)
  | true =>
      obtain ⟨sign, hcore, hsign, hne, hdigits⟩ := exists_whole h hwhole
      by_cases hlimit : parts.whole.length ≤ Numeral.digitLimit
      · left
        rw [numberValue, if_pos hwhole, if_pos hlimit, hcore]
        exact .whole hsign hne hdigits hlimit
      · exact .inr ⟨sign, parts.whole, parts.negative, hcore, hsign, hdigits, by omega⟩

theorem denotes_quotedText (h : Closes ['"'] body) :
    Denotes ('"' :: (body ++ ['"']))
      (.text (quotedText (('"' :: (body ++ ['"'])).map .char))) := by
  by_cases hspells : ∃ units, Spells body units
  · obtain ⟨units, hunits⟩ := hspells
    rw [quotedText_of_spells hunits]
    exact .quoted h hunits
  · have hnone : ∀ units, ¬ Spells body units := fun units hunits => hspells ⟨units, hunits⟩
    rw [quotedText_of_not_spells hnone]
    exact .verbatim h hnone

theorem denotes_of_plainValue? (h : plainValue? core = some value) :
    Denotes core value ∨ TooLong core := by
  unfold plainValue? at h
  split at h
  · rename_i hcore
    obtain rfl := Option.some.inj h
    exact .inl (hcore ▸ .truth)
  · split at h
    · rename_i hcore
      obtain rfl := Option.some.inj h
      exact .inl (hcore ▸ .falsehood)
    · split at h
      · rename_i hcore
        obtain rfl := Option.some.inj h
        exact .inl (hcore ▸ .nothing)
      · obtain ⟨parts, hparts, rfl⟩ := Option.map_eq_some_iff.1 h
        exact denotes_numberValue (Double.Parts.read?_eq_some_iff.1 hparts)

/-- Only literals have a value, and texts that are too long to be read as integers. -/
theorem denotes_of_value? (h : value? (core.map .char) = some value) :
    Denotes core value ∨ TooLong core := by
  by_cases hquote : core.head? = some '"'
  · obtain ⟨rest, rfl⟩ := List.head?_eq_some_iff.1 hquote
    rw [value?_quoted] at h
    split at h
    · rename_i hcloses
      obtain rfl := Option.some.inj h
      obtain ⟨body, rfl, hbody⟩ := closesAtEnd_quote.1 hcloses
      exact .inl (denotes_quotedText hbody)
    · cases h
  · rw [value?_unquoted hquote] at h
    exact denotes_of_plainValue? h

/-! ### Arguments -/

theorem trim_map_char (text : List Char) :
    Text.trim isPadding (text.map .char) = (Text.trim Text.isPadding text).map .char := by
  have hblank : isPadding ∘ CodePoint.char = Text.isPadding := rfl
  simp only [Text.trim, List.dropWhile_map, ← List.map_reverse, hblank]

/-- An argument of characters is read as its characters are. -/
theorem read_ofString (text : String) :
    read text =
      (value? ((Text.trim Text.isPadding text.toList).map .char)).getD (.text text) := by
  rw [read, LooseText.codes_ofString, trim_map_char]

/-- An integer with too many digits is kept as a text, but without the white space around it. -/
theorem read_of_tooLong {text : String}
    (h : TooLong (Text.trim Text.isPadding text.toList)) :
    read text = .text (String.ofList (Text.trim Text.isPadding text.toList)) := by
  obtain ⟨sign, digits, negative, hcore, hsign, hdigits, hlimit⟩ := h
  have hne : digits ≠ [] := by
    rintro rfl
    simp at hlimit
  have hwritten := written_whole hsign hne hdigits
  have hvalue : numberValue (sign ++ digits) ⟨negative, digits, none, none⟩ =
      .text (String.ofList (sign ++ digits)) := by
    simp [numberValue, Double.Parts.isWhole, Nat.not_le.2 hlimit]
  rw [read_ofString, hcore, value?_of_written hwritten, hvalue, Option.getD_some]

/-- An argument is read as what its literal denotes, and kept as it is where it is no literal. -/
theorem read_denoted (text : String) :
    let core := Text.trim Text.isPadding text.toList
    (∃ front back, text.toList = front ++ (core ++ back) ∧
        (∀ c ∈ front, Text.isPadding c = true) ∧ (∀ c ∈ back, Text.isPadding c = true) ∧
        (∀ c, core.head? = some c → Text.isPadding c = false) ∧
        ∀ c, core.getLast? = some c → Text.isPadding c = false) ∧
      (∀ value, Denotes core value → read text = value) ∧
      ((∀ value, ¬ Denotes core value) → ¬ TooLong core → read text = .text text) := by
  intro core
  refine ⟨?_, ?_, ?_⟩
  · obtain ⟨front, back, htext, hfront, hback⟩ :=
      Text.exists_trim_append Text.isPadding text.toList
    exact ⟨front, back, htext, hfront, hback, fun c => Text.blank_head_trim _ _,
      fun c => Text.blank_getLast_trim _ _⟩
  · intro value hvalue
    rw [read_ofString, value?_of_denotes hvalue, Option.getD_some]
  · intro hnone hlong
    cases hvalue : value? (core.map .char) with
    | none => rw [read_ofString, hvalue, Option.getD_none]
    | some value =>
        rcases denotes_of_value? hvalue with hdenotes | htoo
        · exact (hnone value hdenotes).elim
        · exact (hlong htoo).elim

/-- An escaped quote does not close a quoted text, and a mark without digits is no exponent. -/
theorem read_denoted_quote :
    Denotes ['"', '\\', '"', '"'] (.text "\"") ∧ read " \"\\\"\" " = .text "\"" ∧
      (∀ value, ¬ Denotes ['1', 'e'] value) ∧ ¬ TooLong ['1', 'e'] ∧
      read " 1e" = .text " 1e" := by
  have hcloses : Closes ['"'] ['\\', '"'] := by
    rw [closes_cons, closes_cons, closes_nil]
    decide
  have hquoted : Denotes ['"', '\\', '"', '"'] (.text "\"") :=
    .quoted hcloses (.short rfl .nil)
  have hnone : ∀ value, ¬ Denotes ['1', 'e'] value := by
    intro value hvalue
    have hread := value?_of_denotes hvalue
    have hrefused : value? (['1', 'e'].map .char) = none := by cbv
    rw [hrefused] at hread
    cases hread
  have hlong : ¬ TooLong ['1', 'e'] := by
    rintro ⟨sign, digits, negative, hcore, -, -, hlimit⟩
    have hlength := congrArg List.length hcore
    simp only [List.length_append, List.length_cons, List.length_nil] at hlength
    have hbound : Numeral.digitLimit = 4300 := rfl
    omega
  exact ⟨hquoted, (read_denoted " \"\\\"\" ").2.1 _ hquoted, hnone, hlong,
    (read_denoted " 1e").2.2 hnone hlong⟩

/-- A quote behind an escaped backslash closes, so this is no literal. -/
example : read "\"a\\\\\"b\" " = .text "\"a\\\\\"b\" " := by cbv

end Positional.Literal
