import Positional.Proofs.Feature.Handler
import Positional.Proofs.Json.Written
import Positional.Proofs.Literal.Forms

/-!
# Texts that are passed in quotes

The scan for the closing quote and the reader of what is quoted go over a JSON text independently.
Every backslash of a form has the character behind it, so the scan stops at no quote of the form and
closes at the one after it.  A text in any of its forms, with white space around it, is therefore
read as the text itself, and a template is formatted with it as with the text.
-/

namespace Positional

namespace Literal

open Json.Quoted (FourDigits Spells Writes hexValue?)

/-! ## Closing behind what is spelled -/

variable {body : List Char} {rest : List CodePoint} {units : List Nat} {c : Char}

theorem closesAtEnd_plain (escaped : Bool) (hbackslash : c ≠ '\\') (hquote : c ≠ '"')
    (hbreak : c ≠ '\n') : closesAtEnd escaped (.char c :: rest) = closesAtEnd false rest := by
  rw [closesAtEnd_other escaped hbackslash fun hc => (hquote hc).elim]
  simp [hquote, hbreak]

theorem closesAtEnd_escaped (hbreak : c ≠ '\n') (hne : rest ≠ []) :
    closesAtEnd false (.char '\\' :: .char c :: rest) = closesAtEnd false rest := by
  rw [closesAtEnd_backslash]
  by_cases hbackslash : c = '\\'
  · subst hbackslash
    exact closesAtEnd_backslash true rest
  · rw [closesAtEnd_other _ hbackslash fun _ => hne]
    simp [hbreak]

theorem closesAtEnd_hexDigit {value : Nat} (h : hexValue? c = some value) :
    closesAtEnd false (.char c :: rest) = closesAtEnd false rest := by
  apply closesAtEnd_plain <;> rintro rfl <;> cases h

theorem closesAtEnd_digits {digits : List Char} {unit : Nat} (h : FourDigits digits unit) :
    closesAtEnd false (digits.map .char ++ rest) = closesAtEnd false rest := by
  obtain ⟨ha, hb, hc, hd⟩ := h
  simp only [List.map_cons, List.map_nil, List.cons_append, List.nil_append]
  rw [closesAtEnd_hexDigit ha, closesAtEnd_hexDigit hb, closesAtEnd_hexDigit hc,
    closesAtEnd_hexDigit hd]

/-- The scan closes behind what is spelled, and not before. -/
theorem closesAtEnd_of_spells (h : Spells body units) :
    closesAtEnd false ((body ++ ['"']).map .char) = true := by
  rw [List.map_append]
  -- behind each character that is spelled, the scan is back where no backslash is pending
  induction h with
  | nil => rfl
  | @plain c rest units hcontrol hquote hbackslash _ ih =>
      have hbreak : c ≠ '\n' := by
        rintro rfl
        exact absurd hcontrol (by decide)
      rw [List.map_cons, List.cons_append, closesAtEnd_plain false hbackslash hquote hbreak, ih]
  | @short c shown rest units hshort _ ih =>
      have hbreak : c ≠ '\n' := by
        rintro rfl
        cases hshort
      rw [List.map_cons, List.map_cons, List.cons_append, List.cons_append,
        closesAtEnd_escaped hbreak (by simp), ih]
  | @unit digits rest unit units hdigits _ ih =>
      rw [List.map_cons, List.map_cons, List.map_append, List.cons_append, List.cons_append,
        closesAtEnd_escaped (by decide) (by simp), List.append_assoc, closesAtEnd_digits hdigits,
        ih]

theorem value?_of_spells (h : Spells body units) :
    value? (('"' :: (body ++ ['"'])).map .char) =
      some (.text ⟨Text.Encoding.ofUnits16 units⟩) := by
  rw [value?_quoted, if_pos (closesAtEnd_of_spells h), quotedText_of_spells h]

/-! ## Texts in quotes -/

/-- Whether an argument is a JSON text for the given text, with white space around it. -/
def Quotes (written text : String) : Prop :=
  ∃ front body back, written.toList = front ++ ('"' :: (body ++ ['"']) ++ back) ∧
    (∀ c ∈ front ++ back, c ∈ [' ', '\t', '\x0c', '\r', '\n']) ∧ Writes body text.toList

theorem isPadding_of_mem {c : Char} (h : c ∈ [' ', '\t', '\x0c', '\r', '\n']) :
    Text.isPadding c = true := by
  simpa [Text.isPadding, or_assoc] using h

theorem read_of_quotes {written text : String} (h : Quotes written text) :
    read written = .text text := by
  obtain ⟨front, body, back, hwritten, hblank, hbody⟩ := h
  obtain ⟨units, hunits, htext⟩ := hbody.exists_spells
  have htrim : Text.trim Text.isPadding written.toList = '"' :: (body ++ ['"']) := by
    rw [hwritten]
    refine Text.trim_append (by simp) rfl ?_
      (fun c hc => isPadding_of_mem (hblank c (List.mem_append_left _ hc)))
      (fun c hc => isPadding_of_mem (hblank c (List.mem_append_right _ hc)))
    rw [← List.cons_append, List.getLast?_concat]
    decide
  rw [read_ofString, htrim, value?_of_spells hunits, htext, Option.getD_some]
  rfl

theorem quotes_printed (text : String) :
    Quotes (String.ofList ('"' :: text.toList.flatMap Json.Printer.character ++ ['"'])) text :=
  ⟨[], _, [], by simp, by simp, Json.Quoted.writes_printed text.toList⟩

theorem readAll_of_quotes {written texts : List String} (h : List.Forall₂ Quotes written texts) :
    readAll (written.map Value.ofString) = texts.map Value.ofString := by
  induction h with
  | nil => rfl
  | @cons written text _ _ hfirst _ ih =>
      have htext : Value.ofString text = read written := (read_of_quotes hfirst).symm
      rw [List.map_cons, List.map_cons, ← ih, htext]
      rfl

end Literal

namespace Handler

/-- Every text has a JSON text, an argument that is one is read as what it denotes, and a call of
the format handler with such arguments, read as literals, is answered and logged as one with the
texts themselves. -/
theorem format_quotes :
    (∀ text, ∃ written, Literal.Quotes written text) ∧
      (∀ written text, Literal.Quotes written text → Literal.read written = .text text) ∧
      ∀ (env : Environment) (template : String) (written texts : List String),
        List.Forall₂ Literal.Quotes written texts →
          format env (.ofFormat template (written.map Value.ofString) true) =
            format env (.ofFormat template (texts.map Value.ofString) false) := by
  refine ⟨fun text => ⟨_, Literal.quotes_printed text⟩, fun written text =>
    Literal.read_of_quotes, ?_⟩
  intro env template written texts h
  rw [format_ofFormat, format_ofFormat]
  exact congrArg (formatValues env template) (Literal.readAll_of_quotes h)

/-- A surrogate pair, and three backslashes in front of a quote that is not the closing one. -/
theorem format_quotes_pair :
    List.Forall₂ Literal.Quotes ["\t\"\\ud83d\\uDE00\\\\\\\"\" "] ["😀\\\""] ∧
      Literal.read "\t\"\\ud83d\\uDE00\\\\\\\"\" " = .text "😀\\\"" ∧
      format .empty
          (.ofFormat "\x7b0\x7d" (["\t\"\\ud83d\\uDE00\\\\\\\"\" "].map Value.ofString) true) =
        format .empty (.ofFormat "\x7b0\x7d" (["😀\\\""].map Value.ofString) false) := by
  have hhigh : Json.Quoted.Codes ['d', '8', '3', 'd'] 0xD83D :=
    .mk (i := 13) (j := 8) (k := 3) (l := 13) (.inl rfl) (.inl rfl) (.inl rfl) (.inl rfl)
  have hlow : Json.Quoted.Codes ['D', 'E', '0', '0'] 0xDE00 :=
    .mk (i := 13) (j := 14) (k := 0) (l := 0) (.inr rfl) (.inr rfl) (.inl rfl) (.inl rfl)
  have hbody : Json.Quoted.Writes
      ['\\', 'u', 'd', '8', '3', 'd', '\\', 'u', 'D', 'E', '0', '0', '\\', '\\', '\\', '"']
      ['😀', '\\', '"'] :=
    .pair hhigh hlow (by decide) (by decide) (by decide) (by decide) (by decide)
      (.short (by decide) (.short (by decide) .nil))
  have hquotes : Literal.Quotes "\t\"\\ud83d\\uDE00\\\\\\\"\" " "😀\\\"" :=
    ⟨['\t'], _, [' '], by decide, by simp, hbody⟩
  exact ⟨.cons hquotes .nil, format_quotes.2.1 _ _ hquotes,
    format_quotes.2.2 .empty _ _ _ (.cons hquotes .nil)⟩

end Handler

end Positional
