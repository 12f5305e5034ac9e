import Positional.Proofs.Numeral
import Positional.Proofs.Template.NormalForm

/-!
# Tokens of a template

A template is a sequence of tokens: characters of literal text, braces among them doubled, and
references to arguments.  No legal token starts another one, so a text is spelled by at most one
sequence of legal tokens, and the segments that it stands for can be read off that sequence.
-/

namespace Positional.Template

/-- A piece of template text that stands for one thing. -/
inductive Token where
  /-- a character of literal text, written twice if it is a brace -/
  | literal (c : Char)
  /-- a run of digits between single braces -/
  | reference (digits : List Char)
deriving DecidableEq

namespace Token

def spelling : Token → List Char
  | literal c => escapeChar c
  | reference digits => '{' :: (digits ++ ['}'])

def spellings (tokens : List Token) : List Char :=
  tokens.flatMap spelling

/-- Whether a token may stand in a template with the given largest index.  Every character may; a
reference needs one digit at least, no more than can be read, and a value up to that index. -/
def IsLegal (ceiling : Int) : Token → Prop
  | literal _ => True
  | reference digits =>
    digits ≠ [] ∧ (∀ c ∈ digits, Numeral.isDigit c = true) ∧
      digits.length ≤ Numeral.digitLimit ∧ (Numeral.value digits : Int) ≤ ceiling

def character? : Token → Option Char
  | literal c => some c
  | reference _ => none

def isLiteral (token : Token) : Bool :=
  token.character?.isSome

def literalText (tokens : List Token) : String :=
  String.ofList (tokens.filterMap character?)

/-- The segments that tokens stand for, the first of them at the given offset.  A reference is a
placeholder at the offset of its opening brace, a maximal run of other tokens is one literal. -/
def segments (offset : Nat) : List Token → List Segment
  | [] => []
  | reference digits :: rest =>
    .placeholder (Numeral.value digits) (some offset) ::
      segments (offset + (reference digits).spelling.length) rest
  | literal c :: rest =>
    let run := literal c :: rest.takeWhile isLiteral
    .literal (literalText run) ::
      segments (offset + (spellings run).length) (rest.dropWhile isLiteral)
termination_by tokens => tokens.length
decreasing_by
  · simp
  · have hle := (List.dropWhile_sublist (p := isLiteral) (l := rest)).length_le
    simp only [List.length_cons]
    omega

/-! ## Spelling -/

@[simp] theorem spellings_nil : spellings [] = [] := rfl

@[simp] theorem spellings_cons (token : Token) (tokens : List Token) :
    spellings (token :: tokens) = token.spelling ++ spellings tokens := rfl

@[simp] theorem spellings_append (a b : List Token) :
    spellings (a ++ b) = spellings a ++ spellings b := by
  simp [spellings]

theorem escapeChar_ne_nil (c : Char) : escapeChar c ≠ [] := by
  unfold escapeChar
  split
  · simp
  · split <;> simp

theorem spelling_ne_nil (token : Token) : token.spelling ≠ [] := by
  cases token with
  | literal c => exact escapeChar_ne_nil c
  | reference digits => simp [spelling]

/-! ## Segments -/

@[simp] theorem segments_nil (offset : Nat) : segments offset [] = [] := by
  rw [segments]

@[simp] theorem segments_reference (offset : Nat) (digits : List Char) (rest : List Token) :
    segments offset (reference digits :: rest) =
      .placeholder (Numeral.value digits) (some offset) ::
        segments (offset + (reference digits).spelling.length) rest := by
  rw [segments]

@[simp] theorem isLiteral_literal (c : Char) : (literal c).isLiteral = true := rfl

@[simp] theorem isLiteral_reference (digits : List Char) :
    (reference digits).isLiteral = false := rfl

theorem literalText_cons (c : Char) (tokens : List Token) :
    literalText (literal c :: tokens) = String.singleton c ++ literalText tokens := by
  rw [literalText, literalText, String.singleton_eq_ofList, ← String.ofList_append]
  rfl

/-- A token of literal text joins the literal that follows it, or is one of its own. -/
@[simp] theorem segments_literal (offset : Nat) (c : Char) (rest : List Token) :
    segments offset (literal c :: rest) =
      Segment.joinLiteral (String.singleton c)
        (segments (offset + (literal c).spelling.length) rest) := by
  rw [segments]
  cases rest with
  | nil => simp [Segment.joinLiteral, literalText, character?]
  | cons next rest =>
      cases next with
      | literal d =>
          rw [segments.eq_def (offset + (literal c).spelling.length)]
          simp only [List.takeWhile_cons_of_pos (isLiteral_literal d),
            List.dropWhile_cons_of_pos (isLiteral_literal d), spellings_cons, List.length_append,
            Segment.joinLiteral_literal, literalText_cons c, Nat.add_assoc]
      | reference digits =>
          simp [Segment.joinLiteral, literalText, character?]

/-! ## Unique derivations -/

theorem literal_append_inj {c d : Char} {s t : List Char}
    (h : escapeChar c ++ s = escapeChar d ++ t) : c = d ∧ s = t := by
  unfold escapeChar at h
  grind

/-- Literal text does not start with a single opening brace and a digit. -/
theorem literal_append_ne {c d : Char} {s t : List Char} (hd : Numeral.isDigit d = true) :
    escapeChar c ++ s ≠ '{' :: d :: t := by
  intro h
  have hopening : d ≠ '{' := by
    rintro rfl
    exact absurd hd (by decide)
  unfold escapeChar at h
  grind

theorem reference_append_inj {digits others s t : List Char}
    (hdigits : ∀ c ∈ digits, Numeral.isDigit c = true)
    (hothers : ∀ c ∈ others, Numeral.isDigit c = true)
    (h : digits ++ '}' :: s = others ++ '}' :: t) : digits = others ∧ s = t := by
  have htake := congrArg (List.takeWhile Numeral.isDigit) h
  have hdrop := congrArg (List.dropWhile Numeral.isDigit) h
  rw [Numeral.takeWhile_run hdigits (by decide), Numeral.takeWhile_run hothers (by decide)] at htake
  rw [Numeral.dropWhile_run hdigits (by decide), Numeral.dropWhile_run hothers (by decide)] at hdrop
  exact ⟨htake, (List.cons.inj hdrop).2⟩

/-- Where two texts that start with legal tokens agree, the tokens do. -/
theorem spelling_append_inj {ceiling : Int} {a b : Token} {s t : List Char}
    (ha : a.IsLegal ceiling) (hb : b.IsLegal ceiling)
    (h : a.spelling ++ s = b.spelling ++ t) : a = b ∧ s = t := by
  have hmixed : ∀ {c : Char} {digits u v : List Char}, (reference digits).IsLegal ceiling →
      escapeChar c ++ u ≠ (reference digits).spelling ++ v := by
    intro c digits u v hlegal
    obtain ⟨hne, hdigits, -⟩ := hlegal
    obtain ⟨d, rest, rfl⟩ := List.exists_cons_of_ne_nil hne
    simpa [spelling] using literal_append_ne (hdigits d List.mem_cons_self)
  cases a with
  | literal c =>
      cases b with
      | literal d =>
          obtain ⟨rfl, rfl⟩ := literal_append_inj h
          exact ⟨rfl, rfl⟩
      | reference digits => exact (hmixed hb h).elim
  | reference digits =>
      cases b with
      | literal d => exact (hmixed ha h.symm).elim
      | reference others =>
          have hbody : digits ++ '}' :: s = others ++ '}' :: t := by
            simpa [spelling] using h
          obtain ⟨rfl, rfl⟩ := reference_append_inj ha.2.1 hb.2.1 hbody
          exact ⟨rfl, rfl⟩

theorem spellings_inj {ceiling : Int} {a b : List Token}
    (ha : ∀ token ∈ a, token.IsLegal ceiling) (hb : ∀ token ∈ b, token.IsLegal ceiling)
    (h : spellings a = spellings b) : a = b := by
  induction a generalizing b with
  | nil =>
      cases b with
      | nil => rfl
      | cons second others => simp [spelling_ne_nil] at h
  | cons first rest ih =>
      cases b with
      | nil => simp [spelling_ne_nil] at h
      | cons second others =>
          obtain ⟨rfl, hrest⟩ := spelling_append_inj (ha first List.mem_cons_self)
            (hb second List.mem_cons_self) h
          rw [ih (fun token hmem => ha token (List.mem_cons_of_mem _ hmem))
            (fun token hmem => hb token (List.mem_cons_of_mem _ hmem)) hrest]

end Token

/-- How a text is made of legal tokens. -/
structure Derivation (ceiling : Int) (text : List Char) where
  tokens : List Token
  spelled : Token.spellings tokens = text
  legal : ∀ token ∈ tokens, token.IsLegal ceiling

/-- A text has one derivation at most. -/
theorem Derivation.unique {ceiling : Int} {text : List Char} (d e : Derivation ceiling text) :
    d = e := by
  obtain ⟨tokens, spelled, legal⟩ := d
  obtain ⟨others, spelled', legal'⟩ := e
  obtain rfl := Token.spellings_inj legal legal' (spelled.trans spelled'.symm)
  rfl

end Positional.Template
