import Positional.Proofs.Template.Scan

/-!
# What a scan comes to

A text that is not empty starts with a legal token, or is rejected for one of six causes.  So every
text is a sequence of legal tokens followed by nothing or by a rejected text, and its listing is
that of the tokens in front of the end or of the fault.
-/

namespace Positional.Template

/-- A text at the given offset that starts with no legal token, and the fault it is rejected
with. -/
inductive Rejected (ceiling : Int) (offset : Nat) : List Char → Fault → Prop
  /-- a closing brace that is not doubled -/
  | closing {rest : List Char} (single : rest.head? ≠ some '}') :
    Rejected ceiling offset ('}' :: rest) (.format (.unmatchedClosingBrace (some offset)))
  /-- nothing but digits comes after an opening brace -/
  | unterminated {run : List Char} (digits : ∀ c ∈ run, Numeral.isDigit c = true) :
    Rejected ceiling offset ('{' :: run) (malformed .unterminated offset)
  /-- an opening brace is followed by neither a digit nor another one -/
  | missingIndex {found : Char} {rest : List Char} (stop : Numeral.isDigit found = false)
    (single : found ≠ '{') :
    Rejected ceiling offset ('{' :: found :: rest) (malformed (.missingIndex found) offset)
  /-- the digits after an opening brace are not followed by a closing one -/
  | missingClose {run rest : List Char} {found : Char} (nonempty : run ≠ [])
    (digits : ∀ c ∈ run, Numeral.isDigit c = true) (stop : Numeral.isDigit found = false)
    (unclosed : found ≠ '}') :
    Rejected ceiling offset ('{' :: (run ++ found :: rest))
      (malformed (.missingClose found) offset)
  /-- the digits between braces denote too large a number, which is told from their value or, where
  they are too many to be read, from how many of them are significant -/
  | aboveCeiling {run rest : List Char} (nonempty : run ≠ [])
    (digits : ∀ c ∈ run, Numeral.isDigit c = true) (above : ceiling < Numeral.value run)
    (told : run.length ≤ Numeral.digitLimit ∨
      (Numeral.text ceiling).length < (Numeral.significant run).length) :
    Rejected ceiling offset ('{' :: (run ++ '}' :: rest))
      (malformed (.aboveCeiling ceiling) offset)
  /-- the digits between braces are too many to be read, though few of them are significant -/
  | unreadable {run rest : List Char} (overlong : IsOverlong ceiling run) :
    Rejected ceiling offset ('{' :: (run ++ '}' :: rest)) (.unreadableInteger run.length)

/-- The listing of tokens from the given offset on, in front of what follows them. -/
def Token.emitAll (offset : Nat) (following : Listing) : List Token → Listing
  | [] => following
  | token :: rest =>
    token.emit offset (emitAll (offset + token.spelling.length) following rest)

variable {ceiling : Int} {offset : Nat} {text : List Char} {fault : Fault}

theorem drain_rejected (h : Rejected ceiling offset text fault) :
    drain ceiling ⟨offset, text⟩ = ⟨[], some fault⟩ := by
  cases h with
  | closing single => exact drain_closing single
  | unterminated digits =>
      refine drain_opening_error ?_ (readReference_unterminated digits)
      intro hhead
      exact absurd (digits '{' (List.mem_of_mem_head? hhead)) (by decide)
  | missingIndex stop single =>
      exact drain_opening_error (by simpa using single) (readReference_missingIndex stop)
  | missingClose nonempty digits stop unclosed =>
      exact drain_opening_error (head?_digits_ne nonempty digits (by decide))
        (readReference_missingClose nonempty digits stop unclosed)
  | aboveCeiling nonempty digits above told =>
      exact drain_opening_error (head?_digits_ne nonempty digits (by decide))
        (readReference_aboveCeiling nonempty digits above told)
  | unreadable overlong =>
      exact drain_opening_error (head?_digits_ne overlong.ne_nil overlong.digits (by decide))
        (readReference_unreadable overlong)

/-! ## The front of a text -/

theorem front_closed (ceiling : Int) (offset : Nat) (rest : List Char) {run : List Char}
    (nonempty : run ≠ []) (digits : ∀ c ∈ run, Numeral.isDigit c = true) :
    (Token.reference run).IsLegal ceiling ∨
      ∃ fault, Rejected ceiling offset ('{' :: (run ++ '}' :: rest)) fault := by
  by_cases hlimit : run.length ≤ Numeral.digitLimit
  · by_cases habove : ceiling < Numeral.value run
    · exact .inr ⟨_, .aboveCeiling nonempty digits habove (.inl hlimit)⟩
    · exact .inl ⟨nonempty, digits, hlimit, by omega⟩
  · by_cases hwidth : (Numeral.text ceiling).length < (Numeral.significant run).length
    · have habove := Numeral.lt_value_of_text_length_lt digits hwidth
      exact .inr ⟨_, .aboveCeiling nonempty digits habove (.inr hwidth)⟩
    · exact .inr ⟨_, .unreadable ⟨digits, by omega, by omega⟩⟩

/-- An opening brace that is not doubled starts a legal reference or is rejected. -/
theorem front_opening (ceiling : Int) (offset : Nat) {body : List Char}
    (single : body.head? ≠ some '{') :
    (∃ run rest, (Token.reference run).IsLegal ceiling ∧ body = run ++ '}' :: rest) ∨
      ∃ fault, Rejected ceiling offset ('{' :: body) fault := by
  have hsplit := List.takeWhile_append_dropWhile (p := Numeral.isDigit) (l := body)
  have hdigits : ∀ c ∈ body.takeWhile Numeral.isDigit, Numeral.isDigit c = true :=
    List.all_eq_true.1 List.all_takeWhile
  generalize body.takeWhile Numeral.isDigit = run at hsplit hdigits
  cases hrest : body.dropWhile Numeral.isDigit with
  | nil =>
      rw [hrest, List.append_nil] at hsplit
      subst hsplit
      exact .inr ⟨_, .unterminated hdigits⟩
  | cons found rest =>
      have hstop : Numeral.isDigit found = false := by
        have hhead := List.head?_dropWhile_not Numeral.isDigit body
        rw [hrest] at hhead
        simpa using hhead
      rw [hrest] at hsplit
      subst hsplit
      by_cases hne : run = []
      · subst hne
        exact .inr ⟨_, .missingIndex hstop (by simpa using single)⟩
      · by_cases hclose : found = '}'
        · subst hclose
          rcases front_closed ceiling offset rest hne hdigits with hlegal | hrejected
          · exact .inl ⟨run, rest, hlegal, rfl⟩
          · exact .inr hrejected
        · exact .inr ⟨_, .missingClose hne hdigits hstop hclose⟩

theorem front_cases (ceiling : Int) (offset : Nat) (text : List Char) :
    text = [] ∨ (∃ token rest, Token.IsLegal ceiling token ∧ text = token.spelling ++ rest) ∨
      ∃ fault, Rejected ceiling offset text fault := by
  cases text with
  | nil => exact .inl rfl
  | cons c rest =>
      right
      by_cases hopening : c = '{'
      · subst hopening
        by_cases hdouble : rest.head? = some '{'
        · obtain ⟨more, rfl⟩ := List.head?_eq_some_iff.1 hdouble
          exact .inl ⟨.literal '{', more, trivial, rfl⟩
        · rcases front_opening ceiling offset hdouble with
            ⟨run, more, hlegal, rfl⟩ | hrejected
          · exact .inl ⟨.reference run, more, hlegal, by simp [Token.spelling]⟩
          · exact .inr hrejected
      · by_cases hclosing : c = '}'
        · subst hclosing
          by_cases hdouble : rest.head? = some '}'
          · obtain ⟨more, rfl⟩ := List.head?_eq_some_iff.1 hdouble
            exact .inl ⟨.literal '}', more, trivial, rfl⟩
          · exact .inr ⟨_, .closing hdouble⟩
        · refine .inl ⟨.literal c, rest, trivial, ?_⟩
          simp [Token.spelling, escapeChar, hopening, hclosing]

/-! ## Whole texts -/

theorem drain_tokens {tokens : List Token} {rest : List Char}
    (hlegal : ∀ token ∈ tokens, token.IsLegal ceiling) :
    drain ceiling ⟨offset, Token.spellings tokens ++ rest⟩ =
      Token.emitAll offset
        (drain ceiling ⟨offset + (Token.spellings tokens).length, rest⟩) tokens := by
  induction tokens generalizing offset with
  | nil => simp [Token.emitAll]
  | cons token tokens ih =>
      rw [Token.spellings_cons, List.append_assoc, drain_token (hlegal token List.mem_cons_self),
        ih fun other hmem => hlegal other (List.mem_cons_of_mem token hmem)]
      simp [Token.emitAll, Nat.add_assoc]

theorem emitAll_done (offset : Nat) (tokens : List Token) :
    Token.emitAll offset ⟨[], none⟩ tokens = ⟨Token.segments offset tokens, none⟩ := by
  induction tokens generalizing offset with
  | nil => simp [Token.emitAll]
  | cons token tokens ih =>
      rw [Token.emitAll, ih]
      cases token <;> simp [Token.emit]

theorem emitAll_fault (offset : Nat) (following : Listing) (tokens : List Token) :
    (Token.emitAll offset following tokens).fault = following.fault := by
  induction tokens generalizing offset with
  | nil => rfl
  | cons token tokens ih =>
      have hprepend : ∀ (text : String) (listing : Listing),
          (listing.prepend text).fault = listing.fault := by
        rintro text ⟨segments, fault⟩
        cases segments <;> cases fault <;> simp
      cases token with
      | literal c => rw [Token.emitAll, Token.emit, hprepend, ih]
      | reference digits => rw [Token.emitAll, Token.emit, ih]

/-- Every text is legal tokens followed by nothing or by a rejected text. -/
theorem exists_tokens (ceiling : Int) (offset : Nat) (text : List Char) :
    ∃ tokens rest, (∀ token ∈ tokens, Token.IsLegal ceiling token) ∧
      text = Token.spellings tokens ++ rest ∧
      (rest = [] ∨
        ∃ fault, Rejected ceiling (offset + (Token.spellings tokens).length) rest fault) := by
  induction hlength : text.length using Nat.strongRecOn generalizing text offset with
  | ind length ih =>
      rcases front_cases ceiling offset text with rfl | ⟨token, more, hlegal, rfl⟩ | hrejected
      · exact ⟨[], [], by simp, rfl, .inl rfl⟩
      · have hshorter : more.length < length := by
          have hpos := List.length_pos_iff.2 (Token.spelling_ne_nil token)
          rw [← hlength, List.length_append]
          omega
        obtain ⟨tokens, rest, htokens, rfl, hrest⟩ :=
          ih more.length hshorter (offset + token.spelling.length) more rfl
        refine ⟨token :: tokens, rest, ?_, by simp, ?_⟩
        · intro other hmem
          rcases List.mem_cons.1 hmem with rfl | hmem
          · exact hlegal
          · exact htokens other hmem
        · simpa [Nat.add_assoc] using hrest
      · exact ⟨[], text, by simp, rfl, .inr (by simpa using hrejected)⟩

end Positional.Template
