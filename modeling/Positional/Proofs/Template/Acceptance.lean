import Positional.Proofs.Template.Grammar

/-!
# Texts that are accepted

Parsing accepts the texts that have a derivation, and rejects all others where their legal tokens
end.  What stands there starts with no legal token, and no cut behind that place changes this: the
offset of a rejection is the length of the longest accepted prefix.
-/

namespace Positional.Template

/-! ## The two outcomes of parsing -/

section Outcomes

variable {env : Environment} {text : String} {ceiling : Int} {template : Template} {fault : Fault}

theorem parse_unwritable (env : Environment) (text : String)
    (h : Numeral.isWritable ceiling = false) :
    (parse env text (some ceiling)).result = .error .unwritableInteger := by
  have hceiling : (Reader.ceiling env (some ceiling)).result = .error .unwritableInteger := by
    rw [Reader.ceiling_given, h]
    rfl
  rw [parse_result, Reader.drain_fresh_error hceiling]

theorem isWritable_of_parse_ne
    (h : (parse env text (some ceiling)).result ≠ .error .unwritableInteger) :
    Numeral.isWritable ceiling = true := by
  cases hwritable : Numeral.isWritable ceiling with
  | true => rfl
  | false => exact (h (parse_unwritable env text hwritable)).elim

theorem isWritable_of_parse (h : (parse env text (some ceiling)).result = .ok template) :
    Numeral.isWritable ceiling = true := by
  apply isWritable_of_parse_ne
  rw [h]
  simp

theorem parse_of_drain (env : Environment) (hceiling : Numeral.isWritable ceiling = true)
    {segments : List Segment} (h : drain ceiling ⟨0, text.toList⟩ = ⟨segments, none⟩) :
    (parse env text (some ceiling)).result = .ok ⟨segments⟩ := by
  rw [parse_given env text hceiling, h]

theorem parse_of_fault (env : Environment) (hceiling : Numeral.isWritable ceiling = true)
    (h : (drain ceiling ⟨0, text.toList⟩).fault = some fault) :
    (parse env text (some ceiling)).result = .error fault := by
  rw [parse_eq_error_iff, Reader.drain_fresh_ok (Reader.ceiling_of_isWritable env hceiling)]
  exact h

theorem parse_of_derivation (env : Environment) (hceiling : Numeral.isWritable ceiling = true)
    (d : Derivation ceiling text.toList) :
    (parse env text (some ceiling)).result = .ok ⟨Token.segments 0 d.tokens⟩ :=
  parse_of_drain env hceiling (drain_derivation d)

theorem exists_derivation (h : (parse env text (some ceiling)).result = .ok template) :
    ∃ d : Derivation ceiling text.toList, template = ⟨Token.segments 0 d.tokens⟩ := by
  have hceiling := isWritable_of_parse h
  have hend : (drain ceiling ⟨0, text.toList⟩).fault = none := by
    cases hfault : (drain ceiling ⟨0, text.toList⟩).fault with
    | none => rfl
    | some fault =>
        rw [parse_of_fault env hceiling hfault] at h
        cases h
  obtain ⟨d⟩ := drain_fault_eq_none_iff.1 hend
  rw [parse_of_derivation env hceiling d] at h
  exact ⟨d, (Except.ok.inj h).symm⟩

theorem parse_of_rejected (env : Environment) (hceiling : Numeral.isWritable ceiling = true)
    {tokens : List Token} {rest : List Char}
    (hlegal : ∀ token ∈ tokens, Token.IsLegal ceiling token)
    (htext : text.toList = Token.spellings tokens ++ rest)
    (hrejected : Rejected ceiling (Token.spellings tokens).length rest fault) :
    (parse env text (some ceiling)).result = .error fault := by
  apply parse_of_fault env hceiling
  rw [htext, drain_tokens_rejected hlegal hrejected, emitAll_fault]

theorem exists_rejected (hceiling : Numeral.isWritable ceiling = true)
    (h : (parse env text (some ceiling)).result = .error fault) :
    ∃ tokens rest, (∀ token ∈ tokens, Token.IsLegal ceiling token) ∧
      text.toList = Token.spellings tokens ++ rest ∧
      Rejected ceiling (Token.spellings tokens).length rest fault := by
  rcases derivation_or_rejected ceiling text.toList with
    ⟨⟨d⟩⟩ | ⟨tokens, rest, other, hlegal, htext, hrejected⟩
  · rw [parse_of_derivation env hceiling d] at h
    cases h
  · rw [parse_of_rejected env hceiling hlegal htext hrejected] at h
    obtain rfl := Except.error.inj h
    exact ⟨tokens, rest, hlegal, htext, hrejected⟩

end Outcomes

/-! ## No legal token at the front -/

section Front

variable {ceiling : Int} {offset : Nat} {text : List Char} {fault : Fault}

theorem head?_of_escapeChar_opening {c : Char} {s body : List Char}
    (h : escapeChar c ++ s = '{' :: body) : body.head? = some '{' := by
  unfold escapeChar at h
  grind

theorem head?_of_escapeChar_closing {c : Char} {s rest : List Char}
    (h : escapeChar c ++ s = '}' :: rest) : rest.head? = some '}' := by
  unfold escapeChar at h
  grind

/-- Where a token stands, a single brace at the front belongs to a reference. -/
theorem Token.exists_reference {token : Token} {s body : List Char}
    (h : token.spelling ++ s = '{' :: body) (single : body.head? ≠ some '{') :
    ∃ digits, token = .reference digits ∧ body = digits ++ '}' :: s := by
  cases token with
  | literal c => exact (single (head?_of_escapeChar_opening h)).elim
  | reference digits => exact ⟨digits, rfl, by simpa [Token.spelling] using h.symm⟩

theorem Token.head?_of_closing {token : Token} {s rest : List Char}
    (h : token.spelling ++ s = '}' :: rest) : rest.head? = some '}' := by
  cases token with
  | literal c => exact head?_of_escapeChar_closing h
  | reference digits => simp [Token.spelling] at h

/-- What stops a run of digits is a closing brace only if the run is that of a reference. -/
theorem run_append_inj {run digits rest s : List Char} {found : Char}
    (hrun : ∀ c ∈ run, Numeral.isDigit c = true) (stop : Numeral.isDigit found = false)
    (hdigits : ∀ c ∈ digits, Numeral.isDigit c = true)
    (h : run ++ found :: rest = digits ++ '}' :: s) : run = digits ∧ found = '}' := by
  have hbrace : Numeral.isDigit '}' = false := by decide
  have htake := congrArg (List.takeWhile Numeral.isDigit) h
  have hdrop := congrArg (List.dropWhile Numeral.isDigit) h
  rw [Numeral.takeWhile_run hrun stop, Numeral.takeWhile_run hdigits hbrace] at htake
  rw [Numeral.dropWhile_run hrun stop, Numeral.dropWhile_run hdigits hbrace] at hdrop
  exact ⟨htake, (List.cons.inj hdrop).1⟩

theorem Rejected.not_token (h : Rejected ceiling offset text fault) {token : Token}
    (hlegal : token.IsLegal ceiling) (s : List Char) : token.spelling ++ s ≠ text := by
  intro hfront
  have hbrace : Numeral.isDigit '}' = false := by decide
  cases h with
  | closing single => exact single (Token.head?_of_closing hfront)
  | @unterminated run digits =>
      have single : run.head? ≠ some '{' := by
        intro hhead
        exact absurd (digits '{' (List.mem_of_mem_head? hhead)) (by decide)
      obtain ⟨read, rfl, rfl⟩ := Token.exists_reference hfront single
      exact absurd (digits '}' (List.mem_append_right _ List.mem_cons_self)) (by decide)
  | @missingIndex found rest stop single =>
      have hsingle : (found :: rest).head? ≠ some '{' := by simpa using single
      obtain ⟨read, rfl, hbody⟩ := Token.exists_reference hfront hsingle
      obtain ⟨first, more, rfl⟩ := List.exists_cons_of_ne_nil hlegal.1
      obtain rfl : found = first := (List.cons.inj hbody).1
      rw [hlegal.2.1 found List.mem_cons_self] at stop
      cases stop
  | missingClose nonempty digits stop unclosed =>
      obtain ⟨read, rfl, hbody⟩ :=
        Token.exists_reference hfront (head?_digits_ne nonempty digits (by decide))
      exact unclosed (run_append_inj digits stop hlegal.2.1 hbody).2
  | aboveCeiling nonempty digits above told =>
      obtain ⟨read, rfl, hbody⟩ :=
        Token.exists_reference hfront (head?_digits_ne nonempty digits (by decide))
      obtain ⟨rfl, -⟩ := run_append_inj digits hbrace hlegal.2.1 hbody
      exact Int.not_lt.2 hlegal.2.2.2 above
  | unreadable overlong =>
      obtain ⟨read, rfl, hbody⟩ := Token.exists_reference hfront
        (head?_digits_ne overlong.ne_nil overlong.digits (by decide))
      obtain ⟨rfl, -⟩ := run_append_inj overlong.digits hbrace hlegal.2.1 hbody
      exact Nat.not_lt.2 hlegal.2.2.1 overlong.long

theorem Rejected.ne_nil (h : Rejected ceiling offset text fault) : text ≠ [] := by
  cases h <;> simp

/-- What a cut leaves of a rejected text is rejected, if anything is left: a legal token in it would
be one of the whole text. -/
theorem Rejected.take (h : Rejected ceiling offset text fault) {count : Nat} (hcount : 0 < count) :
    ∃ other, Rejected ceiling offset (text.take count) other := by
  rcases front_cases ceiling offset (text.take count) with
    hempty | ⟨token, rest, hlegal, hfront⟩ | hrejected
  · rcases List.take_eq_nil_iff.1 hempty with hzero | hnil
    · omega
    · exact (h.ne_nil hnil).elim
  · have hwhole : token.spelling ++ (rest ++ text.drop count) = text := by
      rw [← List.append_assoc, ← hfront, List.take_append_drop]
    exact (h.not_token hlegal _ hwhole).elim
  · exact hrejected

/-- A format error of a rejected text is told by the brace that the text starts with. -/
theorem Rejected.format_cases {error : FormatError}
    (h : Rejected ceiling offset text (.format error)) :
    (text.head? = some '}' ∧ error = .unmatchedClosingBrace (some offset)) ∨
      (text.head? = some '{' ∧ ∃ flaw, error = .malformed flaw (some offset)) := by
  cases h with
  | closing single => exact .inl ⟨rfl, rfl⟩
  | unterminated digits => exact .inr ⟨rfl, _, rfl⟩
  | missingIndex stop single => exact .inr ⟨rfl, _, rfl⟩
  | missingClose nonempty digits stop unclosed => exact .inr ⟨rfl, _, rfl⟩
  | aboveCeiling nonempty digits above told => exact .inr ⟨rfl, _, rfl⟩

end Front

/-! ## The longest accepted prefix -/

def cut (text : String) (count : Nat) : String :=
  String.ofList (text.toList.take count)

@[simp] theorem cut_toList (text : String) (count : Nat) :
    (cut text count).toList = text.toList.take count := by
  simp [cut]

/-- A format error stands behind the longest prefix that is accepted, and its kind is told by the
brace that stands there. -/
theorem parse_error_longest_accepted (env : Environment) (text : String) {ceiling : Int}
    {error : FormatError}
    (h : (parse env text (some ceiling)).result = .error (.format error)) :
    ∃ position : Nat, error.position = some (position : Int) ∧ position < text.length ∧
      (∃ template, (parse env (cut text position) (some ceiling)).result = .ok template) ∧
      (∀ count, position < count → ∀ template,
        (parse env (cut text count) (some ceiling)).result ≠ .ok template) ∧
      ((text.toList[position]? = some '}' ∧ error = .unmatchedClosingBrace (some position)) ∨
        (text.toList[position]? = some '{' ∧
          ∃ flaw, error = .malformed flaw (some position))) := by
  have hceiling : Numeral.isWritable ceiling = true := by
    apply isWritable_of_parse_ne
    rw [h]
    simp
  obtain ⟨tokens, rest, hlegal, htext, hrejected⟩ := exists_rejected hceiling h
  have hcases := hrejected.format_cases
  generalize hposition : (Token.spellings tokens).length = position at hrejected hcases
  refine ⟨position, ?_, ?_, ?_, ?_, ?_⟩
  · rcases hcases with ⟨-, rfl⟩ | ⟨-, flaw, rfl⟩ <;> rfl
  · have hrest := List.length_pos_iff.2 hrejected.ne_nil
    rw [← String.length_toList, htext, List.length_append]
    omega
  · have hcut : Token.spellings tokens = (cut text position).toList := by
      rw [cut_toList, htext, ← hposition, List.take_left]
    exact ⟨_, parse_of_derivation env hceiling ⟨tokens, hcut, hlegal⟩⟩
  · intro count hcount template haccepted
    obtain ⟨other, hother⟩ := hrejected.take (Nat.sub_pos_of_lt hcount)
    have hcut : (cut text count).toList =
        Token.spellings tokens ++ rest.take (count - position) := by
      rw [cut_toList, htext, List.take_append, hposition, List.take_of_length_le (by omega)]
    rw [← hposition] at hother
    rw [parse_of_rejected env hceiling hlegal (by rw [hcut, hposition]) hother] at haccepted
    cases haccepted
  · have hbrace : text.toList[position]? = rest.head? := by
      rw [htext, List.getElem?_append_right (by omega), hposition, Nat.sub_self,
        List.head?_eq_getElem?]
    rw [hbrace]
    exact hcases

/-- The doubled brace is accepted, the single one behind it is not, with or without its digits. -/
theorem parse_error_longest_accepted_digits :
    (parse .empty "a\x7b\x7b\x7b12" (some 9)).result =
        .error (.format (.malformed .unterminated (some 3))) ∧
      (∃ template, (parse .empty "a\x7b\x7b" (some 9)).result = .ok template) ∧
      ∀ count, 3 < count → ∀ template,
        (parse .empty (cut "a\x7b\x7b\x7b12" count) (some 9)).result ≠ .ok template := by
  have hceiling : Numeral.isWritable 9 = true := by decide +kernel
  have hrejected : Rejected 9 (Token.spellings [.literal 'a', .literal '{']).length
      ['{', '1', '2'] (malformed .unterminated (3 : Nat)) :=
    .unterminated (List.all_eq_true.1 rfl)
  have hlegal : ∀ token ∈ [Token.literal 'a', .literal '{'], token.IsLegal 9 := by
    intro token hmem
    rcases List.mem_pair.1 hmem with rfl | rfl <;> trivial
  have herror : (parse .empty "a\x7b\x7b\x7b12" (some 9)).result =
      .error (.format (.malformed .unterminated (some 3))) :=
    parse_of_rejected .empty hceiling hlegal (by decide) hrejected
  obtain ⟨position, hposition, -, haccepted, hlonger, -⟩ :=
    parse_error_longest_accepted .empty _ herror
  obtain rfl : 3 = position := Int.natCast_inj.1 (Option.some.inj hposition)
  exact ⟨herror, haccepted, hlonger⟩

end Positional.Template
