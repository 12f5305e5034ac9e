import Positional.Proofs.Template.Reader
import Positional.Proofs.Template.Rejection

/-!
# The grammar of templates

A text is accepted exactly if it has a derivation, that is if it is spelled by legal tokens.  The
derivation is unique and fixes the segments.
-/

namespace Positional.Template

attribute [local instance (high)] instPowNat

variable {ceiling : Int} {text : List Char}

/-- A text without a derivation is rejected where its legal tokens end. -/
theorem derivation_or_rejected (ceiling : Int) (text : List Char) :
    Nonempty (Derivation ceiling text) ∨
      ∃ tokens rest fault, (∀ token ∈ tokens, Token.IsLegal ceiling token) ∧
        text = Token.spellings tokens ++ rest ∧
        Rejected ceiling (Token.spellings tokens).length rest fault := by
  obtain ⟨tokens, rest, hlegal, rfl, hrest⟩ := exists_tokens ceiling 0 text
  rcases hrest with rfl | ⟨fault, hrejected⟩
  · exact .inl ⟨⟨tokens, by simp, hlegal⟩⟩
  · exact .inr ⟨tokens, rest, fault, hlegal, rfl, by simpa using hrejected⟩

theorem drain_derivation (d : Derivation ceiling text) :
    drain ceiling ⟨0, text⟩ = ⟨Token.segments 0 d.tokens, none⟩ := by
  have hdrain : drain ceiling ⟨0, Token.spellings d.tokens ++ []⟩ =
      Token.emitAll 0 (drain ceiling ⟨0 + (Token.spellings d.tokens).length, []⟩) d.tokens :=
    drain_tokens d.legal
  rw [List.append_nil, d.spelled, drain_nil, emitAll_done] at hdrain
  exact hdrain

theorem drain_tokens_rejected {tokens : List Token} {rest : List Char} {fault : Fault}
    (hlegal : ∀ token ∈ tokens, Token.IsLegal ceiling token)
    (hrejected : Rejected ceiling (Token.spellings tokens).length rest fault) :
    drain ceiling ⟨0, Token.spellings tokens ++ rest⟩ =
      Token.emitAll 0 ⟨[], some fault⟩ tokens := by
  rw [drain_tokens hlegal, drain_rejected (by simpa using hrejected)]

/-- A scan comes to its end exactly on the texts that have a derivation. -/
theorem drain_fault_eq_none_iff :
    (drain ceiling ⟨0, text⟩).fault = none ↔ Nonempty (Derivation ceiling text) := by
  constructor
  · intro hnone
    rcases derivation_or_rejected ceiling text with
      hderivation | ⟨tokens, rest, fault, hlegal, rfl, hrejected⟩
    · exact hderivation
    · rw [drain_tokens_rejected hlegal hrejected, emitAll_fault] at hnone
      simp at hnone
  · rintro ⟨d⟩
    rw [drain_derivation d]

/-- Parsing with a given ceiling accepts exactly the texts that have a derivation.  There is one
derivation at most, and the segments are those of its tokens. -/
theorem parse_ok_iff_derivation (env : Environment) (text : String) {ceiling : Int}
    (hceiling : ceiling.natAbs < 10 ^ Numeral.digitLimit) :
    ((∃ template, (parse env text (some ceiling)).result = .ok template) ↔
        Nonempty (Derivation ceiling text.toList)) ∧
      (∀ d e : Derivation ceiling text.toList, d = e) ∧
      ∀ d : Derivation ceiling text.toList,
        (parse env text (some ceiling)).result = .ok ⟨Token.segments 0 d.tokens⟩ := by
  have hparse := parse_given env text (decide_eq_true hceiling)
  refine ⟨?_, Derivation.unique, ?_⟩
  · rw [← drain_fault_eq_none_iff, hparse]
    obtain ⟨segments, fault⟩ := drain ceiling ⟨0, text.toList⟩
    cases fault <;> simp
  · intro d
    rw [hparse, drain_derivation d]

/-- Three opening braces are a doubled one and the start of a placeholder. -/
theorem parse_ok_iff_derivation_braces :
    (2 : Int).natAbs < 10 ^ Numeral.digitLimit ∧
      (parse .empty "\x7b\x7b\x7b01\x7d\x7d\x7d" (some 2)).result =
        .ok ⟨[.literal "\x7b", .placeholder 1 (some 2), .literal "\x7d"]⟩ := by
  have hceiling : (2 : Int).natAbs < 10 ^ Numeral.digitLimit := by decide +kernel
  have hlegal : ∀ token ∈ [Token.literal '{', .reference ['0', '1'], .literal '}'],
      token.IsLegal 2 := by
    intro token hmem
    have hcases : token = .literal '{' ∨ token = .reference ['0', '1'] ∨
        token = .literal '}' := by simpa using hmem
    rcases hcases with rfl | rfl | rfl
    · trivial
    · exact ⟨by simp, List.all_eq_true.1 rfl, by decide, by decide⟩
    · trivial
  refine ⟨hceiling, ?_⟩
  rw [(parse_ok_iff_derivation .empty _ hceiling).2.2 ⟨_, by decide, hlegal⟩]
  simp [Segment.joinLiteral, Token.spelling, escapeChar]
  decide

end Positional.Template
