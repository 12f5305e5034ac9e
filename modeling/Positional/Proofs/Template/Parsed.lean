import Positional.Proofs.Template.Acceptance
import Positional.Proofs.Template.Placeholder
import Positional.Proofs.Template.Spelling

/-!
# Templates that were parsed

The segments that a text is parsed to are in normal form, and their indices are between zero and the
ceiling, so they can be written.
-/

namespace Positional.Template

attribute [local instance (high)] instPowNat

variable {env : Environment} {text : String} {ceiling : Int} {template : Template}

theorem Token.isNormal_segments (offset : Nat) (tokens : List Token) :
    Segment.IsNormal (Token.segments offset tokens) := by
  induction tokens generalizing offset with
  | nil =>
      rw [Token.segments_nil]
      exact Segment.isNormal_nil
  | cons token tokens ih =>
      cases token with
      | literal c =>
          rw [Token.segments_literal]
          exact Segment.isNormal_joinLiteral _ (ih _)
      | reference digits =>
          rw [Token.segments_reference]
          exact Segment.isNormal_placeholder (ih _)

theorem isNormal_of_parse (h : (parse env text (some ceiling)).result = .ok template) :
    Segment.IsNormal template.segments := by
  obtain ⟨d, rfl⟩ := exists_derivation h
  exact Token.isNormal_segments 0 d.tokens

theorem accepted_of_parse (h : (parse env text (some ceiling)).result = .ok template) :
    Segment.EachIndex (Segment.Accepted ceiling) template.segments := by
  obtain ⟨d, rfl⟩ := exists_derivation h
  intro index position hmem
  have hlisted : .placeholder index position ∈ (drain ceiling ⟨0, text.toList⟩).segments := by
    rw [drain_derivation d]
    exact hmem
  obtain ⟨start, hnonneg, hle, -, -⟩ := placeholder_mem_drain hlisted
  exact ⟨hnonneg, hle⟩

theorem natAbs_lt_of_parse (h : (parse env text (some ceiling)).result = .ok template) :
    Segment.EachIndex (·.natAbs < 10 ^ Numeral.digitLimit) template.segments := by
  have hceiling := of_decide_eq_true (isWritable_of_parse h)
  intro index position hmem
  obtain ⟨hnonneg, hle⟩ := accepted_of_parse h index position hmem
  omega

theorem write_of_parse (h : (parse env text (some ceiling)).result = .ok template) :
    template.write = .ok template.spelling :=
  write_of_natAbs_lt (natAbs_lt_of_parse h)

end Positional.Template
