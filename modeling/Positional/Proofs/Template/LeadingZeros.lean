import Positional.Proofs.Template.Parsed

/-!
# Leading zeros

A text that was parsed and spelled again differs from the text it was in one respect only: the
references have lost the zeros at their front that other digits follow.  What is spelled then is
spelled the same ever after.
-/

namespace Positional

namespace Template

variable {env : Environment} {text : String} {ceiling : Int} {template : Template}

def Token.canonical : Token → Token
  | literal c => literal c
  | reference digits => reference (Numeral.canonical digits)

/-! ## Tokens without superfluous zeros -/

theorem Token.isLegal_canonical {token : Token} (h : token.IsLegal ceiling) :
    token.canonical.IsLegal ceiling := by
  cases token with
  | literal c => trivial
  | reference digits =>
      obtain ⟨hne, hdigits, hlimit, hvalue⟩ := h
      refine ⟨Numeral.canonical_ne_nil hne, ?_, ?_, ?_⟩
      · intro c hmem
        exact hdigits c (Numeral.mem_of_mem_canonical hmem)
      · exact Nat.le_trans (Numeral.canonical_length_le digits) hlimit
      · rw [Numeral.value_canonical]
        exact hvalue

theorem Token.isLegal_of_mem_canonical {tokens : List Token}
    (h : ∀ token ∈ tokens, token.IsLegal ceiling) :
    ∀ token ∈ tokens.map Token.canonical, token.IsLegal ceiling := by
  intro token hmem
  obtain ⟨other, hother, rfl⟩ := List.mem_map.1 hmem
  exact Token.isLegal_canonical (h other hother)

theorem Token.map_canonical_eq_iff {tokens : List Token} :
    tokens.map Token.canonical = tokens ↔
      ∀ digits, .reference digits ∈ tokens → Numeral.isCanonical digits = true := by
  induction tokens with
  | nil => simp
  | cons token tokens ih =>
      rw [List.map_cons, List.cons.injEq, ih]
      cases token with
      | literal c => simp [Token.canonical]
      | reference digits => simp [Token.canonical, Numeral.isCanonical_iff]

/-! ## Spelling what was parsed -/

theorem flatMap_tokens_joinLiteral (text : String) (segments : List Segment) :
    (Segment.joinLiteral text segments).flatMap Segment.tokens =
      text.toList.map .literal ++ segments.flatMap Segment.tokens := by
  rcases Segment.joinLiteral_cases text segments with
    ⟨rfl, hjoin⟩ | ⟨next, rest, rfl, hjoin⟩ | ⟨-, hjoin⟩ <;> rw [hjoin]
  · simp
  · simp [Segment.tokens]
  · simp [Segment.tokens]

/-- The segments of legal tokens are spelled by the tokens without superfluous zeros. -/
theorem flatMap_tokens_segments {tokens : List Token}
    (h : ∀ token ∈ tokens, token.IsLegal ceiling) (offset : Nat) :
    (Token.segments offset tokens).flatMap Segment.tokens = tokens.map Token.canonical := by
  induction tokens generalizing offset with
  | nil => simp
  | cons token tokens ih =>
      have hrest := ih fun other hmem => h other (List.mem_cons_of_mem token hmem)
      cases token with
      | literal c =>
          rw [Token.segments_literal, flatMap_tokens_joinLiteral, hrest]
          simp [Token.canonical]
      | reference digits =>
          obtain ⟨hne, hdigits, -⟩ := h _ List.mem_cons_self
          rw [Token.segments_reference, List.flatMap_cons, hrest]
          simp [Segment.tokens, Token.canonical, Numeral.digits_value hne hdigits]

theorem spelling_toList_of_parse (d : Derivation ceiling text.toList)
    (h : (parse env text (some ceiling)).result = .ok ⟨Token.segments 0 d.tokens⟩) :
    (Template.mk (Token.segments 0 d.tokens)).spelling.toList =
      Token.spellings (d.tokens.map Token.canonical) := by
  rw [← Segment.spellings_flatMap_tokens (accepted_of_parse h), flatMap_tokens_segments d.legal]

theorem spelling_eq_of_same {a b : Template} (h : a.same b = true) : a.spelling = b.spelling := by
  have hspelling : ∀ segments : List Segment, segments.map Segment.spelling =
      (segments.map Segment.erasePosition).map Segment.spelling := by
    intro segments
    simp
  rw [same, decide_eq_true_eq] at h
  rw [spelling, spelling, hspelling, h, ← hspelling]

/-- A text that was parsed is spelled again without superfluous leading zeros, and otherwise as it
was.  The new text parses to the same template, and is spelled as it is. -/
theorem spelling_parse (env : Environment) (text : String) {ceiling : Int} {template : Template}
    (h : (parse env text (some ceiling)).result = .ok template) :
    template.write = .ok template.spelling ∧
      ∃ d : Derivation ceiling text.toList,
        template.spelling.toList = Token.spellings (d.tokens.map Token.canonical) ∧
        (template.spelling = text ↔
          ∀ digits, .reference digits ∈ d.tokens → Numeral.isCanonical digits = true) ∧
        ∃ again, (parse env template.spelling (some ceiling)).result = .ok again ∧
          again.same template = true ∧ again.write = .ok template.spelling := by
  have hceiling := of_decide_eq_true (isWritable_of_parse h)
  have hwrite := write_of_parse h
  have hindices := natAbs_lt_of_parse h
  have haccepted := accepted_of_parse h
  have hnormal := isNormal_of_parse h
  obtain ⟨d, rfl⟩ := exists_derivation h
  have hspelling := spelling_toList_of_parse d h
  refine ⟨hwrite, d, hspelling, ?_, ?_⟩
  · rw [← Token.map_canonical_eq_iff]
    constructor
    · intro hsame
      rw [hsame] at hspelling
      have hspelled := d.spelled.trans hspelling
      exact (Token.spellings_inj d.legal (Token.isLegal_of_mem_canonical d.legal) hspelled).symm
    · intro hsame
      rw [hsame, d.spelled] at hspelling
      exact String.toList_inj.1 hspelling
  · obtain ⟨again, hagain, hsame⟩ :=
      (parse_spelling_same_iff env hceiling hindices).2 ⟨haccepted, hnormal⟩
    refine ⟨again, hagain, hsame, ?_⟩
    rw [write_of_parse hagain, spelling_eq_of_same hsame]

/-- Two zeros are lost, a zero alone is kept, and so are the doubled braces. -/
theorem spelling_parse_zeros :
    (parse .empty "\x7b\x7b\x7b007\x7d\x7b0\x7d" (some 9)).result =
        .ok ⟨[.literal "\x7b", .placeholder 7 (some 2), .placeholder 0 (some 7)]⟩ ∧
      (Template.mk [.literal "\x7b", .placeholder 7 (some 2), .placeholder 0 (some 7)]).write =
        .ok "\x7b\x7b\x7b7\x7d\x7b0\x7d" ∧
      ∃ again, (parse .empty "\x7b\x7b\x7b7\x7d\x7b0\x7d" (some 9)).result = .ok again ∧
        again.write = .ok "\x7b\x7b\x7b7\x7d\x7b0\x7d" := by
  have hceiling : Numeral.isWritable 9 = true := by decide +kernel
  have hparse : (parse .empty "\x7b\x7b\x7b007\x7d\x7b0\x7d" (some 9)).result =
      .ok ⟨[.literal "\x7b", .placeholder 7 (some 2), .placeholder 0 (some 7)]⟩ :=
    parse_of_drain .empty hceiling (by cbv)
  have hspelling : (Template.mk [.literal "\x7b", .placeholder 7 (some 2),
      .placeholder 0 (some 7)]).spelling = "\x7b\x7b\x7b7\x7d\x7b0\x7d" := by decide
  obtain ⟨hwrite, d, -, -, again, hagain, -, hsame⟩ := spelling_parse .empty _ hparse
  rw [hspelling] at hwrite hagain hsame
  exact ⟨hparse, hwrite, again, hagain, hsame⟩

end Template

end Positional
