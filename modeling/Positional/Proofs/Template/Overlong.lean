import Positional.Proofs.Template.Grammar

/-!
# Overlong numerals

The lengths of a run of digits and of the ceiling are compared so that no long run is ever read, but
only significant digits are counted.  A run that is long because of its leading zeros passes the
comparison and is refused by the reading, with a fault that is none of the template's own.  A scan
has such a fault exactly if it comes upon such a run.
-/

namespace Positional

/-- Whether a fault is a malformed placeholder or an unmatched closing brace. -/
def Fault.isTemplateFault : Fault → Bool
  | .format (.malformed ..) => true
  | .format (.unmatchedClosingBrace ..) => true
  | _ => false

namespace Template

/-- Legal tokens of a text are followed by an overlong run of digits between braces. -/
def Overlong (ceiling : Int) (text run : List Char) : Prop :=
  ∃ before rest, Nonempty (Derivation ceiling before) ∧
    text = before ++ '{' :: (run ++ '}' :: rest) ∧ IsOverlong ceiling run

variable {ceiling : Int} {text run : List Char}

theorem drain_fault_overlong (h : Overlong ceiling text run) :
    (drain ceiling ⟨0, text⟩).fault = some (.unreadableInteger run.length) := by
  obtain ⟨before, rest, ⟨d⟩, rfl, hrun⟩ := h
  have hrejected : Rejected ceiling (Token.spellings d.tokens).length
      ('{' :: (run ++ '}' :: rest)) (.unreadableInteger run.length) :=
    .unreadable hrun
  have hdrain := drain_tokens_rejected d.legal hrejected
  rw [d.spelled] at hdrain
  rw [hdrain, emitAll_fault]

/-- What rejects a text is a fault of the template, or the text starts with an overlong run. -/
theorem Rejected.isTemplateFault_or {offset : Nat} {fault : Fault}
    (h : Rejected ceiling offset text fault) :
    fault.isTemplateFault = true ∨ ∃ run, Overlong ceiling text run := by
  cases h with
  | closing single => exact .inl rfl
  | unterminated digits => exact .inl rfl
  | missingIndex stop single => exact .inl rfl
  | missingClose nonempty digits stop unclosed => exact .inl rfl
  | aboveCeiling nonempty digits above told => exact .inl rfl
  | @unreadable run rest overlong =>
      exact .inr ⟨run, [], rest, ⟨⟨[], rfl, by simp⟩⟩, rfl, overlong⟩

theorem Overlong.spellings_append {tokens : List Token}
    (hlegal : ∀ token ∈ tokens, token.IsLegal ceiling) (h : Overlong ceiling text run) :
    Overlong ceiling (Token.spellings tokens ++ text) run := by
  obtain ⟨before, rest, ⟨d⟩, rfl, hrun⟩ := h
  refine ⟨Token.spellings tokens ++ before, rest, ⟨⟨tokens ++ d.tokens, ?_, ?_⟩⟩, by simp, hrun⟩
  · rw [Token.spellings_append, d.spelled]
  · intro token hmem
    rcases List.mem_append.1 hmem with hmem | hmem
    · exact hlegal token hmem
    · exact d.legal token hmem

/-- A scan comes to its end, to a fault of the template, or upon an overlong run. -/
theorem drain_fault_cases (ceiling : Int) (text : List Char) :
    (drain ceiling ⟨0, text⟩).fault = none ∨
      (∃ fault, (drain ceiling ⟨0, text⟩).fault = some fault ∧ fault.isTemplateFault = true) ∨
      ∃ run, Overlong ceiling text run := by
  rcases derivation_or_rejected ceiling text with
    hderivation | ⟨tokens, rest, fault, hlegal, rfl, hrejected⟩
  · exact .inl (drain_fault_eq_none_iff.2 hderivation)
  · rcases hrejected.isTemplateFault_or with hfault | ⟨run, hrun⟩
    · refine .inr (.inl ⟨fault, ?_, hfault⟩)
      rw [drain_tokens_rejected hlegal hrejected, emitAll_fault]
    · exact .inr (.inr ⟨run, hrun.spellings_append hlegal⟩)

/-- Every fault of a scan is one of the template exactly if there is no overlong run. -/
theorem drain_isTemplateFault_iff (ceiling : Int) (text : List Char) :
    (∀ fault, (drain ceiling ⟨0, text⟩).fault = some fault → fault.isTemplateFault = true) ↔
      ∀ run, ¬ Overlong ceiling text run := by
  constructor
  · intro hfaults run hrun
    exact absurd (hfaults _ (drain_fault_overlong hrun)) (by simp [Fault.isTemplateFault])
  · intro hnone fault hfault
    rcases drain_fault_cases ceiling text with hend | ⟨other, hother, htemplate⟩ | ⟨run, hrun⟩
    · rw [hend] at hfault
      cases hfault
    · rw [hother] at hfault
      obtain rfl := Option.some.inj hfault
      exact htemplate
    · exact (hnone run hrun).elim

end Template

end Positional
