import Positional.Proofs.Template.Parsed

/-!
# Raising and lowering the ceiling

A reference that is legal under a ceiling is legal under every higher one, so a text that is
accepted stays accepted, with the same segments.  Under a lower ceiling the text is accepted as long
as every index is small enough, and otherwise it is rejected at the first index that is not: the
references in front of it are still legal, and its own digits are few enough to be read.
-/

namespace Positional.Template

attribute [local instance (high)] instPowNat

variable {low high : Int}

/-! ## The judgement on a run of digits -/

theorem readReference_readable (ceiling : Int) (offset : Nat) {run : List Char} (rest : List Char)
    (hne : run ≠ []) (hrun : ∀ c ∈ run, Numeral.isDigit c = true)
    (hlimit : run.length ≤ Numeral.digitLimit) :
    readReference ceiling offset (run ++ '}' :: rest) =
      if ceiling < Numeral.value run then .error (malformed (.aboveCeiling ceiling) offset)
      else .ok ⟨Numeral.value run, run.length, rest⟩ := by
  by_cases habove : ceiling < Numeral.value run
  · rw [if_pos habove, readReference_aboveCeiling hne hrun habove (.inl hlimit)]
  · rw [if_neg habove, readReference_legal ⟨hne, hrun, hlimit, Int.not_lt.1 habove⟩]

/-! ## Tokens under two ceilings -/

namespace Token

def exceeds (bound : Int) : Token → Bool
  | literal _ => false
  | reference digits => bound < Numeral.value digits

variable {token : Token} {tokens : List Token}

theorem IsLegal.mono (h : token.IsLegal low) (hle : low ≤ high) : token.IsLegal high := by
  cases token with
  | literal c => trivial
  | reference digits =>
      obtain ⟨hne, hdigits, hlimit, hvalue⟩ := h
      exact ⟨hne, hdigits, hlimit, Int.le_trans hvalue hle⟩

theorem IsLegal.of_exceeds (h : token.IsLegal high) (hlow : token.exceeds low = false) :
    token.IsLegal low := by
  cases token with
  | literal c => trivial
  | reference digits =>
      obtain ⟨hne, hdigits, hlimit, -⟩ := h
      exact ⟨hne, hdigits, hlimit, Int.not_lt.1 (of_decide_eq_false hlow)⟩

/-- Legal tokens stay legal under a lower ceiling, or a first one among them exceeds it. -/
theorem legal_or_exceeds (low : Int) (hlegal : ∀ token ∈ tokens, token.IsLegal high) :
    (∀ token ∈ tokens, token.IsLegal low) ∨
      ∃ before digits after, tokens = before ++ reference digits :: after ∧
        (∀ token ∈ before, token.IsLegal low) ∧ low < Numeral.value digits := by
  cases hfind : tokens.find? (exceeds low) with
  | none =>
      left
      intro token hmem
      have hnot := List.find?_eq_none.1 hfind token hmem
      exact (hlegal token hmem).of_exceeds (Bool.eq_false_iff.2 hnot)
  | some token =>
      right
      obtain ⟨hexceeds, before, after, rfl, hbefore⟩ := List.find?_eq_some_iff_append.1 hfind
      cases token with
      | literal c => cases hexceeds
      | reference digits =>
          refine ⟨before, digits, after, rfl, ?_, of_decide_eq_true hexceeds⟩
          intro token hmem
          have hnot := hbefore token hmem
          rw [Bool.not_eq_true'] at hnot
          exact (hlegal token (List.mem_append_left _ hmem)).of_exceeds hnot

/-! ## Segments of tokens -/

theorem eachIndex_joinLiteral {p : Int → Prop} {text : String} {segments : List Segment} :
    Segment.EachIndex p (Segment.joinLiteral text segments) ↔ Segment.EachIndex p segments := by
  simp only [Segment.EachIndex, placeholder_mem_joinLiteral]

theorem eachIndex_segments {p : Int → Prop} {offset : Nat} :
    Segment.EachIndex p (segments offset tokens) ↔
      ∀ digits, reference digits ∈ tokens → p (Numeral.value digits) := by
  induction tokens generalizing offset with
  | nil => simp
  | cons token tokens ih =>
      cases token with
      | literal c => simp [eachIndex_joinLiteral, ih]
      | reference others => simp [ih]

theorem joinLiteral_append_placeholder (text : String) (before after : List Segment) (index : Int)
    (position : Option Int) :
    Segment.joinLiteral text (before ++ .placeholder index position :: after) =
      Segment.joinLiteral text before ++ .placeholder index position :: after := by
  cases before with
  | nil =>
      rw [List.nil_append, Segment.joinLiteral_of_separate (by simp),
        Segment.joinLiteral_of_separate (by simp)]
      split <;> rfl
  | cons first rest =>
      cases first with
      | literal next => rfl
      | placeholder other place =>
          rw [List.cons_append, Segment.joinLiteral_of_separate (by simp),
            Segment.joinLiteral_of_separate (by simp)]
          split <;> rfl

/-- A reference parts the segments of the tokens before it from those of the tokens after it. -/
theorem segments_append_reference (offset : Nat) (before after : List Token)
    (digits : List Char) :
    ∃ rest, segments offset (before ++ reference digits :: after) =
      segments offset before ++
        .placeholder (Numeral.value digits) (some ((offset + (spellings before).length : Nat))) ::
          rest := by
  induction before generalizing offset with
  | nil =>
      refine ⟨segments (offset + (reference digits).spelling.length) after, ?_⟩
      rw [List.nil_append, segments_reference, segments_nil, List.nil_append, spellings_nil,
        List.length_nil, Nat.add_zero]
  | cons token before ih =>
      -- the offset moves over the token, so the place of the reference stays the same sum
      obtain ⟨rest, hrest⟩ := ih (offset + token.spelling.length)
      refine ⟨rest, ?_⟩
      have hplace : offset + token.spelling.length + (spellings before).length =
          offset + (spellings (token :: before)).length := by
        rw [spellings_cons, List.length_append, Nat.add_assoc]
      rw [hplace] at hrest
      cases token with
      | literal c =>
          rw [List.cons_append, segments_literal, hrest, joinLiteral_append_placeholder,
            segments_literal]
      | reference others =>
          rw [List.cons_append, segments_reference, hrest, segments_reference, List.cons_append]

end Token

/-! ## Parsing under two ceilings -/

variable {env : Environment} {text : String} {template : Template}

theorem parse_of_le (hle : low ≤ high) (hhigh : Numeral.isWritable high = true)
    (h : (parse env text (some low)).result = .ok template) :
    (parse env text (some high)).result = .ok template := by
  obtain ⟨d, rfl⟩ := exists_derivation h
  exact parse_of_derivation env hhigh
    ⟨d.tokens, d.spelled, fun token hmem => (d.legal token hmem).mono hle⟩

/-- A text with a derivation under one ceiling is accepted under another one, or rejected at the
first index above it. -/
theorem parse_derivation_cases (env : Environment) (hlow : Numeral.isWritable low = true)
    (d : Derivation high text.toList) :
    (Segment.EachIndex (· ≤ low) (Token.segments 0 d.tokens) ∧
        (parse env text (some low)).result = .ok ⟨Token.segments 0 d.tokens⟩) ∨
      ∃ (before : List Segment) (index : Int) (position : Nat) (after : List Segment),
        Token.segments 0 d.tokens = before ++ .placeholder index (some position) :: after ∧
          Segment.EachIndex (· ≤ low) before ∧ low < index ∧
          (parse env text (some low)).result =
            .error (malformed (.aboveCeiling low) position) := by
  have hindices : ∀ {tokens : List Token} {offset : Nat}, (∀ token ∈ tokens, token.IsLegal low) →
      Segment.EachIndex (· ≤ low) (Token.segments offset tokens) :=
    fun hlegal => Token.eachIndex_segments.2 fun digits hmem => (hlegal _ hmem).2.2.2
  rcases Token.legal_or_exceeds low d.legal with
    hlegal | ⟨before, digits, after, hsplit, hbefore, habove⟩
  · exact .inl ⟨hindices hlegal, parse_of_derivation env hlow ⟨d.tokens, d.spelled, hlegal⟩⟩
  · right
    obtain ⟨rest, hrest⟩ := Token.segments_append_reference 0 before after digits
    have hreference : (Token.reference digits).IsLegal high := by
      apply d.legal
      rw [hsplit]
      exact List.mem_append_right _ List.mem_cons_self
    have htext : text.toList =
        Token.spellings before ++ ('{' :: (digits ++ '}' :: Token.spellings after)) := by
      rw [← d.spelled, hsplit]
      simp [Token.spelling]
    rw [Nat.zero_add] at hrest
    rw [hsplit]
    exact ⟨_, _, _, rest, hrest, hindices hbefore, habove, parse_of_rejected env hlow hbefore htext
      (.aboveCeiling hreference.1 hreference.2.1 habove (.inl hreference.2.2.1))⟩

/-- A run of digits is refused for its width only where it denotes more than the ceiling, and one
that can be read is accepted exactly if it does not.  So a text that is accepted under a ceiling is
parsed to the same under every higher one, and under a lower one it is accepted exactly if every
index is at most that, or else rejected where the first index above it stands. -/
theorem parse_raised_and_lowered (env : Environment) (text : String) (hle : low ≤ high)
    (hlow : low.natAbs < 10 ^ Numeral.digitLimit) (hhigh : high.natAbs < 10 ^ Numeral.digitLimit) :
    (∀ (ceiling : Int) (run : List Char), (∀ c ∈ run, Numeral.isDigit c = true) →
        ((Numeral.text ceiling).length < (Numeral.significant run).length →
          ceiling < Numeral.value run) ∧
        (run ≠ [] → run.length ≤ Numeral.digitLimit → ∀ (offset : Nat) (rest : List Char),
          readReference ceiling offset (run ++ '}' :: rest) =
            if ceiling < Numeral.value run then
              .error (malformed (.aboveCeiling ceiling) offset)
            else .ok ⟨Numeral.value run, run.length, rest⟩)) ∧
      (∀ template, (parse env text (some low)).result = .ok template →
        (parse env text (some high)).result = .ok template) ∧
      ∀ template, (parse env text (some high)).result = .ok template →
        ((∃ other, (parse env text (some low)).result = .ok other) ↔
            Segment.EachIndex (· ≤ low) template.segments) ∧
          (¬ Segment.EachIndex (· ≤ low) template.segments →
            ∃ (before : List Segment) (index : Int) (position : Nat) (after : List Segment),
              template.segments = before ++ .placeholder index (some position) :: after ∧
                Segment.EachIndex (· ≤ low) before ∧ low < index ∧
                (parse env text (some low)).result =
                  .error (.format (.malformed (.aboveCeiling low) (some position)))) := by
  refine ⟨fun ceiling run hrun => ⟨Numeral.lt_value_of_text_length_lt hrun, fun hne hlimit
    offset rest => readReference_readable ceiling offset rest hne hrun hlimit⟩,
    fun template => parse_of_le hle (decide_eq_true hhigh), fun template haccepted => ?_⟩
  obtain ⟨d, rfl⟩ := exists_derivation haccepted
  rcases parse_derivation_cases env (decide_eq_true hlow) d with
    ⟨hindices, hparse⟩ | ⟨before, index, position, after, hsplit, hbefore, habove, hparse⟩
  · exact ⟨⟨fun _ => hindices, fun _ => ⟨_, hparse⟩⟩, fun hnot => (hnot hindices).elim⟩
  · have hnot : ¬ Segment.EachIndex (· ≤ low) (Token.segments 0 d.tokens) := by
      intro hall
      have hindex := hall index (some position) (hsplit ▸ List.mem_append_right _ List.mem_cons_self)
      omega
    refine ⟨⟨?_, fun hall => (hnot hall).elim⟩, fun _ =>
      ⟨before, index, position, after, hsplit, hbefore, habove, hparse⟩⟩
    rintro ⟨other, hother⟩
    rw [hparse] at hother
    cases hother

/-- One ceiling is the greatest number with one digit and the other the least with two, and the
leading zero does not count. -/
theorem parse_raised_and_lowered_ten :
    ((9 : Int) ≤ 10 ∧ (9 : Int).natAbs < 10 ^ Numeral.digitLimit ∧
        (10 : Int).natAbs < 10 ^ Numeral.digitLimit) ∧
      ((∀ c ∈ ['0', '9'], Numeral.isDigit c = true) ∧
        ['0', '9'].length ≤ Numeral.digitLimit ∧
        readReference 9 0 ['0', '9', '}'] = .ok ⟨9, 2, []⟩) ∧
      ((∀ c ∈ ['1', '0', '0'], Numeral.isDigit c = true) ∧
        (Numeral.text 10).length < (Numeral.significant ['1', '0', '0']).length ∧
        (10 : Int) < Numeral.value ['1', '0', '0']) ∧
      ((parse .empty "\x7b09\x7d" (some 9)).result = .ok ⟨[.placeholder 9 (some 0)]⟩ ∧
        (parse .empty "\x7b09\x7d" (some 10)).result = .ok ⟨[.placeholder 9 (some 0)]⟩) ∧
      (parse .empty "\x7b09\x7d\x7b10\x7d" (some 10)).result =
          .ok ⟨[.placeholder 9 (some 0), .placeholder 10 (some 4)]⟩ ∧
        ¬ Segment.EachIndex (· ≤ 9) [.placeholder 9 (some 0), .placeholder 10 (some 4)] ∧
        ∃ (before : List Segment) (index : Int) (position : Nat) (after : List Segment),
          [.placeholder 9 (some 0), .placeholder 10 (some 4)] =
              before ++ .placeholder index (some (position : Int)) :: after ∧
            Segment.EachIndex (· ≤ 9) before ∧ 9 < index ∧
            (parse .empty "\x7b09\x7d\x7b10\x7d" (some 9)).result =
              .error (.format (.malformed (.aboveCeiling 9) (some (position : Int)))) := by
  have hnine : (9 : Int).natAbs < 10 ^ Numeral.digitLimit := by decide +kernel
  have hten : (10 : Int).natAbs < 10 ^ Numeral.digitLimit := by decide +kernel
  have hle : (9 : Int) ≤ 10 := by decide
  have hrun : ∀ c ∈ ['0', '9'], Numeral.isDigit c = true := List.all_eq_true.1 rfl
  have hhundred : ∀ c ∈ ['1', '0', '0'], Numeral.isDigit c = true := List.all_eq_true.1 rfl
  have hlimit : ['0', '9'].length ≤ Numeral.digitLimit := by decide
  have hwide : (Numeral.text 10).length < (Numeral.significant ['1', '0', '0']).length := by decide
  have hlow : (parse .empty "\x7b09\x7d" (some 9)).result = .ok ⟨[.placeholder 9 (some 0)]⟩ :=
    parse_of_drain .empty (decide_eq_true hnine) (by cbv)
  have hhigh : (parse .empty "\x7b09\x7d\x7b10\x7d" (some 10)).result =
      .ok ⟨[.placeholder 9 (some 0), .placeholder 10 (some 4)]⟩ :=
    parse_of_drain .empty (decide_eq_true hten) (by cbv)
  have habove : ¬ Segment.EachIndex (· ≤ 9)
      [.placeholder 9 (some 0), .placeholder 10 (some 4)] := by
    simp
  obtain ⟨hjudged, hraised, -⟩ := parse_raised_and_lowered .empty "\x7b09\x7d" hle hnine hten
  have hlowered := (parse_raised_and_lowered .empty "\x7b09\x7d\x7b10\x7d" hle hnine hten).2.2
  exact ⟨⟨hle, hnine, hten⟩, ⟨hrun, hlimit, (hjudged 9 _ hrun).2 (by decide) hlimit 0 []⟩,
    ⟨hhundred, hwide, (hjudged 10 _ hhundred).1 hwide⟩, ⟨hlow, hraised _ hlow⟩, hhigh, habove,
    (hlowered _ hhigh).2 habove⟩

end Positional.Template
