import Positional.Proofs.Template.Acceptance
import Positional.Proofs.Template.Parsed
import Positional.Proofs.Template.Pulls

/-!
# Runs that are not finished

The segments that a reader has given so far are the first ones of a sequence that is in normal form,
in which every placeholder stands where it is spelled, the next one further to the right.  A fault
comes before the literal text that is pending at it, so what was given before the fault is what the
accepted part of the text parses to, without a literal at its end.
-/

namespace Positional

namespace Segment

def position? : Segment → Option Int
  | literal _ => none
  | placeholder _ position => position

/-- The segments without the literal that they end in, if they do. -/
def dropLastLiteral : List Segment → List Segment
  | [] => []
  | [literal _] => []
  | first :: rest => first :: dropLastLiteral rest

variable {segments part : List Segment}

@[simp] theorem position?_literal (text : String) : (literal text).position? = none := rfl

@[simp] theorem position?_placeholder (index : Int) (position : Option Int) :
    (placeholder index position).position? = position := rfl

@[simp] theorem dropLastLiteral_placeholder (index : Int) (position : Option Int)
    (rest : List Segment) :
    dropLastLiteral (placeholder index position :: rest) =
      placeholder index position :: dropLastLiteral rest := by
  rw [dropLastLiteral]
  simp

@[simp] theorem dropLastLiteral_literal_cons (text : String) (second : Segment)
    (rest : List Segment) :
    dropLastLiteral (literal text :: second :: rest) =
      literal text :: dropLastLiteral (second :: rest) := by
  rw [dropLastLiteral]
  simp

theorem dropLastLiteral_prefix (segments : List Segment) :
    dropLastLiteral segments <+: segments := by
  fun_induction dropLastLiteral segments with
  | case1 => exact List.prefix_refl []
  | case2 text => exact List.nil_prefix
  | case3 first rest hlast ih => exact (List.prefix_cons_inj first).2 ih

theorem IsNormal.of_isPrefix (h : IsNormal segments) (hpart : part <+: segments) : IsNormal part :=
  ⟨fun hmem => h.nonempty (hpart.subset hmem), h.separate.prefix hpart⟩

theorem positions_joinLiteral (text : String) (segments : List Segment) :
    (joinLiteral text segments).filterMap position? = segments.filterMap position? := by
  rcases joinLiteral_cases text segments with
    ⟨-, hjoin⟩ | ⟨next, rest, rfl, hjoin⟩ | ⟨-, hjoin⟩ <;> rw [hjoin]
  · rw [List.filterMap_cons_none (position?_literal _),
      List.filterMap_cons_none (position?_literal _)]
  · rw [List.filterMap_cons_none (position?_literal _)]

end Segment

namespace Template

/-- Whether a reference to the index is spelled in a text at the offset. -/
def Refers (text : List Char) (offset : Nat) (index : Int) : Prop :=
  ∃ digits rest, text.drop offset = '{' :: (digits ++ '}' :: rest) ∧ digits ≠ [] ∧
    (∀ c ∈ digits, Numeral.isDigit c = true) ∧ (Numeral.value digits : Int) = index

/-- What holds of the segments that a text was read into, and of every first part of them. -/
structure WellFormed (ceiling : Int) (text : List Char) (segments : List Segment) : Prop where
  normal : Segment.IsNormal segments
  placed : ∀ index position, .placeholder index position ∈ segments →
    Segment.Accepted ceiling index ∧
      ∃ offset : Nat, position = some (offset : Int) ∧ Refers text offset index
  increasing : (segments.filterMap Segment.position?).Pairwise (· < ·)

variable {ceiling : Int} {text : List Char} {segments part : List Segment}

theorem WellFormed.of_isPrefix (h : WellFormed ceiling text segments) (hpart : part <+: segments) :
    WellFormed ceiling text part := by
  refine ⟨h.normal.of_isPrefix hpart, ?_, ?_⟩
  · intro index position hmem
    exact h.placed index position (hpart.subset hmem)
  · exact h.increasing.sublist (hpart.sublist.filterMap Segment.position?)

/-! ## Segments of tokens -/

theorem placed_segments {tokens : List Token} {offset : Nat} {rest : List Char}
    (hlegal : ∀ token ∈ tokens, token.IsLegal ceiling)
    (htext : text.drop offset = Token.spellings tokens ++ rest) {index : Int}
    {position : Option Int} (hmem : .placeholder index position ∈ Token.segments offset tokens) :
    Segment.Accepted ceiling index ∧
      ∃ start : Nat, position = some (start : Int) ∧ Refers text start index := by
  induction tokens generalizing offset with
  | nil => simp at hmem
  | cons token tokens ih =>
      have hothers : ∀ other ∈ tokens, other.IsLegal ceiling := fun other hother =>
        hlegal other (List.mem_cons_of_mem token hother)
      have hrest : text.drop (offset + token.spelling.length) =
          Token.spellings tokens ++ rest := by
        rw [← List.drop_drop, htext, Token.spellings_cons, List.append_assoc, List.drop_left]
      cases token with
      | literal c =>
          rw [Token.segments_literal, placeholder_mem_joinLiteral] at hmem
          exact ih hothers hrest hmem
      | reference digits =>
          have hdigits := hlegal _ List.mem_cons_self
          rw [Token.segments_reference, List.mem_cons] at hmem
          rcases hmem with hfirst | hmem
          · obtain ⟨rfl, rfl⟩ := Segment.placeholder.inj hfirst
            have hspelled : text.drop offset =
                '{' :: (digits ++ '}' :: (Token.spellings tokens ++ rest)) := by
              rw [htext, Token.spellings_cons, Token.spelling]
              simp
            exact ⟨⟨by omega, hdigits.2.2.2⟩, offset, rfl, digits, _, hspelled, hdigits.1,
              hdigits.2.1, rfl⟩
          · exact ih hothers hrest hmem

theorem le_position_segments {tokens : List Token} {offset : Nat} :
    ∀ position ∈ (Token.segments offset tokens).filterMap Segment.position?,
      (offset : Int) ≤ position := by
  induction tokens generalizing offset with
  | nil => simp
  | cons token tokens ih =>
      have hrest : ∀ position ∈ (Token.segments (offset + token.spelling.length) tokens).filterMap
          Segment.position?, (offset : Int) ≤ position := by
        intro position hmem
        have hle := ih position hmem
        omega
      cases token with
      | literal c =>
          rw [Token.segments_literal, Segment.positions_joinLiteral]
          exact hrest
      | reference digits =>
          rw [Token.segments_reference,
            List.filterMap_cons_some (Segment.position?_placeholder _ _),
            List.forall_mem_cons]
          exact ⟨Int.le_refl _, hrest⟩

theorem increasing_segments (offset : Nat) (tokens : List Token) :
    ((Token.segments offset tokens).filterMap Segment.position?).Pairwise (· < ·) := by
  induction tokens generalizing offset with
  | nil => simp
  | cons token tokens ih =>
      cases token with
      | literal c =>
          rw [Token.segments_literal, Segment.positions_joinLiteral]
          exact ih _
      | reference digits =>
          rw [Token.segments_reference,
            List.filterMap_cons_some (Segment.position?_placeholder _ _),
            List.pairwise_cons]
          refine ⟨?_, ih _⟩
          intro position hmem
          have hle := le_position_segments position hmem
          have hpos := List.length_pos_iff.2 (Token.spelling_ne_nil (.reference digits))
          omega

theorem wellFormed_segments {tokens : List Token} {rest : List Char}
    (hlegal : ∀ token ∈ tokens, token.IsLegal ceiling)
    (htext : text = Token.spellings tokens ++ rest) :
    WellFormed ceiling text (Token.segments 0 tokens) := by
  have hstart : text.drop 0 = Token.spellings tokens ++ rest := htext
  exact ⟨Token.isNormal_segments 0 tokens, fun _ _ hmem => placed_segments hlegal hstart hmem,
    increasing_segments 0 tokens⟩

/-! ## Segments before a fault -/

theorem prepend_dropLastLiteral (text : String) (segments : List Segment) (fault : Fault) :
    Listing.prepend text ⟨Segment.dropLastLiteral segments, some fault⟩ =
      ⟨Segment.dropLastLiteral (Segment.joinLiteral text segments), some fault⟩ := by
  cases segments with
  | nil => by_cases htext : text = "" <;> simp [Segment.joinLiteral, Segment.dropLastLiteral, htext]
  | cons first rest =>
      cases first with
      | placeholder index position =>
          rw [Segment.dropLastLiteral_placeholder, Listing.prepend_cons,
            Segment.joinLiteral_of_separate (by simp), Segment.joinLiteral_of_separate (by simp)]
          split <;> simp
      | literal next =>
          cases rest with
          | nil => simp [Segment.dropLastLiteral]
          | cons second more => simp

/-- Tokens in front of a fault give what they stand for, without a literal at its end. -/
theorem emitAll_rejected (offset : Nat) (fault : Fault) (tokens : List Token) :
    Token.emitAll offset ⟨[], some fault⟩ tokens =
      ⟨Segment.dropLastLiteral (Token.segments offset tokens), some fault⟩ := by
  induction tokens generalizing offset with
  | nil => simp [Token.emitAll, Segment.dropLastLiteral]
  | cons token tokens ih =>
      rw [Token.emitAll, ih]
      cases token with
      | literal c => rw [Token.emit, prepend_dropLastLiteral, Token.segments_literal]
      | reference digits =>
          rw [Token.emit, Token.segments_reference, Segment.dropLastLiteral_placeholder]

/-- A scan gives well-formed segments whether it comes to its end or not. -/
theorem wellFormed_drain (ceiling : Int) (text : List Char) :
    WellFormed ceiling text (drain ceiling ⟨0, text⟩).segments := by
  rcases derivation_or_rejected ceiling text with
    ⟨⟨d⟩⟩ | ⟨tokens, rest, fault, hlegal, htext, hrejected⟩
  · rw [drain_derivation d]
    exact wellFormed_segments d.legal (by rw [d.spelled, List.append_nil])
  · have hwhole := wellFormed_segments hlegal htext
    rw [htext, drain_tokens_rejected hlegal hrejected, emitAll_rejected, ← htext]
    exact hwhole.of_isPrefix (Segment.dropLastLiteral_prefix _)

/-- What a reader lists is well formed; with a ceiling that is refused, it lists nothing. -/
theorem wellFormed_fresh (env : Environment) (text : String) (ceiling : Int) :
    WellFormed ceiling text.toList
      ((Reader.fresh text (some ceiling)).drain env).result.segments := by
  by_cases hceiling : Numeral.isWritable ceiling = true
  · rw [Reader.drain_fresh_ok (Reader.ceiling_of_isWritable env hceiling)]
    exact wellFormed_drain ceiling text.toList
  · rw [Reader.drain_fresh_error (Reader.ceiling_of_not_isWritable env hceiling)]
    exact ⟨Segment.isNormal_nil, by simp, by simp⟩

theorem isWritable_of_fault {env : Environment} {text : String} {ceiling : Int}
    {error : FormatError}
    (h : ((Reader.fresh text (some ceiling)).drain env).result.fault = some (.format error)) :
    Numeral.isWritable ceiling = true := by
  by_contra hceiling
  rw [Reader.drain_fresh_error (Reader.ceiling_of_not_isWritable env hceiling)] at h
  cases h

/-- Before a format error a reader lists what the text in front of the error parses to, without a
literal at its end. -/
theorem fresh_before_error (env : Environment) (text : String) {ceiling : Int}
    {error : FormatError}
    (h : ((Reader.fresh text (some ceiling)).drain env).result.fault = some (.format error)) :
    ∃ position : Nat, error.position = some (position : Int) ∧
      ∃ template, (parse env (cut text position) (some ceiling)).result = .ok template ∧
        ((Reader.fresh text (some ceiling)).drain env).result.segments =
          Segment.dropLastLiteral template.segments := by
  have hceiling := isWritable_of_fault h
  rw [Reader.drain_fresh_ok (Reader.ceiling_of_isWritable env hceiling)] at h ⊢
  obtain ⟨tokens, rest, hlegal, htext, hrejected⟩ :=
    exists_rejected hceiling (parse_of_fault env hceiling h)
  have hposition : error.position = some ((Token.spellings tokens).length : Int) := by
    rcases hrejected.format_cases with ⟨-, rfl⟩ | ⟨-, flaw, rfl⟩ <;> rfl
  have hcut : Token.spellings tokens = (cut text (Token.spellings tokens).length).toList := by
    rw [cut_toList, htext, List.take_left]
  refine ⟨_, hposition, _, parse_of_derivation env hceiling ⟨tokens, hcut, hlegal⟩, ?_⟩
  rw [htext, drain_tokens_rejected hlegal hrejected, emitAll_rejected]

/-- However often a reader was pulled, the segments that it gave are in normal form, their indices
are between zero and the ceiling, and their placeholders stand where they are spelled, each further
to the right than the one before it.  If it gave a format error, the segments are those of the text
in front of the error without a literal at its end; if it gave the end and no fault, they are those
of the text. -/
theorem pulls_wellFormed (env : Environment) (text : String) (ceiling : Int) (count : Nat) :
    let pulled := ((Reader.fresh text (some ceiling)).pulls env count).1
    let segments := pulled.filterMap Reader.Item.segment?
    WellFormed ceiling text.toList segments ∧
      (∀ error, .fault (.format error) ∈ pulled →
        ∃ position : Nat, error.position = some (position : Int) ∧
          ∃ template, (parse env (cut text position) (some ceiling)).result = .ok template ∧
            segments = Segment.dropLastLiteral template.segments) ∧
      (.done ∈ pulled → (∀ fault, .fault fault ∉ pulled) →
        (parse env text (some ceiling)).result = .ok ⟨segments⟩) := by
  intro pulled segments
  have hparse := parse_result env text (some ceiling)
  have hwell := wellFormed_fresh env text ceiling
  have herror := fun error => @fresh_before_error env text ceiling error
  have hpulled : pulled = ((Reader.fresh text (some ceiling)).drain env).result.items count :=
    Reader.pulls_items env count _
  have hsegments : segments =
      ((Reader.fresh text (some ceiling)).drain env).result.segments.take count := by
    rw [← Listing.segments_items, ← hpulled]
  generalize ((Reader.fresh text (some ceiling)).drain env).result = listing at *
  refine ⟨?_, ?_, ?_⟩
  · rw [hsegments]
    exact hwell.of_isPrefix (List.take_prefix count _)
  · intro error hmem
    rw [hpulled, Listing.fault_mem_items] at hmem
    rw [hsegments, List.take_of_length_le (Nat.le_of_lt hmem.1)]
    exact herror error hmem.2
  · intro hdone hfaults
    rw [hpulled] at hdone hfaults
    have hlength := Listing.length_lt_of_done_mem_items hdone
    rw [hsegments, List.take_of_length_le (Nat.le_of_lt hlength), hparse]
    obtain ⟨given, fault⟩ := listing
    cases fault with
    | none => rfl
    | some fault => exact (hfaults fault (Listing.fault_mem_items.2 ⟨hlength, rfl⟩)).elim

/-- The literal text in front of the brace that matches nothing is not given. -/
theorem pulls_wellFormed_brace :
    let pulled := ((Reader.fresh "a\x7b0\x7db\x7d" (some 9)).pulls .empty 4).1
    let segments := pulled.filterMap Reader.Item.segment?
    pulled = [.segment (.literal "a"), .segment (.placeholder 0 (some 1)),
        .fault (.format (.unmatchedClosingBrace (some 5))), .done] ∧
      WellFormed 9 "a\x7b0\x7db\x7d".toList segments ∧
      ∃ position : Nat, some (5 : Int) = some (position : Int) ∧
        ∃ template, (parse .empty (cut "a\x7b0\x7db\x7d" position) (some 9)).result = .ok template ∧
          segments = Segment.dropLastLiteral template.segments := by
  intro pulled segments
  have hpulled : pulled = [.segment (.literal "a"), .segment (.placeholder 0 (some 1)),
      .fault (.format (.unmatchedClosingBrace (some 5))), .done] := by
    decide +kernel
  obtain ⟨hwell, herror, -⟩ := pulls_wellFormed .empty "a\x7b0\x7db\x7d" 9 4
  refine ⟨hpulled, hwell, herror (.unmatchedClosingBrace (some 5)) ?_⟩
  have hmem : .fault (.format (.unmatchedClosingBrace (some 5))) ∈ pulled := by
    rw [hpulled]
    simp
  exact hmem

end Template

end Positional
