import Positional.Proofs.Template.Grammar
import Positional.Proofs.Template.Indices

/-!
# Parsing a spelling

A literal is spelled by the tokens of its characters, and a placeholder by the digits of its index.
No token reaches across a boundary between segments, so a spelling is read token by token: it gives
the segments in normal form, each placeholder where it is spelled, or it is rejected at the first
placeholder whose index is not between zero and the ceiling.
-/

namespace Positional

attribute [local instance (high)] instPowNat

namespace Segment

/-- The segments with every placeholder at the offset where it is spelled, the first of them at the
given offset. -/
def placed (offset : Nat) : List Segment → List Segment
  | [] => []
  | literal text :: rest => literal text :: placed (offset + (literal text).spelling.length) rest
  | placeholder index position :: rest =>
    placeholder index (some offset) ::
      placed (offset + (placeholder index position).spelling.length) rest

def Accepted (ceiling index : Int) : Prop :=
  0 ≤ index ∧ index ≤ ceiling

/-- The tokens that spell a segment whose index is not negative. -/
def tokens : Segment → List Template.Token
  | literal text => text.toList.map .literal
  | placeholder index _ => [.reference (Numeral.digits index.toNat)]

variable {ceiling : Int} {segments : List Segment}

@[simp] theorem isPlaceholder_erasePosition (segment : Segment) :
    segment.erasePosition.isPlaceholder = segment.isPlaceholder := by
  cases segment <;> rfl

/-! ## Positions -/

theorem map_erasePosition_placed (offset : Nat) (segments : List Segment) :
    (placed offset segments).map erasePosition = segments.map erasePosition := by
  induction segments generalizing offset with
  | nil => rfl
  | cons first rest ih => cases first <;> simp [placed, erasePosition, ih]

theorem isNormal_map_erasePosition :
    IsNormal (segments.map erasePosition) ↔ IsNormal segments := by
  have hempty : literal "" ∈ segments.map erasePosition ↔ literal "" ∈ segments := by
    rw [List.mem_map]
    constructor
    · rintro ⟨segment, hmem, herase⟩
      cases segment with
      | literal text =>
          rw [erasePosition] at herase
          rwa [herase] at hmem
      | placeholder index position => cases herase
    · intro hmem
      exact ⟨literal "", hmem, rfl⟩
  constructor
  · rintro ⟨hnonempty, hseparate⟩
    rw [List.isChain_map] at hseparate
    exact ⟨fun hmem => hnonempty (hempty.2 hmem), by simpa using hseparate⟩
  · rintro ⟨hnonempty, hseparate⟩
    refine ⟨fun hmem => hnonempty (hempty.1 hmem), ?_⟩
    rw [List.isChain_map]
    simpa using hseparate

/-! ## Tokens of a segment -/

theorem spellings_literals (text : String) :
    Template.Token.spellings (text.toList.map .literal) = (literal text).spelling.toList := by
  rw [spelling, escape_toList, Template.Token.spellings, List.flatMap_map]
  rfl

theorem spelling_reference {index : Int} (hnonneg : 0 ≤ index) (position : Option Int) :
    (Template.Token.reference (Numeral.digits index.toNat)).spelling =
      (placeholder index position).spelling.toList := by
  obtain ⟨n, rfl⟩ := Int.eq_ofNat_of_zero_le hnonneg
  simp [spelling, Template.Token.spelling, Numeral.text_ofNat, Numeral.digits]

theorem isLegal_reference {index : Int} (hceiling : ceiling.natAbs < 10 ^ Numeral.digitLimit)
    (haccepted : Accepted ceiling index) :
    (Template.Token.reference (Numeral.digits index.toNat)).IsLegal ceiling := by
  obtain ⟨hnonneg, hle⟩ := haccepted
  have hlimit : index.toNat < 10 ^ Numeral.digitLimit := by omega
  refine ⟨Numeral.digits_ne_nil _, fun c hc => Numeral.isDigit_of_mem_digits hc,
    Numeral.digits_length_le_limit hlimit, ?_⟩
  rw [Numeral.value_digits]
  omega

/-! ## Tokens of segments -/

theorem spellings_flatMap_tokens (haccepted : EachIndex (Accepted ceiling) segments) :
    Template.Token.spellings (segments.flatMap tokens) =
      (Template.mk segments).spelling.toList := by
  simp only [Template.spelling, String.toList_join, List.flatMap_map]
  induction segments with
  | nil => rfl
  | cons first rest ih =>
      rw [List.flatMap_cons, List.flatMap_cons, Template.Token.spellings_append]
      cases first with
      | literal text =>
          rw [eachIndex_literal] at haccepted
          rw [tokens, spellings_literals, ih haccepted]
      | placeholder index position =>
          rw [eachIndex_placeholder] at haccepted
          rw [tokens, Template.Token.spellings_cons, spelling_reference haccepted.1.1 position,
            Template.Token.spellings_nil, List.append_nil, ih haccepted.2]

theorem isLegal_of_mem_flatMap_tokens (hceiling : ceiling.natAbs < 10 ^ Numeral.digitLimit)
    (haccepted : EachIndex (Accepted ceiling) segments) :
    ∀ token ∈ segments.flatMap tokens, token.IsLegal ceiling := by
  intro token hmem
  obtain ⟨segment, hsegment, htoken⟩ := List.mem_flatMap.1 hmem
  cases segment with
  | literal text =>
      obtain ⟨c, -, rfl⟩ := List.mem_map.1 htoken
      trivial
  | placeholder index position =>
      obtain rfl := List.mem_singleton.1 htoken
      exact isLegal_reference hceiling (haccepted index position hsegment)

/-- The characters of a literal, one token each, join what follows them as one text. -/
theorem segments_literals (offset : Nat) (text : List Char) (more : List Template.Token) :
    Template.Token.segments offset (text.map .literal ++ more) =
      joinLiteral (String.ofList text)
        (Template.Token.segments
          (offset + (Template.Token.spellings (text.map .literal)).length) more) := by
  induction text generalizing offset with
  | nil => simp
  | cons c rest ih =>
      rw [List.map_cons, List.cons_append, Template.Token.segments_literal, ih,
        String.ofList_cons, joinLiteral_append, Template.Token.spellings_cons, List.length_append,
        Nat.add_assoc]

theorem segments_flatMap_tokens (haccepted : EachIndex (Accepted ceiling) segments)
    (offset : Nat) :
    Template.Token.segments offset (segments.flatMap tokens) =
      normalize (placed offset segments) := by
  induction segments generalizing offset with
  | nil => simp [placed]
  | cons first rest ih =>
      cases first with
      | literal text =>
          rw [eachIndex_literal] at haccepted
          rw [List.flatMap_cons, tokens, segments_literals, spellings_literals,
            String.length_toList, ih haccepted, placed, normalize_literal, String.ofList_toList]
      | placeholder index position =>
          rw [eachIndex_placeholder] at haccepted
          obtain ⟨⟨hnonneg, -⟩, hrest⟩ := haccepted
          rw [List.flatMap_cons, tokens, List.singleton_append, Template.Token.segments_reference,
            spelling_reference hnonneg position, String.length_toList, ih hrest, placed,
            normalize_placeholder, Numeral.value_digits, Int.toNat_of_nonneg hnonneg]

end Segment

namespace Template

variable {ceiling : Int}

/-! ## Indices that are not accepted -/

/-- Why the spelling of a placeholder is refused whose index is not between zero and the
ceiling. -/
def refusal (ceiling index : Int) : Flaw :=
  if index < 0 then .missingIndex '-' else .aboveCeiling ceiling

theorem rejected_placeholder {index : Int} (hindex : index.natAbs < 10 ^ Numeral.digitLimit)
    (hnot : ¬ Segment.Accepted ceiling index) (position : Option Int) (offset : Nat)
    (rest : List Char) :
    Rejected ceiling offset ((Segment.placeholder index position).spelling.toList ++ rest)
      (malformed (refusal ceiling index) offset) := by
  rw [Segment.Accepted] at hnot
  by_cases hneg : index < 0
  · have hspelling : (Segment.placeholder index position).spelling.toList ++ rest =
        '{' :: '-' :: (Numeral.digits index.natAbs ++ '}' :: rest) := by
      simp [Segment.spelling, Numeral.text, hneg, Numeral.digits]
    rw [hspelling, refusal, if_pos hneg]
    exact .missingIndex (by decide) (by decide)
  · have hspelling : (Segment.placeholder index position).spelling.toList ++ rest =
        '{' :: (Numeral.digits index.toNat ++ '}' :: rest) := by
      rw [← Segment.spelling_reference (by omega)]
      simp [Token.spelling]
    rw [hspelling, refusal, if_neg hneg]
    refine .aboveCeiling (Numeral.digits_ne_nil _) (fun c hc => Numeral.isDigit_of_mem_digits hc)
      ?_ (.inl (Numeral.digits_length_le_limit (by omega)))
    rw [Numeral.value_digits]
    omega

/-! ## Parsing what was spelled -/

theorem write_of_natAbs_lt {template : Template}
    (h : Segment.EachIndex (·.natAbs < 10 ^ Numeral.digitLimit) template.segments) :
    template.write = .ok template.spelling := by
  have hwritable : template.isWritable = true := by
    refine List.all_eq_true.2 fun segment hmem => ?_
    cases segment with
    | literal text => rfl
    | placeholder index position =>
        have hindex : Numeral.isWritable index = true := decide_eq_true (h index position hmem)
        simpa [Segment.isWritable, Segment.index?] using hindex
  rw [write, if_pos hwritable]

theorem parse_spelling_accepted (env : Environment)
    (hceiling : ceiling.natAbs < 10 ^ Numeral.digitLimit) {template : Template}
    (haccepted : Segment.EachIndex (Segment.Accepted ceiling) template.segments) :
    (parse env template.spelling (some ceiling)).result =
      .ok ⟨Segment.normalize (Segment.placed 0 template.segments)⟩ := by
  have hdrain := drain_derivation ⟨template.segments.flatMap Segment.tokens,
    Segment.spellings_flatMap_tokens haccepted,
    Segment.isLegal_of_mem_flatMap_tokens hceiling haccepted⟩
  rw [Segment.segments_flatMap_tokens haccepted] at hdrain
  rw [parse_given env _ (decide_eq_true hceiling), hdrain]

/-- The first index that is not accepted is refused where its placeholder is spelled. -/
theorem parse_spelling_first_refused (env : Environment)
    (hceiling : ceiling.natAbs < 10 ^ Numeral.digitLimit) {before : List Segment} {index : Int}
    (hindex : index.natAbs < 10 ^ Numeral.digitLimit)
    (hbefore : Segment.EachIndex (Segment.Accepted ceiling) before)
    (hnot : ¬ Segment.Accepted ceiling index) (position : Option Int) (after : List Segment) :
    (parse env (Template.mk (before ++ .placeholder index position :: after)).spelling
        (some ceiling)).result =
      .error (malformed (refusal ceiling index) (Template.mk before).spelling.length) := by
  have htext : (Template.mk (before ++ .placeholder index position :: after)).spelling.toList =
      Token.spellings (before.flatMap Segment.tokens) ++
        ((Segment.placeholder index position).spelling.toList ++
          (Template.mk after).spelling.toList) := by
    rw [Segment.spellings_flatMap_tokens hbefore]
    simp [spelling]
  have hlength : (Token.spellings (before.flatMap Segment.tokens)).length =
      (Template.mk before).spelling.length := by
    rw [Segment.spellings_flatMap_tokens hbefore, String.length_toList]
  have hdrain := drain_tokens_rejected
    (Segment.isLegal_of_mem_flatMap_tokens hceiling hbefore)
    (rejected_placeholder hindex hnot position
      (Token.spellings (before.flatMap Segment.tokens)).length
      (Template.mk after).spelling.toList)
  rw [← htext, hlength] at hdrain
  have hfault := congrArg Listing.fault hdrain
  rw [emitAll_fault] at hfault
  rw [parse_given env _ (decide_eq_true hceiling)]
  generalize drain _ _ = listing at hfault
  obtain ⟨segments, fault⟩ := listing
  obtain rfl : fault = some _ := hfault
  rfl

theorem parse_spelling_refused (env : Environment)
    (hceiling : ceiling.natAbs < 10 ^ Numeral.digitLimit) {template : Template}
    (hindices : Segment.EachIndex (·.natAbs < 10 ^ Numeral.digitLimit) template.segments)
    (hnot : ¬ Segment.EachIndex (Segment.Accepted ceiling) template.segments) :
    ∃ before index position after,
      template.segments = before ++ .placeholder index position :: after ∧
        Segment.EachIndex (Segment.Accepted ceiling) before ∧
        ¬ Segment.Accepted ceiling index ∧
        (parse env template.spelling (some ceiling)).result =
          .error (malformed (refusal ceiling index)
            (Template.mk before).spelling.length) := by
  obtain ⟨before, index, position, after, hsplit, hbefore, hrefused⟩ :=
    Segment.exists_first_not hnot
  obtain ⟨segments⟩ := template
  obtain rfl : segments = _ := hsplit
  have hindex := hindices index position (List.mem_append_right _ List.mem_cons_self)
  exact ⟨before, index, position, after, rfl, hbefore, hrefused,
    parse_spelling_first_refused env hceiling hindex hbefore hrefused position after⟩

/-- A spelling stands for the same template exactly if the indices are accepted and the segments are
in normal form. -/
theorem parse_spelling_same_iff (env : Environment)
    (hceiling : ceiling.natAbs < 10 ^ Numeral.digitLimit) {template : Template}
    (hindices : Segment.EachIndex (·.natAbs < 10 ^ Numeral.digitLimit) template.segments) :
    (∃ parsed, (parse env template.spelling (some ceiling)).result = .ok parsed ∧
        parsed.same template = true) ↔
      Segment.EachIndex (Segment.Accepted ceiling) template.segments ∧
        Segment.IsNormal template.segments := by
  constructor
  · rintro ⟨parsed, hparsed, hsame⟩
    by_cases haccepted : Segment.EachIndex (Segment.Accepted ceiling) template.segments
    · refine ⟨haccepted, ?_⟩
      rw [parse_spelling_accepted env hceiling haccepted] at hparsed
      obtain rfl := Except.ok.inj hparsed
      rw [same, decide_eq_true_eq] at hsame
      rw [← Segment.isNormal_map_erasePosition, ← hsame, Segment.isNormal_map_erasePosition]
      exact Segment.isNormal_normalize _
    · obtain ⟨before, index, position, after, -, -, -, herror⟩ :=
        parse_spelling_refused env hceiling hindices haccepted
      rw [hparsed] at herror
      cases herror
  · rintro ⟨haccepted, hnormal⟩
    refine ⟨_, parse_spelling_accepted env hceiling haccepted, ?_⟩
    have hplaced : Segment.IsNormal (Segment.placed 0 template.segments) := by
      rw [← Segment.isNormal_map_erasePosition, Segment.map_erasePosition_placed,
        Segment.isNormal_map_erasePosition]
      exact hnormal
    rw [Segment.normalize_of_isNormal hplaced, same, decide_eq_true_eq]
    exact Segment.map_erasePosition_placed 0 template.segments

/-- A spelling parses to the normal form of the segments, each placeholder at the offset where it is
spelled, or is rejected where the first placeholder is spelled whose index is not between zero and
the ceiling.  It parses to the same template exactly if the indices are and the segments are in
normal form already. -/
theorem parse_spelling (env : Environment) (template : Template) {ceiling : Int}
    (hceiling : ceiling.natAbs < 10 ^ Numeral.digitLimit)
    (hindices : Segment.EachIndex (·.natAbs < 10 ^ Numeral.digitLimit) template.segments) :
    template.write = .ok template.spelling ∧
      (Segment.EachIndex (Segment.Accepted ceiling) template.segments →
        (parse env template.spelling (some ceiling)).result =
          .ok ⟨Segment.normalize (Segment.placed 0 template.segments)⟩) ∧
      (¬ Segment.EachIndex (Segment.Accepted ceiling) template.segments →
        ∃ before index position after,
          template.segments = before ++ .placeholder index position :: after ∧
            Segment.EachIndex (Segment.Accepted ceiling) before ∧
            ¬ Segment.Accepted ceiling index ∧
            (parse env template.spelling (some ceiling)).result =
              .error (malformed (refusal ceiling index)
                (Template.mk before).spelling.length)) ∧
      ((∃ parsed, (parse env template.spelling (some ceiling)).result = .ok parsed ∧
          parsed.same template = true) ↔
        Segment.EachIndex (Segment.Accepted ceiling) template.segments ∧
          Segment.IsNormal template.segments) := by
  refine ⟨write_of_natAbs_lt hindices, ?_, ?_, parse_spelling_same_iff env hceiling hindices⟩
  · exact fun haccepted => parse_spelling_accepted env hceiling haccepted
  · exact fun hnot => parse_spelling_refused env hceiling hindices hnot

/-- Literals are merged, and the placeholder stands behind the doubled brace. -/
theorem parse_spelling_merged :
    (2 : Int).natAbs < 10 ^ Numeral.digitLimit ∧
      Segment.EachIndex (·.natAbs < 10 ^ Numeral.digitLimit)
        [.literal "\x7b", .literal "", .placeholder 1 none, .literal "a", .literal "b"] ∧
      (parse .empty (Template.mk [.literal "\x7b", .literal "", .placeholder 1 none, .literal "a",
          .literal "b"]).spelling (some 2)).result =
        .ok ⟨[.literal "\x7b", .placeholder 1 (some 2), .literal "ab"]⟩ := by
  have hceiling : (2 : Int).natAbs < 10 ^ Numeral.digitLimit := by decide +kernel
  have hone : (1 : Int).natAbs < 10 ^ Numeral.digitLimit := by decide +kernel
  have hindices : Segment.EachIndex (·.natAbs < 10 ^ Numeral.digitLimit)
      [.literal "\x7b", .literal "", .placeholder 1 none, .literal "a", .literal "b"] := by
    simp only [Segment.eachIndex_literal, Segment.eachIndex_placeholder]
    exact ⟨hone, Segment.eachIndex_nil _⟩
  have haccepted : Segment.EachIndex (Segment.Accepted 2)
      [.literal "\x7b", .literal "", .placeholder 1 none, .literal "a", .literal "b"] := by
    simp only [Segment.eachIndex_literal, Segment.eachIndex_placeholder]
    exact ⟨⟨by decide, by decide⟩, Segment.eachIndex_nil _⟩
  refine ⟨hceiling, hindices, ?_⟩
  rw [(parse_spelling .empty ⟨_⟩ hceiling hindices).2.1 haccepted]
  decide

end Template

end Positional
