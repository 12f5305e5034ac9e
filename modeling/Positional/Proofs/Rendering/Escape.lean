import Positional.Proofs.Rendering.Observation

/-!
# Escaped text inside a template

Escaping spells a text as a template that shows the text and has no placeholder.  Between two
accepted templates it stays so: no brace of the text is read together with one of its neighbours, so
the whole shows the first template, then the text, then the second template.
-/

namespace Positional

variable {α : Type} {render : Renderer α} {arguments : Arguments α}

/-! ## Escaping as two replacements -/

def doubled (brace : Char) (text : List Char) : List Char :=
  text.flatMap fun c => if c = brace then [c, c] else [c]

@[simp] theorem doubled_cons (brace c : Char) (rest : List Char) :
    doubled brace (c :: rest) = (if c = brace then [c, c] else [c]) ++ doubled brace rest := rfl

/-- Doubling one brace and then the other is doubling each brace once: the braces that the first
replacement adds are not touched by the second. -/
theorem escape_toList_doubled (text : String) :
    (escape text).toList = doubled '}' (doubled '{' text.toList) := by
  rw [escape_toList]
  induction text.toList with
  | nil => rfl
  | cons c rest ih =>
      rw [List.flatMap_cons, ih, escapeChar]
      by_cases hopening : c = '{'
      · subst hopening
        simp
      · by_cases hclosing : c = '}' <;> simp [hopening, hclosing]

/-! ## Where segments meet -/

namespace Template

theorem placeholders_joinLiteral (text : String) (segments : List Segment) :
    (Segment.joinLiteral text segments).filter Segment.isPlaceholder =
      segments.filter Segment.isPlaceholder := by
  rcases Segment.joinLiteral_cases text segments with
    ⟨-, hjoin⟩ | ⟨next, rest, rfl, hjoin⟩ | ⟨-, hjoin⟩ <;> rw [hjoin] <;>
    simp [Segment.isPlaceholder]

/-- Merging literals where segments meet keeps the placeholders of both sides. -/
theorem placeholders_splice (before after : List Segment) :
    (splice before after).filter Segment.isPlaceholder =
      before.filter Segment.isPlaceholder ++ after.filter Segment.isPlaceholder := by
  fun_induction splice before after with
  | case1 after => rfl
  | case2 text next rest => simp [Segment.isPlaceholder]
  | case3 first rest after hseam ih =>
      rw [List.filter_cons, List.filter_cons, ih]
      split <;> rfl

theorem placeholders_shift (offset : Int) (segments : List Segment) :
    (segments.map (Segment.shift offset)).filter Segment.isPlaceholder =
      (segments.filter Segment.isPlaceholder).map (Segment.shift offset) := by
  have hkind : Segment.isPlaceholder ∘ Segment.shift offset = Segment.isPlaceholder := by
    funext segment
    cases segment <;> rfl
  rw [List.filter_map, hkind]

end Template

/-- Segments that are merged where they meet come to what they come to one after the other. -/
theorem Segment.renderedAll_splice (before after : List Segment) :
    renderedAll render arguments (Template.splice before after) =
      renderedAll render arguments (before ++ after) := by
  fun_induction Template.splice before after with
  | case1 after => rfl
  | case2 text next rest =>
      rw [List.singleton_append, renderedAll_literal, renderedAll_literal, renderedAll_literal,
        map_append_map, LooseText.ofString_append]
  | case3 first rest after hseam ih =>
      rw [List.cons_append]
      cases hfirst : first.rendered render arguments with
      | ok text => rw [renderedAll_cons_ok hfirst, renderedAll_cons_ok hfirst, ih]
      | error fault => rw [renderedAll_cons_error hfirst, renderedAll_cons_error hfirst]

/-! ## Escaped text -/

variable {env : Environment} {a b text : String} {ceiling : Int} {first last : Template}

theorem Template.parse_escape (env : Environment) (hceiling : Numeral.isWritable ceiling = true)
    (text : String) :
    (parse env (escape text) (some ceiling)).result = .ok ⟨Segment.joinLiteral text []⟩ := by
  have hspelling : (Template.mk [.literal text]).spelling = escape text := by
    simp [spelling, Segment.spelling, String.join]
  have haccepted : Segment.EachIndex (Segment.Accepted ceiling) [.literal text] := by
    rw [Segment.eachIndex_literal]
    exact Segment.eachIndex_nil _
  have hparse : (parse env (Template.mk [.literal text]).spelling (some ceiling)).result =
      .ok ⟨Segment.normalize (Segment.placed 0 [.literal text])⟩ :=
    parse_spelling_accepted env (of_decide_eq_true hceiling) haccepted
  rw [hspelling] at hparse
  simpa [Segment.placed] using hparse

/-- What accepted templates parse to with an escaped text between them. -/
theorem Template.parse_escape_between
    (ha : (parse env a (some ceiling)).result = .ok first)
    (hb : (parse env b (some ceiling)).result = .ok last) (text : String) :
    (parse env (a ++ escape text ++ b) (some ceiling)).result =
      .ok ⟨splice (splice first.segments (Segment.joinLiteral text []))
        (last.segments.map (Segment.shift (a ++ escape text).length))⟩ := by
  have hmiddle := parse_append ha (escape text)
  rw [parse_escape env (isWritable_of_parse ha)] at hmiddle
  simp only [joinLiteral_map_shift, List.map_nil] at hmiddle
  rw [parse_append hmiddle b, hb]

/-! ## Formatting -/

/-- Formatting goes by the ceiling that the reader settles on, given or not. -/
theorem format_of_ceiling {maxIndex : Option Int} {bound : Int}
    (h : (Reader.ceiling env maxIndex).result = .ok bound) :
    (format env a maxIndex render arguments).result.outcome =
      (format env a (some bound) render arguments).result.outcome := by
  rw [format_outcome, Reader.drain_fresh_ok h, format_given env a (Reader.isWritable_of_ceiling h)]

/-- A text that is formatted is accepted with the ceiling that the reader settles on. -/
theorem exists_ceiling_of_format {maxIndex : Option Int} {written : LooseText}
    (h : (format env a maxIndex render arguments).result.outcome = .ok written) :
    ∃ bound template, (Reader.ceiling env maxIndex).result = .ok bound ∧
      (Template.parse env a (some bound)).result = .ok template := by
  cases hceiling : (Reader.ceiling env maxIndex).result with
  | error fault =>
      rw [format_outcome, Reader.drain_fresh_error hceiling] at h
      cases h
  | ok bound =>
      rw [format_of_ceiling hceiling] at h
      obtain ⟨template, hparse⟩ := exists_parse_of_format h
      exact ⟨bound, template, rfl, hparse⟩

/-- Escaped text shows itself between what the templates around it show. -/
theorem format_escape_between {maxIndex : Option Int} {before after : LooseText}
    (ha : (format env a maxIndex render arguments).result.outcome = .ok before)
    (hb : (format env b maxIndex render arguments).result.outcome = .ok after) (text : String) :
    (format env (a ++ escape text ++ b) maxIndex render arguments).result.outcome =
      .ok (before ++ text ++ after) := by
  obtain ⟨bound, first, hceiling, hfirst⟩ := exists_ceiling_of_format ha
  obtain ⟨other, last, hother, hlast⟩ := exists_ceiling_of_format hb
  obtain rfl : bound = other := Except.ok.inj (hceiling.symm.trans hother)
  rw [format_of_ceiling hceiling, format_of_parse hfirst] at ha
  rw [format_of_ceiling hceiling, format_of_parse hlast] at hb
  rw [format_of_ceiling hceiling, format_of_parse (Template.parse_escape_between hfirst hlast text),
    Segment.renderedAll_splice, Segment.renderedAll_append, Segment.renderedAll_splice,
    Segment.renderedAll_append, ha, Segment.renderedAll_joinLiteral]
  have hshift := Segment.renderedAll_of_erasePosition
    (Segment.map_erasePosition_shift (a ++ escape text).length last.segments).symm hb
  rw [hshift]
  simp [Except.map, LooseText.append_assoc]

/-- An escaped text may stand anywhere between accepted templates.  Each brace is doubled once, the
whole is accepted, its placeholders are those of the templates around the text, the latter further
to the right, and what it is formatted to has the text in the middle as it is. -/
theorem escape_between (env : Environment) (a b text : String) {ceiling : Int}
    {first last : Template}
    (ha : (Template.parse env a (some ceiling)).result = .ok first)
    (hb : (Template.parse env b (some ceiling)).result = .ok last) :
    (escape text).toList = doubled '}' (doubled '{' text.toList) ∧
      (∃ whole, (Template.parse env (a ++ escape text ++ b) (some ceiling)).result = .ok whole ∧
        whole.placeholders = first.placeholders ++
          last.placeholders.map (Segment.shift (a.length + (escape text).length))) ∧
      ∀ {α : Type} (render : Renderer α) (arguments : Arguments α) (maxIndex : Option Int)
        (before after : LooseText),
        (format env a maxIndex render arguments).result.outcome = .ok before →
        (format env b maxIndex render arguments).result.outcome = .ok after →
          (format env (a ++ escape text ++ b) maxIndex render arguments).result.outcome =
            .ok (before ++ text ++ after) := by
  refine ⟨escape_toList_doubled text, ⟨_, Template.parse_escape_between ha hb text, ?_⟩, ?_⟩
  · simp only [Template.placeholders]
    rw [Template.placeholders_splice, Template.placeholders_splice,
      Template.placeholders_joinLiteral, Template.placeholders_shift, String.length_append]
    simp
  · intro α render arguments maxIndex before after hbefore hafter
    exact format_escape_between hbefore hafter text

/-- The braces of the text stand between braces of the templates around it, and its digits between
braces of their own. -/
theorem escape_between_braces :
    (Template.parse .empty "\x7b0\x7d\x7b\x7b" (some 9)).result =
        .ok ⟨[.placeholder 0 (some 0), .literal "\x7b"]⟩ ∧
      (Template.parse .empty "\x7d\x7d\x7b1\x7d" (some 9)).result =
        .ok ⟨[.literal "\x7d", .placeholder 1 (some 2)]⟩ ∧
      (∃ whole, (Template.parse .empty
          ("\x7b0\x7d\x7b\x7b" ++ escape "\x7b2\x7d" ++ "\x7d\x7d\x7b1\x7d") (some 9)).result =
            .ok whole ∧
        whole.placeholders = [.placeholder 0 (some 0), .placeholder 1 (some 12)]) ∧
      (format .empty ("\x7b0\x7d\x7b\x7b" ++ escape "\x7b2\x7d" ++ "\x7d\x7d\x7b1\x7d") (some 9)
        (fun s : String => .ok s) (.ofList ["p", "q"])).result.outcome =
          .ok ("p\x7b" ++ "\x7b2\x7d" ++ "\x7dq") := by
  have hceiling : Numeral.isWritable 9 = true := by decide +kernel
  have hfirst : Template.drain 9 ⟨0, "\x7b0\x7d\x7b\x7b".toList⟩ =
      ⟨[.placeholder 0 (some 0), .literal "\x7b"], none⟩ := by cbv
  have hlast : Template.drain 9 ⟨0, "\x7d\x7d\x7b1\x7d".toList⟩ =
      ⟨[.literal "\x7d", .placeholder 1 (some 2)], none⟩ := by cbv
  have ha := Template.parse_of_drain .empty hceiling hfirst
  have hb := Template.parse_of_drain .empty hceiling hlast
  obtain ⟨-, ⟨whole, hwhole, hplaceholders⟩, hformat⟩ := escape_between .empty _ _ "\x7b2\x7d" ha hb
  refine ⟨ha, hb, ⟨whole, hwhole, hplaceholders.trans (by decide)⟩, ?_⟩
  refine hformat _ _ _ _ _ ?_ ?_
  · rw [format_given .empty _ hceiling, hfirst]
    rfl
  · rw [format_given .empty _ hceiling, hlast]
    rfl

end Positional
