import Positional.Proofs.Rendering.Direct
import Positional.Proofs.Rendering.Total
import Positional.Proofs.Template.Append

/-!
# Formatting templates one after the other

A template text with another one behind it is formatted to the text of the first followed by that of
the second.  Of their faults the one of the first is reported, and one of the second alone is
reported further to the right.
-/

namespace Positional

attribute [local instance (high)] instPowNat

variable {α : Type} {render : Renderer α} {arguments : Arguments α}

namespace Template

/-! ## Tokens in front of a listing -/

theorem Listing.rendered_prepend (text : String) (listing : Listing) :
    (listing.prepend text).rendered render arguments =
      (listing.rendered render arguments).map (.ofString text ++ ·) := by
  obtain ⟨segments, fault⟩ := listing
  cases fault with
  | none =>
      rw [Listing.prepend_done, Listing.rendered_done, Listing.rendered_done,
        Segment.renderedAll_joinLiteral]
  | some fault =>
      cases segments with
      | nil => rfl
      | cons first rest =>
          rw [Listing.prepend_cons]
          simp only [Listing.rendered, Segment.renderedAll_joinLiteral]
          cases Segment.renderedAll render arguments (first :: rest) <;> rfl

theorem Listing.rendered_cons (segment : Segment) (segments : List Segment)
    (fault : Option Fault) :
    Listing.rendered render arguments ⟨segment :: segments, fault⟩ =
      match segment.rendered render arguments with
      | .ok text => (Listing.rendered render arguments ⟨segments, fault⟩).map (text ++ ·)
      | .error problem => .error problem := by
  cases hsegment : segment.rendered render arguments with
  | error problem =>
      rw [Listing.rendered, Segment.renderedAll_cons_error hsegment]
  | ok text =>
      simp only [Listing.rendered, Segment.renderedAll_cons_ok hsegment]
      cases Segment.renderedAll render arguments segments <;> cases fault <;> rfl

/-- What tokens come to in front of a listing: their own text and then what the listing comes to. -/
theorem rendered_emitAll (offset : Nat) (following : Listing) (tokens : List Token) :
    (Token.emitAll offset following tokens).rendered render arguments =
      match Segment.renderedAll render arguments (Token.segments offset tokens) with
      | .ok text => (following.rendered render arguments).map (text ++ ·)
      | .error problem => .error problem := by
  induction tokens generalizing offset with
  | nil =>
      rw [Token.emitAll, Token.segments_nil]
      exact (Segment.map_append_empty _).symm
  | cons token tokens ih =>
      rw [Token.emitAll]
      have hrest := ih (offset + token.spelling.length)
      cases token with
      | literal c =>
          rw [Token.emit, Listing.rendered_prepend, hrest, Token.segments_literal,
            Segment.renderedAll_joinLiteral]
          cases Segment.renderedAll render arguments (Token.segments _ tokens) with
          | error problem => rfl
          | ok text => exact Segment.map_append_map _ _ _
      | reference digits =>
          rw [Token.emit, Listing.rendered_cons, hrest, Token.segments_reference]
          cases hfirst : (Segment.placeholder (Numeral.value digits) (some offset)).rendered
              render arguments with
          | error problem => rw [Segment.renderedAll_cons_error hfirst]
          | ok text =>
              rw [Segment.renderedAll_cons_ok hfirst]
              cases Segment.renderedAll render arguments (Token.segments _ tokens) with
              | error problem => rfl
              | ok more => exact Segment.map_append_map _ _ _

end Template

/-! ## Further to the right -/

namespace Segment

theorem map_erasePosition_shift (offset : Int) (segments : List Segment) :
    (segments.map (shift offset)).map erasePosition = segments.map erasePosition := by
  rw [List.map_map]
  refine List.map_congr_left fun segment _ => ?_
  cases segment <;> rfl

theorem renderedAll_stopped {before : List Segment} {text : LooseText} {segment : Segment}
    {fault : Fault} (hbefore : renderedAll render arguments before = .ok text)
    (hsegment : segment.rendered render arguments = .error fault) (after : List Segment) :
    renderedAll render arguments (before ++ segment :: after) = .error fault := by
  rw [renderedAll_append, hbefore, renderedAll_cons_error hsegment]
  rfl

/-- Where the renderer always answers, segments further to the right come to the same text, or the
same index is out of range further to the right. -/
theorem renderedAll_shift (htotal : render.IsTotal arguments) {segments : List Segment}
    (hnonneg : EachIndex (0 ≤ ·) segments) (offset : Int) :
    (∃ text, renderedAll render arguments segments = .ok text ∧
        renderedAll render arguments (segments.map (shift offset)) = .ok text) ∨
      ∃ index position, placeholder index position ∈ segments ∧
        renderedAll render arguments segments =
          .error (.ofFormatError (.indexOutOfRange index arguments.size position)) ∧
        renderedAll render arguments (segments.map (shift offset)) =
          .error (.ofFormatError
            (.indexOutOfRange index arguments.size (position.map (· + offset)))) := by
  -- segments in range have a text, and it does not depend on where they stand
  have hrendered : ∀ part : List Segment, EachIndex (0 ≤ ·) part →
      EachIndex (· < arguments.size) part →
        ∃ text, renderedAll render arguments part = .ok text ∧
          renderedAll render arguments (part.map (shift offset)) = .ok text := by
    intro part hpart hrange
    obtain ⟨text, htext⟩ := Rendering.ofSegments_in_range htotal hpart hrange
    rw [Rendering.ofSegments_outcome] at htext
    exact ⟨text, htext,
      renderedAll_of_erasePosition (map_erasePosition_shift offset part).symm htext⟩
  by_cases hrange : EachIndex (· < arguments.size) segments
  · exact .inl (hrendered segments hnonneg hrange)
  · obtain ⟨before, index, position, after, rfl, hbefore, hnot⟩ := exists_first_not hrange
    have hstart : EachIndex (0 ≤ ·) before := by
      intro other place hmem
      exact hnonneg other place (List.mem_append_left _ hmem)
    obtain ⟨text, htext, hfurther⟩ := hrendered before hstart hbefore
    have hout : (arguments.size : Int) ≤ index := Int.not_lt.1 hnot
    refine .inr ⟨index, position, List.mem_append_right _ List.mem_cons_self, ?_, ?_⟩
    · exact renderedAll_stopped htext (rendered_out_of_range hout position) after
    · rw [List.map_append, List.map_cons]
      exact renderedAll_stopped hfurther
        (rendered_out_of_range hout (position.map (· + offset))) _

end Segment

/-- An index that is out of range is reported where its placeholder stands, unless that place has
too many digits to be written. -/
theorem Fault.ofFormatError_shift (index available : Int) (start offset : Nat) :
    ofFormatError (.indexOutOfRange index available (some ((start : Int) + offset))) =
        (ofFormatError (.indexOutOfRange index available (some (start : Int)))).shift offset ∨
      10 ^ Numeral.digitLimit ≤ start + offset ∧
        ofFormatError (.indexOutOfRange index available (some ((start : Int) + offset))) =
          .unwritableInteger := by
  have hwritable : ∀ place : Int,
      (FormatError.indexOutOfRange index available (some place)).isWritable =
        (Numeral.isWritable place && Numeral.isWritable index &&
          Numeral.isWritable available) := by
    intro place
    simp only [FormatError.isWritable, FormatError.position, FormatError.index,
      FormatError.available, Option.all_some]
  unfold ofFormatError
  rw [hwritable, hwritable]
  by_cases hplace : start + offset < 10 ^ Numeral.digitLimit
  · left
    have hstart : Numeral.isWritable (start : Int) = true := decide_eq_true (by omega)
    have hfurther : Numeral.isWritable ((start : Int) + offset) = true :=
      decide_eq_true (by omega)
    rw [hstart, hfurther]
    split <;> rfl
  · right
    have hfurther : Numeral.isWritable ((start : Int) + offset) = false :=
      decide_eq_false (by omega)
    rw [hfurther]
    exact ⟨Nat.not_lt.1 hplace, rfl⟩

/-! ## Formatting -/

/-- What a text comes to behind another one, where the renderer always answers. -/
theorem Template.rendered_drain_shift (htotal : render.IsTotal arguments) (ceiling : Int)
    (offset : Nat) (text : List Char) :
    (∃ written, (drain ceiling ⟨0, text⟩).rendered render arguments = .ok written ∧
        ((drain ceiling ⟨0, text⟩).shift offset).rendered render arguments = .ok written) ∨
      ∃ fault, (drain ceiling ⟨0, text⟩).rendered render arguments = .error fault ∧
        (((drain ceiling ⟨0, text⟩).shift offset).rendered render arguments =
            .error (fault.shift offset) ∨
          10 ^ Numeral.digitLimit < offset + text.length ∧
            ((drain ceiling ⟨0, text⟩).shift offset).rendered render arguments =
              .error .unwritableInteger) := by
  have hnonneg : Segment.EachIndex (0 ≤ ·) (drain ceiling ⟨0, text⟩).segments := by
    intro index position hmem
    obtain ⟨start, hindex, -⟩ := placeholder_mem_drain hmem
    exact hindex
  have hplace : ∀ index position,
      .placeholder index position ∈ (drain ceiling ⟨0, text⟩).segments →
        ∃ start : Nat, position = some (start : Int) ∧ start < text.length := by
    intro index position hmem
    obtain ⟨start, -, -, hposition, hstart⟩ := placeholder_mem_drain hmem
    exact ⟨start, hposition, hstart⟩
  generalize drain ceiling ⟨0, text⟩ = listing at hnonneg hplace
  obtain ⟨segments, fault⟩ := listing
  rcases Segment.renderedAll_shift htotal hnonneg offset with
    ⟨written, hwritten, hfurther⟩ | ⟨index, position, hmem, herror, hfurther⟩
  · cases fault with
    | none => exact .inl ⟨written, by simpa using hwritten, by simpa [Listing.shift] using hfurther⟩
    | some fault =>
        refine .inr ⟨fault, ?_, .inl ?_⟩
        · simp only [Listing.rendered, hwritten]
        · simp only [Listing.rendered, Listing.shift, Option.map_some, hfurther]
  · right
    obtain ⟨start, rfl, hstart⟩ := hplace index position hmem
    rw [Option.map_some] at hfurther
    have hrendered : Listing.rendered render arguments ⟨segments, fault⟩ =
        .error (.ofFormatError (.indexOutOfRange index arguments.size (some (start : Int)))) := by
      simp only [Listing.rendered, herror]
    refine ⟨_, hrendered, ?_⟩
    simp only [Listing.rendered, Listing.shift, hfurther]
    rcases Fault.ofFormatError_shift index arguments.size start offset with
      hsame | ⟨hlong, hunwritable⟩
    · exact .inl (congrArg _ hsame)
    · exact .inr ⟨by omega, congrArg _ hunwritable⟩

variable {env : Environment} {a : String} {ceiling : Int} {first : Template}

/-- A fault of the first text is that of both; otherwise its text comes first, and a fault of the
second text comes further to the right. -/
theorem format_append (htotal : render.IsTotal arguments)
    (ha : (Template.parse env a (some ceiling)).result = .ok first) (b : String) :
    (∀ fault, (format env a (some ceiling) render arguments).result.outcome = .error fault →
        (format env (a ++ b) (some ceiling) render arguments).result.outcome = .error fault) ∧
      ∀ written, (format env a (some ceiling) render arguments).result.outcome = .ok written →
        (∀ more, (format env b (some ceiling) render arguments).result.outcome = .ok more →
          (format env (a ++ b) (some ceiling) render arguments).result.outcome =
            .ok (written ++ more)) ∧
        ∀ fault, (format env b (some ceiling) render arguments).result.outcome = .error fault →
          (format env (a ++ b) (some ceiling) render arguments).result.outcome =
              .error (fault.shift a.length) ∨
            10 ^ Numeral.digitLimit < (a ++ b).length ∧
              (format env (a ++ b) (some ceiling) render arguments).result.outcome =
                .error .unwritableInteger := by
  have hceiling := Template.isWritable_of_parse ha
  obtain ⟨d, rfl⟩ := Template.exists_derivation ha
  have hsecond := Template.rendered_drain_shift htotal ceiling a.length b.toList
  have hwhole := Template.drain_append d b.toList
  rw [← String.toList_append, String.length_toList] at hwhole
  rw [String.length_toList, ← String.length_append] at hsecond
  rw [format_given env a hceiling, format_given env b hceiling, format_given env (a ++ b) hceiling,
    hwhole, Template.rendered_emitAll, Template.drain_derivation d,
    Template.Listing.rendered_done]
  refine ⟨?_, ?_⟩
  · intro fault hfault
    rw [hfault]
  · intro written hwritten
    rw [hwritten]
    rcases hsecond with ⟨more, hmore, hfurther⟩ | ⟨fault, hfault, hfurther⟩
    · rw [hmore, hfurther]
      constructor
      · intro other hother
        obtain rfl := Except.ok.inj hother
        rfl
      · intro fault hfault
        cases hfault
    · rw [hfault]
      constructor
      · intro more hmore
        cases hmore
      · intro other hother
        obtain rfl := Except.error.inj hother
        rcases hfurther with hshift | ⟨hlong, hunwritable⟩
        · left
          rw [hshift]
          rfl
        · right
          refine ⟨hlong, ?_⟩
          rw [hunwritable]
          rfl

/-- A text behind an accepted one is accepted or rejected as it is alone, and formatted as it is
alone, only further to the right.  The one exception is an index out of range behind so much text
that its place has too many digits to be written. -/
theorem parse_format_append (env : Environment) (a b : String) {ceiling : Int} {first : Template}
    (ha : (Template.parse env a (some ceiling)).result = .ok first) :
    ((∃ whole, (Template.parse env (a ++ b) (some ceiling)).result = .ok whole) ↔
        ∃ second, (Template.parse env b (some ceiling)).result = .ok second) ∧
      (∀ second, (Template.parse env b (some ceiling)).result = .ok second →
        (Template.parse env (a ++ b) (some ceiling)).result =
          .ok ⟨Template.splice first.segments
            (second.segments.map (Segment.shift a.length))⟩) ∧
      (∀ fault, (Template.parse env b (some ceiling)).result = .error fault →
        (Template.parse env (a ++ b) (some ceiling)).result = .error (fault.shift a.length)) ∧
      ∀ {α : Type} (render : Renderer α) (arguments : Arguments α), render.IsTotal arguments →
        (∀ fault, (format env a (some ceiling) render arguments).result.outcome = .error fault →
          (format env (a ++ b) (some ceiling) render arguments).result.outcome =
            .error fault) ∧
        ∀ written, (format env a (some ceiling) render arguments).result.outcome = .ok written →
          (∀ more, (format env b (some ceiling) render arguments).result.outcome = .ok more →
            (format env (a ++ b) (some ceiling) render arguments).result.outcome =
              .ok (written ++ more)) ∧
          ∀ fault, (format env b (some ceiling) render arguments).result.outcome = .error fault →
            (format env (a ++ b) (some ceiling) render arguments).result.outcome =
                .error (fault.shift a.length) ∨
              10 ^ Numeral.digitLimit < (a ++ b).length ∧
                (format env (a ++ b) (some ceiling) render arguments).result.outcome =
                  .error .unwritableInteger := by
  have hparse := Template.parse_append ha b
  refine ⟨?_, ?_, ?_, ?_⟩
  · rw [hparse]
    cases (Template.parse env b (some ceiling)).result <;> simp
  · intro second hsecond
    rw [hparse, hsecond]
  · intro fault hfault
    rw [hparse, hfault]
  · intro α render arguments htotal
    exact format_append htotal ha b

/-- The doubled brace and the arrow are one literal, and the second placeholder stands behind both.
-/
theorem parse_format_append_merged :
    (Template.parse .empty "\x7b0\x7d\x7b\x7b" (some 9)).result =
        .ok ⟨[.placeholder 0 (some 0), .literal "\x7b"]⟩ ∧
      Renderer.IsTotal (fun s : String => .ok s) (.ofList ["p", "q"]) ∧
      (Template.parse .empty ("\x7b0\x7d\x7b\x7b" ++ "=>\x7b1\x7d") (some 9)).result =
        .ok ⟨[.placeholder 0 (some 0), .literal "\x7b=>", .placeholder 1 (some 7)]⟩ ∧
      (format .empty ("\x7b0\x7d\x7b\x7b" ++ "=>\x7b1\x7d") (some 9) (fun s : String => .ok s)
        (.ofList ["p", "q"])).result.outcome = .ok "p\x7b=>q" := by
  have hceiling : Numeral.isWritable 9 = true := by decide +kernel
  have hfirst : Template.drain 9 ⟨0, "\x7b0\x7d\x7b\x7b".toList⟩ =
      ⟨[.placeholder 0 (some 0), .literal "\x7b"], none⟩ := by cbv
  have hsecond : Template.drain 9 ⟨0, "=>\x7b1\x7d".toList⟩ =
      ⟨[.literal "=>", .placeholder 1 (some 2)], none⟩ := by cbv
  have ha : (Template.parse .empty "\x7b0\x7d\x7b\x7b" (some 9)).result =
      .ok ⟨[.placeholder 0 (some 0), .literal "\x7b"]⟩ :=
    Template.parse_of_drain .empty hceiling hfirst
  have hb : (Template.parse .empty "=>\x7b1\x7d" (some 9)).result =
      .ok ⟨[.literal "=>", .placeholder 1 (some 2)]⟩ :=
    Template.parse_of_drain .empty hceiling hsecond
  have htotal : Renderer.IsTotal (fun s : String => .ok s) (.ofList ["p", "q"]) :=
    fun argument _ => ⟨argument, rfl⟩
  obtain ⟨-, hparse, -, hformat⟩ := parse_format_append .empty _ "=>\x7b1\x7d" ha
  obtain ⟨-, hwritten⟩ := hformat _ _ htotal
  refine ⟨ha, htotal, (hparse _ hb).trans (by decide), ?_⟩
  refine (hwritten "p\x7b" ?_).1 "=>q" ?_
  · rw [format_given .empty _ hceiling, hfirst]
    rfl
  · rw [format_given .empty _ hceiling, hsecond]
    rfl

end Positional
