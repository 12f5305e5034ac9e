import Positional.Proofs.Template.Acceptance

/-!
# Templates one after the other

No token of an accepted text depends on what follows it.  So the text with another one behind it is
scanned as the two are alone: what the second one gives comes further to the right, and the literals
are merged where the two meet.
-/

namespace Positional

/-! ## Further to the right -/

def Segment.shift (offset : Int) : Segment → Segment
  | literal text => literal text
  | placeholder index position => placeholder index (position.map (· + offset))

/-- The same fault further to the right.  Only a format error has a place in a template. -/
def Fault.shift (offset : Int) : Fault → Fault
  | format error => format (error.shift offset)
  | other => other

namespace Template

def Listing.shift (offset : Int) (listing : Listing) : Listing :=
  ⟨listing.segments.map (Segment.shift offset), listing.fault.map (Fault.shift offset)⟩

variable {ceiling : Int} {text : List Char} {fault : Fault}

theorem joinLiteral_map_shift (offset : Int) (text : String) (segments : List Segment) :
    (Segment.joinLiteral text segments).map (Segment.shift offset) =
      Segment.joinLiteral text (segments.map (Segment.shift offset)) := by
  cases segments with
  | nil => by_cases htext : text = "" <;> simp [Segment.joinLiteral, Segment.shift, htext]
  | cons first rest =>
      cases first with
      | literal next => simp [Segment.shift]
      | placeholder index position =>
          by_cases htext : text = "" <;> simp [Segment.joinLiteral, Segment.shift, htext]

theorem Listing.shift_prepend (offset : Int) (text : String) (listing : Listing) :
    (listing.prepend text).shift offset = (listing.shift offset).prepend text := by
  obtain ⟨segments, fault⟩ := listing
  cases fault with
  | none => simp [Listing.shift, joinLiteral_map_shift]
  | some fault =>
      cases segments with
      | nil => simp [Listing.shift]
      | cons first rest => simp [Listing.shift, joinLiteral_map_shift]

theorem Token.emit_shift (start offset : Nat) (following : Listing) (token : Token) :
    token.emit (start + offset) (following.shift offset) =
      (token.emit start following).shift offset := by
  cases token with
  | literal c => exact (Listing.shift_prepend offset _ following).symm
  | reference digits => simp [Token.emit, Listing.shift, Segment.shift]

theorem Token.emitAll_shift (start offset : Nat) (following : Listing) (tokens : List Token) :
    Token.emitAll (start + offset) (following.shift offset) tokens =
      (Token.emitAll start following tokens).shift offset := by
  induction tokens generalizing start with
  | nil => rfl
  | cons token tokens ih =>
      have hrest := ih (start + token.spelling.length)
      rw [Nat.add_right_comm] at hrest
      rw [Token.emitAll, Token.emitAll, hrest, Token.emit_shift]

theorem Rejected.shift {start : Nat} (h : Rejected ceiling start text fault) (offset : Nat) :
    Rejected ceiling (start + offset) text (fault.shift offset) := by
  cases h with
  | closing single => exact .closing single
  | unterminated digits => exact .unterminated digits
  | missingIndex stop single => exact .missingIndex stop single
  | missingClose nonempty digits stop unclosed =>
      exact .missingClose nonempty digits stop unclosed
  | aboveCeiling nonempty digits above told => exact .aboveCeiling nonempty digits above told
  | unreadable overlong => exact .unreadable overlong

theorem drain_shift (ceiling : Int) (offset : Nat) (text : List Char) :
    drain ceiling ⟨offset, text⟩ = (drain ceiling ⟨0, text⟩).shift offset := by
  obtain ⟨tokens, rest, hlegal, rfl, hrest⟩ := exists_tokens ceiling 0 text
  rw [drain_tokens hlegal, drain_tokens hlegal, ← Token.emitAll_shift, Nat.zero_add]
  rcases hrest with rfl | ⟨fault, hrejected⟩
  · rw [drain_nil, drain_nil]
    rfl
  · have hfurther := hrejected.shift offset
    rw [Nat.zero_add, Nat.add_comm] at hfurther
    rw [drain_rejected hrejected, drain_rejected hfurther]
    rfl

/-! ## Where two templates meet -/

/-- Segments and the segments after them.  A literal at the end is merged with a literal that comes
next. -/
def splice : List Segment → List Segment → List Segment
  | [], after => after
  | [.literal text], .literal next :: rest => .literal (text ++ next) :: rest
  | first :: rest, after => first :: splice rest after

@[simp] theorem splice_nil (after : List Segment) : splice [] after = after := by
  rw [splice]

@[simp] theorem splice_placeholder (index : Int) (position : Option Int)
    (rest after : List Segment) :
    splice (.placeholder index position :: rest) after =
      .placeholder index position :: splice rest after := by
  rw [splice]
  simp

theorem splice_joinLiteral (text : String) (segments after : List Segment) :
    splice (Segment.joinLiteral text segments) after =
      Segment.joinLiteral text (splice segments after) := by
  cases segments with
  | nil =>
      by_cases htext : text = ""
      · simp [htext]
      · cases after with
        | nil => simp [Segment.joinLiteral, splice, htext]
        | cons first rest => cases first <;> simp [Segment.joinLiteral, splice, htext]
  | cons first rest =>
      cases first with
      | placeholder index position =>
          by_cases htext : text = "" <;> simp [Segment.joinLiteral, splice, htext]
      | literal next =>
          -- the joined literal is the last one, or stays what it is
          cases rest with
          | cons second more => simp [splice]
          | nil =>
              cases after with
              | nil => simp [splice]
              | cons first rest =>
                  cases first <;> simp [splice, String.append_assoc]

/-- Tokens in front of segments give the segments that they stand for, spliced with those. -/
theorem emitAll_segments (offset : Nat) (after : List Segment) (tokens : List Token) :
    Token.emitAll offset ⟨after, none⟩ tokens =
      ⟨splice (Token.segments offset tokens) after, none⟩ := by
  induction tokens generalizing offset with
  | nil => simp [Token.emitAll]
  | cons token tokens ih =>
      rw [Token.emitAll, ih]
      cases token with
      | literal c => simp [Token.emit, splice_joinLiteral]
      | reference digits => simp [Token.emit]

/-- An accepted text is scanned as if nothing came after it, and what comes after it is scanned as
if it came first. -/
theorem drain_append {front : List Char} (d : Derivation ceiling front) (back : List Char) :
    drain ceiling ⟨0, front ++ back⟩ =
      Token.emitAll 0 ((drain ceiling ⟨0, back⟩).shift front.length) d.tokens := by
  have hdrain : drain ceiling ⟨0, Token.spellings d.tokens ++ back⟩ = _ := drain_tokens d.legal
  rw [d.spelled, Nat.zero_add, drain_shift ceiling front.length] at hdrain
  exact hdrain

theorem parse_append {env : Environment} {a : String} {first : Template}
    (ha : (parse env a (some ceiling)).result = .ok first) (b : String) :
    (parse env (a ++ b) (some ceiling)).result =
      match (parse env b (some ceiling)).result with
      | .ok second => .ok ⟨splice first.segments (second.segments.map (Segment.shift a.length))⟩
      | .error fault => .error (fault.shift a.length) := by
  have hceiling := isWritable_of_parse ha
  obtain ⟨d, rfl⟩ := exists_derivation ha
  have hdrain := drain_append d b.toList
  rw [← String.toList_append, String.length_toList] at hdrain
  rw [parse_given env b hceiling]
  generalize drain ceiling ⟨0, b.toList⟩ = listing at hdrain ⊢
  obtain ⟨segments, fault⟩ := listing
  cases fault with
  | none =>
      rw [Listing.shift, Option.map_none, emitAll_segments] at hdrain
      exact parse_of_drain env hceiling hdrain
  | some fault =>
      apply parse_of_fault env hceiling
      rw [hdrain, emitAll_fault]
      rfl

end Template

end Positional
