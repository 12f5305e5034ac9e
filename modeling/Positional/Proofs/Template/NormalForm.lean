import Positional.Template.Segment
import Mathlib.Data.List.Chain

/-!
# Normal form of segments

Segments put together by hand may hold empty literals and literals next to each other, which no
template text can tell from one literal.  The normal form drops the former and merges the latter.
Segments that a template is read into are in normal form from the start: literal text is joined to
them one piece at a time.
-/

namespace Positional.Segment

def mergeAdjacent : List Segment → List Segment
  | [] => []
  | placeholder index position :: rest => placeholder index position :: mergeAdjacent rest
  | literal text :: rest =>
    match mergeAdjacent rest with
    | literal next :: more => literal (text ++ next) :: more
    | merged => literal text :: merged

/-- The segments without empty literals, and with adjacent literals merged. -/
def normalize (segments : List Segment) : List Segment :=
  mergeAdjacent (segments.filter (· ≠ literal ""))

/-- No literal is empty, and of two neighbours at most one is a literal. -/
structure IsNormal (segments : List Segment) : Prop where
  nonempty : literal "" ∉ segments
  separate : segments.IsChain fun a b => a.isPlaceholder = true ∨ b.isPlaceholder = true

/-- Put literal text in front of segments.  It joins a literal that comes first, and empty text
adds nothing. -/
def joinLiteral (text : String) : List Segment → List Segment
  | literal next :: rest => literal (text ++ next) :: rest
  | segments => if text = "" then segments else literal text :: segments

/-! ## Joining -/

@[simp] theorem joinLiteral_literal (text next : String) (rest : List Segment) :
    joinLiteral text (literal next :: rest) = literal (text ++ next) :: rest := rfl

theorem joinLiteral_of_separate {text : String} {segments : List Segment}
    (hsegments : ∀ next rest, segments ≠ literal next :: rest) :
    joinLiteral text segments = if text = "" then segments else literal text :: segments := by
  cases segments with
  | nil => rfl
  | cons first rest =>
      cases first with
      | literal next => exact (hsegments next rest rfl).elim
      | placeholder index position => rfl

@[simp] theorem joinLiteral_empty (segments : List Segment) :
    joinLiteral "" segments = segments := by
  unfold joinLiteral
  split <;> simp

/-- Joining text leaves segments as they are, or extends their first literal, or adds a literal. -/
theorem joinLiteral_cases (text : String) (segments : List Segment) :
    (text = "" ∧ joinLiteral text segments = segments) ∨
      (∃ next rest, segments = literal next :: rest ∧
        joinLiteral text segments = literal (text ++ next) :: rest) ∨
      ((∀ next rest, segments ≠ literal next :: rest) ∧
        joinLiteral text segments = literal text :: segments) := by
  by_cases htext : text = ""
  · left
    exact ⟨htext, by rw [htext, joinLiteral_empty]⟩
  · right
    cases segments with
    | nil => exact .inr ⟨by simp, by simp [joinLiteral, htext]⟩
    | cons first rest =>
        cases first with
        | literal next => exact .inl ⟨next, rest, rfl, rfl⟩
        | placeholder index position => exact .inr ⟨by simp, by simp [joinLiteral, htext]⟩

theorem joinLiteral_append (a b : String) (segments : List Segment) :
    joinLiteral (a ++ b) segments = joinLiteral a (joinLiteral b segments) := by
  by_cases hb : b = ""
  · simp [hb]
  · have hab : a ++ b ≠ "" := fun h => hb (String.append_eq_empty_iff.1 h).2
    cases segments with
    | nil => simp [joinLiteral, hb, hab]
    | cons first rest =>
        cases first with
        | literal next => simp [String.append_assoc]
        | placeholder index position => simp [joinLiteral, hb, hab]

/-! ## Normal form -/

@[simp] theorem normalize_nil : normalize [] = [] := rfl

@[simp] theorem normalize_placeholder (index : Int) (position : Option Int)
    (rest : List Segment) :
    normalize (placeholder index position :: rest) =
      placeholder index position :: normalize rest := by
  simp [normalize, mergeAdjacent]

@[simp] theorem normalize_literal (text : String) (rest : List Segment) :
    normalize (literal text :: rest) = joinLiteral text (normalize rest) := by
  by_cases htext : text = ""
  · simp [normalize, htext]
  · have hkeep : (literal text :: rest).filter (· ≠ literal "") =
        literal text :: rest.filter (· ≠ literal "") := by
      simp [htext]
    unfold normalize
    rw [hkeep, mergeAdjacent]
    split
    · rename_i next more hmore
      rw [hmore, joinLiteral_literal]
    · rename_i hmore
      rw [joinLiteral_of_separate hmore, if_neg htext]

theorem isNormal_nil : IsNormal [] :=
  ⟨by simp, List.IsChain.nil⟩

theorem isNormal_placeholder {index : Int} {position : Option Int} {rest : List Segment}
    (h : IsNormal rest) : IsNormal (placeholder index position :: rest) := by
  refine ⟨by simpa using h.nonempty, ?_⟩
  rw [List.isChain_cons]
  exact ⟨fun _ _ => .inl rfl, h.separate⟩

theorem IsNormal.tail {first : Segment} {rest : List Segment} (h : IsNormal (first :: rest)) :
    IsNormal rest :=
  ⟨fun hmem => h.nonempty (List.mem_cons_of_mem first hmem), h.separate.tail⟩

theorem isNormal_joinLiteral (text : String) {segments : List Segment} (h : IsNormal segments) :
    IsNormal (joinLiteral text segments) := by
  cases segments with
  | nil =>
      by_cases htext : text = ""
      · simpa [htext] using isNormal_nil
      · refine ⟨?_, ?_⟩ <;> simp [joinLiteral, htext]
  | cons first rest =>
      cases first with
      | literal next =>
          have hnext : next ≠ "" := by
            rintro rfl
            exact h.nonempty List.mem_cons_self
          refine ⟨?_, ?_⟩
          · simpa [hnext] using h.tail.nonempty
          · have hchain := h.separate
            rw [List.isChain_cons] at hchain
            rw [joinLiteral_literal, List.isChain_cons]
            exact hchain
      | placeholder index position =>
          by_cases htext : text = ""
          · simpa [htext] using h
          · rw [joinLiteral_of_separate (by simp), if_neg htext]
            refine ⟨by simpa [htext] using h.tail.nonempty, ?_⟩
            exact List.isChain_cons_cons.2 ⟨.inr rfl, h.separate⟩

theorem isNormal_normalize (segments : List Segment) : IsNormal (normalize segments) := by
  induction segments with
  | nil => exact isNormal_nil
  | cons first rest ih =>
      cases first with
      | literal text =>
          rw [normalize_literal]
          exact isNormal_joinLiteral text ih
      | placeholder index position =>
          rw [normalize_placeholder]
          exact isNormal_placeholder ih

theorem normalize_of_isNormal {segments : List Segment} (h : IsNormal segments) :
    normalize segments = segments := by
  induction segments with
  | nil => rfl
  | cons first rest ih =>
      have hrest := ih h.tail
      cases first with
      | placeholder index position => rw [normalize_placeholder, hrest]
      | literal text =>
          have htext : text ≠ "" := by
            rintro rfl
            exact h.nonempty List.mem_cons_self
          have hseparate : ∀ next more, rest ≠ literal next :: more := by
            rintro next more rfl
            have hchain := (List.isChain_cons_cons.1 h.separate).1
            simp [isPlaceholder] at hchain
          rw [normalize_literal, hrest, joinLiteral_of_separate hseparate, if_neg htext]

end Positional.Segment
