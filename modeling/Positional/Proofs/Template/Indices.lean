import Positional.Template.Basic

/-!
# Indices of segments

A property of every index that segments refer to holds of a list exactly if it holds of its first
segment and of the rest, and where it fails there is a first placeholder at which it does.  So many
arguments are enough for a template exactly if every index is below their number.
-/

namespace Positional.Segment

/-- Whether every index that segments refer to has a property. -/
def EachIndex (p : Int → Prop) (segments : List Segment) : Prop :=
  ∀ index position, placeholder index position ∈ segments → p index

variable {p : Int → Prop} {segments rest : List Segment}

/-- Whether every known position of a placeholder has a property. -/
def EachPosition (p : Int → Prop) (segments : List Segment) : Prop :=
  ∀ index position, placeholder index (some position) ∈ segments → p position

@[simp] theorem eachIndex_nil (p : Int → Prop) : EachIndex p [] :=
  fun _ _ hmem => by cases hmem

@[simp] theorem eachIndex_literal {text : String} :
    EachIndex p (literal text :: rest) ↔ EachIndex p rest := by
  simp [EachIndex]

@[simp] theorem eachIndex_placeholder {index : Int} {position : Option Int} :
    EachIndex p (placeholder index position :: rest) ↔ p index ∧ EachIndex p rest := by
  constructor
  · intro h
    exact ⟨h index position List.mem_cons_self,
      fun other place hmem => h other place (List.mem_cons_of_mem _ hmem)⟩
  · rintro ⟨hindex, hrest⟩ other place hmem
    rcases List.mem_cons.1 hmem with hfirst | hmem
    · obtain ⟨rfl, -⟩ := placeholder.inj hfirst
      exact hindex
    · exact hrest other place hmem

/-- Where not every index has a property, there is a first one that has not. -/
theorem exists_first_not (h : ¬ EachIndex p segments) :
    ∃ before index position after, segments = before ++ placeholder index position :: after ∧
      EachIndex p before ∧ ¬ p index := by
  induction segments with
  | nil => exact (h (eachIndex_nil p)).elim
  | cons first rest ih =>
      cases first with
      | literal text =>
          rw [eachIndex_literal] at h
          obtain ⟨before, index, position, after, rfl, hbefore, hnot⟩ := ih h
          exact ⟨literal text :: before, index, position, after, rfl,
            eachIndex_literal.2 hbefore, hnot⟩
      | placeholder index position =>
          by_cases hindex : p index
          · rw [eachIndex_placeholder] at h
            obtain ⟨before, other, place, after, rfl, hbefore, hnot⟩ := ih fun hrest =>
              h ⟨hindex, hrest⟩
            exact ⟨placeholder index position :: before, other, place, after, rfl,
              eachIndex_placeholder.2 ⟨hindex, hbefore⟩, hnot⟩
          · exact ⟨[], index, position, rest, rfl, eachIndex_nil p, hindex⟩

end Positional.Segment

/-! ## The arguments a template needs -/

namespace Positional

theorem Segment.eachIndex_iff_index? {p : Int → Prop} {segments : List Segment} :
    EachIndex p segments ↔ ∀ index ∈ segments.filterMap index?, p index := by
  constructor
  · intro h index hmem
    obtain ⟨segment, hsegment, hindex⟩ := List.mem_filterMap.1 hmem
    cases segment with
    | literal text => cases hindex
    | placeholder other position =>
        obtain rfl := Option.some.inj hindex
        exact h other position hsegment
  · intro h index position hmem
    exact h index (List.mem_filterMap.2 ⟨_, hmem, rfl⟩)

theorem foldl_max_lt_iff (first bound : Int) (rest : List Int) :
    rest.foldl max first < bound ↔ first < bound ∧ ∀ index ∈ rest, index < bound := by
  induction rest generalizing first with
  | nil => simp
  | cons next rest ih =>
      rw [List.foldl_cons, ih, List.forall_mem_cons, ← and_assoc, Int.max_lt]

theorem Template.required_le_iff (template : Template) (count : Nat) :
    template.required ≤ count ↔ Segment.EachIndex (· < (count : Int)) template.segments := by
  have hindices : (∀ index ∈ template.indices, index < (count : Int)) ↔
      Segment.EachIndex (· < (count : Int)) template.segments := by
    rw [Segment.eachIndex_iff_index?]
    simp only [indices, List.mem_eraseDups]
  rw [← hindices, required]
  cases template.indices with
  | nil => simp
  | cons first rest =>
      rw [List.forall_mem_cons, ← foldl_max_lt_iff]
      exact Int.add_one_le_iff

theorem Template.required_nonneg {template : Template}
    (h : Segment.EachIndex (0 ≤ ·) template.segments) : 0 ≤ template.required := by
  rw [Segment.eachIndex_iff_index?] at h
  rw [required]
  cases hindices : template.indices with
  | nil => exact Int.le_refl 0
  | cons first rest =>
      have hmem : first ∈ template.indices := hindices ▸ List.mem_cons_self
      have hfirst : 0 ≤ first := h first (List.mem_eraseDups.1 hmem)
      have hmax : ¬ rest.foldl max first < 0 := fun hlt =>
        Int.not_lt.2 hfirst ((foldl_max_lt_iff first 0 rest).1 hlt).1
      dsimp only
      omega

end Positional
