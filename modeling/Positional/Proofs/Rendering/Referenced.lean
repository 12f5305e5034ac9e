import Positional.Proofs.Rendering.Memory
import Positional.Proofs.Rendering.Related

/-!
# Arguments that a template refers to

What a template text is formatted to depends on the arguments at the indices of its placeholders
alone.  Of the number of arguments only so much matters as whether each of these indices is below
it; the number itself shows in the report of an index that is not.
-/

namespace Positional

attribute [local instance (high)] instPowNat

/-- Two faults that are the same, but for the number of arguments that the report of an index out of
range gives. -/
inductive Fault.SameButCount (count other : Nat) : Fault → Fault → Prop
  | same (fault : Fault) : SameButCount count other fault fault
  | outOfRange (index : Int) (position : Option Int) :
      SameButCount count other (.format (.indexOutOfRange index count position))
        (.format (.indexOutOfRange index other position))

theorem Fault.eq_of_sameButCount {count : Nat} {fault other : Fault}
    (h : SameButCount count count fault other) : fault = other := by
  cases h <;> rfl

theorem Fault.sameButCount_ofFormatError {index : Int} {count other : Nat}
    (hindex : Numeral.isWritable index = true) (hcount : count ≤ index) (hother : other ≤ index)
    (position : Option Int) :
    SameButCount count other (ofFormatError (.indexOutOfRange index count position))
      (ofFormatError (.indexOutOfRange index other position)) := by
  rw [ofFormatError_indexOutOfRange hindex hcount, ofFormatError_indexOutOfRange hindex hother]
  split
  · exact .outOfRange index position
  · exact .same _

variable {α : Type} {render : Renderer α}

/-- Whether two lists of arguments look the same at an index: both have an argument there and the
renderer answers the same for both, or neither has one. -/
def Renderer.AgreeAt (render : Renderer α) (arguments others : List α) (index : Int) : Prop :=
  (∃ argument other, arguments[index.toNat]? = some argument ∧
      others[index.toNat]? = some other ∧ render argument = render other) ∨
    arguments[index.toNat]? = none ∧ others[index.toNat]? = none

theorem Renderer.AgreeAt.related {arguments others : List α} {index : Int}
    (h : render.AgreeAt arguments others index) (hnonneg : 0 ≤ index)
    (hindex : Numeral.isWritable index = true) (position : Option Int) :
    Related Eq (Fault.SameButCount arguments.length others.length)
      ((Segment.placeholder index position).rendered render (.ofList arguments))
      ((Segment.placeholder index position).rendered render (.ofList others)) := by
  rcases h with ⟨argument, other, hargument, hother, hrender⟩ | ⟨hargument, hother⟩
  · have hrange := (List.getElem?_eq_some_iff.1 hargument).1
    have hranges := (List.getElem?_eq_some_iff.1 hother).1
    have hget : (Arguments.ofList arguments).get? index = some argument :=
      (Arguments.get?_of_nonneg hnonneg).trans hargument
    have hgets : (Arguments.ofList others).get? index = some other :=
      (Arguments.get?_of_nonneg hnonneg).trans hother
    have hsize : (Arguments.ofList arguments).size = arguments.length := rfl
    have hsizes : (Arguments.ofList others).size = others.length := rfl
    rw [Segment.rendered, Segment.rendered, if_neg (by omega), if_neg (by omega), hget, hgets]
    simp only [hrender]
    cases render other with
    | ok text => exact .ok rfl
    | error fault => exact .error (.same fault)
  · have hrange := List.getElem?_eq_none_iff.1 hargument
    have hranges := List.getElem?_eq_none_iff.1 hother
    have hcount : (arguments.length : Int) ≤ index := by omega
    have hcounts : (others.length : Int) ≤ index := by omega
    rw [Segment.rendered_out_of_range hcount, Segment.rendered_out_of_range hcounts]
    exact .error (Fault.sameButCount_ofFormatError hindex hcount hcounts position)

theorem Related.eq_of_faults {faults : Fault → Fault → Prop} {a b : Except Fault LooseText}
    (h : Related Eq faults a b) (hfaults : ∀ f g, faults f g → f = g) : a = b := by
  cases h with
  | ok htext => rw [htext]
  | error hfault => rw [hfaults _ _ hfault]

theorem format_agree {env : Environment} {text : String} {maxIndex : Option Int}
    {arguments others : List α}
    (h : Segment.EachIndex (render.AgreeAt arguments others)
      ((Reader.fresh text maxIndex).drain env).result.segments) :
    Related Eq (Fault.SameButCount arguments.length others.length)
      (format env text maxIndex render (.ofList arguments)).result.outcome
      (format env text maxIndex render (.ofList others)).result.outcome := by
  refine format_related joinsTexts_eq Fault.SameButCount.same fun index position hmem => ?_
  obtain ⟨-, hnonneg, hindex, -⟩ := Reader.placeholder_mem_drain hmem
  exact (h index position hmem).related hnonneg hindex position

theorem Renderer.agreeAt_of_eq {arguments others : List α} {index : Int}
    (h : arguments[index.toNat]? = others[index.toNat]?) :
    render.AgreeAt arguments others index := by
  cases hother : others[index.toNat]? with
  | none => exact .inr ⟨h.trans hother, hother⟩
  | some other => exact .inl ⟨other, other, h.trans hother, hother, rfl⟩

/-- Formatting with two lists of arguments that look the same at the indices of the placeholders
comes to the same text or the same fault, but for the number of arguments in its report.  So
arguments that no placeholder refers to can be replaced, added and dropped. -/
theorem format_of_referenced (env : Environment) (text : String) (maxIndex : Option Int)
    (render : Renderer α) :
    (∀ arguments others : List α,
      Segment.EachIndex (render.AgreeAt arguments others)
          ((Reader.fresh text maxIndex).drain env).result.segments →
        Related Eq (Fault.SameButCount arguments.length others.length)
          (format env text maxIndex render (.ofList arguments)).result.outcome
          (format env text maxIndex render (.ofList others)).result.outcome) ∧
      (∀ arguments others : List α, arguments.length = others.length →
        Segment.EachIndex (fun index => arguments[index.toNat]? = others[index.toNat]?)
            ((Reader.fresh text maxIndex).drain env).result.segments →
          (format env text maxIndex render (.ofList arguments)).result.outcome =
            (format env text maxIndex render (.ofList others)).result.outcome) ∧
      ∀ arguments more : List α,
        Segment.EachIndex (fun index => index < arguments.length ∨
              (arguments ++ more).length ≤ index)
            ((Reader.fresh text maxIndex).drain env).result.segments →
          Related Eq (Fault.SameButCount arguments.length (arguments ++ more).length)
            (format env text maxIndex render (.ofList arguments)).result.outcome
            (format env text maxIndex render (.ofList (arguments ++ more))).result.outcome := by
  refine ⟨fun arguments others h => format_agree h, fun arguments others hlength h => ?_,
    fun arguments more h => format_agree fun index position hmem => ?_⟩
  · have hagree : Segment.EachIndex (render.AgreeAt arguments others)
        ((Reader.fresh text maxIndex).drain env).result.segments := fun index position hmem =>
      Renderer.agreeAt_of_eq (h index position hmem)
    have hrelated := format_agree hagree
    rw [hlength] at hrelated
    exact hrelated.eq_of_faults fun fault other => Fault.eq_of_sameButCount
  · obtain ⟨-, hnonneg, -⟩ := Reader.placeholder_mem_drain hmem
    rcases h index position hmem with hbelow | habove
    · refine Renderer.agreeAt_of_eq (List.getElem?_append_left ?_).symm
      omega
    · rw [List.length_append] at habove
      refine .inr ⟨List.getElem?_eq_none_iff.2 ?_, List.getElem?_eq_none_iff.2 ?_⟩
      · omega
      · rw [List.length_append]
        omega

/-- Only the first argument is referred to, and the third is missing either way. -/
theorem format_of_referenced_missing :
    (Segment.EachIndex (Renderer.AgreeAt (fun s : String => .ok s) ["p", "q"] ["p"])
          ((Reader.fresh "\x7b0\x7d-\x7b2\x7d" (some 9)).drain .empty).result.segments ∧
        Related Eq (Fault.SameButCount 2 1)
          (format .empty "\x7b0\x7d-\x7b2\x7d" (some 9) (fun s : String => .ok s)
            (.ofList ["p", "q"])).result.outcome
          (format .empty "\x7b0\x7d-\x7b2\x7d" (some 9) (fun s : String => .ok s)
            (.ofList ["p"])).result.outcome) ∧
      ((["p", "q"].length = ["p", "r"].length ∧
          Segment.EachIndex
            (fun index => (["p", "q"] : List String)[index.toNat]? = ["p", "r"][index.toNat]?)
            ((Reader.fresh "\x7b0\x7d-\x7b2\x7d" (some 9)).drain .empty).result.segments) ∧
        (format .empty "\x7b0\x7d-\x7b2\x7d" (some 9) (fun s : String => .ok s)
            (.ofList ["p", "q"])).result.outcome =
          (format .empty "\x7b0\x7d-\x7b2\x7d" (some 9) (fun s : String => .ok s)
            (.ofList ["p", "r"])).result.outcome) ∧
      Segment.EachIndex
          (fun index => index < ["p"].length ∨ (["p"] ++ ["q"]).length ≤ index)
          ((Reader.fresh "\x7b0\x7d-\x7b2\x7d" (some 9)).drain .empty).result.segments ∧
        Related Eq (Fault.SameButCount 1 2)
          (format .empty "\x7b0\x7d-\x7b2\x7d" (some 9) (fun s : String => .ok s)
            (.ofList ["p"])).result.outcome
          (format .empty "\x7b0\x7d-\x7b2\x7d" (some 9) (fun s : String => .ok s)
            (.ofList (["p"] ++ ["q"]))).result.outcome := by
  obtain ⟨hagree, hreplace, hadd⟩ := format_of_referenced .empty "\x7b0\x7d-\x7b2\x7d" (some 9)
    (fun s : String => .ok s)
  have hceiling : Numeral.isWritable 9 = true := by decide +kernel
  have hscan : Template.drain 9 ⟨0, "\x7b0\x7d-\x7b2\x7d".toList⟩ =
      ⟨[.placeholder 0 (some 0), .literal "-", .placeholder 2 (some 4)], none⟩ := by cbv
  have hlisted : ((Reader.fresh "\x7b0\x7d-\x7b2\x7d" (some 9)).drain .empty).result.segments =
      [.placeholder 0 (some 0), .literal "-", .placeholder 2 (some 4)] := by
    rw [Reader.drain_fresh_ok (Reader.ceiling_of_isWritable .empty hceiling), hscan]
  rw [hlisted] at hagree hreplace hadd ⊢
  have hsame : Segment.EachIndex (Renderer.AgreeAt (fun s : String => .ok s) ["p", "q"] ["p"])
      [.placeholder 0 (some 0), .literal "-", .placeholder 2 (some 4)] := by
    simp only [Segment.eachIndex_placeholder, Segment.eachIndex_literal]
    exact ⟨.inl ⟨"p", "p", rfl, rfl, rfl⟩, .inr ⟨rfl, rfl⟩, Segment.eachIndex_nil _⟩
  have hreplaced : Segment.EachIndex
      (fun index => (["p", "q"] : List String)[index.toNat]? = ["p", "r"][index.toNat]?)
      [.placeholder 0 (some 0), .literal "-", .placeholder 2 (some 4)] := by
    simp only [Segment.eachIndex_placeholder, Segment.eachIndex_literal]
    exact ⟨rfl, rfl, Segment.eachIndex_nil _⟩
  have hadded : Segment.EachIndex
      (fun index => index < ["p"].length ∨ (["p"] ++ ["q"]).length ≤ index)
      [.placeholder 0 (some 0), .literal "-", .placeholder 2 (some 4)] := by
    simp only [Segment.eachIndex_placeholder, Segment.eachIndex_literal]
    exact ⟨.inl (by decide), .inr (by decide), Segment.eachIndex_nil _⟩
  exact ⟨⟨hsame, hagree ["p", "q"] ["p"] hsame⟩,
    ⟨⟨rfl, hreplaced⟩, hreplace ["p", "q"] ["p", "r"] rfl hreplaced⟩,
    hadded, hadd ["p"] ["q"] hadded⟩

end Positional
