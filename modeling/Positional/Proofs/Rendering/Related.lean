import Positional.Proofs.Rendering.Direct
import Positional.Proofs.Rendering.Total

/-!
# Two renderings of the same segments

Where two renderings agree at each placeholder on whether it has a text, they agree as a whole: both
come to texts, or both are stopped at the same placeholder.  What holds of the texts and of the
faults one by one holds of what the renderings come to.
-/

namespace Positional

variable {α β : Type}

/-- Two outcomes that are both texts or both faults, with a relation between the texts and one
between the faults. -/
inductive Related (texts : LooseText → LooseText → Prop) (faults : Fault → Fault → Prop) :
    Except Fault LooseText → Except Fault LooseText → Prop
  | ok {a b : LooseText} (h : texts a b) : Related texts faults (.ok a) (.ok b)
  | error {f g : Fault} (h : faults f g) : Related texts faults (.error f) (.error g)

/-- A relation between texts that literal text has to itself and that texts in a row keep. -/
structure JoinsTexts (texts : LooseText → LooseText → Prop) : Prop where
  refl : ∀ a, texts a a
  append : ∀ {a b c d}, texts a b → texts c d → texts (a ++ c) (b ++ d)

theorem joinsTexts_eq : JoinsTexts Eq :=
  ⟨fun _ => rfl, fun hfirst hrest => by rw [hfirst, hrest]⟩

theorem joinsTexts_true : JoinsTexts fun _ _ => True :=
  ⟨fun _ => trivial, fun _ _ => trivial⟩

theorem related_eq_iff {a b : Except Fault LooseText} : Related Eq Eq a b ↔ a = b := by
  constructor
  · rintro (hab | hab) <;> rw [hab]
  · rintro rfl
    cases a with
    | ok text => exact .ok rfl
    | error fault => exact .error rfl

variable {texts : LooseText → LooseText → Prop} {faults : Fault → Fault → Prop}
variable {render : Renderer α} {arguments : Arguments α}
variable {other : Renderer β} {others : Arguments β}

namespace Segment

/-- Whether two renderings are related at each placeholder of some segments. -/
def EachRelated (texts : LooseText → LooseText → Prop) (faults : Fault → Fault → Prop)
    (render : Renderer α) (arguments : Arguments α) (other : Renderer β) (others : Arguments β)
    (segments : List Segment) : Prop :=
  ∀ index position, placeholder index position ∈ segments →
    Related texts faults ((placeholder index position).rendered render arguments)
      ((placeholder index position).rendered other others)

theorem renderedAll_related (htexts : JoinsTexts texts) {segments : List Segment}
    (h : EachRelated texts faults render arguments other others segments) :
    Related texts faults (renderedAll render arguments segments)
      (renderedAll other others segments) := by
  induction segments with
  | nil => exact .ok (htexts.refl "")
  | cons segment rest ih =>
      have hrest := ih fun index position hmem => h index position (List.mem_cons_of_mem _ hmem)
      have hfirst : Related texts faults (segment.rendered render arguments)
          (segment.rendered other others) := by
        cases segment with
        | literal text => exact .ok (htexts.refl text)
        | placeholder index position => exact h index position List.mem_cons_self
      generalize hone : segment.rendered render arguments = one at hfirst
      generalize htwo : segment.rendered other others = two at hfirst
      cases hfirst with
      | error hfault =>
          rw [renderedAll_cons_error hone, renderedAll_cons_error htwo]
          exact .error hfault
      | ok htext =>
          rw [renderedAll_cons_ok hone, renderedAll_cons_ok htwo]
          generalize renderedAll render arguments rest = one at hrest
          generalize renderedAll other others rest = two at hrest
          cases hrest with
          | ok hmore => exact .ok (htexts.append htext hmore)
          | error hfault => exact .error hfault

end Segment

/-- Formatting the same text comes to related outcomes if the placeholders of the text do. -/
theorem format_related (htexts : JoinsTexts texts) (hfaults : ∀ fault, faults fault fault)
    {env : Environment} {text : String} {maxIndex : Option Int}
    (h : Segment.EachRelated texts faults render arguments other others
      ((Reader.fresh text maxIndex).drain env).result.segments) :
    Related texts faults (format env text maxIndex render arguments).result.outcome
      (format env text maxIndex other others).result.outcome := by
  rw [format_outcome, format_outcome]
  generalize ((Reader.fresh text maxIndex).drain env).result = listing at h
  have hall := Segment.renderedAll_related htexts h
  simp only [Template.Listing.rendered]
  generalize Segment.renderedAll render arguments listing.segments = one at hall
  generalize Segment.renderedAll other others listing.segments = two at hall
  cases hall with
  | error hfault => exact .error hfault
  | ok htext =>
      cases listing.fault with
      | none => exact .ok htext
      | some fault => exact .error (hfaults fault)

/-! ## Arguments that are changed one by one -/

section

variable {f : α → β} {render : Renderer β} {other : Renderer α} {items : List α}

theorem Arguments.get?_map (f : α → β) (items : List α) (index : Int) :
    (ofList (items.map f)).get? index = ((ofList items).get? index).map f := by
  have hsize : (ofList (items.map f)).size = (ofList items).size := List.length_map f
  have hitem : ∀ n : Nat, (ofList (items.map f)).items[n]? = ((ofList items).items[n]?).map f :=
    fun n => List.getElem?_map
  rw [get?, get?, hsize, hitem, hitem, apply_ite (Option.map f), apply_ite (Option.map f)]
  rfl

theorem Arguments.mem_of_get? {arguments : Arguments α} {index : Int} {item : α}
    (h : arguments.get? index = some item) : item ∈ arguments.items := by
  rw [get?] at h
  split at h
  · exact List.mem_of_getElem? h
  · split at h
    · exact List.mem_of_getElem? h
    · cases h

/-- Changing the arguments and then rendering them is rendering them in another way. -/
theorem Segment.rendered_map (h : ∀ item ∈ items, render (f item) = other item)
    (segment : Segment) :
    segment.rendered render (.ofList (items.map f)) = segment.rendered other (.ofList items) := by
  cases segment with
  | literal text => rfl
  | placeholder index position =>
      have hsize : (Arguments.ofList (items.map f)).size = (Arguments.ofList items).size :=
        List.length_map f
      rw [rendered, rendered, hsize, Arguments.get?_map]
      split
      · rfl
      · cases hget : (Arguments.ofList items).get? index with
        | none => rfl
        | some item => exact h item (Arguments.mem_of_get? hget)

theorem format_map (h : ∀ item ∈ items, render (f item) = other item) (env : Environment)
    (text : String) (maxIndex : Option Int) :
    (format env text maxIndex render (.ofList (items.map f))).result.outcome =
      (format env text maxIndex other (.ofList items)).result.outcome := by
  refine related_eq_iff.1 (format_related joinsTexts_eq (fun fault => rfl) ?_)
  intro index position _
  exact related_eq_iff.2 (Segment.rendered_map h _)

end

/-! ## Renderers that both have a text for every argument -/

theorem Segment.rendered_in_range (htotal : render.IsTotal arguments) {index : Int}
    (hnonneg : 0 ≤ index) (hrange : index < arguments.size) (position : Option Int) :
    ∃ text, (placeholder index position).rendered render arguments = .ok text := by
  obtain ⟨argument, hmem, hget⟩ := Arguments.exists_get? hnonneg hrange
  obtain ⟨text, htext⟩ := htotal argument hmem
  refine ⟨text, ?_⟩
  rw [rendered, if_neg (by omega), hget]
  exact htext

/-- With a text for every argument, it does not depend on the texts whether formatting comes to an
end, nor with which fault it is stopped. -/
theorem format_isTotal {other : Renderer α} (hrender : render.IsTotal arguments)
    (hother : other.IsTotal arguments) (env : Environment) (text : String)
    (maxIndex : Option Int) :
    Related (fun _ _ => True) Eq (format env text maxIndex render arguments).result.outcome
      (format env text maxIndex other arguments).result.outcome := by
  refine format_related joinsTexts_true (fun fault => rfl) fun index position hmem => ?_
  obtain ⟨-, hnonneg, -⟩ := Reader.placeholder_mem_drain hmem
  by_cases hrange : index < arguments.size
  · obtain ⟨written, hwritten⟩ := Segment.rendered_in_range hrender hnonneg hrange position
    obtain ⟨another, hanother⟩ := Segment.rendered_in_range hother hnonneg hrange position
    rw [hwritten, hanother]
    exact .ok trivial
  · rw [Segment.rendered_out_of_range (by omega), Segment.rendered_out_of_range (by omega)]
    exact .error rfl

end Positional
