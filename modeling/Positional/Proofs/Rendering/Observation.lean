import Positional.Proofs.Rendering.Append
import Positional.Proofs.Template.Parsed
import Positional.Value.Text

/-!
# What can be observed of a template

Templates that were parsed are the same exactly if no arguments tell them apart.  What a template
shows is a sequence of characters and arguments, which normal form makes as good as the segments.
Two such sequences differ at a first place, and the arguments there can be chosen so that the texts
differ there too.
-/

namespace Positional

inductive Piece where
  /-- a character of literal text -/
  | character (c : Char)
  /-- the argument at an index -/
  | argument (index : Int)
deriving DecidableEq

namespace Piece

def filled (text : Int → List Char) : Piece → List Char
  | character c => [c]
  | argument index => text index

def segments : List Piece → List Segment
  | [] => []
  | character c :: rest => Segment.joinLiteral (String.singleton c) (segments rest)
  | argument index :: rest => .placeholder index none :: segments rest

end Piece

namespace Segment

def pieces : Segment → List Piece
  | literal text => text.toList.map .character
  | placeholder index _ => [.argument index]

/-! ## Pieces and normal form -/

theorem segments_characters (text : List Char) (rest : List Piece) :
    Piece.segments (text.map .character ++ rest) =
      joinLiteral (String.ofList text) (Piece.segments rest) := by
  induction text with
  | nil => simp
  | cons c text ih =>
      rw [List.map_cons, List.cons_append, Piece.segments, ih, String.ofList_cons,
        joinLiteral_append]

theorem segments_pieces (segments : List Segment) :
    Piece.segments (segments.flatMap pieces) = normalize (segments.map erasePosition) := by
  induction segments with
  | nil => rfl
  | cons segment rest ih =>
      rw [List.flatMap_cons, List.map_cons]
      cases segment with
      | literal text =>
          rw [pieces, segments_characters, ih, String.ofList_toList, erasePosition,
            normalize_literal]
      | placeholder index position =>
          rw [pieces, List.singleton_append, Piece.segments, ih, erasePosition,
            normalize_placeholder]

/-- Segments in normal form that show the same are the same, positions apart. -/
theorem erasePosition_eq_of_pieces {a b : List Segment} (ha : IsNormal a) (hb : IsNormal b)
    (h : a.flatMap pieces = b.flatMap pieces) :
    a.map erasePosition = b.map erasePosition := by
  have hnormal : normalize (a.map erasePosition) = normalize (b.map erasePosition) := by
    rw [← segments_pieces, ← segments_pieces, h]
  rwa [normalize_of_isNormal (isNormal_map_erasePosition.2 ha),
    normalize_of_isNormal (isNormal_map_erasePosition.2 hb)] at hnormal

end Segment

/-! ## Telling pieces apart -/

namespace Piece

/-- Two pieces that differ can be given texts that differ at the front. -/
theorem exists_front_ne {p q : Piece} (h : p ≠ q) :
    ∃ (text : Int → List Char) (c d : Char) (s t : List Char), c ≠ d ∧
      p.filled text = c :: s ∧ q.filled text = d :: t := by
  have hother : ∀ c : Char, ∃ d, d ≠ c := by
    intro c
    by_cases hc : c = 'a'
    · exact ⟨'b', by rw [hc]; decide⟩
    · exact ⟨'a', fun ha => hc ha.symm⟩
  cases p with
  | character c =>
      cases q with
      | character d =>
          have hne : c ≠ d := fun hcd => h (congrArg character hcd)
          exact ⟨fun _ => [], c, d, [], [], hne, rfl, rfl⟩
      | argument index =>
          obtain ⟨d, hd⟩ := hother c
          exact ⟨fun _ => [d], c, d, [], [], hd.symm, rfl, rfl⟩
  | argument index =>
      cases q with
      | character d =>
          obtain ⟨c, hc⟩ := hother d
          exact ⟨fun _ => [c], c, d, [], [], hc, rfl, rfl⟩
      | argument other =>
          have hne : other ≠ index := fun hindex => h (congrArg argument hindex.symm)
          refine ⟨fun i => if i = index then ['a'] else ['b'], 'a', 'b', [], [], by decide, ?_, ?_⟩
          · exact if_pos rfl
          · exact if_neg hne

theorem exists_ne_nil (p : Piece) (rest : List Piece) :
    ∃ text, (p :: rest).flatMap (filled text) ≠ [] := by
  refine ⟨fun _ => ['a'], ?_⟩
  rw [List.flatMap_cons]
  cases p <;> simp [filled]

/-- Sequences of pieces that differ can be given texts that differ: what they have in common at the
front has the same text, and at the first place where they differ the texts can be told apart. -/
theorem exists_filled_ne {a b : List Piece} (h : a ≠ b) :
    ∃ text, a.flatMap (filled text) ≠ b.flatMap (filled text) := by
  induction a generalizing b with
  | nil =>
      obtain ⟨q, more, rfl⟩ := List.exists_cons_of_ne_nil h.symm
      obtain ⟨text, htext⟩ := exists_ne_nil q more
      exact ⟨text, htext.symm⟩
  | cons p rest ih =>
      cases b with
      | nil => exact exists_ne_nil p rest
      | cons q more =>
          by_cases hpq : p = q
          · subst hpq
            have hrest : rest ≠ more := fun hrest => h (congrArg (p :: ·) hrest)
            obtain ⟨text, htext⟩ := ih hrest
            refine ⟨text, fun heq => htext ?_⟩
            exact List.append_cancel_left heq
          · obtain ⟨text, c, d, s, t, hne, hp, hq⟩ := exists_front_ne hpq
            refine ⟨text, fun heq => hne ?_⟩
            rw [List.flatMap_cons, List.flatMap_cons, hp, hq] at heq
            exact (List.cons.inj heq).1

end Piece

/-! ## Texts as arguments -/

namespace Segment

variable {α : Type} {render : Renderer α} {arguments : Arguments α}

theorem renderedAll_pieces {text : Int → List Char} {segments : List Segment}
    (h : EachIndex (fun index => ∀ position,
      (placeholder index position).rendered render arguments =
        .ok (String.ofList (text index))) segments) :
    renderedAll render arguments segments =
      .ok (String.ofList ((segments.flatMap pieces).flatMap (Piece.filled text))) := by
  induction segments with
  | nil => rfl
  | cons segment rest ih =>
      rw [List.flatMap_cons, List.flatMap_append, String.ofList_append, LooseText.ofString_append]
      cases segment with
      | literal s =>
          rw [eachIndex_literal] at h
          have hpieces : (pieces (literal s)).flatMap (Piece.filled text) = s.toList := by
            rw [pieces, List.flatMap_map]
            exact List.flatMap_singleton' _
          rw [renderedAll_literal, ih h, hpieces, String.ofList_toList]
          rfl
      | placeholder index position =>
          rw [eachIndex_placeholder] at h
          have hpieces : (pieces (placeholder index position)).flatMap (Piece.filled text) =
              text index := List.flatMap_singleton _ _
          rw [renderedAll_cons_ok (h.1 position), ih h.2, hpieces]
          rfl

end Segment

def textsBelow (count : Nat) (text : Int → List Char) : List String :=
  (List.range count).map fun index : Nat => String.ofList (text index)

theorem isTotal_shown_texts (texts : List String) :
    Renderer.IsTotal Value.shown (.ofList (texts.map Value.ofString)) := by
  intro value hmem
  obtain ⟨written, -, rfl⟩ := List.mem_map.1 hmem
  exact ⟨written, rfl⟩

theorem rendered_textsBelow (text : Int → List Char) {count : Nat} {index : Int}
    (hnonneg : 0 ≤ index) (hrange : index < count) (position : Option Int) :
    (Segment.placeholder index position).rendered Value.shown
        (.ofList ((textsBelow count text).map Value.ofString)) =
      .ok (String.ofList (text index)) := by
  obtain ⟨n, rfl⟩ := Int.eq_ofNat_of_zero_le hnonneg
  have hsize : (Arguments.ofList ((textsBelow count text).map Value.ofString)).size = count := by
    simp [Arguments.size, Arguments.ofList, textsBelow]
  have hget : (Arguments.ofList ((textsBelow count text).map Value.ofString)).get? n =
      some (.text (String.ofList (text n))) := by
    have hlt : n < count := by omega
    simp [Arguments.get?, Arguments.ofList, textsBelow, hlt, Value.ofString]
  rw [Segment.rendered, hsize, if_neg (by omega), hget]
  rfl

/-! ## Templates that were parsed -/

variable {env : Environment} {a b : String} {ceiling : Int} {first second : Template}

theorem exists_format_of_required
    (ha : (Template.parse env a (some ceiling)).result = .ok first) {texts : List String}
    (hrequired : first.required ≤ texts.length) :
    ∃ written, (format env a (some ceiling) Value.shown
      (.ofList (texts.map Value.ofString))).result.outcome = .ok written := by
  have hnonneg : Segment.EachIndex (0 ≤ ·) first.segments := fun index position hmem =>
    (Template.accepted_of_parse ha index position hmem).1
  have hsize : (Arguments.ofList (texts.map Value.ofString)).size = texts.length :=
    List.length_map Value.ofString
  have hrange := (first.required_le_iff texts.length).1 hrequired
  rw [← hsize] at hrange
  obtain ⟨written, hwritten⟩ :=
    Rendering.ofSegments_in_range (isTotal_shown_texts texts) hnonneg hrange
  rw [Rendering.ofSegments_outcome] at hwritten
  exact ⟨written, (format_of_parse ha).trans hwritten⟩

/-- A template that was parsed is formatted to the text of what it shows. -/
theorem format_textsBelow (ha : (Template.parse env a (some ceiling)).result = .ok first)
    {count : Nat} (hrequired : first.required ≤ count) (text : Int → List Char) :
    (format env a (some ceiling) Value.shown
        (.ofList ((textsBelow count text).map Value.ofString))).result.outcome =
      .ok (String.ofList ((first.segments.flatMap Segment.pieces).flatMap
        (Piece.filled text))) := by
  rw [format_of_parse ha]
  refine Segment.renderedAll_pieces fun index position hmem => ?_
  have hnonneg := (Template.accepted_of_parse ha index position hmem).1
  have hrange := (first.required_le_iff count).1 hrequired index position hmem
  exact rendered_textsBelow text hnonneg hrange

/-- Two parsed templates are the same exactly if they are formatted to the same text with any texts
that are enough for both. -/
theorem same_iff_format_eq (env : Environment) {a b : String} {ceiling : Int}
    {first second : Template}
    (ha : (Template.parse env a (some ceiling)).result = .ok first)
    (hb : (Template.parse env b (some ceiling)).result = .ok second) :
    first.same second = true ↔
      ∀ texts : List String, first.required ≤ texts.length → second.required ≤ texts.length →
        ∃ written,
          (format env a (some ceiling) Value.shown
            (.ofList (texts.map Value.ofString))).result.outcome = .ok written ∧
          (format env b (some ceiling) Value.shown
            (.ofList (texts.map Value.ofString))).result.outcome = .ok written := by
  rw [Template.same, decide_eq_true_eq]
  constructor
  · intro hsame texts hfirst hsecond
    obtain ⟨written, hwritten⟩ := exists_format_of_required ha hfirst
    refine ⟨written, hwritten, ?_⟩
    rw [format_of_parse ha] at hwritten
    rw [format_of_parse hb]
    exact Segment.renderedAll_of_erasePosition hsame hwritten
  · intro hformat
    refine Segment.erasePosition_eq_of_pieces (Template.isNormal_of_parse ha)
      (Template.isNormal_of_parse hb) ?_
    by_contra hpieces
    obtain ⟨text, htext⟩ := Piece.exists_filled_ne hpieces
    -- enough texts for both templates
    let count := max first.required.toNat second.required.toNat
    have hfirst : first.required ≤ count := by omega
    have hsecond : second.required ≤ count := by omega
    have hlength : (textsBelow count text).length = count := by simp [textsBelow]
    obtain ⟨written, hone, hother⟩ := hformat (textsBelow count text) (by rw [hlength]; exact hfirst)
      (by rw [hlength]; exact hsecond)
    rw [format_textsBelow ha hfirst text] at hone
    rw [format_textsBelow hb hsecond text] at hother
    have hsame := LooseText.ofString_inj.1 (Except.ok.inj (hone.trans hother.symm))
    exact htext (String.ofList_inj.1 hsame)

/-- A leading zero moves what follows it, but no arguments tell. -/
theorem same_iff_format_eq_zeros :
    (Template.parse .empty "\x7b00\x7d-\x7b0\x7d" (some 9)).result =
        .ok ⟨[.placeholder 0 (some 0), .literal "-", .placeholder 0 (some 5)]⟩ ∧
      (Template.parse .empty "\x7b0\x7d-\x7b0\x7d" (some 9)).result =
        .ok ⟨[.placeholder 0 (some 0), .literal "-", .placeholder 0 (some 4)]⟩ ∧
      ∀ texts : List String, 1 ≤ texts.length → ∃ written,
        (format .empty "\x7b00\x7d-\x7b0\x7d" (some 9) Value.shown
          (.ofList (texts.map Value.ofString))).result.outcome = .ok written ∧
        (format .empty "\x7b0\x7d-\x7b0\x7d" (some 9) Value.shown
          (.ofList (texts.map Value.ofString))).result.outcome = .ok written := by
  have hceiling : Numeral.isWritable 9 = true := by decide +kernel
  have ha : (Template.parse .empty "\x7b00\x7d-\x7b0\x7d" (some 9)).result =
      .ok ⟨[.placeholder 0 (some 0), .literal "-", .placeholder 0 (some 5)]⟩ :=
    Template.parse_of_drain .empty hceiling (by cbv)
  have hb : (Template.parse .empty "\x7b0\x7d-\x7b0\x7d" (some 9)).result =
      .ok ⟨[.placeholder 0 (some 0), .literal "-", .placeholder 0 (some 4)]⟩ :=
    Template.parse_of_drain .empty hceiling (by cbv)
  refine ⟨ha, hb, fun texts hlength => ?_⟩
  have hrequired : (1 : Int) ≤ texts.length := by omega
  exact (same_iff_format_eq .empty ha hb).1 (by decide) texts hrequired hrequired

end Positional
