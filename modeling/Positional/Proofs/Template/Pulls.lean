import Positional.Proofs.Template.Reader

/-!
# Readers pulled one item at a time

A reader that is pulled again and again gives what it gives when it is drained: its segments in
order, then its fault or the end, and after that nothing but the end.  Once the ceiling is settled,
no later change of the environment matters to what is left.
-/

namespace Positional

def Reader.Item.segment? : Reader.Item → Option Segment
  | .segment given => some given
  | _ => none

namespace Template.Listing

/-- What comes behind the segments: the fault if there is one, and otherwise the end. -/
def last (listing : Listing) : Reader.Item :=
  match listing.fault with
  | some fault => .fault fault
  | none => .done

/-- What comes at a place: a segment, behind the segments the fault or the end, and after that the
end. -/
def item (listing : Listing) (place : Nat) : Reader.Item :=
  match listing.segments[place]? with
  | some segment => .segment segment
  | none => if place = listing.segments.length then listing.last else .done

def items (listing : Listing) (count : Nat) : List Reader.Item :=
  (List.range count).map listing.item

def skip (count : Nat) (listing : Listing) : Listing :=
  ⟨listing.segments.drop count,
    if count ≤ listing.segments.length then listing.fault else none⟩

/-- What taking a number of segments gives: the segments, unless the fault comes before them. -/
def taken (count : Nat) (listing : Listing) : Except Fault (List Segment) :=
  if count ≤ listing.segments.length then .ok (listing.segments.take count)
  else
    match listing.fault with
    | some fault => .error fault
    | none => .ok listing.segments

variable {listing : Listing}

/-! ## Items -/

@[simp] theorem item_cons_zero (segment : Segment) (rest : List Segment) (fault : Option Fault) :
    item ⟨segment :: rest, fault⟩ 0 = .segment segment := rfl

@[simp] theorem item_nil_zero (fault : Option Fault) : item ⟨[], fault⟩ 0 = last ⟨[], fault⟩ := rfl

theorem item_of_length_lt {place : Nat} (h : listing.segments.length < place) :
    listing.item place = .done := by
  rw [item, List.getElem?_eq_none (by omega), if_neg (by omega)]

theorem item_of_lt_length {place : Nat} (h : place < listing.segments.length) :
    listing.item place = .segment listing.segments[place] := by
  rw [item, List.getElem?_eq_getElem h]

theorem item_length (listing : Listing) : listing.item listing.segments.length = listing.last := by
  rw [item, List.getElem?_eq_none (Nat.le_refl _), if_pos rfl]

@[simp] theorem skip_zero (listing : Listing) : listing.skip 0 = listing := by
  simp [skip]

theorem item_skip (count place : Nat) (listing : Listing) :
    (listing.skip count).item place = listing.item (count + place) := by
  by_cases hcount : count ≤ listing.segments.length
  · have hplace : (place = listing.segments.length - count) =
        (count + place = listing.segments.length) := by
      rw [eq_iff_iff]
      omega
    simp only [item, skip, last, if_pos hcount, List.getElem?_drop, List.length_drop, hplace]
  · have hdrop : listing.segments.drop count = [] := List.drop_eq_nil_of_le (by omega)
    rw [item_of_length_lt (by omega : listing.segments.length < count + place)]
    simp [item, skip, last, hcount, hdrop]

theorem skip_skip (first second : Nat) (listing : Listing) :
    (listing.skip first).skip second = listing.skip (first + second) := by
  simp only [skip, List.drop_drop, List.length_drop, Listing.mk.injEq, true_and]
  by_cases hfirst : first ≤ listing.segments.length
  · have hsecond : (second ≤ listing.segments.length - first) =
        (first + second ≤ listing.segments.length) := by
      rw [eq_iff_iff]
      omega
    simp only [if_pos hfirst, hsecond]
  · rw [if_neg hfirst, if_neg (by omega : ¬ first + second ≤ listing.segments.length), ite_self]

@[simp] theorem length_items (listing : Listing) (count : Nat) :
    (listing.items count).length = count := by
  simp [items]

theorem items_succ (listing : Listing) (count : Nat) :
    listing.items (count + 1) = listing.item 0 :: (listing.skip 1).items count := by
  simp only [items, List.range_succ_eq_map, List.map_cons, List.map_map]
  congr 1
  refine List.map_congr_left fun place _ => ?_
  rw [item_skip, Function.comp, Nat.add_comm]

theorem items_add (listing : Listing) (first second : Nat) :
    listing.items (first + second) =
      listing.items first ++ (listing.skip first).items second := by
  simp only [items, List.range_add, List.map_append, List.map_map]
  congr 1
  refine List.map_congr_left fun place _ => ?_
  rw [item_skip, Function.comp]

theorem items_of_le_length {count : Nat} (h : count ≤ listing.segments.length) :
    listing.items count = (listing.segments.take count).map .segment := by
  refine List.ext_getElem (by simp [h]) fun place hitems _ => ?_
  have hcount : place < count := by simpa using hitems
  simp [items, item_of_lt_length (by omega : place < listing.segments.length)]

theorem items_length_succ (listing : Listing) :
    listing.items (listing.segments.length + 1) =
      listing.segments.map .segment ++ [listing.last] := by
  have hone : (listing.skip listing.segments.length).items 1 = [listing.last] := by
    rw [items, List.range_one, List.map_singleton, item_skip, Nat.add_zero, item_length]
  rw [items_add, hone, items_of_le_length (Nat.le_refl _), List.take_length]

/-! ## What the first items tell -/

theorem segment?_last (listing : Listing) : listing.last.segment? = none := by
  unfold last
  split <;> rfl

theorem segments_items (listing : Listing) (count : Nat) :
    (listing.items count).filterMap Reader.Item.segment? = listing.segments.take count := by
  induction count generalizing listing with
  | zero => simp [items]
  | succ count ih =>
      obtain ⟨segments, fault⟩ := listing
      rw [items_succ]
      cases segments with
      | nil =>
          rw [item_nil_zero, List.filterMap_cons_none (segment?_last _), ih]
          simp [skip]
      | cons first rest =>
          have hfirst : Reader.Item.segment? (item ⟨first :: rest, fault⟩ 0) = some first := rfl
          rw [List.filterMap_cons_some hfirst, ih]
          simp [skip]

/-- Only the place behind the segments can hold a fault, and it holds that of the listing. -/
theorem item_eq_fault_iff {place : Nat} {fault : Fault} :
    listing.item place = .fault fault ↔
      place = listing.segments.length ∧ listing.fault = some fault := by
  rcases Nat.lt_trichotomy place listing.segments.length with hlt | rfl | hgt
  · rw [item_of_lt_length hlt]
    simp [Nat.ne_of_lt hlt]
  · rw [item_length, last]
    cases listing.fault <;> simp
  · rw [item_of_length_lt hgt]
    simp [Nat.ne_of_gt hgt]

theorem fault_mem_items {count : Nat} {fault : Fault} :
    .fault fault ∈ listing.items count ↔
      listing.segments.length < count ∧ listing.fault = some fault := by
  simp only [items, List.mem_map, List.mem_range, item_eq_fault_iff]
  constructor
  · rintro ⟨place, hplace, rfl, hfault⟩
    exact ⟨hplace, hfault⟩
  · rintro ⟨hlength, hfault⟩
    exact ⟨_, hlength, rfl, hfault⟩

theorem length_lt_of_done_mem_items {count : Nat} (h : .done ∈ listing.items count) :
    listing.segments.length < count := by
  simp only [items, List.mem_map, List.mem_range] at h
  obtain ⟨place, hplace, hdone⟩ := h
  by_contra hlength
  rw [item_of_lt_length (by omega)] at hdone
  cases hdone

theorem eq_done_of_items_eq {count : Nat} {before after : List Reader.Item} {final : Reader.Item}
    (h : listing.items count = before ++ final :: after) (hfinal : final.segment? = none) :
    ∀ item ∈ after, item = .done := by
  have hitem : ∀ place, place < count → (before ++ final :: after)[place]? =
      some (listing.item place) := by
    intro place hplace
    rw [← h, items, List.getElem?_map, List.getElem?_range hplace]
    rfl
  have hlength : before.length + 1 + after.length = count := by
    rw [← length_items listing count, h]
    simp
    omega
  have hend : listing.segments.length ≤ before.length := by
    by_contra hlt
    have hplace := hitem before.length (by omega)
    rw [List.getElem?_append_right (Nat.le_refl _), Nat.sub_self,
      item_of_lt_length (by omega)] at hplace
    obtain rfl := Option.some.inj hplace
    cases hfinal
  intro item hmem
  obtain ⟨place, hplace, rfl⟩ := List.getElem_of_mem hmem
  have hplaced := hitem (before.length + 1 + place) (by omega)
  rw [item_of_length_lt (by omega), Nat.add_assoc, List.getElem?_append_right (by omega),
    Nat.add_sub_cancel_left, Nat.add_comm, List.getElem?_cons_succ,
    List.getElem?_eq_getElem hplace] at hplaced
  exact Option.some.inj hplaced

end Template.Listing

namespace Reader

open Template (Listing)

/-- Pull a reader a number of times: what it gives, and the reader that remains. -/
def pulls (env : Environment) : Nat → Reader → List Item × Reader
  | 0, reader => ([], reader)
  | count + 1, reader =>
    let pulled := (reader.next env).result
    let more := pulls env count pulled.2
    (pulled.1 :: more.1, more.2)

variable {env : Environment} {reader : Reader}

/-! ## One pull -/

theorem drain_reading (env : Environment) (ceiling : Int) (cursor : Cursor Char) :
    ((reading ceiling cursor).drain env).result = Template.drain ceiling cursor := rfl

theorem drain_closed (env : Environment) : (closed.drain env).result = ⟨[], none⟩ := rfl

theorem advance_drain (ceiling : Int) (cursor : Cursor Char) :
    (advance ceiling cursor).1 = (Template.drain ceiling cursor).item 0 ∧
      ∀ env, ((advance ceiling cursor).2.drain env).result =
        (Template.drain ceiling cursor).skip 1 := by
  rw [advance]
  cases hpull : Template.pull ceiling cursor with
  | segment segment next =>
      rw [Template.drain_of_segment hpull]
      exact ⟨rfl, fun env => by simp [drain_reading, Listing.skip]⟩
  | fault fault =>
      rw [Template.drain_of_fault hpull]
      exact ⟨rfl, fun env => by simp [drain_closed, Listing.skip]⟩
  | done =>
      rw [Template.drain_of_done hpull]
      exact ⟨rfl, fun env => by simp [drain_closed, Listing.skip]⟩

theorem next_fresh_ok {text : String} {maxIndex : Option Int} {bound : Int}
    (h : (ceiling env maxIndex).result = .ok bound) :
    ((fresh text maxIndex).next env).result = advance bound (Cursor.start text.toList) := by
  simp only [next, Logged.result_bind, settle_fresh, h]
  rfl

theorem next_fresh_error {text : String} {maxIndex : Option Int} {fault : Fault}
    (h : (ceiling env maxIndex).result = .error fault) :
    ((fresh text maxIndex).next env).result = (.fault fault, closed) := by
  simp only [next, Logged.result_bind, settle_fresh, h]
  rfl

/-- Pulling a reader takes the first item off what it gives in all.  What is left does not depend on
the environment any more. -/
theorem next_drain (env : Environment) (reader : Reader) :
    (reader.next env).result.1 = (reader.drain env).result.item 0 ∧
      ∀ later, ((reader.next env).result.2.drain later).result =
        (reader.drain env).result.skip 1 := by
  cases reader with
  | closed => exact ⟨rfl, fun later => rfl⟩
  | reading ceiling cursor => exact advance_drain ceiling cursor
  | fresh text maxIndex =>
      cases hceiling : (ceiling env maxIndex).result with
      | ok bound =>
          rw [next_fresh_ok hceiling, drain_fresh_ok hceiling]
          exact advance_drain bound (Cursor.start text.toList)
      | error fault =>
          rw [next_fresh_error hceiling, drain_fresh_error hceiling]
          exact ⟨rfl, fun later => rfl⟩

/-! ## Many pulls -/

theorem pulls_one (env : Environment) (reader : Reader) :
    reader.pulls env 1 = ([(reader.next env).result.1], (reader.next env).result.2) := rfl

/-- From the first pull on, a reader that was not pulled yet is a scan from the start. -/
theorem pulls_fresh {text : String} {maxIndex : Option Int} {bound : Int} {count : Nat}
    (h : (ceiling env maxIndex).result = .ok bound) (hcount : 0 < count) :
    (fresh text maxIndex).pulls env count =
      (reading bound (Cursor.start text.toList)).pulls env count := by
  cases count with
  | zero => cases hcount
  | succ count => rw [pulls, pulls, next_fresh_ok h, next_reading, Logged.result_pure]

theorem pulls_items (env : Environment) (count : Nat) (reader : Reader) :
    (reader.pulls env count).1 = (reader.drain env).result.items count := by
  induction count generalizing reader with
  | zero => rfl
  | succ count ih =>
      obtain ⟨hitem, hrest⟩ := next_drain env reader
      rw [pulls, Listing.items_succ, ih, hitem, hrest]

theorem pulls_drain (env later : Environment) {count : Nat} (hcount : 0 < count)
    (reader : Reader) :
    ((reader.pulls env count).2.drain later).result = (reader.drain env).result.skip count := by
  induction count generalizing reader with
  | zero => cases hcount
  | succ count ih =>
      obtain ⟨-, hrest⟩ := next_drain env reader
      rw [pulls]
      cases count with
      | zero => exact hrest later
      | succ count => rw [ih (Nat.succ_pos count), hrest, Listing.skip_skip, Nat.add_comm 1]

/-! ## Segments taken together -/

theorem take_succ (env : Environment) (count : Nat) (reader : Reader) :
    (take env (count + 1) reader).result =
      match (reader.next env).result with
      | (.segment segment, remaining) =>
        ((take env count remaining).result.1.map (segment :: ·),
          (take env count remaining).result.2)
      | (.fault fault, remaining) => (.error fault, remaining)
      | (.done, remaining) => (.ok [], remaining) := by
  simp only [take, Logged.result_bind]
  generalize (reader.next env).result = pulled
  obtain ⟨item, remaining⟩ := pulled
  cases item <;> rfl

/-- Taking segments pulls one item for each, and one for the end or the fault if that comes
before. -/
theorem take_result (env : Environment) (count : Nat) (reader : Reader) :
    (take env count reader).result =
      ((reader.drain env).result.taken count,
        (reader.pulls env (min count ((reader.drain env).result.segments.length + 1))).2) := by
  induction count generalizing reader with
  | zero => simp [take, Listing.taken, pulls]
  | succ count ih =>
      obtain ⟨hitem, hrest⟩ := next_drain env reader
      have hleft := hrest env
      rw [take_succ]
      generalize (reader.drain env).result = listing at hitem hleft ⊢
      obtain ⟨segments, fault⟩ := listing
      cases hnext : (reader.next env).result with
      | mk item remaining =>
          rw [hnext] at hitem hleft
          cases segments with
          | cons first rest =>
              obtain rfl : item = .segment first := hitem
              simp only [Listing.skip, List.drop_succ_cons, List.drop_zero, List.length_cons,
                Nat.le_add_left, if_true] at hleft
              have hmin : min (count + 1) ((first :: rest).length + 1) =
                  min count (rest.length + 1) + 1 := by
                rw [List.length_cons]
                omega
              have htaken : (Listing.taken (count + 1) ⟨first :: rest, fault⟩) =
                  (Listing.taken count ⟨rest, fault⟩).map (first :: ·) := by
                simp only [Listing.taken, List.length_cons, Nat.add_le_add_iff_right]
                split
                · rfl
                · cases fault <;> rfl
              simp only [ih, hleft, hmin, htaken, pulls, hnext]
          | nil =>
              have hmin : min (count + 1) (([] : List Segment).length + 1) = 1 := by
                simp
              rw [hmin, pulls_one, hnext]
              cases fault <;> obtain rfl := hitem <;> simp [Listing.taken, Listing.last]

end Reader

end Positional
