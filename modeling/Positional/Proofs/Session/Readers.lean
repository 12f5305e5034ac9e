import Positional.Session
import Positional.Proofs.Rendering.Rest

/-!
# Readers in a session

Whatever steps a session takes, a reader gives what it would give alone: other readers do not
matter, and of the environment only what it was at the reader's first pull.  The argument goes step
by step.  A step either leaves a reader alone or pulls it a number of times, and a reader that was
pulled has its ceiling settled.
-/

namespace Positional

namespace Session

open Template (Listing)

/-! ## Steps and readers -/

def after (session : Session) (steps : List Step) : Session :=
  steps.foldl (fun session step => (session.step step).result.2) session

namespace Step

def opened? : Step → Option String
  | .open target _ _ => some target
  | _ => none

def pulled? : Step → Option String
  | .next reader => some reader
  | .take reader _ => some reader
  | .renderRest reader _ => some reader
  | _ => none

/-- How many items a step pulls from a reader with this left. -/
def demand (left : Listing) : Step → Nat
  | .next _ => 1
  | .take _ count => min count (left.segments.length + 1)
  | .renderRest _ substitution =>
    Rendering.pullCount substitution.render substitution.arguments .start left.segments
  | _ => 0

end Step

def given (name : String) (session : Session) (step : Step) : List Reader.Item :=
  match session.readers.lookup name with
  | none => []
  | some reader =>
    if step.pulled? = some name then
      (reader.pulls session.env (step.demand (reader.drain session.env).result)).1
    else []

/-- What the reader under a name gives to steps, one after the other. -/
def delivered (name : String) (session : Session) : List Step → List Reader.Item
  | [] => []
  | step :: rest => session.given name step ++ delivered name (session.step step).result.2 rest

/-- The environment at the first step that pulls the reader under a name; if none does, the one
after all steps. -/
def envAtFirstPull (name : String) (session : Session) : List Step → Environment
  | [] => session.env
  | step :: rest =>
    if session.given name step = [] then envAtFirstPull name (session.step step).result.2 rest
    else session.env

variable {session : Session} {name target : String} {step : Step} {reader : Reader}

/-! ## What a step changes -/

theorem lookup_store_self {α : Type} (name : String) (value : α) (entries : List (String × α)) :
    (store name value entries).lookup name = some value := by
  rw [store, List.lookup_cons_self]

theorem lookup_store_of_ne {α : Type} (h : name ≠ target) (value : α)
    (entries : List (String × α)) :
    (store target value entries).lookup name = entries.lookup name := by
  have hhead : (name == target) = false := by simpa using h
  rw [store, List.lookup_cons, hhead]
  induction entries with
  | nil => rfl
  | cons entry rest ih =>
      obtain ⟨key, kept⟩ := entry
      by_cases hkey : key = target
      · subst hkey
        simpa [List.lookup_cons, hhead] using ih
      · simp only [List.filter_cons, hkey, ne_eq, not_false_eq_true, decide_true, if_true,
          List.lookup_cons]
        split
        · rfl
        · exact ih

theorem readers_onTemplate {use : Template → Logged (Reply × Session)}
    (huse : ∀ template, (use template).result.2.readers = session.readers) :
    (session.onTemplate target use).result.2.readers = session.readers := by
  unfold onTemplate
  cases session.templates.lookup target with
  | none => rfl
  | some template => exact huse template

theorem readers_parseInto (session : Session) (target text : String) (maxIndex : Option Int) :
    (session.parseInto target text maxIndex).result.2.readers = session.readers := by
  simp only [parseInto, Logged.result_bind]
  split <;> rfl

/-- A step that neither opens nor pulls a reader leaves all readers as they are. -/
theorem readers_step (hopened : step.opened? = none) (hpulled : step.pulled? = none) :
    (session.step step).result.2.readers = session.readers := by
  cases step with
  | «open» target text maxIndex => cases hopened
  | next reader => cases hpulled
  | take reader count => cases hpulled
  | renderRest reader substitution => cases hpulled
  | parse target text maxIndex => exact readers_parseInto session target text maxIndex
  | reparse target source maxIndex =>
      exact readers_onTemplate fun template =>
        readers_parseInto session target template.spelling maxIndex
  | inspect source => exact readers_onTemplate fun template => rfl
  | compare first second =>
      exact readers_onTemplate fun template => readers_onTemplate fun other => rfl
  | render source substitution => exact readers_onTemplate fun template => rfl
  | run name keywords =>
      simp only [Session.step]
      split <;> rfl
  | setVariable _ _ => rfl
  | format _ _ _ => rfl
  | register _ _ _ => rfl
  | find _ => rfl
  | list => rfl

theorem readers_step_of_pulled (hpulled : step.pulled? = some target)
    (h : session.readers.lookup target = some reader) :
    (session.step step).result.2.readers =
      store target (reader.pulls session.env (step.demand (reader.drain session.env).result)).2
        session.readers := by
  cases step with
  | next reader =>
      obtain rfl := Option.some.inj hpulled
      simp only [Session.step, onReader, h]
      rfl
  | take reader count =>
      obtain rfl := Option.some.inj hpulled
      simp only [Session.step, onReader, h, Logged.result_bind, Reader.take_result]
      rfl
  | renderRest reader substitution =>
      obtain rfl := Option.some.inj hpulled
      simp only [Session.step, onReader, h, Logged.result_bind, Rendering.ofReader_result]
      rfl
  | _ => cases hpulled

theorem readers_step_of_absent (hpulled : step.pulled? = some target)
    (h : session.readers.lookup target = none) :
    (session.step step).result.2.readers = session.readers := by
  cases step with
  | next reader =>
      obtain rfl := Option.some.inj hpulled
      simp [Session.step, onReader, h]
  | take reader count =>
      obtain rfl := Option.some.inj hpulled
      simp [Session.step, onReader, h]
  | renderRest reader substitution =>
      obtain rfl := Option.some.inj hpulled
      simp [Session.step, onReader, h]
  | _ => cases hpulled

theorem lookup_step_of_ne (hopened : step.opened? ≠ some name)
    (hpulled : step.pulled? ≠ some name) :
    (session.step step).result.2.readers.lookup name = session.readers.lookup name := by
  cases hpull : step.pulled? with
  | some target =>
      have hne : name ≠ target := by
        rintro rfl
        exact hpulled hpull
      cases hlookup : session.readers.lookup target with
      | none => rw [readers_step_of_absent hpull hlookup]
      | some reader => rw [readers_step_of_pulled hpull hlookup, lookup_store_of_ne hne]
  | none =>
      cases hopen : step.opened? with
      | none => rw [readers_step hopen hpull]
      | some target =>
          have hne : name ≠ target := by
            rintro rfl
            exact hopened hopen
          cases step with
          | «open» target text maxIndex =>
              obtain rfl := Option.some.inj hopen
              exact lookup_store_of_ne hne _ _
          | _ => cases hopen

/-! ## What a step is given -/

theorem given_of_pulled (hpulled : step.pulled? = some name)
    (h : session.readers.lookup name = some reader) :
    session.given name step =
      (reader.drain session.env).result.items (step.demand (reader.drain session.env).result) := by
  simp only [given, h, if_pos hpulled, Reader.pulls_items]

theorem given_of_not_pulled (hpulled : step.pulled? ≠ some name) :
    session.given name step = [] := by
  unfold given
  split
  · rfl
  · rw [if_neg hpulled]

/-- A step takes the first items off what a reader gives.  If it takes any, what is left does not
depend on the environment any more; if it takes none, the reader stays as it is. -/
theorem exists_remaining (hopened : step.opened? ≠ some name)
    (h : session.readers.lookup name = some reader) :
    ∃ remaining, (session.step step).result.2.readers.lookup name = some remaining ∧
      session.given name step =
        (reader.drain session.env).result.items (session.given name step).length ∧
      (session.given name step = [] ∧ remaining = reader ∨
        session.given name step ≠ [] ∧ ∀ env, (remaining.drain env).result =
          (reader.drain session.env).result.skip (session.given name step).length) := by
  by_cases hpulled : step.pulled? = some name
  · refine ⟨_, by rw [readers_step_of_pulled hpulled h, lookup_store_self], ?_⟩
    rw [given_of_pulled hpulled h, Listing.length_items]
    refine ⟨rfl, ?_⟩
    cases hdemand : step.demand (reader.drain session.env).result with
    | zero => exact .inl ⟨rfl, rfl⟩
    | succ count =>
        refine .inr ⟨?_, fun env => Reader.pulls_drain session.env env (Nat.succ_pos count) reader⟩
        rw [Listing.items_succ]
        exact List.cons_ne_nil _ _
  · refine ⟨reader, by rw [lookup_step_of_ne hopened hpulled, h], ?_⟩
    rw [given_of_not_pulled hpulled]
    exact ⟨rfl, .inl ⟨rfl, rfl⟩⟩

/-! ## What steps are given -/

/-- A reader whose ceiling is settled gives to steps the first items of what is left in it. -/
theorem exists_remaining_of_settled {left : Listing} {steps : List Step}
    (hopened : ∀ step ∈ steps, step.opened? ≠ some name)
    (h : session.readers.lookup name = some reader)
    (hleft : ∀ env, (reader.drain env).result = left) :
    ∃ remaining, (session.after steps).readers.lookup name = some remaining ∧
      session.delivered name steps = left.items (session.delivered name steps).length ∧
      ∀ env, (remaining.drain env).result =
        left.skip (session.delivered name steps).length := by
  induction steps generalizing session reader left with
  | nil => exact ⟨reader, h, rfl, fun env => by rw [hleft]; exact (Listing.skip_zero left).symm⟩
  | cons step rest ih =>
      rw [List.forall_mem_cons] at hopened
      obtain ⟨middle, hmiddle, hgiven, hstate⟩ := exists_remaining hopened.1 h
      have hnext : ∀ env, (middle.drain env).result =
          left.skip (session.given name step).length := by
        rcases hstate with ⟨hnone, rfl⟩ | ⟨-, hskip⟩
        · intro env
          rw [hleft, hnone]
          exact (Listing.skip_zero left).symm
        · intro env
          rw [hskip, hleft]
      rw [hleft] at hgiven
      obtain ⟨remaining, hremaining, hdelivered, hrest⟩ := ih hopened.2 hmiddle hnext
      refine ⟨remaining, hremaining, ?_, ?_⟩
      · rw [delivered, List.length_append, Listing.items_add, ← hgiven, ← hdelivered]
      · intro env
        rw [hrest, Listing.skip_skip, delivered, List.length_append]

/-- A reader that was not pulled yet gives to steps what it gives alone, with the ceiling that the
environment of the first pull settles. -/
theorem exists_remaining_of_fresh {text : String} {maxIndex : Option Int} {steps : List Step}
    {alone : Listing} (env : Environment) (hopened : ∀ step ∈ steps, step.opened? ≠ some name)
    (h : session.readers.lookup name = some (.fresh text maxIndex))
    (halone : ((Reader.fresh text (some (maxIndex.getD
      (Settings.maxIndex (session.envAtFirstPull name steps)).result))).drain env).result = alone) :
    ∃ remaining, (session.after steps).readers.lookup name = some remaining ∧
      session.delivered name steps = alone.items (session.delivered name steps).length ∧
      (remaining.drain (session.after steps).env).result =
        alone.skip (session.delivered name steps).length := by
  induction steps generalizing session with
  | nil =>
      refine ⟨_, h, rfl, ?_⟩
      rw [Reader.drain_fresh_settled _ env]
      exact halone.trans (Listing.skip_zero alone).symm
  | cons step rest ih =>
      rw [List.forall_mem_cons] at hopened
      obtain ⟨middle, hmiddle, hgiven, hstate⟩ := exists_remaining hopened.1 h
      rcases hstate with ⟨hnone, rfl⟩ | ⟨hsome, hskip⟩
      · rw [envAtFirstPull, if_pos hnone] at halone
        rw [delivered, hnone, List.nil_append]
        exact ih hopened.2 hmiddle halone
      · rw [envAtFirstPull, if_neg hsome, ← Reader.drain_fresh_settled] at halone
        rw [halone] at hgiven hskip
        obtain ⟨remaining, hremaining, hdelivered, hrest⟩ :=
          exists_remaining_of_settled hopened.2 hmiddle hskip
        refine ⟨remaining, hremaining, ?_, ?_⟩
        · rw [delivered, List.length_append, Listing.items_add, ← hgiven, ← hdelivered]
        · rw [hrest, Listing.skip_skip, delivered, List.length_append]

/-! ## What steps are answered -/

theorem reply_next (h : session.readers.lookup name = some reader) :
    (session.step (.next name)).result.1 = .item ((reader.drain session.env).result.item 0) := by
  rw [← (Reader.next_drain session.env reader).1]
  simp only [step, onReader, h]
  rfl

theorem reply_take (h : session.readers.lookup name = some reader) (count : Nat) :
    (session.step (.take name count)).result.1 =
      .segments ((reader.drain session.env).result.taken count) := by
  simp only [step, onReader, h, Logged.result_bind, Reader.take_result]
  rfl

theorem reply_renderRest (h : session.readers.lookup name = some reader)
    (substitution : Substitution) :
    (session.step (.renderRest name substitution)).result.1 =
      .rendering ((Rendering.ofSegments substitution.render substitution.arguments
        (reader.drain session.env).result.segments).followedBy
          (reader.drain session.env).result.fault) := by
  simp only [step, onReader, h, Logged.result_bind, Rendering.ofReader_result]
  rfl

/-- What a session answers where the reader under a name has this left.  Rendering the rest of the
reader goes as far as the segments can be rendered: a placeholder that cannot is the last segment
taken, and the next pull gives what stands behind it. -/
structure Offers (session : Session) (name : String) (left : Listing) : Prop where
  next : (session.step (.next name)).result.1 = .item (left.item 0) ∧
    session.given name (.next name) = [left.item 0]
  taken (count : Nat) : (session.step (.take name count)).result.1 = .segments (left.taken count) ∧
    session.given name (.take name count) = left.items (min count (left.segments.length + 1))
  rendered (substitution : Substitution) :
    (session.step (.renderRest name substitution)).result.1 =
      .rendering ((Rendering.ofSegments substitution.render substitution.arguments
        left.segments).followedBy left.fault)
  stopped (substitution : Substitution) (problem : Fault) :
    (Rendering.ofSegments substitution.render substitution.arguments left.segments).outcome =
        .error problem →
      ∃ before index position after,
        left.segments = before ++ .placeholder index position :: after ∧
          (∃ text, (Rendering.ofSegments substitution.render substitution.arguments
            before).outcome = .ok text) ∧
          (Rendering.ofSegments substitution.render substitution.arguments
            (before ++ [.placeholder index position])).outcome = .error problem ∧
          session.given name (.renderRest name substitution) =
            (before ++ [Segment.placeholder index position]).map .segment ∧
          ((session.after [.renderRest name substitution]).step (.next name)).result.1 =
            .item (Listing.item ⟨after, left.fault⟩ 0)
  completed (substitution : Substitution) (text : String) :
    (Rendering.ofSegments substitution.render substitution.arguments left.segments).outcome =
        .ok text →
      session.given name (.renderRest name substitution) =
          left.segments.map .segment ++ [left.last] ∧
        ((session.after [.renderRest name substitution]).step (.next name)).result.1 = .item .done

theorem next_after_renderRest (h : session.readers.lookup name = some reader)
    (substitution : Substitution) :
    ((session.after [.renderRest name substitution]).step (.next name)).result.1 =
      .item ((reader.drain session.env).result.item
        (Rendering.pullCount substitution.render substitution.arguments .start
          (reader.drain session.env).result.segments)) := by
  have hopened : (Step.renderRest name substitution).opened? ≠ some name := by simp [Step.opened?]
  obtain ⟨remaining, hremaining, -, ⟨hnone, -⟩ | ⟨-, hskip⟩⟩ := exists_remaining hopened h
  · have hlength := congrArg List.length hnone
    rw [given_of_pulled rfl h, Listing.length_items, List.length_nil] at hlength
    have hpos := Rendering.pullCount_pos substitution.render substitution.arguments .start
      (reader.drain session.env).result.segments
    exact absurd hlength (Nat.ne_of_gt hpos)
  · have hnext : ((session.after [.renderRest name substitution]).step (.next name)).result.1 =
        .item ((remaining.drain
          (session.after [.renderRest name substitution]).env).result.item 0) :=
      reply_next hremaining
    rw [hnext, hskip, Listing.item_skip, given_of_pulled rfl h, Listing.length_items, Nat.add_zero]
    rfl

theorem offers_of_lookup (h : session.readers.lookup name = some reader) :
    session.Offers name (reader.drain session.env).result where
  next := ⟨reply_next h, given_of_pulled rfl h⟩
  taken count := ⟨reply_take h count, given_of_pulled rfl h⟩
  rendered := reply_renderRest h
  stopped substitution problem hproblem := by
    rw [next_after_renderRest h, given_of_pulled rfl h, Step.demand]
    generalize (reader.drain session.env).result = left at hproblem
    obtain ⟨segments, fault⟩ := left
    obtain ⟨before, index, position, after, rfl, hbefore, hstop, hcount⟩ :=
      Rendering.exists_of_ofSegments_error _ _ hproblem
    refine ⟨before, index, position, after, rfl, hbefore, ?_, ?_, ?_⟩
    · rw [hstop]
      exact hproblem
    · rw [hcount, Listing.items_of_le_length (by simp)]
      simp [List.take_append, List.take_of_length_le]
    · rw [hcount, ← Nat.add_zero (before.length + 1), ← Listing.item_skip]
      simp [Listing.skip]
  completed substitution text hok := by
    rw [next_after_renderRest h, given_of_pulled rfl h, Step.demand,
      Rendering.pullCount_of_ok _ _ hok]
    exact ⟨Listing.items_length_succ _,
      congrArg Reply.item (Listing.item_of_length_lt (Nat.lt_succ_self _))⟩

/-! ## Independence -/

/-- Whatever steps are taken after a reader was made, as long as no other reader is made under its
name, the reader gives in order what it gives alone, with the ceiling that it was made with or else
the one that the environment sets at its first pull.  After its fault or its end it gives only the
end, and it goes on with what is left. -/
theorem delivered_alone (env : Environment) (session : Session) (name text : String)
    (maxIndex : Option Int) (steps : List Step)
    (hopened : ∀ step ∈ steps, step.opened? ≠ some name) :
    let opened := session.after [.open name text maxIndex]
    let bound := maxIndex.getD (Settings.maxIndex (opened.envAtFirstPull name steps)).result
    let alone := ((Reader.fresh text (some bound)).drain env).result
    let given := opened.delivered name steps
    given = alone.items given.length ∧
      (∀ before final later, given = before ++ final :: later → final.segment? = none →
        ∀ item ∈ later, item = .done) ∧
      (opened.after steps).Offers name (alone.skip given.length) := by
  intro opened bound alone given
  have hlookup : opened.readers.lookup name = some (.fresh text maxIndex) :=
    lookup_store_self name _ _
  obtain ⟨remaining, hremaining, hgiven, hleft⟩ :=
    exists_remaining_of_fresh env hopened hlookup rfl
  refine ⟨hgiven, ?_, ?_⟩
  · intro before final later hsplit hfinal
    exact Listing.eq_done_of_items_eq (hgiven.symm.trans hsplit) hfinal
  · rw [← hleft]
    exact offers_of_lookup hremaining

/-- A rendering that is stopped, steps of another reader and changes of the environment in
between. -/
theorem delivered_alone_stopped :
    let text := "\x7b1\x7d\x7b0\x7d!\x7b5\x7d"
    let opened := (Session.start .empty).after [.open "left" text none]
    let steps : List Step :=
      [.setVariable Environment.maxIndexName (some "3"), .open "right" "right" none,
        .renderRest "left" ⟨.ofList [.text "one"], fun _ => .ok ""⟩,
        .setVariable Environment.maxIndexName none, .next "right", .next "left", .next "left"]
    let alone := ((Reader.fresh text (some 3)).drain .empty).result
    (∀ step ∈ steps, step.opened? ≠ some "left") ∧
      opened.delivered "left" steps =
        [.segment (.placeholder 1 (some 0)), .segment (.placeholder 0 (some 3)),
          .fault (.format (.malformed (.aboveCeiling 3) (some 7)))] ∧
      opened.delivered "left" steps = alone.items 3 ∧
      (opened.after steps).Offers "left" (alone.skip 3) := by
  intro text opened steps alone
  have hopened : ∀ step ∈ steps, step.opened? ≠ some "left" := by decide
  have hbound : (Settings.maxIndex (opened.envAtFirstPull "left" steps)).result = 3 := by
    decide +kernel
  have hgiven : opened.delivered "left" steps =
      [.segment (.placeholder 1 (some 0)), .segment (.placeholder 0 (some 3)),
        .fault (.format (.malformed (.aboveCeiling 3) (some 7)))] := by
    decide +kernel
  obtain ⟨halone, -, hoffers⟩ :=
    delivered_alone .empty (Session.start .empty) "left" text none steps hopened
  rw [Option.getD_none, hbound, hgiven] at halone hoffers
  exact ⟨hopened, hgiven, hgiven.trans halone, hoffers⟩

end Session

end Positional
