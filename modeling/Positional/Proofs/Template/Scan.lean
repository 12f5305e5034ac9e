import Positional.Proofs.Template.Reference

/-!
# Scanning token by token

A cursor is pulled run by run, but what it gives in all can be told token by token: a token of
literal text is put in front of what follows it, a reference is a placeholder of its own, and a text
that starts with no legal token is at fault.  Every text is a sequence of legal tokens followed by
nothing or by such a text, so these three rules settle every scan.
-/

namespace Positional.Template

/-! ## Runs of literal text -/

theorem literalRun_escapeChar (c : Char) (rest : List Char) :
    literalRun (escapeChar c ++ rest) = (literalRun rest).cons c (escapeChar c).length := by
  by_cases hopening : c = '{'
  · subst hopening
    simp [escapeChar, literalRun]
  · by_cases hclosing : c = '}'
    · subst hclosing
      simp [escapeChar, literalRun]
    · simp only [escapeChar, hopening, hclosing, if_false, List.cons_append, List.nil_append]
      rw [literalRun.eq_def]
      split <;> simp_all

theorem literalRun_opening {body : List Char} (h : body.head? ≠ some '{') :
    literalRun ('{' :: body) = ⟨[], 0, '{' :: body⟩ := by
  cases body with
  | nil => rfl
  | cons c rest =>
      have hc : c ≠ '{' := by simpa using h
      rw [literalRun.eq_def]
      grind

theorem literalRun_closing {rest : List Char} (h : rest.head? ≠ some '}') :
    literalRun ('}' :: rest) = ⟨[], 0, '}' :: rest⟩ := by
  cases rest with
  | nil => rfl
  | cons c rest =>
      have hc : c ≠ '}' := by simpa using h
      rw [literalRun.eq_def]
      grind

theorem literalRun_rest (text : List Char) :
    literalRun (literalRun text).rest = ⟨[], 0, (literalRun text).rest⟩ := by
  fun_induction literalRun text with
  | case1 rest ih => exact ih
  | case2 rest ih => exact ih
  | case3 rest hne => exact literalRun_opening (by cases rest <;> simp_all)
  | case4 rest hne => exact literalRun_closing (by cases rest <;> simp_all)
  | case5 c rest h1 h2 h3 h4 ih => exact ih
  | case6 => rfl

theorem literalRun_of_text_nil {text : List Char} (h : (literalRun text).text = []) :
    literalRun text = ⟨[], 0, text⟩ := by
  fun_cases literalRun text <;> simp_all [literalRun, Run.cons]

/-! ## Literal text in front of a listing -/

/-- Put literal text in front of a listing.  Text is given only once what follows it was checked, so
it is lost in front of a fault. -/
def Listing.prepend (text : String) (listing : Listing) : Listing :=
  match listing.segments, listing.fault with
  | [], some fault => ⟨[], some fault⟩
  | segments, fault => ⟨Segment.joinLiteral text segments, fault⟩

@[simp] theorem Listing.prepend_fault (text : String) (fault : Fault) :
    Listing.prepend text ⟨[], some fault⟩ = ⟨[], some fault⟩ := rfl

@[simp] theorem Listing.prepend_done (text : String) (segments : List Segment) :
    Listing.prepend text ⟨segments, none⟩ = ⟨Segment.joinLiteral text segments, none⟩ := by
  cases segments <;> rfl

@[simp] theorem Listing.prepend_cons (text : String) (first : Segment) (rest : List Segment)
    (fault : Option Fault) :
    Listing.prepend text ⟨first :: rest, fault⟩ =
      ⟨Segment.joinLiteral text (first :: rest), fault⟩ := rfl

@[simp] theorem Listing.prepend_empty (listing : Listing) : listing.prepend "" = listing := by
  obtain ⟨segments, fault⟩ := listing
  cases segments <;> cases fault <;> simp

theorem joinLiteral_ne_nil (text : String) (first : Segment) (rest : List Segment) :
    Segment.joinLiteral text (first :: rest) ≠ [] := by
  cases first with
  | literal next => simp
  | placeholder index position =>
      rw [Segment.joinLiteral_of_separate (by simp)]
      split <;> simp

theorem Listing.prepend_append (a b : String) (listing : Listing) :
    listing.prepend (a ++ b) = (listing.prepend b).prepend a := by
  obtain ⟨segments, fault⟩ := listing
  cases fault with
  | none => simp [Segment.joinLiteral_append]
  | some fault =>
      cases segments with
      | nil => rfl
      | cons first rest =>
          obtain ⟨head, tail, hjoin⟩ :=
            List.exists_cons_of_ne_nil (joinLiteral_ne_nil b first rest)
          rw [Listing.prepend_cons, Listing.prepend_cons, Segment.joinLiteral_append, hjoin,
            Listing.prepend_cons]

/-! ## What follows a run -/

/-- What a cursor gives where no run of literal text starts. -/
def following (ceiling : Int) (start : Nat) : List Char → Pull
  | [] => .done
  | '{' :: body =>
    match readReference ceiling start body with
    | .error fault => .fault fault
    | .ok reference =>
      .segment (.placeholder reference.index (some start))
        ⟨start + reference.digits + 2, reference.rest⟩
  | _ :: _ => .fault (.format (.unmatchedClosingBrace (some start)))

/-- Give a literal first if there is text, unless what follows it is at fault. -/
def Pull.behind (text : List Char) (place : Cursor Char) : Pull → Pull
  | fault problem => fault problem
  | other => orLiteral text place other

theorem following_opening (ceiling : Int) (start : Nat) (body : List Char) :
    following ceiling start ('{' :: body) =
      match readReference ceiling start body with
      | .error fault => .fault fault
      | .ok reference =>
        .segment (.placeholder reference.index (some start))
          ⟨start + reference.digits + 2, reference.rest⟩ := rfl

theorem following_other {ceiling : Int} {start : Nat} {c : Char} {rest : List Char}
    (h : c ≠ '{') :
    following ceiling start (c :: rest) =
      .fault (.format (.unmatchedClosingBrace (some start))) := by
  unfold following
  split <;> simp_all

theorem following_segment {ceiling : Int} {start : Nat} {rest : List Char} {segment : Segment}
    {next : Cursor Char} (h : following ceiling start rest = .segment segment next) :
    ∃ index position, segment = .placeholder index position := by
  unfold following at h
  split at h
  · cases h
  · split at h
    · cases h
    · obtain ⟨rfl, -⟩ := Pull.segment.inj h
      exact ⟨_, _, rfl⟩
  · cases h

theorem pull_eq_behind (ceiling : Int) (offset : Nat) (text : List Char) :
    pull ceiling ⟨offset, text⟩ =
      (following ceiling (offset + (literalRun text).width) (literalRun text).rest).behind
        (literalRun text).text ⟨offset + (literalRun text).width, (literalRun text).rest⟩ := by
  simp only [pull]
  split
  · rename_i hrest
    rw [hrest]
    rfl
  · rename_i body hrest
    rw [hrest, following_opening]
    cases readReference ceiling (offset + (literalRun text).width) body <;> rfl
  · rename_i c rest hopening hrest
    rw [hrest, following_other hopening]
    rfl

/-- Pulling a run of literal text, and what follows it, is putting the text in front of it. -/
theorem drain_eq_prepend (ceiling : Int) (offset : Nat) (text : List Char) :
    drain ceiling ⟨offset, text⟩ =
      (drain ceiling ⟨offset + (literalRun text).width, (literalRun text).rest⟩).prepend
        (String.ofList (literalRun text).text) := by
  by_cases htext : (literalRun text).text = []
  · rw [literalRun_of_text_nil htext]
    simp
  · have hjoin : String.ofList (literalRun text).text ≠ "" := by simpa using htext
    have hpull := pull_eq_behind ceiling offset text
    have hnext := pull_eq_behind ceiling (offset + (literalRun text).width) (literalRun text).rest
    rw [literalRun_rest] at hnext
    simp only [Nat.add_zero] at hnext
    cases hfollowing : following ceiling (offset + (literalRun text).width)
        (literalRun text).rest with
    | fault fault =>
        rw [hfollowing] at hpull hnext
        rw [drain_of_fault hpull, drain_of_fault hnext, Listing.prepend_fault]
    | done =>
        rw [hfollowing] at hpull hnext
        simp only [Pull.behind, orLiteral, List.isEmpty_iff, htext, if_false] at hpull
        rw [drain_of_segment hpull, drain_of_done hnext, Listing.prepend_done,
          Segment.joinLiteral_of_separate (by simp), if_neg hjoin]
    | segment segment next =>
        obtain ⟨index, position, rfl⟩ := following_segment hfollowing
        rw [hfollowing] at hpull hnext
        simp only [Pull.behind, orLiteral, List.isEmpty_iff, htext, if_false] at hpull
        rw [drain_of_segment hpull, drain_of_segment hnext, Listing.prepend_cons,
          Segment.joinLiteral_of_separate (by simp), if_neg hjoin]

/-! ## One step of a scan -/

theorem drain_nil (ceiling : Int) (offset : Nat) : drain ceiling ⟨offset, []⟩ = ⟨[], none⟩ :=
  drain_of_done (by simp [pull, literalRun, orLiteral])

theorem drain_literal (ceiling : Int) (offset : Nat) (c : Char) (rest : List Char) :
    drain ceiling ⟨offset, escapeChar c ++ rest⟩ =
      (drain ceiling ⟨offset + (escapeChar c).length, rest⟩).prepend (String.singleton c) := by
  rw [drain_eq_prepend, literalRun_escapeChar,
    drain_eq_prepend ceiling (offset + (escapeChar c).length) rest]
  simp only [Run.cons]
  rw [String.ofList_cons, Listing.prepend_append, Nat.add_assoc]

theorem drain_opening_error {ceiling : Int} {offset : Nat} {body : List Char} {fault : Fault}
    (hbody : body.head? ≠ some '{') (h : readReference ceiling offset body = .error fault) :
    drain ceiling ⟨offset, '{' :: body⟩ = ⟨[], some fault⟩ :=
  drain_of_fault (by simp [pull, literalRun_opening hbody, h])

theorem drain_opening_ok {ceiling : Int} {offset : Nat} {body : List Char}
    {reference : Reference} (hbody : body.head? ≠ some '{')
    (h : readReference ceiling offset body = .ok reference) :
    drain ceiling ⟨offset, '{' :: body⟩ =
      ⟨.placeholder reference.index (some offset) ::
          (drain ceiling ⟨offset + reference.digits + 2, reference.rest⟩).segments,
        (drain ceiling ⟨offset + reference.digits + 2, reference.rest⟩).fault⟩ :=
  drain_of_segment (by simp [pull, literalRun_opening hbody, h, orLiteral])

theorem drain_closing {ceiling : Int} {offset : Nat} {rest : List Char}
    (hrest : rest.head? ≠ some '}') :
    drain ceiling ⟨offset, '}' :: rest⟩ =
      ⟨[], some (.format (.unmatchedClosingBrace (some offset)))⟩ :=
  drain_of_fault (by simp [pull, literalRun_closing hrest])

def Token.emit (offset : Nat) (following : Listing) : Token → Listing
  | literal c => following.prepend (String.singleton c)
  | reference digits =>
    ⟨.placeholder (Numeral.value digits) (some offset) :: following.segments, following.fault⟩

theorem head?_digits_ne {run rest : List Char} {c : Char} (hne : run ≠ [])
    (hrun : ∀ d ∈ run, Numeral.isDigit d = true) (hc : Numeral.isDigit c = false) :
    (run ++ rest).head? ≠ some c := by
  obtain ⟨d, others, rfl⟩ := List.exists_cons_of_ne_nil hne
  rintro h
  obtain rfl : d = c := by simpa using h
  rw [hrun d List.mem_cons_self] at hc
  exact absurd hc (by decide)

theorem drain_token {ceiling : Int} {offset : Nat} {token : Token} {rest : List Char}
    (hlegal : token.IsLegal ceiling) :
    drain ceiling ⟨offset, token.spelling ++ rest⟩ =
      token.emit offset (drain ceiling ⟨offset + token.spelling.length, rest⟩) := by
  cases token with
  | literal c => exact drain_literal ceiling offset c rest
  | reference digits =>
      have hbody : (digits ++ '}' :: rest).head? ≠ some '{' :=
        head?_digits_ne hlegal.1 hlegal.2.1 (by decide)
      have hread : readReference ceiling offset (digits ++ '}' :: rest) =
          .ok ⟨Numeral.value digits, digits.length, rest⟩ := readReference_legal hlegal
      have hdrain := drain_opening_ok hbody hread
      simpa [Token.spelling, Token.emit, Nat.add_assoc] using hdrain

end Positional.Template
