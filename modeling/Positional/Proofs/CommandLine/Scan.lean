import Mathlib.Data.List.Forall2
import Positional.CommandLine.Options

/-!
# Words of a command line

A word that awaits no value is scanned by itself: what it says stands in front of what the words
behind it say.  So options in front only add their uses, and words that are kept come through as
they are.  Which words are kept is decided by the options that are declared.
-/

namespace Positional.CommandLine

variable {κ : Type} {grammar : Grammar κ} {word value : String} {words rest : List String}
variable {read : Word κ} {key : κ} {letters : List Char}

namespace Grammar

/-! ## Word by word -/

theorem scan_cons (hdash : word ≠ "--") (hread : grammar.readWord word = .ok read)
    (hawaiting : read.awaiting = none) :
    grammar.scan (word :: rest) = (grammar.scan rest).map (prepend read []) := by
  rw [scan, if_neg hdash, hread]
  simp only [hawaiting]

theorem scan_cons_awaiting (hdash : word ≠ "--") (hread : grammar.readWord word = .ok read)
    (hawaiting : read.awaiting = some key) :
    grammar.scan (word :: value :: rest) =
      (grammar.scan rest).map (prepend read [⟨key, some value⟩]) := by
  rw [scan, if_neg hdash, hread]
  simp only [hawaiting]

/-! ## Options in front -/

def IsUse (grammar : Grammar κ) (key : κ) (word : String) : Prop :=
  word ≠ "--" ∧ grammar.readWord word = .ok (.ofUse key none)

theorem scan_append_uses {keys : List κ} (h : List.Forall₂ grammar.IsUse keys words) :
    grammar.scan (words ++ rest) = (grammar.scan rest).map fun scanned =>
      ⟨keys.map (fun key => ⟨key, none⟩) ++ scanned.uses, scanned.positionals⟩ := by
  induction h with
  | nil =>
      rw [List.nil_append]
      cases grammar.scan rest <;> rfl
  | cons hfirst _ ih =>
      rw [List.cons_append, scan_cons hfirst.1 hfirst.2 rfl, ih]
      cases grammar.scan rest <;> rfl

/-! ## Words that are kept -/

/-- A word is a positional argument as it stands. -/
def Keeps (grammar : Grammar κ) (word : String) : Prop :=
  word ≠ "--" ∧ grammar.readWord word = .ok (.ofPositional word)

theorem scan_of_keeps (h : ∀ word ∈ words, grammar.Keeps word) :
    grammar.scan words = .ok ⟨[], words⟩ := by
  induction words with
  | nil => rfl
  | cons word rest ih =>
      have hfirst := h word List.mem_cons_self
      have hrest := ih fun other hmem => h other (List.mem_cons_of_mem word hmem)
      rw [scan_cons hfirst.1 hfirst.2 rfl, hrest]
      rfl

theorem keeps_of_no_dash (h : word.toList.head? ≠ some '-') : grammar.Keeps word := by
  constructor
  · rintro rfl
    exact h rfl
  · unfold readWord
    split
    · rename_i letter more hword
      rw [hword] at h
      exact (h rfl).elim
    · rfl

/-! ### Long options -/

/-- A word is an option, or an option with a value behind an equals sign. -/
def Names (word name : String) : Prop :=
  word = name ∨ ∃ value, word = name ++ "=" ++ value

theorem Names.isPrefix {name : String} (h : Names word name) : name.toList <+: word.toList := by
  rcases h with rfl | ⟨value, rfl⟩
  · exact List.prefix_rfl
  · rw [String.toList_append, String.toList_append, List.append_assoc]
    exact List.prefix_append _ _

theorem exists_splitValue (letters : List Char) :
    ((splitValue letters).2 = none ∧ letters = (splitValue letters).1) ∨
      ∃ value, (splitValue letters).2 = some value ∧
        letters = (splitValue letters).1 ++ '=' :: value := by
  have hjoin := List.takeWhile_append_dropWhile (p := (· != '=')) (l := letters)
  have hfirst := List.head?_dropWhile_not (· != '=') letters
  unfold splitValue
  cases hdrop : letters.dropWhile (· != '=') with
  | nil =>
      rw [hdrop, List.append_nil] at hjoin
      exact .inl ⟨rfl, hjoin.symm⟩
  | cons c value =>
      rw [hdrop] at hjoin hfirst
      have hc : c = '=' := by simpa using hfirst
      subst hc
      exact .inr ⟨value, rfl, hjoin.symm⟩

theorem names_of_splitValue (word : String) :
    Names word (String.ofList (splitValue word.toList).1) := by
  rcases exists_splitValue word.toList with ⟨-, hword⟩ | ⟨value, -, hword⟩
  · left
    rw [← hword, String.ofList_toList]
  · right
    refine ⟨String.ofList value, ?_⟩
    rw [← String.toList_inj]
    simpa using hword

theorem long?_eq_none (h : ∀ option ∈ grammar.options, ¬ Names word option.long) :
    grammar.long? (String.ofList (splitValue word.toList).1) = none := by
  unfold long?
  rw [List.find?_eq_none]
  intro option hmem hlong
  rw [decide_eq_true_eq] at hlong
  apply h option hmem
  rw [hlong]
  exact names_of_splitValue word

/-! ### Bundles -/

theorem readBundle_of_unknown (hkeeps : grammar.keepsUnknown = true)
    (h : ∀ letter ∈ letters, grammar.short? letter = none) :
    grammar.readBundle letters = .ok ⟨[], letters, none⟩ := by
  induction letters with
  | nil => rfl
  | cons letter rest ih =>
      have hrest := ih fun other hmem => h other (List.mem_cons_of_mem letter hmem)
      rw [readBundle, h letter List.mem_cons_self]
      simp only [hkeeps, if_true, hrest]
      rfl

/-- Behind a single dash stands a bundle, unless the word names a long option. -/
theorem readWord_of_bundle {letter : Char} (hword : word.toList = '-' :: letter :: letters)
    (hdash : letter ≠ '-') (hlong : ∀ option ∈ grammar.options, ¬ Names word option.long) :
    grammar.readWord word = (grammar.readBundle (letter :: letters)).map Bundle.toWord := by
  have hnone := long?_eq_none hlong
  rw [hword] at hnone
  rw [readWord, hword]
  simp only [readOption, hnone]
  split
  · rename_i more hsecond
    cases hsecond
    exact (hdash rfl).elim
  · rw [List.drop_one, List.tail_cons]

theorem readWord_of_dashes (hkeeps : grammar.keepsUnknown = true)
    (hword : word.toList = '-' :: '-' :: letters)
    (hlong : ∀ option ∈ grammar.options, ¬ Names word option.long) :
    grammar.readWord word = .ok (.ofPositional word) := by
  have hback : String.ofList ('-' :: '-' :: letters) = word := by
    rw [← hword, String.ofList_toList]
  have hnone := long?_eq_none hlong
  rw [hword] at hnone
  rw [readWord, hword]
  simp only [readOption, hnone, hkeeps, if_true, hback]

theorem readWord_of_unknown {letter : Char} (hkeeps : grammar.keepsUnknown = true)
    (hword : word.toList = '-' :: letter :: letters)
    (hlong : ∀ option ∈ grammar.options, ¬ Names word option.long)
    (hshort : letter ≠ '-' → ∀ other ∈ letter :: letters, grammar.short? other = none) :
    grammar.readWord word = .ok (.ofPositional word) := by
  by_cases hdash : letter = '-'
  · subst hdash
    exact readWord_of_dashes hkeeps hword hlong
  · rw [readWord_of_bundle hword hdash hlong, readBundle_of_unknown hkeeps (hshort hdash)]
    show Except.ok (Word.mk [] (some (String.ofList ('-' :: letter :: letters))) none) = _
    rw [← hword, String.ofList_toList]
    rfl

/-- Where unknown options are kept, a word is kept unless it is a double dash, names a long option,
or holds the letter of a short one behind a single dash. -/
theorem keeps_of_unknown (hkeeps : grammar.keepsUnknown = true) (hdash : word ≠ "--")
    (hlong : ∀ option ∈ grammar.options, ¬ Names word option.long)
    (hshort : ∀ letter more, word.toList = '-' :: letter :: more → letter ≠ '-' →
      ∀ other ∈ letter :: more, grammar.short? other = none) : grammar.Keeps word := by
  refine ⟨hdash, ?_⟩
  by_cases hword : ∃ letter more, word.toList = '-' :: letter :: more
  · obtain ⟨letter, more, hword⟩ := hword
    exact readWord_of_unknown hkeeps hword hlong (hshort letter more hword)
  · unfold readWord
    split
    · rename_i letter more hletters
      exact (hword ⟨letter, more, hletters⟩).elim
    · rfl

/-- An option with a value ends its bundle: the value is what stands behind its letter or, if
nothing does, the next word. -/
theorem readBundle_of_value {front : List Char} {letter : Char} {option : Declared κ}
    (hkeeps : grammar.keepsUnknown = true) (hfront : ∀ other ∈ front, grammar.short? other = none)
    (hletter : grammar.short? letter = some option) (hvalue : option.takesValue = true) :
    grammar.readBundle (front ++ letter :: letters) =
      .ok (if letters.isEmpty then ⟨[], front, some option.key⟩
        else ⟨[⟨option.key, some (String.ofList letters)⟩], front, none⟩) := by
  induction front with
  | nil =>
      rw [List.nil_append, readBundle, hletter]
      simp only [hvalue, if_true]
      split <;> rfl
  | cons other front ih =>
      have hrest := ih fun more hmem => hfront more (List.mem_cons_of_mem other hmem)
      rw [List.cons_append, readBundle, hfront other List.mem_cons_self]
      simp only [hkeeps, if_true, hrest]
      split <;> rfl

end Grammar

end Positional.CommandLine
