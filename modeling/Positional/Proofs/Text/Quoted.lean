import Positional.Text.Quoted

/-!
# Reading quoted texts

A quoted text holds printable characters only, and no two texts are quoted alike: the first quote
tells which one is in use, and behind it each character is written in one of three ways, none of
which starts another one or ends at the quote in use.
-/

namespace Positional.Text

/-- The characters at which a text is taken to go on in another line. -/
def lineBreaks : List Char :=
  ['\n', '\x0b', '\x0c', '\r', '\x1c', '\x1d', '\x1e', '\u0085', '\u2028', '\u2029']

theorem not_mem_lineBreaks_of_isPrintable {c : Char} (h : isPrintable c = true) :
    c ∉ lineBreaks := by
  have hbreaks : (lineBreaks.all fun c => !isPrintable c) = true := by decide +kernel
  intro hmem
  have hnot := List.all_eq_true.1 hbreaks c hmem
  rw [h] at hnot
  cases hnot

namespace Quoted

attribute [local instance (high)] instPowNat

/-! ## Hexadecimal digits -/

theorem digitChar_inj {m n : Nat} (hm : m < 16) (hn : n < 16)
    (h : Nat.digitChar m = Nat.digitChar n) : m = n := by
  have hall : ∀ m < 16, ∀ n < 16, Nat.digitChar m = Nat.digitChar n → m = n := by decide
  exact hall m hm n hn h

theorem isPrintable_digitChar {n : Nat} (h : n < 16) : isPrintable (Nat.digitChar n) = true := by
  have hall : ∀ n < 16, isPrintable (Nat.digitChar n) = true := by decide +kernel
  exact hall n h

theorem isPrintable_of_mem_hex {width n : Nat} {c : Char} (h : c ∈ hex width n) :
    isPrintable c = true := by
  induction width generalizing n with
  | zero => cases h
  | succ width ih =>
      rcases List.mem_append.1 h with hfront | hlast
      · exact ih hfront
      · rw [List.mem_singleton.1 hlast]
        exact isPrintable_digitChar (Nat.mod_lt _ (by decide))

theorem hex_inj {width m n : Nat} (hm : m < 16 ^ width) (hn : n < 16 ^ width)
    (h : hex width m = hex width n) : m = n := by
  induction width generalizing m n with
  | zero =>
      simp only [Nat.pow_zero] at hm hn
      omega
  | succ width ih =>
      rw [Nat.pow_succ] at hm hn
      obtain ⟨hfront, hlast⟩ := List.append_inj h (by simp)
      have hquotient := ih (by omega) (by omega) hfront
      have hremainder := digitChar_inj (Nat.mod_lt m (by decide)) (Nat.mod_lt n (by decide))
        (List.cons.inj hlast).1
      omega

/-! ## Single characters -/

def letters : List (Char × Char) :=
  [('n', '\n'), ('r', '\r'), ('t', '\t'), ('\\', '\\'), ('\'', '\''), ('"', '"')]

/-- The marks of a code that follow a backslash, and how many digits the code has. -/
def marks : List (Char × Nat) :=
  [('x', 2), ('u', 4), ('U', 8)]

/-- How a character is written between quotes of the given kind. -/
inductive Escaped (quote c : Char) : List Char → Prop
  | plain : c ≠ quote → c ≠ '\\' → isPrintable c = true → Escaped quote c [c]
  | letter {letter : Char} : (letter, c) ∈ letters → Escaped quote c ['\\', letter]
  | code {mark : Char} {width : Nat} : (mark, width) ∈ marks → c.toNat < 16 ^ width →
      Escaped quote c ('\\' :: mark :: hex width c.toNat)

def IsQuote (quote : Char) : Prop :=
  quote = '\'' ∨ quote = '"'

theorem letter_unique {letter c d : Char} (hc : (letter, c) ∈ letters)
    (hd : (letter, d) ∈ letters) : c = d := by
  have hall : ∀ p ∈ letters, ∀ q ∈ letters, p.1 = q.1 → p.2 = q.2 := by decide
  exact hall _ hc _ hd rfl

theorem mark_unique {mark : Char} {m n : Nat} (hm : (mark, m) ∈ marks) (hn : (mark, n) ∈ marks) :
    m = n := by
  have hall : ∀ p ∈ marks, ∀ q ∈ marks, p.1 = q.1 → p.2 = q.2 := by decide
  exact hall _ hm _ hn rfl

theorem letter_ne_mark {letter mark c : Char} {width : Nat} (hletter : (letter, c) ∈ letters)
    (hmark : (mark, width) ∈ marks) : letter ≠ mark := by
  have hall : ∀ p ∈ letters, ∀ q ∈ marks, p.1 ≠ q.1 := by decide
  exact hall _ hletter _ hmark

theorem isQuote_quoteFor (text : List Char) : IsQuote (quoteFor text) := by
  unfold quoteFor
  split
  · exact .inr rfl
  · exact .inl rfl

variable {quote c d : Char} {written other s t : List Char}

theorem escaped_codePoint (quote c : Char) : Escaped quote c (codePoint c) := by
  have hcode : c.toNat < 0x110000 := by
    have hvalid : c.toNat.isValidChar := c.valid
    simp only [Nat.isValidChar] at hvalid
    omega
  unfold codePoint
  split
  · rename_i hsmall
    exact .code (by decide) hsmall
  · split
    · rename_i hsmall
      exact .code (by decide) hsmall
    · exact .code (by decide) (by omega)

theorem escaped_escapeChar (hquote : IsQuote quote) (c : Char) :
    Escaped quote c (escapeChar quote c) := by
  unfold escapeChar
  by_cases hself : c = quote ∨ c = '\\'
  · rw [if_pos (by simpa using hself)]
    refine .letter ?_
    rcases hself with rfl | rfl
    · rcases hquote with rfl | rfl <;> decide
    · decide
  · obtain ⟨hne, hslash⟩ := not_or.1 hself
    rw [if_neg (by simpa using hself)]
    split
    · rename_i hc
      exact .letter (by rw [hc]; decide)
    · split
      · rename_i hc
        exact .letter (by rw [hc]; decide)
      · split
        · rename_i hc
          exact .letter (by rw [hc]; decide)
        · split
          · rename_i hprintable
            exact .plain hne hslash hprintable
          · exact escaped_codePoint quote c

/-- Where two texts that start with written characters agree, the characters do. -/
theorem Escaped.append_inj (hc : Escaped quote c written) (hd : Escaped quote d other)
    (h : written ++ s = other ++ t) : c = d ∧ s = t := by
  cases hc with
  | plain _ hslash _ =>
      cases hd with
      | plain _ _ _ => exact List.cons.inj h
      | letter _ => exact (hslash (List.cons.inj h).1).elim
      | code _ _ => exact (hslash (List.cons.inj h).1).elim
  | letter hletter =>
      cases hd with
      | plain _ hslash _ => exact (hslash (List.cons.inj h).1.symm).elim
      | letter hletter' =>
          obtain ⟨rfl, hrest⟩ := List.cons.inj (List.cons.inj h).2
          exact ⟨letter_unique hletter hletter', hrest⟩
      | code hmark _ =>
          exact (letter_ne_mark hletter hmark (List.cons.inj (List.cons.inj h).2).1).elim
  | code hmark hlt =>
      cases hd with
      | plain _ hslash _ => exact (hslash (List.cons.inj h).1.symm).elim
      | letter hletter =>
          exact (letter_ne_mark hletter hmark (List.cons.inj (List.cons.inj h).2).1.symm).elim
      | code hmark' hlt' =>
          obtain ⟨rfl, hdigits⟩ := List.cons.inj (List.cons.inj h).2
          obtain rfl := mark_unique hmark hmark'
          obtain ⟨hhex, hrest⟩ := List.append_inj hdigits (by simp)
          exact ⟨Char.toNat_inj.1 (hex_inj hlt hlt' hhex), hrest⟩

theorem Escaped.ne_quote (hquote : IsQuote quote) (h : Escaped quote c written) :
    written ++ s ≠ quote :: t := by
  have hslash : '\\' ≠ quote := by rcases hquote with rfl | rfl <;> decide
  intro heq
  cases h with
  | plain hne _ _ => exact hne (List.cons.inj heq).1
  | letter _ => exact hslash (List.cons.inj heq).1
  | code _ _ => exact hslash (List.cons.inj heq).1

theorem Escaped.isPrintable (h : Escaped quote c written) :
    ∀ d ∈ written, Text.isPrintable d = true := by
  have hletters : ∀ p ∈ letters, Text.isPrintable p.1 = true := by decide +kernel
  have hmarks : ∀ p ∈ marks, Text.isPrintable p.1 = true := by decide +kernel
  cases h with
  | plain _ _ hprintable => simpa using hprintable
  | letter hletter => simpa using ⟨rfl, hletters _ hletter⟩
  | code hmark _ =>
      simp only [List.forall_mem_cons]
      exact ⟨rfl, hmarks _ hmark, fun d hd => isPrintable_of_mem_hex hd⟩

/-! ## Texts -/

theorem flatMap_escapeChar_inj (hquote : IsQuote quote) {a b : List Char}
    (h : a.flatMap (escapeChar quote) ++ [quote] = b.flatMap (escapeChar quote) ++ [quote]) :
    a = b := by
  induction a generalizing b with
  | nil =>
      cases b with
      | nil => rfl
      | cons d more =>
          rw [List.flatMap_cons, List.append_assoc] at h
          exact ((escaped_escapeChar hquote d).ne_quote hquote h.symm).elim
  | cons c rest ih =>
      cases b with
      | nil =>
          rw [List.flatMap_cons, List.append_assoc] at h
          exact ((escaped_escapeChar hquote c).ne_quote hquote h).elim
      | cons d more =>
          rw [List.flatMap_cons, List.flatMap_cons, List.append_assoc, List.append_assoc] at h
          obtain ⟨rfl, hrest⟩ :=
            (escaped_escapeChar hquote c).append_inj (escaped_escapeChar hquote d) h
          rw [ih hrest]

theorem encode_inj {a b : List Char} (h : encode a = encode b) : a = b := by
  obtain ⟨hquotes, hbody⟩ := List.cons.inj h
  rw [← hquotes] at hbody
  exact flatMap_escapeChar_inj (isQuote_quoteFor a) hbody

/-- A text can be read back from its quoted form. -/
theorem quote_inj {a b : String} (h : Quoted.quote a = Quoted.quote b) : a = b :=
  String.toList_inj.1 (encode_inj (String.ofList_inj.1 h))

theorem isPrintable_of_mem_quote {text : String} (h : c ∈ (Quoted.quote text).toList) :
    Text.isPrintable c = true := by
  have hquote := isQuote_quoteFor text.toList
  have hquotes : Text.isPrintable (quoteFor text.toList) = true := by
    rcases hquote with hkind | hkind <;> rw [hkind] <;> rfl
  rw [Quoted.quote, String.toList_ofList, encode, List.mem_append, List.mem_cons,
    List.mem_flatMap, List.mem_singleton] at h
  rcases h with (rfl | ⟨d, -, hd⟩) | rfl
  · exact hquotes
  · exact (escaped_escapeChar hquote d).isPrintable c hd
  · exact hquotes

end Quoted

end Positional.Text
