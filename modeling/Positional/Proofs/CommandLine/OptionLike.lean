import Positional.Proofs.CommandLine.Format
import Positional.Proofs.CommandLine.Scan

/-!
# Arguments that look like options

The format command keeps words that only look like options, so that negative numbers can be its
arguments.  A word is passed on as it is unless it is the double dash, names a long option, or
stands for a bundle of short options in which the letter of the template file is found.
-/

namespace Positional.CommandLine

variable {word template : String} {arguments : List String} {front rest : List Char}

/-- The long options of the command, with the one that asks for help. -/
def longNames : List String :=
  "--help" :: formatGrammar.options.map Declared.long

/-- A word in which no option is found: it is no double dash, it is no long option, also not with a
value attached, and behind a single dash it has not the letter of the template file. -/
structure Verbatim (word : String) : Prop where
  not_doubleDash : word ≠ "--"
  not_long : ∀ name ∈ longNames, ¬ Grammar.Names word name
  not_bundled : ∀ letter more, word.toList = '-' :: letter :: more → letter ≠ '-' →
    'f' ∉ letter :: more

theorem short?_templateFile :
    formatGrammar.short? 'f' = some ⟨.templateFile, "--template-file", some 'f', true⟩ := rfl

theorem short?_eq_none {letter : Char} (h : letter ≠ 'f') : formatGrammar.short? letter = none := by
  have hne : ¬ 'f' = letter := fun he => h he.symm
  simp [Grammar.short?, formatGrammar, debugOption, hne]

theorem keeps_of_verbatim (h : Verbatim word) : formatGrammar.Keeps word := by
  apply Grammar.keeps_of_unknown rfl h.not_doubleDash
  · intro option hmem
    exact h.not_long option.long (List.mem_cons_of_mem _ (List.mem_map_of_mem hmem))
  · intro letter more hword hdash other hother
    apply short?_eq_none
    rintro rfl
    exact h.not_bundled letter more hword hdash hother

/-- The letter of the template file is found anywhere in a bundle.  The path is what stands behind
it or, if nothing does, the next word, and only the letters in front of it are kept. -/
theorem readWord_of_bundled (hword : word.toList = '-' :: (front ++ 'f' :: rest))
    (hdash : front.head? ≠ some '-') (hfront : 'f' ∉ front)
    (hlong : ∀ option ∈ formatGrammar.options, ¬ Grammar.Names word option.long) :
    formatGrammar.readWord word = .ok
      ⟨if rest.isEmpty then [] else [⟨.templateFile, some (String.ofList rest)⟩],
        if front.isEmpty then none else some (String.ofList ('-' :: front)),
        if rest.isEmpty then some .templateFile else none⟩ := by
  have hbundle : formatGrammar.readBundle (front ++ 'f' :: rest) =
      .ok (if rest.isEmpty then ⟨[], front, some .templateFile⟩
        else ⟨[⟨.templateFile, some (String.ofList rest)⟩], front, none⟩) := by
    apply Grammar.readBundle_of_value rfl _ short?_templateFile rfl
    intro other hother
    apply short?_eq_none
    rintro rfl
    exact hfront hother
  have hread : formatGrammar.readWord word =
      (formatGrammar.readBundle (front ++ 'f' :: rest)).map Grammar.Bundle.toWord := by
    cases front with
    | nil => exact Grammar.readWord_of_bundle hword (by decide) hlong
    | cons letter more =>
        have hletter : letter ≠ '-' := fun he => hdash (by rw [he]; rfl)
        exact Grammar.readWord_of_bundle hword hletter hlong
  rw [hread, hbundle]
  by_cases hempty : rest.isEmpty
  · simp only [hempty, if_true]
    rfl
  · simp only [hempty]
    rfl

/-- A word in which the letter does not occur is kept where no long option stands in front. -/
theorem verbatim_of_no_long (hdash : word ≠ "--")
    (hlong : ∀ name ∈ longNames, ¬ name.toList <+: word.toList)
    (hletter : "--".toList <+: word.toList ∨ 'f' ∉ word.toList) : Verbatim word := by
  refine ⟨hdash, ?_, ?_⟩
  · intro name hmem hnames
    exact hlong name hmem hnames.isPrefix
  · intro letter more hword hsecond hmem
    rw [hword] at hletter
    rcases hletter with hdashes | hnone
    · exact hsecond (by simpa [eq_comm] using hdashes)
    · exact hnone (List.mem_cons_of_mem _ hmem)

/-- Behind a template that does not start with a dash, words in which no option is found are the
arguments, unchanged and in order, as behind a double dash. -/
theorem run_format_verbatim (env : Environment) (registry : Registry)
    (readFile : String → Except FileFault (List UInt8))
    (htemplate : template.toList.head? ≠ some '-')
    (harguments : ∀ word ∈ arguments, Verbatim word) :
    Invocation.read ("format" :: template :: arguments) =
        .ok (.format ⟨some template, arguments, none, false, false, false⟩) ∧
      run env registry readFile ("format" :: template :: arguments) =
        run env registry readFile ("format" :: "--" :: template :: arguments) := by
  have hkeeps : ∀ word ∈ template :: arguments, formatGrammar.Keeps word := by
    intro word hmem
    rcases List.mem_cons.mp hmem with rfl | hargument
    · exact Grammar.keeps_of_no_dash htemplate
    · exact keeps_of_verbatim (harguments word hargument)
  have hread := read_format_of_scan none (Grammar.scan_of_keeps hkeeps) rfl
  have hdashed :=
    read_format_of_scan none (scan_doubleDash formatGrammar (template :: arguments)) rfl
  refine ⟨hread, ?_⟩
  rw [run, run, hread, hdashed]

theorem run_format_verbatim_numbers :
    run .empty .shipped (fun _ => .error .missing)
        ["format", "\x7b0\x7d/\x7b1\x7d/\x7b2\x7d", "-5", "-2.5", "--flag"] =
      run .empty .shipped (fun _ => .error .missing)
        ["format", "--", "\x7b0\x7d/\x7b1\x7d/\x7b2\x7d", "-5", "-2.5", "--flag"] := by
  refine (run_format_verbatim _ _ _ (by decide) ?_).2
  intro word hmem
  have hword : word = "-5" ∨ word = "-2.5" ∨ word = "--flag" := by simpa using hmem
  rcases hword with rfl | rfl | rfl
  · exact verbatim_of_no_long (by decide) (by decide) (by decide)
  · exact verbatim_of_no_long (by decide) (by decide) (by decide)
  · exact verbatim_of_no_long (by decide) (by decide) (by decide)

/-- A last word that ends in the letter asks for a path, and none is left. -/
theorem run_format_bundled (env : Environment) (registry : Registry)
    (readFile : String → Except FileFault (List UInt8))
    (htemplate : template.toList.head? ≠ some '-') (hword : word.toList = '-' :: (front ++ ['f']))
    (hdash : front.head? ≠ some '-') (hfront : 'f' ∉ front)
    (hlong : ∀ option ∈ formatGrammar.options, ¬ Grammar.Names word option.long) :
    run env registry readFile ["format", template, word] = .usageError := by
  have hdouble : word ≠ "--" := by
    rintro rfl
    cases front with
    | nil => exact absurd hword (by decide)
    | cons letter more => exact hdash (congrArg List.head? (List.cons.inj hword).2).symm
  have hlast : formatGrammar.scan [word] = .error {} := by
    rw [Grammar.scan, if_neg hdouble, readWord_of_bundled hword hdash hfront hlong]
    rfl
  have hfirst : formatGrammar.Keeps template := Grammar.keeps_of_no_dash htemplate
  have hscan : formatGrammar.scan [template, word] = .error {} := by
    rw [Grammar.scan_cons hfirst.1 hfirst.2 rfl, hlast]
    rfl
  have hread : Invocation.read ["format", template, word] =
      Invocation.readFormat [template, word] := rfl
  rw [run, hread, Invocation.readFormat, hscan]
  rfl

/-- The letter need not be the first one: a negative infinity ends in a bundle that asks for a
template file, though it is no long option and starts with none of them. -/
theorem negative_infinity_not_verbatim :
    "\x7b0\x7d".toList.head? ≠ some '-' ∧ "-inf" ≠ "--" ∧
      (∀ name ∈ longNames, ¬ Grammar.Names "-inf" name) ∧ ¬ "-f".toList <+: "-inf".toList ∧
      run .empty .shipped (fun _ => .error .missing) ["format", "\x7b0\x7d", "-inf"] = .usageError ∧
      run .empty .shipped (fun _ => .error .missing) ["format", "--", "\x7b0\x7d", "-inf"] =
        ⟨0, "-inf\n", [], none, none⟩ := by
  have hprefix : ∀ name ∈ longNames, ¬ name.toList <+: "-inf".toList := by decide
  have hlong : ∀ name ∈ longNames, ¬ Grammar.Names "-inf" name :=
    fun name hmem hnames => hprefix name hmem hnames.isPrefix
  have hinfinity : "-inf".toList = '-' :: (['i', 'n'] ++ ['f']) := by decide
  refine ⟨by decide, by decide, hlong, by decide, ?_, by decide +kernel⟩
  exact run_format_bundled _ _ _ (by decide) hinfinity (by decide) (by decide)
    fun option hmem => hlong option.long (List.mem_cons_of_mem _ (List.mem_map_of_mem hmem))

end Positional.CommandLine
