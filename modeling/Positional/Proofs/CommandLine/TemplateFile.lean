import Positional.Proofs.CommandLine.Format
import Positional.Proofs.CommandLine.Scan
import Positional.Proofs.Text.Utf8

/-!
# Templates from files

With a template file, the first positional argument is no template and goes back to the front of the
arguments.  A file whose bytes are those of a template stands for it: both ways of giving the
template come to the same work, and so to the same run.
-/

namespace Positional.CommandLine

variable {words arguments : List String} {path template : String} {uses : List (Use Key)}
variable {env : Environment} {registry : Registry}
variable {readFile : String → Except FileFault (List UInt8)}

/-! ## The text of a file -/

theorem unifyBreaks_of_not_mem {text : List Char} (h : '\r' ∉ text) : unifyBreaks text = text := by
  induction text with
  | nil => rfl
  | cons c rest ih =>
      have hc : c ≠ '\r' := fun he => h (he ▸ List.mem_cons_self)
      rw [unifyBreaks.eq_3 c rest (fun _ he _ => hc he) hc,
        ih fun hmem => h (List.mem_cons_of_mem c hmem)]

/-- The bytes of a text without carriage returns are read back as the text. -/
theorem fileText_encode (h : '\r' ∉ template.toList) :
    fileText (Text.Utf8.encode template.toList) = .ok template := by
  unfold fileText
  rw [Text.Utf8.decode_encode]
  show Except.ok (String.ofList (unifyBreaks template.toList)) = _
  rw [unifyBreaks_of_not_mem h, String.ofList_toList]

theorem templateOfFile_encode (hfile : readFile path = .ok (Text.Utf8.encode template.toList))
    (hbreaks : '\r' ∉ template.toList) : templateOfFile readFile path = pure template := by
  simp only [templateOfFile, hfile, fileText_encode hbreaks]

/-! ## Options in front -/

def flags : List String :=
  ["--typed", "--no-typed", "--debug", "--verbose"]

theorem exists_isUse {word : String} (h : word ∈ flags) :
    ∃ key, formatGrammar.IsUse key word ∧ key ≠ .templateFile := by
  have hword : word = "--typed" ∨ word = "--no-typed" ∨ word = "--debug" ∨ word = "--verbose" := by
    simpa [flags] using h
  rcases hword with rfl | rfl | rfl | rfl
  · exact ⟨.typed, ⟨by decide, rfl⟩, by decide⟩
  · exact ⟨.untyped, ⟨by decide, rfl⟩, by decide⟩
  · exact ⟨.debug, ⟨by decide, rfl⟩, by decide⟩
  · exact ⟨.verbose, ⟨by decide, rfl⟩, by decide⟩

theorem exists_keys (h : ∀ word ∈ words, word ∈ flags) :
    ∃ keys, List.Forall₂ formatGrammar.IsUse keys words ∧ .templateFile ∉ keys := by
  induction words with
  | nil => exact ⟨[], .nil, List.not_mem_nil⟩
  | cons word rest ih =>
      obtain ⟨key, huse, hkey⟩ := exists_isUse (h word List.mem_cons_self)
      obtain ⟨keys, huses, hkeys⟩ := ih fun other hmem => h other (List.mem_cons_of_mem word hmem)
      exact ⟨key :: keys, .cons huse huses, List.not_mem_cons_of_ne_of_not_mem hkey.symm hkeys⟩

/-- Options without a value add their uses to what stands behind them, none of the template file. -/
theorem exists_uses (h : ∀ word ∈ words, word ∈ flags) :
    ∃ uses : List (Use Key), (∀ use ∈ uses, use.key ≠ .templateFile) ∧
      ∀ rest, formatGrammar.scan (words ++ rest) = (formatGrammar.scan rest).map fun scanned =>
        ⟨uses ++ scanned.uses, scanned.positionals⟩ := by
  obtain ⟨keys, hkeys, hfile⟩ := exists_keys h
  refine ⟨keys.map fun key => ⟨key, none⟩, ?_, fun rest => Grammar.scan_append_uses hkeys⟩
  intro use hmem hkey
  obtain ⟨key, hkeymem, rfl⟩ := List.mem_map.mp hmem
  have hsame : key = .templateFile := hkey
  exact hfile (hsame ▸ hkeymem)

theorem last?_eq_none {positionals : List String}
    (h : ∀ use ∈ uses, use.key ≠ .templateFile) :
    Scanned.last? ⟨uses, positionals⟩ .templateFile = none := by
  have hnone : uses.reverse.find? (fun use => use.key = Key.templateFile) = none := by
    rw [List.find?_eq_none]
    intro use hmem
    simpa using h use (List.mem_reverse.mp hmem)
  unfold Scanned.last?
  rw [hnone]
  rfl

/-! ## The use of the template file -/

theorem last?_append (uses : List (Use Key)) (key : Key) (value : Option String)
    (positionals : List String) :
    Scanned.last? ⟨uses ++ [⟨key, value⟩], positionals⟩ key = value := by
  simp [Scanned.last?]

theorem has_append_templateFile {key : Key} (value : Option String)
    (positionals others : List String) (hkey : key ≠ .templateFile) :
    Scanned.has ⟨uses ++ [⟨.templateFile, value⟩], positionals⟩ key =
      Scanned.has ⟨uses, others⟩ key := by
  simp [Scanned.has, hkey.symm]

theorem isTyped_append_templateFile (uses : List (Use Key)) (value : Option String) :
    Invocation.isTyped (uses ++ [⟨.templateFile, value⟩]) = Invocation.isTyped uses := by
  unfold Invocation.isTyped
  rw [List.foldl_append]
  rfl

/-! ## Runs -/

/-- The first positional argument goes back to the front of the arguments. -/
theorem templateAndArguments_templateFile {typed debug verbose : Bool}
    (h : templateOfFile readFile path = pure template) :
    templateAndArguments readFile
        ⟨arguments.head?, arguments.tail, some path, typed, debug, verbose⟩ =
      pure (template, arguments) := by
  have harguments : arguments.head?.toList ++ arguments.tail = arguments := by
    cases arguments <;> rfl
  show (templateOfFile readFile path >>= fun template =>
    pure (template, arguments.head?.toList ++ arguments.tail)) = _
  rw [h, pure_bind, harguments]

theorem run_format_congr {first second : FormatCall}
    (htemplate : templateAndArguments readFile first = templateAndArguments readFile second)
    (htyped : first.typed = second.typed) (hdebug : first.debug = second.debug)
    (hverbose : first.verbose = second.verbose) :
    (Invocation.format first).run env registry readFile =
      (Invocation.format second).run env registry readFile := by
  have hwork : runFormat env registry readFile first = runFormat env registry readFile second := by
    rw [runFormat, runFormat, htemplate, htyped]
  simp only [Invocation.run, Invocation.work, Invocation.threshold, hwork, hdebug, hverbose]

/-- A template from a file is formatted as the same template on the command line, to the same exit
code, the same output, the same log and the same fault, if one escapes. -/
theorem run_templateFile (env : Environment) (registry : Registry)
    (readFile : String → Except FileFault (List UInt8)) {options : List String}
    (arguments : List String) (hoptions : ∀ word ∈ options, word ∈ flags)
    (hpath : '\x00' ∉ path.toList) (hbreaks : '\r' ∉ template.toList)
    (hfile : readFile (Path.plain path) = .ok (Text.Utf8.encode template.toList)) :
    run env registry readFile ("format" :: (options ++ "-f" :: path :: "--" :: arguments)) =
      run env registry readFile ("format" :: (options ++ "--" :: template :: arguments)) := by
  obtain ⟨uses, huses, hscan⟩ := exists_uses hoptions
  have hfileScan : formatGrammar.scan (options ++ "-f" :: path :: "--" :: arguments) =
      .ok ⟨uses ++ [⟨.templateFile, some path⟩], arguments⟩ := by
    rw [hscan, Grammar.scan_cons_awaiting (by decide) rfl rfl, scan_doubleDash]
    rfl
  have htemplateScan : formatGrammar.scan (options ++ "--" :: template :: arguments) =
      .ok ⟨uses, template :: arguments⟩ := by
    rw [hscan, scan_doubleDash]
    show Except.ok (Scanned.mk (uses ++ []) (template :: arguments)) = _
    rw [List.append_nil]
  have hpathRead : Invocation.readPath path = .ok (Path.plain path) := by
    unfold Invocation.readPath
    rw [if_neg (by simpa using hpath)]
  have hfileLast : (Scanned.last? ⟨uses ++ [⟨.templateFile, some path⟩], arguments⟩
      .templateFile).mapM Invocation.readPath = .ok (some (Path.plain path)) := by
    rw [last?_append]
    simp [hpathRead]
  have htemplateLast : (Scanned.last? ⟨uses, template :: arguments⟩ .templateFile).mapM
      Invocation.readPath = .ok none := by
    rw [last?_eq_none huses]
    rfl
  rw [run, run, read_format_of_scan _ hfileScan hfileLast,
    read_format_of_scan _ htemplateScan htemplateLast]
  apply run_format_congr
  · exact templateAndArguments_templateFile (templateOfFile_encode hfile hbreaks)
  · exact isTyped_append_templateFile uses (some path)
  · exact has_append_templateFile _ _ _ (by decide)
  · exact has_append_templateFile _ _ _ (by decide)

theorem run_templateFile_greeting :
    let greeting := "Gr\u00FC\u00DFe, \x7b0\x7d\n\x7b1\x7d"
    let readFile := fun path => if path = Path.plain "greeting.txt"
      then .ok (Text.Utf8.encode greeting.toList) else .error .missing
    run .empty .shipped readFile
        ["format", "--typed", "--debug", "-f", "greeting.txt", "--", "", "-f"] =
      run .empty .shipped readFile ["format", "--typed", "--debug", "--", greeting, "", "-f"] := by
  intro greeting readFile
  have hoptions : ∀ word ∈ ["--typed", "--debug"], word ∈ flags := by decide
  have hpath : '\x00' ∉ "greeting.txt".toList := by decide
  have hbreaks : '\r' ∉ greeting.toList := by decide
  have hfile : readFile (Path.plain "greeting.txt") = .ok (Text.Utf8.encode greeting.toList) :=
    if_pos rfl
  exact run_templateFile .empty .shipped readFile ["", "-f"] hoptions hpath hbreaks hfile

end Positional.CommandLine
