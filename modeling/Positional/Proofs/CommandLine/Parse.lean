import Positional.Proofs.CommandLine.Format
import Positional.Proofs.Double.Reading
import Positional.Proofs.Feature.Handler
import Positional.Proofs.Rendering.Reported
import Positional.Proofs.Template.Indices
import Positional.Proofs.Template.Parsed
import Positional.Proofs.Text.Quoted

/-!
# Runs of the parse command

The parse command shows a line for each segment and one for the number of arguments.  Whatever
literal text holds, no line breaks inside, and a line can be told from every other, so the segments
with their positions can be read back from what is printed.
-/

namespace Positional.CommandLine

attribute [local instance (high)] instPowNat

/-! ## Lines -/

/-- Texts that go on with the same character agree up to where it first stands. -/
theorem append_stop_inj {stop : Char} {a b s t : List Char} (ha : stop ∉ a) (hb : stop ∉ b)
    (h : a ++ stop :: s = b ++ stop :: t) : a = b ∧ s = t := by
  have hplace : ∀ front rest, stop ∉ front →
      (front ++ stop :: rest).idxOf stop = front.length := by
    intro front rest hfront
    rw [List.idxOf_append_of_notMem hfront, List.idxOf_cons_self, Nat.add_zero]
  have hlength : a.length = b.length := by
    rw [← hplace a s ha, h, hplace b t hb]
  obtain ⟨hab, hst⟩ := List.append_inj h hlength
  exact ⟨hab, (List.cons.inj hst).2⟩

theorem printLines_toList (lines : List String) :
    (printLines lines).toList = lines.flatMap fun line => line.toList ++ ['\n'] := by
  simp only [printLines, String.toList_join, List.flatMap_map, String.toList_append]
  rfl

theorem printLines_inj {a b : List String} (ha : ∀ line ∈ a, '\n' ∉ line.toList)
    (hb : ∀ line ∈ b, '\n' ∉ line.toList) (h : printLines a = printLines b) : a = b := by
  have hlist := congrArg String.toList h
  rw [printLines_toList, printLines_toList] at hlist
  clear h
  induction a generalizing b with
  | nil =>
      cases b with
      | nil => rfl
      | cons other others => simp at hlist
  | cons line rest ih =>
      cases b with
      | nil => simp at hlist
      | cons other others =>
          rw [List.forall_mem_cons] at ha hb
          simp only [List.flatMap_cons, List.append_assoc, List.singleton_append] at hlist
          obtain ⟨hline, hrest⟩ := append_stop_inj ha.1 hb.1 hlist
          rw [String.toList_inj.1 hline, ih ha.2 hb.2 hrest]

theorem isPrintable_of_mem_text {i : Int} {c : Char} (h : c ∈ (Numeral.text i).toList) :
    Text.isPrintable c = true := by
  rcases Numeral.mem_text h with rfl | hdigit
  · rfl
  · have hall : ['0', '1', '2', '3', '4', '5', '6', '7', '8', '9'].all Text.isPrintable = true := by
      decide +kernel
    exact List.all_eq_true.1 hall c (Numeral.mem_of_isDigit hdigit)

/-- Whether a line holds printable characters only. -/
def IsShown (line : String) : Prop :=
  ∀ c ∈ line.toList, Text.isPrintable c = true

theorem isShown_of_all {line : String} (h : line.toList.all Text.isPrintable = true) :
    IsShown line :=
  List.all_eq_true.1 h

theorem isShown_append {a b : String} : IsShown (a ++ b) ↔ IsShown a ∧ IsShown b := by
  simp only [IsShown, String.toList_append, List.forall_mem_append]

theorem IsShown.unbroken {line : String} (h : IsShown line) : '\n' ∉ line.toList := by
  intro hmem
  exact Text.not_mem_lineBreaks_of_isPrintable (h _ hmem) (by decide)

theorem isShown_text (i : Int) : IsShown (Numeral.text i) :=
  fun _ hc => isPrintable_of_mem_text hc

theorem isShown_alignLeft {text : String} (h : IsShown text) (width : Nat) :
    IsShown (alignLeft width text) := by
  refine isShown_append.2 ⟨h, ?_⟩
  intro c hc
  rw [String.toList_ofList] at hc
  rw [List.eq_of_mem_replicate hc]
  rfl

theorem isShown_segmentLine (segment : Segment) : IsShown (segmentLine segment) := by
  have hliteral : IsShown "  literal      " := isShown_of_all (by decide +kernel)
  have hplaceholder : IsShown "  placeholder  " := isShown_of_all (by decide +kernel)
  have hat : IsShown " at " := isShown_of_all (by decide +kernel)
  cases segment with
  | literal text =>
      exact isShown_append.2 ⟨hliteral, fun _ hc => Text.Quoted.isPrintable_of_mem_quote hc⟩
  | placeholder index position =>
      have hposition : IsShown ((position.map Numeral.text).getD "None") := by
        cases position with
        | none => exact isShown_of_all (by decide +kernel)
        | some start => exact isShown_text start
      have hindex := isShown_append.2 ⟨hplaceholder, isShown_alignLeft (isShown_text index) 6⟩
      exact isShown_append.2 ⟨isShown_append.2 ⟨hindex, hat⟩, hposition⟩

theorem isShown_requiredLine (i : Int) : IsShown (requiredLine (Numeral.text i)) := by
  have hfront : IsShown "Required arguments: " := isShown_of_all (by decide +kernel)
  exact isShown_append.2 ⟨hfront, isShown_text i⟩

/-! ## Lines of segments -/

theorem position_text_inj {p q : Option Int}
    (h : (p.map Numeral.text).getD "None" = (q.map Numeral.text).getD "None") : p = q := by
  have hnone : ∀ i, Numeral.text i ≠ "None" := by
    intro i hi
    have hmem : 'N' ∈ (Numeral.text i).toList := by
      rw [hi]
      decide
    rcases Numeral.mem_text hmem with hc | hc <;> cases hc
  cases p with
  | none =>
      cases q with
      | none => rfl
      | some j => exact (hnone j h.symm).elim
  | some i =>
      cases q with
      | none => exact (hnone i h).elim
      | some j => rw [Numeral.text_inj h]

theorem alignLeft_append_inj {width : Nat} {a b s t : String} (ha : ' ' ∉ a.toList)
    (hb : ' ' ∉ b.toList)
    (h : alignLeft width a ++ " at " ++ s = alignLeft width b ++ " at " ++ t) : a = b ∧ s = t := by
  have hblank : ∀ text rest : String, ∃ more, (alignLeft width text ++ " at " ++ rest).toList =
      text.toList ++ ' ' :: more := by
    intro text rest
    refine ⟨List.replicate (width - text.length) ' ' ++ ("at ".toList ++ rest.toList), ?_⟩
    simp only [alignLeft, String.toList_append, String.toList_ofList, List.append_assoc]
    rw [← List.cons_append, ← List.replicate_succ, List.replicate_succ', List.append_assoc]
    rfl
  obtain ⟨more, hmore⟩ := hblank a s
  obtain ⟨others, hothers⟩ := hblank b t
  have hlist := congrArg String.toList h
  rw [hmore, hothers] at hlist
  obtain rfl := String.toList_inj.1 (append_stop_inj ha hb hlist).1
  exact ⟨rfl, (String.append_right_inj _).1 h⟩

theorem segmentLine_literal (text : String) :
    segmentLine (.literal text) = "  literal      " ++ Text.Quoted.quote text := rfl

theorem segmentLine_placeholder (index : Int) (position : Option Int) :
    segmentLine (.placeholder index position) =
      "  placeholder  " ++ (alignLeft 6 (Numeral.text index) ++ " at " ++
        (position.map Numeral.text).getD "None") := by
  have hline : segmentLine (.placeholder index position) =
      "  placeholder  " ++ alignLeft 6 (Numeral.text index) ++ " at " ++
        (position.map Numeral.text).getD "None" := rfl
  simp only [hline, String.append_assoc]

theorem segmentLine_inj {a b : Segment} (h : segmentLine a = segmentLine b) : a = b := by
  have hkinds : ∀ s t : String, "  literal      " ++ s ≠ "  placeholder  " ++ t := by
    intro s t heq
    have hthird := congrArg (fun line => line.toList[2]?) heq
    simp at hthird
  have hblank : ∀ i, ' ' ∉ (Numeral.text i).toList := by
    intro i hmem
    rcases Numeral.mem_text hmem with hc | hc <;> cases hc
  cases a with
  | literal text =>
      cases b with
      | literal other =>
          rw [Text.Quoted.quote_inj ((String.append_right_inj _).1 h)]
      | placeholder index position =>
          rw [segmentLine_literal, segmentLine_placeholder] at h
          exact (hkinds _ _ h).elim
  | placeholder index position =>
      cases b with
      | literal other =>
          rw [segmentLine_literal, segmentLine_placeholder] at h
          exact (hkinds _ _ h.symm).elim
      | placeholder other place =>
          rw [segmentLine_placeholder, segmentLine_placeholder, String.append_right_inj] at h
          obtain ⟨hindex, hposition⟩ := alignLeft_append_inj (hblank index) (hblank other) h
          rw [Numeral.text_inj hindex, position_text_inj hposition]

/-! ## The lines of a template -/

def templateLines (template : Template) : List String :=
  template.segments.map segmentLine ++ [requiredLine (Numeral.text template.required)]

theorem isShown_of_mem_templateLines {template : Template} {line : String}
    (h : line ∈ templateLines template) : IsShown line := by
  rcases List.mem_append.1 h with hsegment | hrequired
  · obtain ⟨segment, -, rfl⟩ := List.mem_map.1 hsegment
    exact isShown_segmentLine segment
  · rw [List.mem_singleton.1 hrequired]
    exact isShown_requiredLine template.required

/-- The segments can be read back from the lines that show a template. -/
theorem segments_eq_of_printLines {a b : Template}
    (h : printLines (templateLines a) = printLines (templateLines b)) :
    a.segments = b.segments := by
  have hlines : templateLines a = templateLines b :=
    printLines_inj (fun _ hline => (isShown_of_mem_templateLines hline).unbroken)
      (fun _ hline => (isShown_of_mem_templateLines hline).unbroken) h
  have hsegments : a.segments.map segmentLine = b.segments.map segmentLine :=
    (List.append_inj' hlines rfl).1
  exact List.map_injective_iff.2 (fun _ _ => segmentLine_inj) hsegments

/-! ## The command -/

variable {env : Environment} {text : String} {template : Template}

/-- The words that call the parse command with a template, after a double dash so that it is not
taken for an option. -/
def parseWords (template : String) : List String :=
  ["parse", "--", template]

theorem read_parseWords (text : String) :
    Invocation.read (parseWords text) = .ok (.parse text false) := rfl

/-- Below a ceiling of fewer digits than can be written, the number of arguments can be written. -/
theorem isWritable_required
    (hceiling : (Numeral.text (Settings.maxIndex env).result).length < Numeral.digitLimit)
    (h : (Template.parse env text none).result = .ok template) :
    Numeral.isWritable template.required = true := by
  rw [Template.parse_eq_ok_iff, Reader.drain_fresh_unset] at h
  have hnonneg := Settings.maxIndex_nonneg env
  generalize (Settings.maxIndex env).result = ceiling at hceiling h hnonneg
  obtain ⟨bound, rfl⟩ := Int.eq_ofNat_of_zero_le hnonneg
  have hindices : Segment.EachIndex (fun index => 0 ≤ index ∧ index ≤ bound)
      template.segments := by
    intro index position hmem
    have hlisted : .placeholder index position ∈
        (Template.drain bound ⟨0, text.toList⟩).segments := by
      rw [h]
      exact hmem
    obtain ⟨start, hindex, hle, -, -⟩ := Template.placeholder_mem_drain hlisted
    exact ⟨hindex, hle⟩
  have hleast : 0 ≤ template.required :=
    Template.required_nonneg fun index position hmem => (hindices index position hmem).1
  have hmost : template.required ≤ (bound + 1 : Nat) :=
    (template.required_le_iff (bound + 1)).2 fun index position hmem =>
      Int.lt_of_le_of_lt (hindices index position hmem).2 (by omega)
  obtain ⟨limit, hlimit⟩ : ∃ limit, Numeral.digitLimit = limit + 2 := ⟨4298, rfl⟩
  rw [hlimit, Numeral.text_ofNat] at hceiling
  have hbound : bound < 10 ^ (limit + 1) :=
    (Nat.length_repr_le_iff (Nat.succ_pos limit)).1 (Nat.le_of_lt_succ hceiling)
  rw [Numeral.isWritable, decide_eq_true_eq, hlimit, Nat.pow_succ]
  omega

theorem result_printTemplate (h : Numeral.isWritable template.required = true) :
    (printTemplate template).result = .ok (printLines (templateLines template)) := by
  have hwrite : Numeral.write template.required = .ok (Numeral.text template.required) :=
    if_pos h
  unfold printTemplate
  rw [hwrite]
  rfl

theorem result_printTemplate_interrupted (h : Numeral.isWritable template.required = false) :
    (printTemplate template).result =
      .error
        (.interrupted (printLines (template.segments.map segmentLine)) .unwritableInteger) := by
  have hwrite : Numeral.write template.required = .error .unwritableInteger :=
    if_neg (by rw [h]; exact Bool.false_ne_true)
  unfold printTemplate
  rw [hwrite]
  rfl

theorem result_runParse (h : (Template.parse env text none).result = .ok template) :
    (runParse env .shipped text).result = (printTemplate template).result := by
  have hfound : Registry.shipped.find? "parse" = some Feature.parse := rfl
  have hcall : (call env .shipped "parse" (.ofTemplate text)).result = .ok (.parsed template) := by
    have hanswer : (Feature.parse.handler env (.ofTemplate text)).result = _ :=
      Handler.parse_completed h
    rw [result_call hfound, hanswer]
    rfl
  exact Work.result_bind_ok hcall _

variable (readFile : String → Except FileFault (List UInt8))

theorem run_parseWords_ok (h : (Template.parse env text none).result = .ok template)
    (hrequired : Numeral.isWritable template.required = true) :
    ∃ entries, run env .shipped readFile (parseWords text) =
      ⟨0, printLines (templateLines template), entries, none, none⟩ := by
  have hwork := (result_runParse h).trans (result_printTemplate hrequired)
  rw [run, read_parseWords]
  exact Run.ofWork_ok (Work.result_bind_ok hwork _)

/-- A number of arguments with a digit too many ends the command behind the segments' lines. -/
theorem run_parseWords_interrupted (h : (Template.parse env text none).result = .ok template)
    (hrequired : Numeral.isWritable template.required = false) :
    ∃ entries, run env .shipped readFile (parseWords text) =
      ⟨1, printLines (template.segments.map segmentLine), entries, some .unwritableInteger,
        none⟩ := by
  have hwork := (result_runParse h).trans (result_printTemplate_interrupted hrequired)
  rw [run, read_parseWords]
  exact Run.ofWork_error (Work.result_bind_error hwork _)

theorem run_parseWords_rejected {error : FormatError}
    (h : (Template.parse env text none).result = .error (.format error)) :
    ∃ entries escaped, run env .shipped readFile (parseWords text) =
        ⟨1, "", entries, escaped, none⟩ ∧
      (text.length ≤ 10 ^ Numeral.digitLimit → escaped = none) := by
  have hfound : Registry.shipped.find? "parse" = some Feature.parse := rfl
  obtain ⟨stop, hreport, hcode, hprinted, hescaped⟩ :=
    result_report_rejected "parse" error.text [error.diagnostic]
  have hcall : (call env .shipped "parse" (.ofTemplate text)).result = .error stop := by
    have hanswer : (Feature.parse.handler env (.ofTemplate text)).result = _ :=
      Handler.parse_rejected h
    rw [result_call hfound, hanswer]
    exact hreport
  have hwork : (runParse env .shipped text).result = .error stop :=
    Work.result_bind_error hcall _
  have hrun : ∃ entries, run env .shipped readFile (parseWords text) =
      ⟨stop.code, stop.printed, entries, stop.escaped, none⟩ := by
    rw [run, read_parseWords]
    exact Run.ofWork_error (Work.result_bind_error hwork _)
  rw [hcode, hprinted] at hrun
  obtain ⟨entries, hrun⟩ := hrun
  refine ⟨entries, stop.escaped, hrun, fun hlength => hescaped fun diagnostic hmem => ?_⟩
  obtain rfl := List.mem_singleton.1 hmem
  have hfault := Template.parse_eq_error_iff.1 h
  exact FormatError.isPlain_payload (Reader.isWritable_of_drain_fault hfault hlength)

/-- With a ceiling of fewer digits than can be written, what the parse command prints for a template
that parses is its lines, none of which is broken by what a literal holds; templates with different
segments or positions are printed differently; and nothing is printed for a template that is
rejected. -/
theorem parse_output_unambiguous
    (hceiling : (Numeral.text (Settings.maxIndex env).result).length < Numeral.digitLimit) :
    (∀ text template, (Template.parse env text none).result = .ok template →
      (∃ entries, run env .shipped readFile (parseWords text) =
        ⟨0, printLines (templateLines template), entries, none, none⟩) ∧
      ∀ line ∈ templateLines template, ∀ c ∈ line.toList,
        Text.isPrintable c = true ∧ c ∉ Text.lineBreaks) ∧
    (∀ first second a b, (Template.parse env first none).result = .ok a →
      (Template.parse env second none).result = .ok b →
      (run env .shipped readFile (parseWords first)).output =
        (run env .shipped readFile (parseWords second)).output →
      a.segments = b.segments) ∧
    ∀ text error, (Template.parse env text none).result = .error (.format error) →
      ∃ entries escaped, run env .shipped readFile (parseWords text) =
          ⟨1, "", entries, escaped, none⟩ ∧
        (text.length ≤ 10 ^ Numeral.digitLimit → escaped = none) := by
  have hrun : ∀ text template, (Template.parse env text none).result = .ok template →
      ∃ entries, run env .shipped readFile (parseWords text) =
        ⟨0, printLines (templateLines template), entries, none, none⟩ :=
    fun text template h => run_parseWords_ok readFile h (isWritable_required hceiling h)
  refine ⟨fun text template h => ⟨hrun text template h, ?_⟩, ?_, ?_⟩
  · intro line hline c hc
    have hprintable := isShown_of_mem_templateLines hline c hc
    exact ⟨hprintable, Text.not_mem_lineBreaks_of_isPrintable hprintable⟩
  · intro first second a b hfirst hsecond houtput
    obtain ⟨_, hfirstRun⟩ := hrun first a hfirst
    obtain ⟨_, hsecondRun⟩ := hrun second b hsecond
    rw [hfirstRun, hsecondRun] at houtput
    exact segments_eq_of_printLines houtput
  · intro text error h
    exact run_parseWords_rejected readFile h

theorem parse_output_unambiguous_line_break :
    let env : Environment := { Environment.empty with maxIndex := some "9" }
    let readFile := fun _ => .error .missing
    (∃ entries, run env .shipped readFile (parseWords "a\n'\x7b3\x7d") =
      ⟨0, "  literal      \"a\\n'\"\n  placeholder  3      at 3\nRequired arguments: 4\n", entries,
        none, none⟩) ∧
    ∃ entries, run env .shipped readFile (parseWords "\x7b10\x7d") =
      ⟨1, "", entries, none, none⟩ := by
  intro env readFile
  have hceiling : (Numeral.text (Settings.maxIndex env).result).length < Numeral.digitLimit := by
    decide +kernel
  have hparsed : (Template.parse env "a\n'\x7b3\x7d" none).result =
      .ok ⟨[.literal "a\n'", .placeholder 3 (some 3)]⟩ := by
    decide +kernel
  have hrejected : (Template.parse env "\x7b10\x7d" none).result =
      .error (.format (.malformed (.aboveCeiling 9) (some 0))) := by
    decide +kernel
  obtain ⟨hshown, -, hnothing⟩ := parse_output_unambiguous readFile hceiling
  refine ⟨?_, ?_⟩
  · have hlines : printLines (templateLines ⟨[.literal "a\n'", .placeholder 3 (some 3)]⟩) =
        "  literal      \"a\\n'\"\n  placeholder  3      at 3\nRequired arguments: 4\n" := by
      decide +kernel
    have hrun := (hshown _ _ hparsed).1
    rwa [hlines] at hrun
  · obtain ⟨entries, escaped, hrun, hescaped⟩ := hnothing _ _ hrejected
    have hlength : "\x7b10\x7d".length ≤ 10 ^ Numeral.digitLimit :=
      Nat.le_trans (by decide : _ ≤ Numeral.digitLimit) (Nat.lt_pow_self (by decide)).le
    obtain rfl := hescaped hlength
    exact ⟨entries, hrun⟩

end Positional.CommandLine
