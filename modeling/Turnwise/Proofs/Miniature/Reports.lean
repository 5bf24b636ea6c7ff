import Turnwise.Proofs.Diagnostic.Endings
import Turnwise.Proofs.Miniature.Declarations
import Turnwise.Proofs.Miniature.Printing

/-!
# What simulated runs report

A simulated run fails to compile exactly when something is wrong with the program, succeeds
when it ends, and fails otherwise.  The report about a program in which something is wrong
has a line for each complaint, in the order of the source.  Read as diagnostics, its lines
name just the variables that nothing uses, in the order of their declarations, as far as the
numbers of their lines are in range.
-/

namespace Turnwise
namespace Miniature

/-! ## Lines about complaints -/

/-- A complaint as a diagnostic about a file. -/
def Complaint.diagnostic (complaint : Complaint) (file : Text) : Diagnostic :=
  ⟨file, complaint.line, complaint.column, complaint.message, .ofMessage complaint.message⟩

theorem complaintLine_eq
    (file : Text)
    (complaint : Complaint) :
    complaintLine file complaint = (complaint.diagnostic file).render ++ ['\n'] :=
  rfl

section File

variable {file : Path}
variable {complaint : Complaint}

/-- A diagnostic stands on one line when its message and the name of its file do. -/
theorem lines_complaintLine
    (plain : ∀ c ∈ (Path.fileName? file).getD [], Diagnostic.isNameChar c = true)
    (newlineFree : '\n' ∉ complaint.message) :
    (complaintLine (marker file) complaint).lines =
      [Text.dropFinal '\r' (complaint.diagnostic (marker file)).render] := by
  have name : '\n' ∉ (Path.fileName? file).getD [] := fun present =>
    absurd (plain _ present) (by decide)
  have oneLine : '\n' ∉ (complaint.diagnostic (marker file)).render := by
    apply Diagnostic.newline_not_mem_render _ newlineFree
    simp [Complaint.diagnostic, marker, Diagnostic.fileMarker, name]
  rw [complaintLine_eq, Text.lines_concat_newline, Text.pieces_of_not_mem oneLine]
  rfl

/-- The identifier that the line about a complaint leads to discard. -/
def Complaint.target? (complaint : Complaint) (file : Text) : Option Text :=
  (Diagnostic.parse? (complaint.diagnostic file).render).bind Diagnostic.target?

/-- An ordinary complaint asks for no discard. -/
theorem Complaint.Ordinary.target?_eq_none
    (ordinary : complaint.Ordinary)
    (plain : ∀ c ∈ (Path.fileName? file).getD [], Diagnostic.isNameChar c = true) :
    complaint.target? (marker file) = none := by
  have unmarked : Text.after? Diagnostic.unusedMarker
      (Diagnostic.unreturned complaint.message) = none := by
    rw [Option.eq_none_iff_forall_not_mem]
    intro rest marked
    obtain ⟨lost, whole⟩ := Diagnostic.prefix_unreturned complaint.message
    rw [← Text.after?_eq_some_iff.mp marked, List.append_assoc] at whole
    have found := Text.after?_eq_some_iff.mpr whole
    rw [ordinary.unmarked] at found
    cases found
  rw [Complaint.target?, Diagnostic.parse?_render rfl plain ordinary.legible]
  split
  · simp [Diagnostic.target?, Diagnostic.Kind.ofMessage, diagnostic, unmarked,
      Diagnostic.Kind.target?]
  · rfl

/-- The complaint about a variable that nothing uses asks for a discard of its name, if it
can be read. -/
theorem target?_unusedComplaint
    {binding : Binding}
    (isName : IsName binding.name)
    (plain : ∀ c ∈ (Path.fileName? file).getD [], Diagnostic.isNameChar c = true) :
    (Program.unusedComplaint binding).target? (marker file) =
      if (Path.fileName? file).getD [] ≠ [] ∧ binding.line < Diagnostic.positionBound then
        some binding.name
      else none := by
  have message : Diagnostic.unreturned (Program.unusedComplaint binding).message =
      Diagnostic.unusedMarker ++ binding.name :=
    isName.unreturned_append _
  have marked : Text.after? Diagnostic.unusedMarker (Diagnostic.unusedMarker ++ binding.name) =
      some binding.name :=
    Text.after?_eq_some_iff.mpr rfl
  have column : (Program.unusedComplaint binding).column < Diagnostic.positionBound :=
    show 1 < Diagnostic.positionBound by decide
  rw [Complaint.target?,
    Diagnostic.parse?_render rfl plain (Program.legible_unusedComplaint isName)]
  simp only [Complaint.diagnostic, message, column, and_true]
  split
  · simp [Diagnostic.target?, Diagnostic.Kind.ofMessage, marked, isName.visible,
      Diagnostic.Kind.target?, isName.trimmed, Program.unusedComplaint] at *
    assumption
  · simp_all [Program.unusedComplaint]

end File

/-! ## The order of complaints -/

/-- Elements that stand in order already keep their places among each other when a list is
sorted. -/
theorem filter_mergeSort
    {le : α → α → Bool}
    {test : α → Bool}
    {list : List α}
    (transitive : ∀ a b c, le a b = true → le b c = true → le a c = true)
    (total : ∀ a b, (le a b || le b a) = true)
    (ordered : (list.filter test).Pairwise fun a b => le a b = true) :
    (list.mergeSort le).filter test = list.filter test := by
  have kept : (list.filter test).Sublist ((list.mergeSort le).filter test) := by
    have sorted := List.sublist_mergeSort transitive total ordered List.filter_sublist
    simpa using sorted.filter test
  have permuted := (List.mergeSort_perm list le).filter test
  exact (kept.eq_of_length permuted.length_eq.symm).symm

namespace Program

theorem notAfter_trans
    (first second third : Complaint)
    (before : notAfter first second = true)
    (after : notAfter second third = true) :
    notAfter first third = true := by
  simp only [notAfter, Bool.or_eq_true, Bool.and_eq_true, decide_eq_true_eq,
    beq_iff_eq] at *
  omega

theorem notAfter_total
    (first second : Complaint) :
    (notAfter first second || notAfter second first) = true := by
  simp only [notAfter, Bool.or_eq_true, Bool.and_eq_true, decide_eq_true_eq, beq_iff_eq]
  omega

variable {program : Program}
variable {number : Nat}

/-- The complaints about unused variables stand in the order of the declarations. -/
theorem WellFormed.filter_allComplaints
    (wellFormed : program.WellFormed number) :
    program.allComplaints.filter
        (fun complaint => (Text.after? Diagnostic.unusedMarker complaint.message).isSome) =
      program.unused.map unusedComplaint := by
  have marked (binding : Binding) :
      Text.after? Diagnostic.unusedMarker (unusedComplaint binding).message =
        some binding.name :=
    Text.after?_eq_some_iff.mpr rfl
  have chosen :
      (program.complaints ++ program.unused.map unusedComplaint).filter
          (fun complaint => (Text.after? Diagnostic.unusedMarker complaint.message).isSome) =
        program.unused.map unusedComplaint := by
    rw [List.filter_append, List.filter_eq_nil_iff.mpr, List.nil_append, List.filter_eq_self]
    · intro complaint present
      obtain ⟨binding, _, rfl⟩ := List.mem_map.mp present
      rw [marked]
      rfl
    · intro complaint present
      rw [(wellFormed.ordinary complaint present).unmarked]
      exact Bool.false_ne_true
  rw [allComplaints, filter_mergeSort notAfter_trans notAfter_total, chosen]
  rw [chosen, List.pairwise_map]
  apply (wellFormed.increasing.filter _).imp
  intro first second less
  simp [notAfter, unusedComplaint, less]

/-- Every complaint stands on a line of its own. -/
theorem WellFormed.newline_not_mem_message
    (wellFormed : program.WellFormed number)
    {complaint : Complaint}
    (present : complaint ∈ program.allComplaints) :
    '\n' ∉ complaint.message := by
  rw [allComplaints, List.mem_mergeSort, List.mem_append] at present
  rcases present with ordinary | unused
  · exact (wellFormed.ordinary complaint ordinary).legible.newlineFree
  · obtain ⟨binding, declared, rfl⟩ := List.mem_map.mp unused
    exact (legible_unusedComplaint
      (wellFormed.named binding (List.mem_of_mem_filter declared))).newlineFree

/-- The names that the report about a program asks to discard: those of the variables that
nothing uses, as far as the numbers of their lines are in range. -/
def reported (program : Program) : List Text :=
  (program.unused.filter fun binding => binding.line < Diagnostic.positionBound).map
    Binding.name

theorem WellFormed.nodup_reported
    (wellFormed : program.WellFormed number) :
    program.reported.Nodup :=
  ((List.filter_sublist.trans List.filter_sublist).map Binding.name).nodup wellFormed.distinct

theorem WellFormed.isName_of_mem_reported
    (wellFormed : program.WellFormed number)
    {name : Text}
    (present : name ∈ program.reported) :
    IsName name := by
  obtain ⟨binding, chosen, rfl⟩ := List.mem_map.mp present
  exact wellFormed.named binding (List.mem_of_mem_filter (List.mem_of_mem_filter chosen))

/-- The names of all unused variables are reported when each is the name of some reported
one. -/
theorem WellFormed.reported_eq
    (wellFormed : program.WellFormed number)
    (covered : ∀ binding ∈ program.unused, binding.name ∈ program.reported) :
    program.reported = program.unused.map Binding.name := by
  apply congrArg (List.map Binding.name)
  rw [List.filter_eq_self]
  intro binding unused
  obtain ⟨other, chosen, same⟩ := List.mem_map.mp (covered binding unused)
  obtain ⟨otherUnused, inRange⟩ := List.mem_filter.mp chosen
  -- Names are distinct, so the reported variable is this one.
  have equal : other = binding := List.inj_on_of_nodup_map wellFormed.distinct
    (List.mem_of_mem_filter otherUnused) (List.mem_of_mem_filter unused) same
  rw [← equal]
  exact inRange

/-- The complaints about a program ask for discards of the names that it reports. -/
theorem WellFormed.filterMap_target?_allComplaints
    (wellFormed : program.WellFormed number)
    {file : Path}
    (plain : ∀ c ∈ (Path.fileName? file).getD [], Diagnostic.isNameChar c = true) :
    program.allComplaints.filterMap (fun complaint => complaint.target? (marker file)) =
      if (Path.fileName? file).getD [] = [] then [] else program.reported := by
  -- Complaints that are not about unused variables ask for nothing, so they can be left out.
  have skipped : program.allComplaints.filterMap
        (fun complaint => complaint.target? (marker file)) =
      (program.unused.map unusedComplaint).filterMap
        (fun complaint => complaint.target? (marker file)) := by
    rw [← wellFormed.filter_allComplaints, List.filterMap_filter]
    apply List.filterMap_congr
    intro complaint present
    split
    · rfl
    · rename_i unmarked
      rw [allComplaints, List.mem_mergeSort, List.mem_append] at present
      rcases present with ordinary | unused
      · exact (wellFormed.ordinary complaint ordinary).target?_eq_none plain
      · obtain ⟨binding, _, rfl⟩ := List.mem_map.mp unused
        exact absurd rfl unmarked
  have asked : (program.unused.map unusedComplaint).filterMap
        (fun complaint => complaint.target? (marker file)) =
      program.unused.filterMap fun binding =>
        if (Path.fileName? file).getD [] ≠ [] ∧ binding.line < Diagnostic.positionBound then
          some binding.name
        else none := by
    rw [List.filterMap_map]
    apply List.filterMap_congr
    intro binding present
    have isName := wellFormed.named binding (List.mem_of_mem_filter present)
    rw [Function.comp_apply, target?_unusedComplaint isName plain]
  rw [skipped, asked]
  split
  · rename_i unnamed
    simp [unnamed]
  · rename_i named
    rw [reported, ← List.filterMap_eq_map, List.filterMap_filter]
    simp [named]

end Program

/-! ## Reports -/

section Simulate

variable {source : Text}
variable {file : Path}

/-- The report about a program in which something is wrong has a first line of its own and
one line for each complaint. -/
theorem lines_output_simulate
    (plain : ∀ c ∈ (Path.fileName? file).getD [], Diagnostic.isNameChar c = true)
    (wrong : (compile source).allComplaints ≠ []) :
    (simulate source (marker file)).output.lines =
      "# command-line-arguments".toList ::
        (compile source).allComplaints.map fun complaint =>
          Text.dropFinal '\r' (complaint.diagnostic (marker file)).render := by
  have header : Text.Closed "# command-line-arguments\n".toList :=
    Text.closed_concat_newline "# command-line-arguments".toList
  have first : Text.lines "# command-line-arguments\n".toList =
      ["# command-line-arguments".toList] := by
    decide
  have output : (simulate source (marker file)).output =
      "# command-line-arguments\n".toList ++
        (compile source).allComplaints.flatMap (complaintLine (marker file)) := by
    rw [simulate_of_wrong _ wrong, Run.ofOutput]
  have closed : ∀ complaint ∈ (compile source).allComplaints,
      Text.Closed (complaintLine (marker file) complaint) :=
    fun _ _ => Text.closed_concat_newline _
  rw [output, header.lines_append, first, Text.lines_flatMap closed, List.map_eq_flatMap,
    List.singleton_append]
  apply congrArg
  apply List.flatMap_congr
  intro complaint present
  exact lines_complaintLine plain ((wellFormed_compile source).newline_not_mem_message present)

/-- Read as diagnostics, the report about a program in which something is wrong asks for
discards of just the names that the program reports, if the file has a name. -/
theorem targets_output_simulate
    (plain : ∀ c ∈ (Path.fileName? file).getD [], Diagnostic.isNameChar c = true)
    (wrong : (compile source).allComplaints ≠ []) :
    Diagnostic.targets (Diagnostic.parseAll (simulate source (marker file)).output) =
      if (Path.fileName? file).getD [] = [] then [] else (compile source).reported := by
  have header : Diagnostic.parse? "# command-line-arguments".toList = none := rfl
  rw [← (wellFormed_compile source).filterMap_target?_allComplaints plain, Diagnostic.parseAll,
    lines_output_simulate plain wrong, List.filterMap_cons_none header, Diagnostic.targets,
    List.filterMap_map, List.filterMap_filterMap]
  apply List.filterMap_congr
  intro complaint _
  rw [Function.comp_apply, Diagnostic.parse?_dropFinal_return, Complaint.target?]

/-- The last visible line of a text is one of its lines, if there is a visible one. -/
theorem lastVisibleLine_mem_or_eq_nil (text : Text) :
    text.lastVisibleLine ∈ text.lines ∨ text.lastVisibleLine = [] := by
  rw [Text.lastVisibleLine]
  cases last : (text.lines.filter (!·.blank)).getLast? with
  | none => exact .inr rfl
  | some line => exact .inl (List.mem_of_mem_filter (List.mem_of_getLast? last))

/-- A program in which something is wrong fails to compile. -/
theorem classify_simulate_of_wrong
    (plain : ∀ c ∈ (Path.fileName? file).getD [], Diagnostic.isNameChar c = true)
    (wrong : (compile source).allComplaints ≠ []) :
    (simulate source (marker file)).classify = .compileFailure := by
  have failed : (simulate source (marker file)).success = false := by
    rw [simulate_of_wrong _ wrong, Run.ofOutput]
  have last : (simulate source (marker file)).lastLine =
      (simulate source (marker file)).output.lastVisibleLine := by
    rw [simulate_of_wrong _ wrong, Run.ofOutput]
  -- No line of a report begins as the line about an exit status does.
  have unmarked : Text.beginsWith Run.statusMarker (simulate source (marker file)).lastLine =
      false := by
    rw [last]
    rcases lastVisibleLine_mem_or_eq_nil (simulate source (marker file)).output with
      present | empty
    · rw [lines_output_simulate plain wrong] at present
      rcases List.mem_cons.mp present with header | reported
      · rw [header]
        rfl
      · obtain ⟨complaint, _, line⟩ := List.mem_map.mp reported
        rw [← line, Complaint.diagnostic, Diagnostic.render, marker, Diagnostic.fileMarker]
        simp only [List.append_assoc]
        rw [Text.dropFinal_append _ _ (by simp)]
        rfl
    · rw [empty]
      rfl
  rw [Run.classify, failed, unmarked]
  rfl

/-! ## Programs that compile -/

/-- A program ends when all that it does is to print. -/
theorem execute_ends (effects : List Effect) :
    (execute effects).2 = effects.all Effect.prints := by
  induction effects with
  | nil => rfl
  | cons effect rest inductionHypothesis =>
      cases effect with
      | print value =>
          rw [execute_print, inductionHypothesis]
          rfl
      | panic message => rfl

/-- What a panic prints. -/
def panicText (message : Text) : Text :=
  "panic: ".toList ++ message ++
    "\n\ngoroutine 1 [running]:\nmain.main()\nexit status 2\n".toList

theorem execute_panic
    (message : Text)
    (rest : List Effect) :
    execute (.panic message :: rest) = (panicText message, false) :=
  rfl

/-- The last line of a panic reports an exit status. -/
theorem exists_panicText_eq (message : Text) :
    ∃ before, panicText message = before ++ '\n' :: "exit status 2\n".toList := by
  refine ⟨"panic: ".toList ++ message ++ "\n\ngoroutine 1 [running]:\nmain.main()".toList, ?_⟩
  rw [List.append_assoc]
  rfl

/-- The output of a program that does not end goes on to a panic. -/
theorem exists_output_eq_of_stops
    {effects : List Effect}
    (stops : (execute effects).2 = false) :
    ∃ earlier message, (execute effects).1 = earlier ++ panicText message := by
  induction effects with
  | nil => cases stops
  | cons effect rest inductionHypothesis =>
      cases effect with
      | print value =>
          rw [execute_print] at stops ⊢
          obtain ⟨earlier, message, output⟩ := inductionHypothesis stops
          refine ⟨(Text.ofInt value ++ ['\n']) ++ earlier, message, ?_⟩
          exact (congrArg _ output).trans (List.append_assoc _ _ _).symm
      | panic message =>
          rw [execute_panic]
          exact ⟨[], message, rfl⟩

/-- A program that does not end reports an exit status at last. -/
theorem lastVisibleLine_execute
    {effects : List Effect}
    (stops : (execute effects).2 = false) :
    (execute effects).1.lastVisibleLine = "exit status 2".toList := by
  obtain ⟨earlier, message, output⟩ := exists_output_eq_of_stops stops
  obtain ⟨before, panicked⟩ := exists_panicText_eq message
  have line : Text.lines "exit status 2\n".toList = ["exit status 2".toList] := by decide
  have visible : Text.blank "exit status 2".toList = false := rfl
  rw [output, panicked, ← List.append_assoc, Text.lastVisibleLine, Text.lines_append_newline,
    line, List.filter_append, List.filter_cons_of_pos (by rw [visible]; rfl), List.filter_nil,
    List.getLast?_concat]
  rfl

/-- A program in which nothing is wrong succeeds when it ends and fails otherwise. -/
theorem classify_simulate_of_sound
    (marker : Text)
    (sound : (compile source).allComplaints = []) :
    (simulate source marker).classify =
      if (compile source).effects.all Effect.prints then .success else .runtimeFailure := by
  have marked : Text.beginsWith Run.statusMarker "exit status 2".toList = true := by decide
  rw [simulate_of_sound marker sound, ← execute_ends, Run.classify, Run.ofOutput]
  cases ends : (execute (compile source).effects).2 with
  | true => rfl
  | false =>
      rw [lastVisibleLine_execute ends, marked]
      rfl

end Simulate

/-! ## Panics -/

/-- Whether a line, without the blanks at its ends, is a call of `panic` with a text. -/
def panicsLine (line : Text) : Bool :=
  (between? "panic(\"".toList "\")".toList line.trim).isSome

namespace Statement

/-- Whether a statement stops the program. -/
def panics : Statement → Bool
  | .panic _ => true
  | _ => false

/-- A call of `panic` is read as such, whatever its text. -/
theorem ofLine_panic (message : Text) :
    ofLine ("panic(\"".toList ++ (message ++ "\")".toList)) = .panic message := by
  have called : between? "panic(\"".toList "\")".toList
      ("panic(\"".toList ++ (message ++ "\")".toList)) = some message :=
    between?_eq_some_iff.mpr rfl
  have closes : Text.endsIn '\x7b' ("panic(\"".toList ++ (message ++ "\")".toList)) = false := by
    rw [Text.endsIn, ← List.append_assoc, List.getLast?_append_of_ne_nil _ (by decide)]
    decide
  unfold ofLine
  rw [closes, called]
  rfl

/-- Only calls of `panic` are read as statements that stop the program. -/
theorem panics_ofLine (line : Text) :
    (ofLine line).panics = (between? "panic(\"".toList "\")".toList line).isSome := by
  cases called : between? "panic(\"".toList "\")".toList line with
  | some message =>
      rw [← between?_eq_some_iff.mp called, ofLine_panic]
      rfl
  | none =>
      simp only [ofLine, called]
      repeat' split
      all_goals rfl

end Statement

namespace Program

/-- A statement adds an effect that stops the program just when it stands for one. -/
theorem all_prints_extend
    (program : Program)
    (line : Nat)
    (statement : Statement) :
    (program.extend line statement).effects.all Effect.prints =
      (program.effects.all Effect.prints && !statement.panics) := by
  cases statement with
  | skip => exact (Bool.and_true _).symm
  | discard name =>
      simp only [extend]
      split <;> exact (Bool.and_true _).symm
  | print argument =>
      simp only [extend]
      repeat' split
      all_goals simp [perform, use, complain, Effect.prints, Statement.panics]
  | panic message => simp [extend, perform, Effect.prints, Statement.panics]
  | declare column => exact (Bool.and_true _).symm
  | bind name value =>
      simp only [extend]
      repeat' split
      all_goals exact (Bool.and_true _).symm
  | unknown word => exact (Bool.and_true _).symm

/-- Lines let a program end when none of them is a call of `panic`. -/
theorem all_prints_extendAll
    (program : Program)
    (number : Nat)
    (lines : List Text) :
    (program.extendAll number lines).effects.all Effect.prints =
      (program.effects.all Effect.prints && !lines.any panicsLine) := by
  induction lines generalizing program number with
  | nil => exact (Bool.and_true _).symm
  | cons line rest inductionHypothesis =>
      rw [extendAll, inductionHypothesis, all_prints_extend, Statement.panics_ofLine,
        List.any_cons, Bool.not_or, Bool.and_assoc]
      rfl

end Program

/-- A compiled program ends unless its entry point holds a call of `panic`. -/
theorem all_prints_compile (source : Text) :
    (compile source).effects.all Effect.prints =
      !(entryLines 1 source.lines).2.any panicsLine :=
  Program.all_prints_extendAll _ _ _

end Miniature
end Turnwise
