import Playback.CommandLine.Response
import Playback.Proofs.FixtureFiles
import Playback.Proofs.Forest
import Playback.Proofs.Locality
import Playback.Proofs.RunArguments
import Playback.Proofs.Stages

/-!
# Grading

`Fixture.IsMet` says when the expectation of a fixture comes true, of its program alone: the program
prints what is expected, or it meets an expected fault. The grade of a fixture tells just this, on every
clock, and workers come to the same grades as one who grades the fixtures one after another. So nothing is
hidden on the way to what is printed: a summary counts every fixture, and the printed lines name those that
are not met (`failedName?` finds the names in them).

Main statement: what the command that tests a file answers, for every text of the file and all arguments
that ask for a test (`Command.test_reports`).
-/

namespace Playback

/-! ## Expectations -/

lemma Text.occurs_eq_true_iff {part text : List Char} : occurs part text = true ↔ part <:+: text := by
  induction text with
  | nil => rw [occurs, List.isEmpty_iff, List.infix_nil]
  | cons c cs ih =>
    rw [occurs, Bool.or_eq_true, List.isPrefixOf_iff_prefix, ih, List.infix_cons_iff]

lemma Fault.isExpected_eq_true_iff {cause : Fault} {expected : String} :
    cause.isExpected expected = true ↔
      cause.kind = expected ∨ expected.toList <:+: cause.message.toList := by
  rw [isExpected, Bool.or_eq_true, beq_iff_eq, Text.occurs_eq_true_iff]

/-- What is expected of the program comes true. -/
inductive Fixture.IsMet (budget : Budget) (clock : Clock) (f : Fixture) : Prop where
  /-- No fault is expected, and the program prints the expected texts in their order. What is printed in the
  bodies of functions counts. -/
  | printed {trace} (faultless : f.expectedError = none)
      (ends : f.program.trace budget clock = .ok trace)
      (prints : (Frame.actionsOf trace.frames).filterMap Action.printed? = f.expectedOutput)
  /-- A fault is expected, and the program meets one of this kind, or one with this text in its message. -/
  | faulted {expected cause} (faulty : f.expectedError = some expected)
      (meets : f.program.trace budget clock = .error (.fault cause))
      (named : cause.kind = expected ∨ expected.toList <:+: cause.message.toList)

section

variable {budget : Budget} {clock : Clock} {f : Fixture}

/-- What a program prints, or why it has no trace, does not depend on the clock. -/
lemma Fixture.IsMet.atClock (met : f.IsMet budget clock) (clock' : Clock) : f.IsMet budget clock' := by
  cases met with
  | printed faultless ends prints =>
    obtain ⟨r, runs, rfl⟩ := Program.trace_eq_ok_iff.1 ends
    refine .printed faultless (Program.trace_eq_ok_iff.2 ⟨r, runs, rfl⟩) ?_
    rw [Frame.actionsOf_stampAll] at prints ⊢
    exact prints
  | faulted faulty meets named =>
    exact .faulted faulty (Program.trace_eq_error_iff.2 (Program.trace_eq_error_iff.1 meets)) named

lemma Verdict.isPassed_eq_true_iff {v : Verdict} : v.isPassed = true ↔ v = .passed := by
  cases v with
  | passed => exact ⟨fun _ => rfl, fun _ => rfl⟩
  | failed message => exact ⟨nofun, nofun⟩

lemma Verdict.onOutput_eq_passed_iff {output : List String} :
    onOutput f output = .passed ↔ f.expectedError = none ∧ output = f.expectedOutput := by
  unfold onOutput
  split
  next faultless => simp [faultless]
  next expected faulty => simp [faulty]

lemma Verdict.onFault_eq_passed_iff {cause : Fault} : onFault f cause = .passed ↔
    ∃ expected, f.expectedError = some expected ∧ cause.isExpected expected = true := by
  unfold onFault
  split
  next faultless => simp [faultless]
  next expected faulty => simp [faulty]

/-- A fixture is passed exactly when its expectation comes true. -/
lemma Fixture.grade_eq_passed_iff : f.grade budget = .passed ↔ f.IsMet budget clock := by
  constructor
  · intro passed
    suffices met : f.IsMet budget (.steps 0 0) from met.atClock clock
    unfold grade at passed
    split at passed
    next trace ends =>
      obtain ⟨faultless, prints⟩ := Verdict.onOutput_eq_passed_iff.1 passed
      rw [Trace.prints, Frame.prints_eq] at prints
      exact .printed faultless ends prints
    next cause meets =>
      obtain ⟨expected, faulty, named⟩ := Verdict.onFault_eq_passed_iff.1 passed
      exact .faulted faulty meets (Fault.isExpected_eq_true_iff.1 named)
    next => cases passed
  · intro met
    unfold grade
    cases met.atClock (.steps 0 0) with
    | printed faultless ends prints =>
      rw [ends]
      refine Verdict.onOutput_eq_passed_iff.2 ⟨faultless, ?_⟩
      rw [Trace.prints, Frame.prints_eq]
      exact prints
    | faulted faulty meets named =>
      rw [meets]
      exact Verdict.onFault_eq_passed_iff.2 ⟨_, faulty, Fault.isExpected_eq_true_iff.2 named⟩

instance Fixture.decidableIsMet : Decidable (f.IsMet budget clock) :=
  decidable_of_iff _ grade_eq_passed_iff

end

/-! ## Summaries -/

namespace Summary

variable {budget : Budget} {clock : Clock} {fixtures : List Fixture}

/-- The summary has the grades of these fixtures. -/
structure Covers (s : Summary) (budget : Budget) (clock : Clock) (fixtures : List Fixture) : Prop where
  /-- Each fixture has the grade that it has on its own, in the place of the fixture. -/
  each : List.Forall₂ (fun f g => g = Grade.ofFixture budget f ∧
    (g.verdict = .passed ↔ f.IsMet budget clock)) fixtures s.grades
  passed : s.passed = fixtures.countP fun f => f.IsMet budget clock
  counts : s.passed + s.failed = fixtures.length

/-- Workers come to the grades that the fixtures have one after another. -/
lemma share_eq (workers : Workers) (parallel : Bool) (budget : Budget) (fixtures : List Fixture) :
    share workers parallel budget fixtures = ofFixtures budget fixtures := by
  unfold share
  split
  · rw [workers.map_eq_map]
    rfl
  · rfl

lemma isPassed_ofFixture (clock : Clock) (f : Fixture) :
    (Grade.ofFixture budget f).verdict.isPassed = decide (f.IsMet budget clock) := by
  rw [Bool.eq_iff_iff, Verdict.isPassed_eq_true_iff, decide_eq_true_iff]
  exact Fixture.grade_eq_passed_iff

lemma covers_ofFixtures : (ofFixtures budget fixtures).Covers budget clock fixtures where
  each := by
    rw [ofFixtures, List.forall₂_map_right_iff, List.forall₂_same]
    exact fun f _ => ⟨rfl, Fixture.grade_eq_passed_iff⟩
  passed := by
    rw [passed, ofFixtures, List.countP_map]
    exact List.countP_congr fun f _ => by rw [Function.comp_apply, isPassed_ofFixture clock]
  counts := by
    rw [passed, failed, ofFixtures, List.countP_eq_length_filter, List.countP_eq_length_filter,
      ← List.length_eq_length_filter_add, List.length_map]

/-- The exit code is that of a success exactly when all are passed. -/
lemma exitCode_eq_zero_iff {s : Summary} :
    s.exitCode = 0 ↔ ∀ g ∈ s.grades, g.verdict.isPassed = true := by
  unfold exitCode failed
  split
  next some =>
    refine ⟨nofun, fun all => ?_⟩
    obtain ⟨g, mem, failed⟩ := List.countP_pos_iff.1 some
    rw [all g mem] at failed
    cases failed
  next none =>
    refine ⟨fun _ g mem => ?_, fun _ => rfl⟩
    have := List.countP_eq_zero.1 (Nat.eq_zero_of_not_pos none) g mem
    simpa using this

end Summary

/-! ## Printed lines -/

/-- The name of the fixture that a printed line reports as not met. The next line says what is wrong. -/
def failedName? (line : String) : Option String :=
  (behind? "  FAIL: ".toList line.toList).map String.ofList

lemma failedName?_fail (name : String) : failedName? ("  FAIL: " ++ name) = some name := by
  rw [failedName?, String.toList_append, RunOptions.behind?_eq_some_iff.2 rfl, Option.map_some,
    String.ofList_toList]

/-- Lines of all other kinds differ from such a line in the third character. -/
lemma failedName?_eq_none {line : String} (third : line.toList[2]? ≠ some 'F') :
    failedName? line = none := by
  refine Option.map_eq_none_iff.2 (Option.eq_none_iff_forall_ne_some.2 fun rest behind => third ?_)
  rw [RunOptions.behind?_eq_some_iff.1 behind]
  rfl

lemma Grade.filterMap_lines (verbose : Bool) (elapsed : String) (g : Grade) :
    ((g.lines verbose).map (Line.text elapsed)).filterMap failedName? =
      if g.verdict.isPassed then [] else [g.name] := by
  unfold lines
  cases g.verdict with
  | passed =>
    cases verbose with
    | false => rfl
    | true =>
      refine List.filterMap_cons_none (failedName?_eq_none ?_)
      simp [Line.text]
  | failed message =>
    refine (List.filterMap_cons_some (failedName?_fail g.name)).trans (congrArg _ ?_)
    refine List.filterMap_cons_none (failedName?_eq_none ?_)
    simp [Line.text]

namespace Summary

lemma filterMap_closing (elapsed : String) (s : Summary) :
    (s.closing.map (Line.text elapsed)).filterMap failedName? = [] := by
  rw [List.filterMap_eq_nil_iff, List.forall_mem_map]
  intro line mem
  apply failedName?_eq_none
  unfold closing at mem
  split at mem
  · cases List.mem_singleton.1 mem
    simp [Line.text]
  · simp only [List.mem_cons, List.not_mem_nil, or_false] at mem
    rcases mem with rfl | rfl | rfl | rfl
    · simp [Line.text]
    · simp [Line.text]
    · simp [Line.text]
    · split <;> simp [Line.text]

/-- The printed lines name the fixtures that are not met. -/
lemma filterMap_response (verbose : Bool) (elapsed : String) (s : Summary) :
    ((s.response verbose).output.map (Line.text elapsed)).filterMap failedName? =
      (s.grades.filter fun g => !g.verdict.isPassed).map Grade.name := by
  rw [response, List.map_append, List.filterMap_append, filterMap_closing, List.append_nil]
  induction s.grades with
  | nil => rfl
  | cons g gs ih =>
    rw [List.flatMap_cons, List.map_append, List.filterMap_append, Grade.filterMap_lines, ih]
    cases h : g.verdict.isPassed with
    | true => rw [List.filter_cons_of_neg (by simp [h])]; rfl
    | false => rw [List.filter_cons_of_pos (by simp [h])]; rfl

end Summary

/-! ## Responses -/

/-- The text of a file that was written as text. -/
lemma Source.text_toUTF8 (path text : String) : Source.text path (.ok text.toUTF8) = .ok text := by
  have decodes : String.fromUTF8? text.toUTF8 = some text := dif_pos text.isValidUTF8
  rw [Source.text, decodes]

/-- The response is the one to a test of a file with this text, in which passing fixtures are shown when it
is verbose. -/
structure Response.Reports (r : Response) (verbose : Bool) (clock : Clock) (text : String) : Prop where
  /-- It is a success exactly when the text writes fixtures all of which are met. -/
  code : r.code = 0 ↔ ∃ fixtures, Fixture.Lists text fixtures ∧
    ∀ f ∈ fixtures, f.IsMet (.limit defaultLimit) clock
  /-- It is that of a summary of all fixtures. -/
  summary : ∀ fixtures, Fixture.Lists text fixtures →
    ∃ s : Summary, s.Covers (.limit defaultLimit) clock fixtures ∧ r = s.response verbose
  /-- The printed lines name the fixtures that are not met, in their order. -/
  failed : ∀ fixtures, Fixture.Lists text fixtures → ∀ elapsed,
    (r.output.map (Line.text elapsed)).filterMap failedName? =
      (fixtures.filter fun f => ¬f.IsMet (.limit defaultLimit) clock).map Fixture.name
  /-- Nothing is printed where the text writes no fixtures. -/
  refused : (∀ fixtures, ¬Fixture.Lists text fixtures) → r.output = []

lemma Fixture.Lists.unique {text : String} {fixtures fixtures' : List Fixture}
    (lists : Lists text fixtures) (lists' : Lists text fixtures') : fixtures = fixtures' := by
  rw [← ofText?_eq_some_iff] at lists lists'
  exact Option.some.inj (lists.symm.trans lists')

/-- A summary of all fixtures of a text is the answer to a test of them. -/
lemma Summary.reports_response {text : String} {fixtures : List Fixture}
    (lists : Fixture.Lists text fixtures) (verbose : Bool) (clock : Clock) :
    ((ofFixtures (.limit defaultLimit) fixtures).response verbose).Reports verbose clock text where
  code := by
    rw [response, exitCode_eq_zero_iff, ofFixtures, List.forall_mem_map]
    simp only [isPassed_ofFixture clock, decide_eq_true_iff]
    constructor
    · intro all
      exact ⟨fixtures, lists, all⟩
    · rintro ⟨fixtures', lists', all⟩
      cases lists.unique lists'
      exact all
  summary := by
    intro fixtures' lists'
    cases lists.unique lists'
    exact ⟨_, covers_ofFixtures, rfl⟩
  failed := by
    intro fixtures' lists' elapsed
    cases lists.unique lists'
    rw [filterMap_response, ofFixtures, List.filter_map, List.map_map]
    congr 1
    refine List.filter_congr fun f _ => ?_
    rw [Function.comp_apply, isPassed_ofFixture clock, decide_not]
  refused := fun none => absurd lists (none fixtures)

/-- A text without fixtures is refused. -/
lemma Response.reports_failure {text : String} (none : ∀ fixtures, ¬Fixture.Lists text fixtures)
    (lines : List String) (verbose : Bool) (clock : Clock) :
    (failure lines).Reports verbose clock text where
  code := ⟨nofun, fun ⟨fixtures, lists, _⟩ => absurd lists (none fixtures)⟩
  summary fixtures lists := absurd lists (none fixtures)
  failed fixtures lists := absurd lists (none fixtures)
  refused _ := rfl

namespace Command

/-- Workers make no difference. -/
lemma respondBy_test (workers : Workers) (clock : Clock) (path text : String) (verbose parallel : Bool) :
    (test path verbose parallel).respondBy workers clock (.ok text.toUTF8) =
      respondTest .inOrder path verbose false text := by
  rw [respondBy, withText, Source.text_toUTF8]
  simp only [respondTest, Summary.share_eq]

lemma reports_respondTest (path text : String) (verbose : Bool) (clock : Clock) :
    (respondTest .inOrder path verbose false text).Reports verbose clock text := by
  unfold respondTest
  split
  next unlisted =>
    refine Response.reports_failure (fun fixtures lists => ?_) _ verbose clock
    rw [← Fixture.ofText?_eq_some_iff, unlisted] at lists
    cases lists
  next fixtures listed =>
    rw [Summary.share_eq]
    exact Summary.reports_response (Fixture.ofText?_eq_some_iff.1 listed) verbose clock

/-- The first argument that is no option is the path of a test. -/
lemma ofTest_path {before after : List String} {path : String}
    (options : ∀ a ∈ before, a.toList.head? = some '-') (isPath : path.toList.head? ≠ some '-') :
    ofTest (before ++ path :: after) =
      test path ((before ++ path :: after).any fun a => a = "--verbose" || a = "-v")
        (!(before ++ path :: after).contains "--no-parallel") := by
  have found : (before ++ path :: after).find? (fun a => a.toList.head? ≠ some '-') = some path := by
    rw [List.find?_append, List.find?_eq_none.2 fun a mem => by simp [options a mem], Option.none_or]
    exact List.find?_cons_of_pos (decide_eq_true isPath)
  rw [ofTest, found]

/-- A test of a file, whatever is said about workers and about passing fixtures and wherever it is said. Its
exit code is that of a success exactly when the text of the file writes fixtures all of which are met; the
summary has one grade for each of them, in their order, which is the grade of the fixture on its own, and it
counts each one; and the printed lines name exactly those that are not met. The answer is the same without
workers and with any workers, in whatever order these finish. -/
theorem test_reports (before : List String) (path : String) (after : List String)
    (options : ∀ a ∈ before, a.toList.head? = some '-') (isPath : path.toList.head? ≠ some '-')
    (text : String) (workers : Workers) (clock : Clock) :
    ∃ verbose parallel,
      ofArguments ("test" :: (before ++ path :: after)) = test path verbose parallel ∧
      (verbose = true ↔ "--verbose" ∈ before ++ path :: after ∨ "-v" ∈ before ++ path :: after) ∧
      (parallel = true ↔ "--no-parallel" ∉ before ++ path :: after) ∧
      ((test path verbose parallel).respondBy workers clock (.ok text.toUTF8)).Reports verbose clock
        text ∧
      ∀ parallel' workers' clock',
        (test path verbose parallel').respondBy workers' clock' (.ok text.toUTF8) =
          (test path verbose parallel).respondBy workers clock (.ok text.toUTF8) := by
  refine ⟨_, _, ofTest_path options isPath, ?_, ?_, ?_, fun _ _ _ => ?_⟩
  · rw [List.any_eq_true]
    constructor
    · rintro ⟨a, mem, flag⟩
      simp only [Bool.or_eq_true, decide_eq_true_iff] at flag
      rcases flag with rfl | rfl
      · exact .inl mem
      · exact .inr mem
    · rintro (mem | mem)
      · exact ⟨_, mem, rfl⟩
      · exact ⟨_, mem, rfl⟩
  · rw [Bool.not_eq_true', List.contains_eq_mem, decide_eq_false_iff_not]
  · rw [respondBy_test]
    exact reports_respondTest path text _ clock
  · rw [respondBy_test, respondBy_test]

/-- Workers that finish the last task first. -/
def lastFirst : Workers where
  order? count := some (List.range count).reverse
  perm h := Option.some.inj h ▸ List.reverse_perm _

/-- A function is defined, and its body prints. -/
def printsInside : List Json :=
  [.object [("type", .string "FunctionDeclaration"), ("name", .string "f"),
    ("body", .array [.object [("type", .string "PrintStatement"), ("value", .string "x")]])]]

lemma fits_printsInside : ∀ v ∈ printsInside, Json.Fits 3 v := by
  have printing : Json.Fits 1 (.object [("type", .string "PrintStatement"), ("value", .string "x")]) := by
    refine .object ?_ (by decide)
    simp only [List.forall_mem_cons]
    exact ⟨.string, .string, nofun⟩
  refine List.forall_mem_singleton.2 (.object ?_ (by decide))
  simp only [List.forall_mem_cons]
  exact ⟨.string, .string, .array (List.forall_mem_singleton.2 printing), nofun⟩

/-- The text of a file in which the expectation of the second fixture does not come true. -/
def mixedFile : String :=
  Json.render true (.array [
    .object [("name", .string "inside"), ("program", .object [("program", .array printsInside)]),
      ("expectedOutput", Json.ofTexts ["x"])],
    .object [("name", .string "silent"), ("program", .object [("program", .array [])]),
      ("expectedError", .string "zero")],
    .array [.string "misplaced", .object [("program", .array [.string "x"])], .array [],
      .string "Unsupported IR node"]])

/-- The fixtures in this file. -/
def mixedFixtures : List Fixture := [
  ⟨"inside", ⟨[.function none "f" [] [.print none (.string none "x")]]⟩, ["x"], none⟩,
  ⟨"silent", ⟨[]⟩, [], some "zero"⟩,
  ⟨"misplaced", ⟨[.string none "x"]⟩, [], some "Unsupported IR node"⟩]

lemma lists_mixedFile : Fixture.Lists mixedFile mixedFixtures := by
  have inside := Program.ofRaw?_spelled fun v mem =>
    (fits_printsInside v mem).mono (show 3 ≤ RawJson.depthLimit - 4 by decide)
  refine ⟨_, Json.rawOfText?_render true _, .cons ?_ (.cons ?_ (.cons ?_ .nil))⟩
  · exact .object (RawJson.namedFields?_spelled _) rfl (Json.spells_spelled _) rfl inside
      (.given (.cons (Json.spells_spelled _) .nil)) .absent
  · exact .object (RawJson.namedFields?_spelled _) rfl (Json.spells_spelled _) rfl
      (Program.ofRaw?_spelled nofun) .absent (.given (Json.spells_spelled _))
  · exact .list (Json.spells_spelled _)
      (Program.ofRaw?_spelled (List.forall_mem_singleton.2 .string)) (.given .nil)
      (.given (Json.spells_spelled _))

/-- Three fixtures are graded from the last to the first one. The first one prints inside a function, the
last one meets the fault that it names, and the one between them is reported. -/
theorem test_reports_lastFirst :
    (∀ a ∈ ["-v"], a.toList.head? = some '-') ∧ "mixed.json".toList.head? ≠ some '-' ∧
      ofArguments ["test", "-v", "mixed.json", "--no-parallel"] = test "mixed.json" true false ∧
      ∃ s : Summary, s.Covers (.limit defaultLimit) (.wall 0 0 fun _ => 7) mixedFixtures ∧
        s.passed = 2 ∧ s.failed = 1 ∧
        ∃ r, (test "mixed.json" true true).respondBy lastFirst (.wall 0 0 fun _ => 7)
            (.ok mixedFile.toUTF8) = r ∧
          r = s.response true ∧ r.code ≠ 0 ∧
          ∀ elapsed, (r.output.map (Line.text elapsed)).filterMap failedName? = ["silent"] := by
  have options : ∀ a ∈ ["-v"], a.toList.head? = some '-' := by decide
  have isPath : "mixed.json".toList.head? ≠ some '-' := by decide
  obtain ⟨verbose, parallel, command, -, -, reports, same⟩ :=
    test_reports ["-v"] "mixed.json" ["--no-parallel"] options isPath mixedFile lastFirst
      (.wall 0 0 fun _ => 7)
  have read : ofArguments ["test", "-v", "mixed.json", "--no-parallel"] = test "mixed.json" true false :=
    rfl
  cases command.symm.trans read
  obtain ⟨s, covers, shown⟩ := reports.summary _ lists_mixedFile
  have passed : s.passed = 2 := covers.passed
  have counts : s.passed + s.failed = 3 := covers.counts
  refine ⟨options, isPath, read, s, covers, passed, by omega, _, same true lastFirst _, shown, ?_,
    reports.failed _ lists_mixedFile⟩
  rw [shown]
  show s.exitCode ≠ 0
  rw [Summary.exitCode, if_pos (by omega)]
  decide

end Command

end Playback
