import Playback.CommandLine.Arguments
import Mathlib.Tactic.Lemma

/-!
# Arguments of a run

The arguments of a run are options and paths, and `RunOptions.Asked` says what they ask for, without going
through them one after another: the path that counts is the last one, and so is the option that counts for
the limit. Options do not look at paths, and a path does not look at options; so a single path may stand
anywhere among them (`RunOptions.takeAll_path`).

A second path is refused, unless it is the sign for the standard input, which replaces the one before it.

Main statement: what the arguments of a run are read as, which of them are refused, and that the place of
a single path makes no difference (`RunOptions.arguments_read`).
-/

namespace Playback

/-- The text is a number of 64 bits in digits, with or without a plus sign. -/
def IsLimit (text : String) (n : Nat) : Prop :=
  ∃ ds : List Char, (text.toList = ds ∨ text.toList = '+' :: ds) ∧ ds ≠ [] ∧
    (∀ d ∈ ds, d.isDigit = true) ∧ n = Nat.ofDigitChars 10 ds 0 ∧ n < UInt64.size

namespace RunOptions

/-- The argument is a path: a lone minus sign, or anything that does not begin with one. -/
def isPath (argument : String) : Bool :=
  argument == "-" || argument.toList.head? != some '-'

/-- The argument is an option for the limit. -/
inductive SetsLimit : String → Option Nat → Prop where
  | unlimited : SetsLimit "--no-limit" none
  | atMost {text n} (reads : IsLimit text n) : SetsLimit ("--max-iterations=" ++ text) (some n)

/-- The last option for the limit sets this one; without such an option it is the default. -/
def LimitedTo (arguments : List String) (limit : Option Nat) : Prop :=
  (∃ before a after, arguments = before ++ a :: after ∧ SetsLimit a limit ∧
    ∀ b ∈ after, ∀ l, ¬SetsLimit b l) ∨
  limit = some defaultLimit ∧ ∀ a ∈ arguments, ∀ l, ¬SetsLimit a l

/-- What the arguments of a run ask for. -/
structure Asked (arguments : List String) (path : Option String) (options : RunOptions) : Prop where
  known : ∀ a ∈ arguments, isPath a = true ∨ a = "--pretty" ∨ ∃ limit, SetsLimit a limit
  /-- Behind a path there is no other one but the sign for the standard input. -/
  alone : ∀ a ∈ (arguments.filter isPath).tail, a = "-"
  path_eq : path = (arguments.filter isPath).getLast?
  pretty : options.pretty = true ↔ "--pretty" ∈ arguments
  limit : LimitedTo arguments options.limit

/-! ## Options for the limit -/

lemma limit?_eq_some_iff {text : String} {n : Nat} : limit? text.toList = some n ↔ IsLimit text n := by
  unfold limit? IsLimit
  rw [Option.ite_none_right_eq_some, List.all_eq_true]
  generalize text.toList = cs
  split
  next ds =>
    constructor
    · rintro ⟨⟨some, digits, small⟩, heq⟩
      cases heq
      exact ⟨ds, .inr rfl, some, digits, rfl, small⟩
    · rintro ⟨ds', rfl | same, some, digits, rfl, small⟩
      · cases digits '+' List.mem_cons_self
      · cases same
        exact ⟨⟨some, digits, small⟩, rfl⟩
  next unsigned =>
    constructor
    · rintro ⟨⟨some, digits, small⟩, heq⟩
      cases heq
      exact ⟨cs, .inl rfl, some, digits, rfl, small⟩
    · rintro ⟨ds', rfl | same, some, digits, rfl, small⟩
      · exact ⟨⟨some, digits, small⟩, rfl⟩
      · exact (unsigned _ same).elim

lemma behind?_eq_some_iff {start cs rest : List Char} :
    behind? start cs = some rest ↔ cs = start ++ rest := by
  unfold behind?
  rw [Option.ite_none_right_eq_some, List.isPrefixOf_iff_prefix]
  constructor
  · rintro ⟨⟨rest', rfl⟩, heq⟩
    rw [List.drop_left] at heq
    cases heq
    rfl
  · rintro rfl
    exact ⟨List.prefix_append .., congrArg some List.drop_left⟩

/-- The limit that an argument sets, if it is an option for the limit. -/
def limitOf? (argument : String) : Option (Option Nat) :=
  if argument = "--no-limit" then some none
  else (behind? "--max-iterations=".toList argument.toList).bind fun value => (limit? value).map some

lemma limitOf?_eq_some_iff {argument : String} {limit : Option Nat} :
    limitOf? argument = some limit ↔ SetsLimit argument limit := by
  unfold limitOf?
  constructor
  · split
    next h =>
      intro heq
      cases heq
      rw [h]
      exact .unlimited
    next =>
      intro heq
      obtain ⟨value, behind, heq⟩ := Option.bind_eq_some_iff.1 heq
      obtain ⟨n, reads, rfl⟩ := Option.map_eq_some_iff.1 heq
      have text : argument = "--max-iterations=" ++ String.ofList value := by
        apply String.toList_inj.1
        rw [behind?_eq_some_iff.1 behind, String.toList_append, String.toList_ofList (l := value)]
      rw [← String.toList_ofList (l := value), limit?_eq_some_iff] at reads
      rw [text]
      exact .atMost reads
  · rintro (_ | @⟨text, n, reads⟩)
    · rfl
    · have behind : behind? "--max-iterations=".toList ("--max-iterations=" ++ text).toList =
          some text.toList := behind?_eq_some_iff.2 String.toList_append
      have other : "--max-iterations=" ++ text ≠ "--no-limit" := by
        intro same
        have third := congrArg (fun s => s.toList[2]?) same
        rw [String.toList_append] at third
        cases third
      rw [if_neg other, behind, Option.bind_some, limit?_eq_some_iff.2 reads]
      rfl

lemma limitOf?_eq_none_iff {argument : String} :
    limitOf? argument = none ↔ ∀ limit, ¬SetsLimit argument limit := by
  simp only [Option.eq_none_iff_forall_ne_some, ne_eq, limitOf?_eq_some_iff]

/-- The limit that counts is that of the last option for it. -/
lemma limitedTo_iff {arguments : List String} {limit : Option Nat} :
    LimitedTo arguments limit ↔
      limit = ((arguments.filterMap limitOf?).getLast?).getD (some defaultLimit) := by
  have only {before after : List String} {a : String} {l : Option Nat} (sets : SetsLimit a l)
      (last : ∀ b ∈ after, ∀ l, ¬SetsLimit b l) :
      ((before ++ a :: after).filterMap limitOf?).getLast? = some l := by
    have none : after.filterMap limitOf? = [] :=
      List.filterMap_eq_nil_iff.2 fun b mem => limitOf?_eq_none_iff.2 (last b mem)
    rw [List.filterMap_append, List.filterMap_cons_some (limitOf?_eq_some_iff.2 sets), none,
      List.getLast?_append]
    rfl
  constructor
  · rintro (⟨before, a, after, rfl, sets, last⟩ | ⟨rfl, unset⟩)
    · rw [only sets last]
      rfl
    · rw [List.filterMap_eq_nil_iff.2 fun a mem => limitOf?_eq_none_iff.2 (unset a mem)]
      rfl
  · intro heq
    cases h : (arguments.filterMap limitOf?).getLast? with
    | none =>
      rw [h] at heq
      rw [List.getLast?_eq_none_iff, List.filterMap_eq_nil_iff] at h
      exact .inr ⟨heq, fun a mem => limitOf?_eq_none_iff.1 (h a mem)⟩
    | some l =>
      rw [h] at heq
      obtain ⟨init, limits⟩ := List.getLast?_eq_some_iff.1 h
      obtain ⟨before, behind, rfl, -, last⟩ := List.filterMap_eq_append_iff.1 limits
      obtain ⟨between, a, after, rfl, -, sets, none⟩ := List.filterMap_eq_cons_iff.1 last
      rw [List.filterMap_eq_nil_iff] at none
      refine .inl ⟨before ++ between, a, after, (List.append_assoc ..).symm, ?_,
        fun b mem => limitOf?_eq_none_iff.1 (none b mem)⟩
      rw [heq]
      exact limitOf?_eq_some_iff.1 sets

/-! ## One argument after another -/

section

variable {path : Option String} {options : RunOptions} {a : String}

lemma isPath_of_dashes {cs : List Char} (h : a.toList = '-' :: '-' :: cs) : isPath a = false := by
  have other : a ≠ "-" := by
    rintro rfl
    cases h
  rw [isPath, h, beq_eq_false_iff_ne.2 other]
  rfl

/-- A path is no option. -/
lemma ne_of_isPath (h : isPath a = true) :
    a ≠ "--pretty" ∧ a ≠ "--no-limit" ∧ behind? "--max-iterations=".toList a.toList = none := by
  refine ⟨?_, ?_, ?_⟩
  · rintro rfl
    cases h
  · rintro rfl
    cases h
  · cases behind : behind? "--max-iterations=".toList a.toList with
    | none => rfl
    | some value =>
      rw [isPath_of_dashes (behind?_eq_some_iff.1 behind)] at h
      cases h

lemma limitOf?_of_isPath (h : isPath a = true) : limitOf? a = none := by
  obtain ⟨-, bounded, behind⟩ := ne_of_isPath h
  rw [limitOf?, if_neg bounded, behind]
  rfl

lemma take_pretty : take path options "--pretty" = .ok (path, { options with pretty := true }) := rfl

lemma take_limit {limit : Option Nat} (h : limitOf? a = some limit) :
    take path options a = .ok (path, { options with limit }) := by
  have other : a ≠ "--pretty" := by
    rintro rfl
    cases h
  unfold limitOf? at h
  rw [take, if_neg other]
  split at h
  next unlimited =>
    cases h
    rw [if_pos unlimited]
  next bounded =>
    obtain ⟨value, behind, h⟩ := Option.bind_eq_some_iff.1 h
    obtain ⟨n, reads, rfl⟩ := Option.map_eq_some_iff.1 h
    rw [if_neg bounded, behind]
    dsimp only
    rw [reads]

/-- A path is taken in where there is none, or where it is the sign for the standard input. -/
lemma take_path (h : isPath a = true) : take path options a =
    if a = "-" ∨ path = none then .ok (some a, options) else .error (.unknownOption a) := by
  obtain ⟨plain, bounded, behind⟩ := ne_of_isPath h
  rw [take, if_neg plain, if_neg bounded, behind]
  dsimp only
  have begins : a = "-" ∨ a.toList.head? ≠ some '-' := by
    rw [isPath, Bool.or_eq_true, beq_iff_eq, bne_iff_ne] at h
    exact h
  by_cases sign : a = "-"
  · rw [if_pos (.inl sign), if_pos (.inl sign)]
  · have named := begins.resolve_left sign
    by_cases first : path = none
    · rw [if_pos (.inr ⟨named, first⟩), if_pos (.inr first)]
    · rw [if_neg (not_or.2 ⟨sign, fun both => first both.2⟩), if_neg (not_or.2 ⟨sign, first⟩)]

/-- What is neither a path nor an option is refused, whatever was taken in before. -/
lemma exists_take_eq_error (h : isPath a = false) (plain : a ≠ "--pretty") (unset : limitOf? a = none) :
    ∃ fault, ∀ path options, take path options a = .error fault := by
  have dashed : ¬(a = "-" ∨ a.toList.head? ≠ some '-') := by
    rw [isPath, Bool.or_eq_false_iff, beq_eq_false_iff_ne, bne_eq_false_iff_eq] at h
    exact not_or.2 ⟨h.1, fun named => named h.2⟩
  have bounded : a ≠ "--no-limit" := by
    rintro rfl
    cases unset
  rw [limitOf?, if_neg bounded] at unset
  cases behind : behind? "--max-iterations=".toList a.toList with
  | none =>
    refine ⟨.unknownOption a, fun path options => ?_⟩
    rw [take, if_neg plain, if_neg bounded, behind]
    dsimp only
    rw [if_neg fun named => dashed (named.imp_right And.left)]
  | some value =>
    refine ⟨.badLimit (String.ofList value), fun path options => ?_⟩
    rw [behind, Option.bind_some, Option.map_eq_none_iff] at unset
    rw [take, if_neg plain, if_neg bounded, behind]
    dsimp only
    rw [unset]

/-- An option does the same wherever the path stands. -/
lemma take_option (h : isPath a = false) :
    take path options a = (take none options a).map fun r => (path, r.2) := by
  by_cases plain : a = "--pretty"
  · rw [plain, take_pretty, take_pretty]
    rfl
  · cases sets : limitOf? a with
    | some limit =>
      rw [take_limit sets, take_limit sets]
      rfl
    | none =>
      obtain ⟨fault, refused⟩ := exists_take_eq_error h plain sets
      rw [refused, refused]
      rfl

end

/-! ## All arguments -/

section

variable {path : Option String} {options : RunOptions}

/-- Options do the same wherever the path stands. -/
lemma takeAll_options {arguments : List String} (h : ∀ a ∈ arguments, isPath a = false) :
    takeAll path options arguments = (takeAll none options arguments).map fun r => (path, r.2) := by
  induction arguments generalizing path options with
  | nil => rfl
  | cons a rest ih =>
    obtain ⟨first, later⟩ := List.forall_mem_cons.1 h
    rw [takeAll, takeAll, take_option first]
    cases take none options a with
    | error fault => rfl
    | ok r =>
      dsimp only [Except.map]
      rw [ih later, @ih r.1 r.2 later]
      cases takeAll none r.2 rest <;> rfl

/-- A path among options is taken in, and changes nothing else. -/
lemma takeAll_path {before after : List String} {a : String} (h : isPath a = true)
    (others : ∀ b ∈ before ++ after, isPath b = false) :
    takeAll none options (before ++ a :: after) =
      (takeAll none options (before ++ after)).map fun r => (some a, r.2) := by
  induction before generalizing options with
  | nil =>
    rw [List.nil_append, List.nil_append, takeAll, take_path h, if_pos (.inr rfl)]
    exact takeAll_options others
  | cons b before ih =>
    obtain ⟨first, later⟩ := List.forall_mem_cons.1 others
    rw [List.cons_append, List.cons_append, takeAll, takeAll, take_option first]
    cases take none options b with
    | error fault => rfl
    | ok r => exact ih later

/-- Arguments are taken in where all of them are known and no path but the sign for the standard input
comes behind another one; then the last path counts, and the last option for the limit. -/
lemma takeAll_eq_ok_iff {arguments : List String} {path' : Option String} {options' : RunOptions} :
    takeAll path options arguments = .ok (path', options') ↔
      (∀ a ∈ arguments, isPath a = true ∨ a = "--pretty" ∨ (limitOf? a).isSome = true) ∧
      (∀ a ∈ (path.toList ++ arguments.filter isPath).tail, a = "-") ∧
      path' = (path.toList ++ arguments.filter isPath).getLast? ∧
      options' = ⟨options.pretty || arguments.contains "--pretty",
        ((arguments.filterMap limitOf?).getLast?).getD options.limit⟩ := by
  induction arguments generalizing path options with
  | nil =>
    cases path <;> simp [takeAll, eq_comm (a := path'), eq_comm (a := options')]
  | cons a rest ih =>
    rw [takeAll, List.forall_mem_cons, List.contains_cons]
    cases isPathOrNot : isPath a with
    | true =>
      obtain ⟨plain, -, -⟩ := ne_of_isPath isPathOrNot
      rw [take_path isPathOrNot, List.filter_cons_of_pos isPathOrNot,
        List.filterMap_cons_none (limitOf?_of_isPath isPathOrNot), beq_false_of_ne plain.symm]
      simp only [true_or, true_and, Bool.false_or]
      cases path with
      | none =>
        rw [if_pos (.inr rfl)]
        exact ih
      | some p =>
        by_cases sign : a = "-"
        · rw [if_pos (.inl sign)]
          dsimp only
          rw [ih]
          simp [sign]
        · rw [if_neg (not_or.2 ⟨sign, nofun⟩)]
          simp [sign]
    | false =>
      rw [List.filter_cons_of_neg (ne_true_of_eq_false isPathOrNot)]
      by_cases plain : a = "--pretty"
      · rw [plain, take_pretty, List.filterMap_cons_none rfl]
        dsimp only
        rw [ih]
        simp
      · rw [beq_false_of_ne (Ne.symm plain)]
        cases sets : limitOf? a with
        | some limit =>
          rw [take_limit sets, List.filterMap_cons_some sets, List.getLast?_cons]
          dsimp only
          rw [ih]
          simp
        | none =>
          obtain ⟨fault, refused⟩ := exists_take_eq_error isPathOrNot plain sets
          rw [refused]
          simp [plain]

end

/-- What the arguments of a run are read as is what they ask for, and arguments that ask for nothing are
refused. -/
lemma ofArguments_eq_ok_iff {arguments : List String} {path : Option String} {options : RunOptions} :
    ofArguments arguments = .ok (path, options) ↔ Asked arguments path options := by
  have known (a : String) : (limitOf? a).isSome = true ↔ ∃ limit, SetsLimit a limit := by
    simp only [Option.isSome_iff_exists, limitOf?_eq_some_iff]
  rw [ofArguments, takeAll_eq_ok_iff]
  simp only [known, Option.toList_none, List.nil_append]
  constructor
  · rintro ⟨known, alone, path_eq, rfl⟩
    exact ⟨known, alone, path_eq, by simp [default], limitedTo_iff.2 rfl⟩
  · rintro ⟨known, alone, path_eq, pretty, limit⟩
    have pretty_eq : options.pretty = arguments.contains "--pretty" := by
      rw [Bool.eq_iff_iff, pretty, List.contains_iff_mem]
    refine ⟨known, alone, path_eq, ?_⟩
    rw [default, Bool.false_or, ← pretty_eq, ← limitedTo_iff.1 limit]

/-- The arguments of a run are read exactly as they ask: all of them are paths or options, the last path is
the path, the document is indented where one of them says so, and the last option for the limit sets it.
Where a path comes behind another one and is not the sign for the standard input, they are refused. The
place of a single path among the options makes no difference, also where they are refused. -/
theorem arguments_read (arguments : List String) :
    (∀ path options, ofArguments arguments = .ok (path, options) ↔ Asked arguments path options) ∧
    ((∃ a ∈ (arguments.filter isPath).tail, a ≠ "-") → ∃ fault, ofArguments arguments = .error fault) ∧
    ∀ before path after, arguments = before ++ path :: after → isPath path = true →
      (∀ a ∈ before ++ after, isPath a = false) → ∀ before' after', before' ++ after' = before ++ after →
        ofArguments (before' ++ path :: after') = ofArguments arguments := by
  refine ⟨fun path options => ofArguments_eq_ok_iff, ?_, ?_⟩
  · rintro ⟨a, mem, other⟩
    cases h : ofArguments arguments with
    | error fault => exact ⟨fault, rfl⟩
    | ok r => exact absurd ((ofArguments_eq_ok_iff.1 h).alone a mem) other
  · rintro before path after rfl isPath others before' after' same
    rw [ofArguments, ofArguments, takeAll_path isPath others, takeAll_path isPath (same ▸ others), same]

/-- A path between options may as well come first, and what the arguments ask for is read. A second path
is refused. -/
theorem arguments_read_pathFirst :
    Asked ["--no-limit", "p.json", "--max-iterations=+07"] (some "p.json") ⟨false, some 7⟩ ∧
      ofArguments ["p.json", "--no-limit", "--max-iterations=+07"] =
        .ok (some "p.json", ⟨false, some 7⟩) ∧
      ∃ fault, ofArguments ["-", "p.json"] = .error fault := by
  have read : ofArguments ["--no-limit", "p.json", "--max-iterations=+07"] =
      .ok (some "p.json", ⟨false, some 7⟩) := rfl
  obtain ⟨asked, -, moved⟩ := arguments_read ["--no-limit", "p.json", "--max-iterations=+07"]
  obtain ⟨-, second, -⟩ := arguments_read ["-", "p.json"]
  refine ⟨(asked _ _).1 read, ?_, second ⟨"p.json", by decide, by decide⟩⟩
  rw [← read]
  exact moved ["--no-limit"] "p.json" ["--max-iterations=+07"] rfl rfl (by decide) [] _ rfl

/-- Two paths are read when the second one is the sign for the standard input, which takes the place of
the first one. In the other order they are refused. -/
theorem second_path_replaces :
    ["a", "-"].filter isPath = ["a", "-"] ∧ ofArguments ["a", "-"] = .ok (some "-", .default) ∧
      ofArguments ["-", "a"] = .error (.unknownOption "a") :=
  ⟨rfl, rfl, rfl⟩

end RunOptions

end Playback
