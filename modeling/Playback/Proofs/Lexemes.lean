import Playback.Condition
import Playback.Proofs.Rounding
import Mathlib.Data.List.Chain

/-!
# Lexemes of a condition

The text of a condition is the spelling of a list of lexemes. Where no word and no number stands next
to another one, the lexemes can be read off the text again. A finite number is such a lexeme.

Main statement: lists of lexemes that are spelled alike are the same (`spelling_injective`).
-/

namespace Playback

/-- The words that are not the names of variables. -/
def reserved : List String :=
  ["and", "or", "not", "true", "false", "length", "of", "substring", "from", "to"]

/-- A name of letters that is not a reserved word. -/
structure IsName (s : String) : Prop where
  ne_nil : s.toList ≠ []
  letters : ∀ c ∈ s.toList, c.isAlpha = true
  free : s ∉ reserved

/-- A part of the text of a condition. -/
inductive Lexeme where
  | name (s : String)
  | number (s : String)
  /-- A text between quotes. -/
  | quoted (s : String)
  | truth (b : Bool)
  | lengthWord
  | substringWord
  | bang
  | opening
  | closing
  /-- The words and the operators that stand between blanks. -/
  | ofWord
  | fromWord
  | toWord
  | operator (op : Operator)

namespace Lexeme

/-- The characters of a lexeme. -/
def chars : Lexeme → List Char
  | name s | number s => s.toList
  | quoted s => '"' :: (s.toList ++ ['"'])
  | truth b => (if b then "true" else "false").toList
  | lengthWord => "length".toList
  | substringWord => "substring".toList
  | bang => ['!']
  | opening => ['(']
  | closing => [')']
  | ofWord => ' ' :: ("of".toList ++ [' '])
  | fromWord => ' ' :: ("from".toList ++ [' '])
  | toWord => ' ' :: ("to".toList ++ [' '])
  | operator op => ' ' :: (op.symbol.toList ++ [' '])

/-- The characters of numbers. -/
def isNumeric (c : Char) : Bool :=
  c.isDigit || c == '.' || c == '-'

/-- The lexeme can be read off its characters. -/
def Valid : Lexeme → Prop
  | name s => IsName s
  | number s => s.toList ≠ [] ∧ ∀ c ∈ s.toList, isNumeric c = true
  | quoted s => '"' ∉ s.toList
  | _ => True

/-- What follows does not go on with the lexeme. -/
def Fresh (rest : List Char) : Lexeme → Prop
  | name _ | truth _ | lengthWord | substringWord => rest.takeWhile Char.isAlpha = []
  | number _ => rest.takeWhile isNumeric = []
  | _ => True

/-! ## Reading a lexeme -/

/-- The lexeme of a word. -/
def ofLetters (s : String) : Lexeme :=
  if s = "true" then truth true
  else if s = "false" then truth false
  else if s = "length" then lengthWord
  else if s = "substring" then substringWord
  else name s

/-- The lexeme of what stands between blanks. -/
def ofBlanks? (s : String) : Option Lexeme :=
  if s = "of" then some ofWord
  else if s = "from" then some fromWord
  else if s = "to" then some toWord
  else (Operator.named? s).map operator

/-- The first lexeme of a text, and the rest of the text. -/
def next? : List Char → Option (Lexeme × List Char)
  | [] => none
  | c :: cs =>
    if c.isAlpha then
      let word := (c :: cs).takeWhile Char.isAlpha
      some (ofLetters (String.ofList word), (c :: cs).dropWhile Char.isAlpha)
    else if isNumeric c then
      let digits := (c :: cs).takeWhile isNumeric
      some (number (String.ofList digits), (c :: cs).dropWhile isNumeric)
    else if c = '"' then
      some (quoted (String.ofList (cs.takeWhile (· != '"'))), (cs.dropWhile (· != '"')).tail)
    else if c = ' ' then
      (ofBlanks? (String.ofList (cs.takeWhile (· != ' ')))).map fun t =>
        (t, (cs.dropWhile (· != ' ')).tail)
    else if c = '!' then some (bang, cs)
    else if c = '(' then some (opening, cs)
    else if c = ')' then some (closing, cs)
    else none

variable {s : String} {rest : List Char}

lemma next?_letters (hne : s.toList ≠ []) (letters : ∀ c ∈ s.toList, c.isAlpha = true)
    (stops : rest.takeWhile Char.isAlpha = []) :
    next? (s.toList ++ rest) = some (ofLetters s, rest) := by
  obtain ⟨c, cs, hs⟩ := List.exists_cons_of_ne_nil hne
  have hc : c.isAlpha = true := letters c (hs ▸ List.mem_cons_self)
  have run := takeWhile_run letters stops
  have left := dropWhile_run letters stops
  rw [hs, List.cons_append] at run left
  rw [hs, List.cons_append, next?, if_pos hc]
  dsimp only
  rw [run, left, ← hs, String.ofList_toList]

/-- A digit, a point and a minus sign are not letters. -/
lemma not_isAlpha_of_isNumeric {c : Char} (h : isNumeric c = true) : ¬ c.isAlpha = true := by
  rw [isNumeric, Bool.or_eq_true, Bool.or_eq_true, beq_iff_eq, beq_iff_eq] at h
  rcases h with (digit | rfl) | rfl
  · intro letter
    have hdigit : (decide (48 ≤ c.val) && decide (c.val ≤ 57)) = true := digit
    have hletter : (decide (65 ≤ c.val ∧ c.val ≤ 90) ||
        (decide (97 ≤ c.val) && decide (c.val ≤ 122))) = true := letter
    simp only [Bool.or_eq_true, Bool.and_eq_true, decide_eq_true_eq, UInt32.le_iff_toNat_le,
      UInt32.toNat_ofNat] at hdigit hletter
    omega
  · decide
  · decide

lemma next?_number (hne : s.toList ≠ []) (digits : ∀ c ∈ s.toList, isNumeric c = true)
    (stops : rest.takeWhile isNumeric = []) :
    next? (s.toList ++ rest) = some (number s, rest) := by
  obtain ⟨c, cs, hs⟩ := List.exists_cons_of_ne_nil hne
  have hc : isNumeric c = true := digits c (hs ▸ List.mem_cons_self)
  have run := takeWhile_run digits stops
  have left := dropWhile_run digits stops
  rw [hs, List.cons_append] at run left
  rw [hs, List.cons_append, next?, if_neg (not_isAlpha_of_isNumeric hc), if_pos hc]
  dsimp only
  rw [run, left, ← hs, String.ofList_toList]

lemma next?_quoted (h : '"' ∉ s.toList) :
    next? ('"' :: (s.toList ++ ['"']) ++ rest) = some (quoted s, rest) := by
  have other : ∀ c ∈ s.toList, (c != '"') = true := fun c mem => by
    simp only [bne_iff_ne, ne_eq]
    exact fun heq => h (heq ▸ mem)
  have stops : ('"' :: rest).takeWhile (· != '"') = [] := rfl
  rw [List.cons_append, List.append_assoc, List.singleton_append, next?, if_neg (by decide),
    if_neg (by decide), if_pos rfl, takeWhile_run other stops, dropWhile_run other stops,
    String.ofList_toList, List.tail_cons]

lemma next?_blanks (h : ' ' ∉ s.toList) : next? (' ' :: (s.toList ++ [' ']) ++ rest) =
    (ofBlanks? s).map fun t => (t, rest) := by
  have other : ∀ c ∈ s.toList, (c != ' ') = true := fun c mem => by
    simp only [bne_iff_ne, ne_eq]
    exact fun heq => h (heq ▸ mem)
  have stops : (' ' :: rest).takeWhile (· != ' ') = [] := rfl
  rw [List.cons_append, List.append_assoc, List.singleton_append, next?, if_neg (by decide),
    if_neg (by decide), if_neg (by decide), if_pos rfl, takeWhile_run other stops,
    dropWhile_run other stops, String.ofList_toList, List.tail_cons]

/-- A lexeme is read off its characters, with what follows left over. -/
lemma next?_chars {t : Lexeme} (valid : t.Valid) (fresh : t.Fresh rest) :
    next? (t.chars ++ rest) = some (t, rest) := by
  cases t with
  | name s =>
    obtain ⟨hne, letters, free⟩ : IsName s := valid
    simp only [reserved, List.mem_cons, not_or] at free
    have hs : ofLetters s = name s := by simp [ofLetters, free]
    have read := next?_letters hne letters fresh
    rw [hs] at read
    exact read
  | number s => exact next?_number valid.1 valid.2 fresh
  | quoted s => exact next?_quoted valid
  | truth b =>
    cases b with
    | true => exact next?_letters (s := "true") (by decide) (List.all_eq_true.1 rfl) fresh
    | false => exact next?_letters (s := "false") (by decide) (List.all_eq_true.1 rfl) fresh
  | lengthWord => exact next?_letters (s := "length") (by decide) (List.all_eq_true.1 rfl) fresh
  | substringWord => exact next?_letters (s := "substring") (by decide) (List.all_eq_true.1 rfl) fresh
  | bang | opening | closing => rfl
  | ofWord => exact next?_blanks (s := "of") (by decide)
  | fromWord => exact next?_blanks (s := "from") (by decide)
  | toWord => exact next?_blanks (s := "to") (by decide)
  | operator op =>
    have noBlank : ' ' ∉ op.symbol.toList := by cases op <;> decide
    have hop : ofBlanks? op.symbol = some (operator op) := by cases op <;> rfl
    have read : next? ((operator op).chars ++ rest) = _ := next?_blanks noBlank
    rw [hop] at read
    exact read

/-! ## Spelling -/

/-- The lexeme is a word or a number, which must end before the next one begins. -/
def runs : Lexeme → Bool
  | name _ | number _ | truth _ | lengthWord | substringWord => true
  | _ => false

/-- The lexeme begins with a character of no word and no number. -/
def cuts : Lexeme → Bool
  | closing | ofWord | fromWord | toWord | operator _ => true
  | _ => false

/-- The characters of lexemes one after another. -/
def spelling (ts : List Lexeme) : List Char :=
  ts.flatMap chars

@[simp] lemma spelling_nil : spelling [] = [] := rfl

@[simp] lemma spelling_cons (t : Lexeme) (ts : List Lexeme) :
    spelling (t :: ts) = t.chars ++ spelling ts := List.flatMap_cons

@[simp] lemma spelling_append (ts us : List Lexeme) :
    spelling (ts ++ us) = spelling ts ++ spelling us := List.flatMap_append

/-- The lexemes have the property, and words and numbers are not followed by one another. -/
structure Legal (P : Lexeme → Prop) (ts : List Lexeme) : Prop where
  valid : ∀ t ∈ ts, P t
  separated : ts.IsChain fun t u => t.runs = true → u.cuts = true

section

variable {P : Lexeme → Prop} {t u : Lexeme} {ts us : List Lexeme}

lemma Legal.single (valid : P t) : Legal P [t] :=
  ⟨fun _ mem => List.mem_singleton.1 mem ▸ valid, List.isChain_singleton t⟩

/-- Everything may follow what ends by itself. -/
lemma Legal.cons (valid : P t) (ends : t.runs = false) (h : Legal P ts) : Legal P (t :: ts) := by
  refine ⟨List.forall_mem_cons.2 ⟨valid, h.valid⟩, List.isChain_cons.2 ⟨fun _ _ runs => ?_, h.separated⟩⟩
  rw [ends] at runs
  cases runs

/-- What cuts may follow everything. -/
lemma Legal.append (h : Legal P ts) (cuts : u.cuts = true) (h' : Legal P (u :: us)) :
    Legal P (ts ++ u :: us) := by
  refine ⟨List.forall_mem_append.2 ⟨h.valid, h'.valid⟩,
    List.isChain_append.2 ⟨h.separated, h'.separated, fun _ _ v hv _ => ?_⟩⟩
  cases hv
  exact cuts

lemma Legal.tail (h : Legal P (t :: ts)) : Legal P ts :=
  ⟨fun u mem => h.valid u (List.mem_cons_of_mem t mem), h.separated.tail⟩

lemma takeWhile_spelling {p : Char → Bool} (hblank : p ' ' = false) (hclosing : p ')' = false)
    (cuts : u.cuts = true) (us : List Lexeme) : (spelling (u :: us)).takeWhile p = [] := by
  rw [spelling_cons]
  cases u with
  | closing => exact List.takeWhile_cons_of_neg (by simp [hclosing])
  | ofWord | fromWord | toWord | operator =>
    exact List.takeWhile_cons_of_neg (by simp [hblank])
  | _ => cases cuts

/-- The characters that follow a lexeme do not go on with it. -/
lemma Legal.fresh (h : Legal P (t :: ts)) : t.Fresh (spelling ts) := by
  cases ts with
  | nil =>
    cases t with
    | name | number | truth | lengthWord | substringWord => exact rfl
    | _ => trivial
  | cons u us =>
    have next := (List.isChain_cons_cons.1 h.separated).1
    cases t with
    | name | truth | lengthWord | substringWord =>
      exact takeWhile_spelling (by decide) (by decide) (next rfl) us
    | number => exact takeWhile_spelling (by decide) (by decide) (next rfl) us
    | _ => trivial

/-- Lists of lexemes that are spelled alike are read as the same lexemes, when the first lexeme is read
off the characters as `read` says. -/
lemma map_eq_of_spelling_eq {read : Lexeme → Lexeme}
    (reads : ∀ {t rest}, P t → t.Fresh rest → next? (t.chars ++ rest) = some (read t, rest))
    (hts : Legal P ts) (hus : Legal P us) (h : spelling ts = spelling us) :
    ts.map read = us.map read := by
  have first {t ts} (legal : Legal P (t :: ts)) :
      next? (spelling (t :: ts)) = some (read t, spelling ts) := by
    rw [spelling_cons]
    exact reads (legal.valid t List.mem_cons_self) legal.fresh
  induction ts generalizing us with
  | nil =>
    cases us with
    | nil => rfl
    | cons u us =>
      have next := first hus
      rw [← h] at next
      cases next
  | cons t ts ih =>
    have next := first hts
    cases us with
    | nil =>
      rw [h] at next
      cases next
    | cons u us =>
      rw [h, first hus, Option.some.injEq, Prod.mk.injEq] at next
      rw [List.map_cons, List.map_cons, next.1, ih hts.tail hus.tail next.2.symm]

/-- Lists of valid lexemes that are spelled alike are the same. -/
theorem spelling_injective (hts : Legal Valid ts) (hus : Legal Valid us)
    (h : spelling ts = spelling us) : ts = us := by
  have same : ts.map id = us.map id := map_eq_of_spelling_eq next?_chars hts hus h
  rwa [List.map_id, List.map_id] at same

end

/-! ## Numbers -/

lemma isNumeric_of_mem_chars {n : Numeral} (plain : n.exponent = none) {c : Char}
    (mem : c ∈ n.chars) : isNumeric c = true := by
  have digit {cs : List Char} (h : cs ⊆ n.digits) (mem : c ∈ cs) : isNumeric c = true := by
    rw [isNumeric, Numeral.isDigit_of_mem_digits (h mem)]
    rfl
  rw [Numeral.chars, plain] at mem
  simp only [Numeral.exponentChars, List.append_nil, List.mem_append] at mem
  rcases mem with (sign | whole) | fraction
  · split at sign
    · rw [List.mem_singleton.1 sign]
      decide
    · cases sign
  · exact digit (List.take_subset _ _) whole
  · split at fraction
    · cases fraction
    · rcases List.mem_cons.1 fraction with rfl | fraction
      · decide
      · exact digit (List.drop_subset _ _) fraction

/-- A finite number is shown by the characters of numbers. -/
lemma valid_number {x : Float} (h : x.isFinite = true) : (number (numberText x)).Valid := by
  have hchars : (numberText x).toList = (shown x).chars := by
    rw [numberText_eq_shown h, Numeral.text, String.toList_ofList]
  refine ⟨fun empty => ?_, fun c mem => ?_⟩
  · obtain ⟨c, cs, whole, -⟩ := (shown x).exists_whole
    have parts := congrArg (List.length ∘ Prod.snd) (shown x).takeSign_chars
    rw [← hchars, empty, whole] at parts
    cases parts
  · rw [hchars] at mem
    exact isNumeric_of_mem_chars (Binary.shown_exponent x) mem

end Lexeme

end Playback
