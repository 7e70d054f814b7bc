import Playback.Json.Printer
import Playback.Proofs.Numerals
import Mathlib.Data.List.Chain

/-!
# Layouts

A text that has the characters of tokens in order, with blanks anywhere between them, is read as
these tokens. A literal name or a numeral is complete only where a character follows that belongs to
no word, so two of them must not stand side by side; of the other tokens, each one shows its own
end.

Main statement: what is spread out from tokens is read as these tokens (`Token.scan?_eq_of_spread`).
Both layouts of a document are spread out from its tokens (`Json.spread_render`).
-/

namespace Playback

namespace Token

/-- A literal name or a numeral, whose end shows in what follows only. -/
def isWord : Token → Bool
  | null | bool _ | number _ => true
  | _ => false

/-- A string has whole characters only, and no halves of surrogate pairs. -/
def IsWhole : Token → Prop
  | string ps => ∀ p ∈ ps, ∃ c, p = .char c
  | _ => True

/-- The scanner reads the characters as the tokens. -/
def ReadsAs (s : Scan) (cs : List Char) (ts : List Token) : Prop :=
  ∀ done, scanFrom? s done cs = some (done.reverse ++ ts)

variable {s next : Scan} {c : Char} {cs : List Char} {ts new : List Token} {t : Token}

lemma ReadsAs.step (h : step? s c = some (new, next)) (reads : ReadsAs next cs ts) :
    ReadsAs s (c :: cs) (new ++ ts) := by
  intro done
  rw [scanFrom?, h]
  dsimp only
  rw [reads, List.reverseAux_eq, List.reverse_append, List.reverse_reverse, List.append_assoc]

/-- A step that completes no token. -/
lemma ReadsAs.move (h : step? s c = some ([], next)) (reads : ReadsAs next cs ts) :
    ReadsAs s (c :: cs) ts :=
  reads.step h

/-- A step that completes one token. -/
lemma ReadsAs.emit (h : step? s c = some ([t], next)) (reads : ReadsAs next cs ts) :
    ReadsAs s (c :: cs) (t :: ts) :=
  reads.step h

lemma readsAs_nil : ReadsAs .between [] [] := by
  intro done
  rw [List.append_nil]
  rfl

/-! ## Strings -/

section

variable {ps : List Piece}

lemma hexValue?_digitChar : ∀ d < 16, hexValue? d.digitChar = some d := by
  decide

lemma ReadsAs.hex {value left d : Nat} (small : d < 16) (more : 1 < left)
    (reads : ReadsAs (.hex ps (16 * value + d) (left - 1)) cs ts) :
    ReadsAs (.hex ps value left) (d.digitChar :: cs) ts := by
  refine reads.move ?_
  simp only [step?, hexValue?_digitChar d small, Option.bind_eq_bind, Option.bind_some]
  rw [if_neg (by omega)]

lemma ReadsAs.lastHex {value d : Nat} (small : d < 16)
    (reads : ReadsAs (.quoted (unitPiece (16 * value + d) :: ps)) cs ts) :
    ReadsAs (.hex ps value 1) (d.digitChar :: cs) ts := by
  refine reads.move ?_
  simp [step?, hexValue?_digitChar d small]

/-- Four digits are read as the unit that they write. -/
lemma ReadsAs.unit {n : Nat} (short : n < 65536)
    (reads : ReadsAs (.quoted (unitPiece n :: ps)) cs ts) :
    ReadsAs (.quoted ps) ('\\' :: 'u' :: hexDigits n ++ cs) ts := by
  have digits : ReadsAs (.hex ps 0 4) (hexDigits n ++ cs) ts := by
    refine .hex (by omega) (by omega) (.hex (by omega) (by omega) (.hex (by omega) (by omega)
      (.lastHex (by omega) ?_)))
    have whole : 16 * (16 * (16 * (16 * 0 + n / 4096 % 16) + n / 256 % 16) + n / 16 % 16) + n % 16 =
        n := by omega
    rw [whole]
    exact reads
  have behind : ReadsAs (.escape ps) ('u' :: hexDigits n ++ cs) ts := digits.move rfl
  exact behind.move rfl

lemma ReadsAs.letter {d : Char} (h : escapeLetter? d = some c) (other : d ≠ 'u')
    (reads : ReadsAs (.quoted (.char c :: ps)) cs ts) : ReadsAs (.quoted ps) ('\\' :: d :: cs) ts := by
  have behind : ReadsAs (.escape ps) (d :: cs) ts := by
    refine reads.move ?_
    rw [step?, if_neg other, h]
    rfl
  exact behind.move rfl

/-- A character inside a string is read as itself, escaped or not. -/
lemma ReadsAs.escaped (reads : ReadsAs (.quoted (.char c :: ps)) cs ts) :
    ReadsAs (.quoted ps) (escaped c ++ cs) ts := by
  unfold Token.escaped
  split
  next quote => exact reads.letter (by rw [quote]; rfl) (by decide)
  split
  next slash => exact reads.letter (by rw [slash]; rfl) (by decide)
  split
  next newline => exact reads.letter (by rw [newline]; rfl) (by decide)
  split
  next carriage => exact reads.letter (by rw [carriage]; rfl) (by decide)
  split
  next tab => exact reads.letter (by rw [tab]; rfl) (by decide)
  split
  next backspace => exact reads.letter (by rw [backspace]; rfl) (by decide)
  split
  next feed => exact reads.letter (by rw [feed]; rfl) (by decide)
  split
  next control =>
    have unit : unitPiece c.toNat = .char c := by
      rw [unitPiece, if_neg (by omega), Char.ofNat_toNat]
    exact .unit (by omega) (by rw [unit]; exact reads)
  next quote slash _ _ _ _ _ printable =>
    refine reads.move ?_
    rw [step?, if_neg quote, if_neg slash, if_neg printable]

lemma ReadsAs.pieces {qs : List Piece} (whole : ∀ p ∈ qs, ∃ c, p = .char c)
    (reads : ReadsAs (.quoted (qs.reverse ++ ps)) cs ts) :
    ReadsAs (.quoted ps) (qs.flatMap pieceChars ++ cs) ts := by
  induction qs generalizing ps with
  | nil => exact reads
  | cons q qs ih =>
    obtain ⟨c, rfl⟩ := whole q (.head _)
    rw [List.flatMap_cons, List.append_assoc]
    refine ReadsAs.escaped (ih (fun p mem => whole p (.tail _ mem)) ?_)
    rw [List.reverse_cons, List.append_assoc] at reads
    exact reads

end

/-! ## Words -/

/-- A character that belongs to no word: a blank, a quote or the token of one character. -/
def breaks (c : Char) : Bool :=
  isSpace c || c = '"' || (mark? c).isSome

/-- The characters that belong to no word. -/
def breakers : List Char := [' ', '\t', '\n', '\r', '"', '[', ']', '\x7b', '\x7d', ',', ':']

lemma mem_breakers (h : breaks c = true) : c ∈ breakers := by
  simp only [breakers, List.mem_cons, List.not_mem_nil, or_false]
  grind [breaks, isSpace, mark?]

lemma breaks_of_isDigit (digit : c.isDigit = true) : breaks c = false := by
  have other : breakers.all (fun d => !d.isDigit) = true := rfl
  refine Bool.eq_false_iff.2 fun h => ?_
  have := List.all_eq_true.1 other c (mem_breakers h)
  rw [digit] at this
  cases this

lemma breaks_of_mem (none : cs.all (fun d => !breaks d) = true) (mem : c ∈ cs) : breaks c = false := by
  simpa using List.all_eq_true.1 none c mem

/-- Nothing follows, or a character that belongs to no word. -/
def Stops (cs : List Char) : Prop :=
  ∀ c ∈ cs.head?, breaks c = true

lemma step?_word (w : List Char) (c : Char) : step? (.word w) c =
    if breaks c then (word? w.reverse).map fun t => (t :: (start c).1, (start c).2)
    else some ([], .word (c :: w)) := by
  cases h : word? w.reverse <;> simp only [step?, h] <;> rfl

lemma start_word (on : breaks c = false) : step? .between c = some ([], .word [c]) := by
  obtain ⟨⟨space, quote⟩, mark⟩ : (isSpace c = false ∧ c ≠ '"') ∧ mark? c = none := by
    simpa [breaks] using on
  simp [step?, start, space, quote, mark]

/-- Inside a word, characters that go on with it are kept. -/
lemma ReadsAs.word {w more : List Char} (goes : ∀ c ∈ more, breaks c = false)
    (reads : ReadsAs (.word (more.reverse ++ w)) cs ts) : ReadsAs (.word w) (more ++ cs) ts := by
  induction more generalizing w with
  | nil => exact reads
  | cons c more ih =>
    rw [List.reverse_cons, List.append_assoc] at reads
    have on : step? (.word w) c = some ([], .word (c :: w)) := by
      rw [step?_word, goes c (.head _)]
      rfl
    exact (ih (fun d mem => goes d (.tail _ mem)) reads).move on

/-- At the end of a word, the word is complete. -/
lemma ReadsAs.wordEnd {w : List Char} (h : word? w.reverse = some t) (stops : Stops cs)
    (reads : ReadsAs .between cs ts) : ReadsAs (.word w) cs (t :: ts) := by
  intro done
  cases cs with
  | nil =>
    have none : ts = [] := by
      have := reads []
      simpa [scanFrom?, finish?] using this.symm
    simp [scanFrom?, finish?, h, none]
  | cons c cs =>
    have ends : step? (.word w) c = some (t :: (start c).1, (start c).2) := by
      rw [step?_word, stops c rfl, h]
      rfl
    have behind := reads (t :: done)
    rw [scanFrom?, ends]
    rw [List.reverse_cons, List.append_assoc] at behind
    exact behind

/-! ## Numerals -/

lemma breaks_of_mem_numeral {n : Numeral} (mem : c ∈ n.chars) : breaks c = false := by
  rcases Numeral.mem_chars mem with digit | other
  · exact breaks_of_isDigit digit
  · exact breaks_of_mem rfl other

lemma word?_chars (n : Numeral) : word? n.chars = some (.number n) := by
  have other : ∀ cs, Numeral.Parts.ofChars? cs = none → n.chars ≠ cs := by
    rintro cs none rfl
    rw [Numeral.partsOfChars?_chars] at none
    cases none
  rw [word?, if_neg (other _ rfl), if_neg (other _ rfl), if_neg (other _ rfl),
    Numeral.ofChars?_chars n.strict_parts]
  rfl

lemma breaks_of_mem_word (word : t.isWord = true) (mem : c ∈ t.chars) : breaks c = false := by
  cases t with
  | null => exact breaks_of_mem rfl mem
  | bool b => cases b <;> exact breaks_of_mem rfl mem
  | number n => exact breaks_of_mem_numeral mem
  | _ => cases word

lemma word?_of_isWord (word : t.isWord = true) : word? t.chars = some t := by
  cases t with
  | null => rfl
  | bool b => cases b <;> rfl
  | number n => exact word?_chars n
  | _ => cases word

lemma exists_word (word : t.isWord = true) : ∃ c cs, t.chars = c :: cs := by
  cases t with
  | null => exact ⟨_, _, rfl⟩
  | bool b => cases b <;> exact ⟨_, _, rfl⟩
  | number n =>
    cases h : n.chars with
    | nil =>
      have read := word?_chars n
      rw [h] at read
      cases read
    | cons c cs => exact ⟨c, cs, h⟩
  | _ => cases word

/-! ## Tokens -/

/-- A token is read where it stands, and so is what follows it. -/
lemma ReadsAs.token (whole : t.IsWhole) (stops : t.isWord = true → Stops cs)
    (reads : ReadsAs .between cs ts) : ReadsAs .between (t.chars ++ cs) (t :: ts) := by
  cases hword : t.isWord with
  | true =>
    obtain ⟨c, more, hchars⟩ := exists_word hword
    have goes : ∀ d ∈ c :: more, breaks d = false := fun d mem =>
      breaks_of_mem_word hword (hchars ▸ mem)
    have ends : ReadsAs (.word (more.reverse ++ [c])) cs (t :: ts) := by
      refine .wordEnd ?_ (stops hword) reads
      rw [List.reverse_append, List.reverse_reverse, List.reverse_singleton, List.singleton_append,
        ← hchars]
      exact word?_of_isWord hword
    rw [hchars, List.cons_append]
    exact (ends.word fun d mem => goes d (.tail _ mem)).move (start_word (goes c (.head _)))
  | false =>
    cases t with
    | string ps =>
      have closed : ReadsAs (.quoted (ps.reverse ++ [])) ('"' :: cs) (.string ps :: ts) :=
        reads.emit (by simp [step?])
      have inside := closed.pieces whole
      rw [chars, List.cons_append, List.cons_append, List.append_assoc]
      exact inside.move rfl
    | null | bool _ | number _ => cases hword
    | openArray | closeArray | openObject | closeObject | comma | colon => exact reads.emit rfl

/-! ## Texts -/

/-- The characters are those of the tokens, in order, with blanks between them. -/
inductive Spread : List Token → List Char → Prop where
  | nil : Spread [] []
  | blank {ts : List Token} {c : Char} {cs : List Char} (space : isSpace c = true)
      (spread : Spread ts cs) : Spread ts (c :: cs)
  | token {t : Token} {ts : List Token} {cs : List Char} (spread : Spread ts cs) :
      Spread (t :: ts) (t.chars ++ cs)

/-- No two words stand side by side. -/
def Separated (ts : List Token) : Prop :=
  ts.IsChain fun t u => t.isWord = true → u.isWord = false

lemma breaks_of_isSpace (space : isSpace c = true) : breaks c = true := by
  rw [breaks, space]
  rfl

/-- A token that is no word begins with a character that belongs to none. -/
lemma stops_token (other : t.isWord = false) : Stops (t.chars ++ cs) := by
  intro c hc
  cases t with
  | null | bool _ | number _ => cases other
  | _ =>
    cases hc
    rfl

lemma Spread.stops (spread : Spread ts cs) (other : ∀ t ∈ ts.head?, t.isWord = false) :
    Stops cs := by
  cases spread with
  | nil => exact nofun
  | blank space _ =>
    intro c hc
    cases hc
    exact breaks_of_isSpace space
  | token spread => exact stops_token (other _ rfl)

lemma Spread.readsAs (spread : Spread ts cs) (separated : Separated ts)
    (whole : ∀ t ∈ ts, t.IsWhole) : ReadsAs .between cs ts := by
  induction spread with
  | nil => exact readsAs_nil
  | blank space _ ih =>
    refine (ih separated whole).move ?_
    rw [step?, start, space]
    rfl
  | @token t ts cs spread ih =>
    have rest := ih separated.tail fun u mem => whole u (.tail _ mem)
    refine rest.token (whole t (.head _)) fun hword => spread.stops fun u hu => ?_
    cases ts with
    | nil => cases hu
    | cons v ts =>
      cases hu
      exact (List.isChain_cons_cons.1 separated).1 hword

/-- What is spread out from tokens is read as these tokens. -/
theorem scan?_eq_of_spread {text : String} (spread : Spread ts text.toList)
    (separated : Separated ts) (whole : ∀ t ∈ ts, t.IsWhole) : scan? text = some ts :=
  spread.readsAs separated whole []

end Token

namespace Json

open Token

variable {cs : List Char} {ts : List Token}

lemma spread_blanks {blanks : List Char} (spaces : ∀ c ∈ blanks, isSpace c = true)
    (spread : Spread ts cs) : Spread ts (blanks ++ cs) := by
  induction blanks with
  | nil => exact spread
  | cons c blanks ih =>
    exact .blank (spaces c (.head _)) (ih fun d mem => spaces d (.tail _ mem))

/-- With nothing between them, tokens are spread out. -/
lemma spread_compactFrom (ts : List Token) (text : String) :
    ∃ cs, (ts.foldl (fun text t => text ++ t.text) text).toList = text.toList ++ cs ∧
      Spread ts cs := by
  induction ts generalizing text with
  | nil => exact ⟨[], (List.append_nil _).symm, .nil⟩
  | cons t ts ih =>
    obtain ⟨cs, htext, spread⟩ := ih (text ++ t.text)
    refine ⟨t.chars ++ cs, ?_, .token spread⟩
    rw [List.foldl_cons, htext, String.toList_append, Token.text, String.toList_ofList,
      List.append_assoc]

lemma isSpace_of_mem_newline {depth : Nat} {c : Char} (mem : c ∈ (newline depth).toList) :
    isSpace c = true := by
  rw [newline, String.toList_ofList] at mem
  rcases List.mem_cons.1 mem with rfl | mem
  · rfl
  · rw [List.eq_of_mem_replicate mem]
    rfl

/-- Around a token there are blanks only. -/
lemma indentedToken_cases (depth : Nat) (fresh : Bool) (t : Token) :
    ∃ before after, (indentedToken depth fresh t).1.toList = before ++ t.chars ++ after ∧
      (∀ c ∈ before, isSpace c = true) ∧ ∀ c ∈ after, isSpace c = true := by
  have lead : ∀ c ∈ (if fresh then newline depth else "").toList, isSpace c = true := by
    split
    · exact fun c mem => isSpace_of_mem_newline mem
    · exact nofun
  have foot : ∀ c ∈ (if fresh then "" else newline (depth - 1)).toList, isSpace c = true := by
    split
    · exact nofun
    · exact fun c mem => isSpace_of_mem_newline mem
  cases t with
  | closeArray | closeObject =>
    exact ⟨_, [], by simp [indentedToken, Token.text], foot, nofun⟩
  | comma =>
    exact ⟨[], (newline depth).toList, by simp [indentedToken, Token.text], nofun,
      fun c mem => isSpace_of_mem_newline mem⟩
  | colon =>
    exact ⟨[], [' '], by simp [indentedToken, Token.text], nofun, List.forall_mem_singleton.2 rfl⟩
  | _ => exact ⟨_, [], by simp [indentedToken, Token.text], lead, nofun⟩

lemma spread_indentedFrom (ts : List Token) (text : String) (depth : Nat) (fresh : Bool) :
    ∃ cs, (indentedFrom text depth fresh ts).toList = text.toList ++ cs ∧ Spread ts cs := by
  induction ts generalizing text depth fresh with
  | nil => exact ⟨[], (List.append_nil _).symm, .nil⟩
  | cons t ts ih =>
    obtain ⟨before, after, hmore, blank, blank'⟩ := indentedToken_cases depth fresh t
    obtain ⟨cs, htext, spread⟩ := ih (text ++ (indentedToken depth fresh t).1)
      (indentedToken depth fresh t).2.1 (indentedToken depth fresh t).2.2
    refine ⟨before ++ (t.chars ++ (after ++ cs)), ?_,
      spread_blanks blank (.token (spread_blanks blank' spread))⟩
    rw [indentedFrom]
    dsimp only
    rw [htext, String.toList_append, hmore]
    simp only [List.append_assoc]

/-- Both layouts of a document are spread out from its tokens. -/
theorem spread_render (pretty : Bool) (v : Json) : Spread v.tokens (v.render pretty).toList := by
  cases pretty with
  | true =>
    obtain ⟨cs, htext, spread⟩ := spread_indentedFrom v.tokens "" 0 false
    rw [render, if_pos rfl, indented, htext]
    exact spread
  | false =>
    obtain ⟨cs, htext, spread⟩ := spread_compactFrom v.tokens ""
    rw [render, if_neg (by decide), compact, htext]
    exact spread

end Json

end Playback
