import Mathlib.Logic.Relation
import Playback.Proofs.ConditionText
import Playback.Proofs.Lineless

/-!
# What the text of a condition tells about its tree

A node whose operator may be regrouped, and whose right operand is an operation that binds as strongly,
can be rotated: `a op (b child c)` becomes `(a op b) child c`. This changes nothing in the text, and goes
on for finitely many steps. What is left when no node can be rotated is the plain condition, which is
read off the text.

Main statement: conditions over names have the same text exactly when they are the same tree once every
node is rotated (`Node.text_eq_iff_rotated`).
-/

namespace Playback

open Relation

/-- A name of letters, which may be a reserved word. -/
structure IsWord (s : String) : Prop where
  ne_nil : s.toList ≠ []
  letters : ∀ c ∈ s.toList, c.isAlpha = true

namespace Node

/-- The node is a name, `not` with its operand on the right, or an operation between two operands, and
so are its operands. -/
inductive OfWords : Node → Prop where
  | identifier {line name} (word : IsWord name) : OfWords (.identifier line name)
  | not {line operand} (h : OfWords operand) : OfWords (.expression line none .not (some operand))
  | binary {line left op right} (binary : op.isUnary = false) (hleft : OfWords left)
      (hright : OfWords right) : OfWords (.expression line (some left) op (some right))

/-- One node of the expression is rotated. -/
inductive Rotates : Node → Node → Prop where
  | here {outer inner line line' left middle right} (regroups : outer.regroups = true)
      (same : inner.precedence = outer.precedence) :
      Rotates
        (.expression line (some left) outer (some (.expression line' (some middle) inner (some right))))
        (.expression line' (some (.expression line (some left) outer (some middle))) inner (some right))
  | left {line left left' op right} (h : Rotates left left') :
      Rotates (.expression line (some left) op right) (.expression line (some left') op right)
  | right {line left op right right'} (h : Rotates right right') :
      Rotates (.expression line left op (some right)) (.expression line left op (some right'))

/-- No node of the expression can be rotated. -/
def Settled (n : Node) : Prop :=
  ∀ m, ¬ n.Rotates m

/-- The expression once its nodes have been rotated until none can be. -/
structure RotatesTo (n m : Node) : Prop where
  steps : ReflTransGen Rotates n m
  settled : m.Settled

/-! ## One rotation -/

lemma isUnary_of_precedence {op child : Operator} (regroups : op.regroups = true)
    (same : child.precedence = op.precedence) : op.isUnary = false ∧ child.isUnary = false := by
  cases op <;> cases child <;>
    first | exact ⟨rfl, rfl⟩ | exact absurd regroups (by decide) | exact absurd same (by decide)

variable {n m : Node}

lemma Rotates.ofWords (h : n.Rotates m) (hn : n.OfWords) : m.OfWords := by
  induction h with
  | here regroups same =>
    obtain ⟨hop, hchild⟩ := isUnary_of_precedence regroups same
    cases hn with
    | binary _ hleft hright =>
      cases hright with
      | binary _ hmiddle hright => exact .binary hchild (.binary hop hleft hmiddle) hright
  | left _ ih =>
    cases hn with
    | binary binary hleft hright => exact .binary binary (ih hleft) hright
  | right _ ih =>
    cases hn with
    | not h => exact .not (ih h)
    | binary binary hleft hright => exact .binary binary hleft (ih hright)

/-- A rotated operand stands between parentheses where the operand did. -/
lemma Rotates.bracketed_eq (h : n.Rotates m) (parent : Operator) (onRight : Bool) (ts : List Lexeme) :
    bracketed parent onRight m ts = bracketed parent onRight n ts := by
  unfold bracketed isEnclosed
  cases h with
  | here regroups same =>
    obtain ⟨hop, hchild⟩ := isUnary_of_precedence regroups same
    rw [binaryOperator?_binary _ hop, binaryOperator?_binary _ hchild]
    simp [Operator.encloses, same]
  | left | right => rfl

/-- A rotation keeps the lexemes: neither grouping has parentheses, and the operand in the middle has
the same ones on both sides. -/
lemma Rotates.lexemes_eq (h : n.Rotates m) (hn : n.OfWords) : m.lexemes = n.lexemes := by
  induction h with
  | @here outer inner line line' left middle right regroups same =>
    obtain ⟨hop, hchild⟩ := isUnary_of_precedence regroups same
    have onRight (ts : List Lexeme) :
        bracketed outer true (expression line' (some middle) inner (some right)) ts = ts := by
      simp [bracketed, isEnclosed, binaryOperator?_binary _ hchild, Operator.encloses, same, regroups]
    have onLeft (ts : List Lexeme) :
        bracketed inner false (expression line (some left) outer (some middle)) ts = ts := by
      simp [bracketed, isEnclosed, binaryOperator?_binary _ hop, Operator.encloses, same]
    rw [lexemes_binary _ hchild, onLeft, lexemes_binary _ hop, lexemes_binary _ hop, onRight,
      lexemes_binary _ hchild, bracketed_regrouped middle regroups same, List.append_assoc,
      List.cons_append]
  | left rotates ih =>
    cases hn with
    | binary binary hleft hright =>
      rw [lexemes_binary _ binary, lexemes_binary _ binary, ih hleft, rotates.bracketed_eq]
  | right rotates ih =>
    cases hn with
    | not h => rw [lexemes_not_right, lexemes_not_right, ih h, rotates.bracketed_eq]
    | binary binary hleft hright =>
      rw [lexemes_binary _ binary, lexemes_binary _ binary, ih hright, rotates.bracketed_eq]

lemma Rotates.plain_eq (h : n.Rotates m) (hn : n.OfWords) : m.plain = n.plain := by
  induction h with
  | here regroups same =>
    obtain ⟨hop, hchild⟩ := isUnary_of_precedence regroups same
    rw [plain_binary _ hchild, plain_binary _ hop, plain_binary _ hop, plain_binary _ hchild,
      graft_graft regroups same]
  | left _ ih =>
    cases hn with
    | binary binary hleft => rw [plain_binary _ binary, plain_binary _ binary, ih hleft]
  | right _ ih =>
    cases hn with
    | not h => rw [plain_not_right, plain_not_right, ih h]
    | binary binary _ hright => rw [plain_binary _ binary, plain_binary _ binary, ih hright]

/-! ## All rotations -/

/-- What is on the right counts twice. -/
def weight : Node → Nat
  | expression _ none _ (some right) => 1 + 2 * right.weight
  | expression _ (some left) _ none => 1 + left.weight
  | expression _ (some left) _ (some right) => 1 + left.weight + 2 * right.weight
  | _ => 1

lemma Rotates.weight_lt (h : n.Rotates m) : m.weight < n.weight := by
  induction h with
  | here => simp only [weight]; omega
  | @left _ _ _ _ right _ ih => cases right <;> simp only [weight] <;> omega
  | @right _ left _ _ _ _ ih => cases left <;> simp only [weight] <;> omega

/-- Every expression can be rotated until it is settled. -/
lemma exists_rotatesTo (n : Node) : ∃ m, n.RotatesTo m := by
  induction hw : n.weight using Nat.strong_induction_on generalizing n with
  | _ w ih =>
    by_cases settled : n.Settled
    · exact ⟨n, .refl, settled⟩
    · obtain ⟨n', rotates⟩ := not_forall_not.1 settled
      obtain ⟨m, steps, done⟩ := ih n'.weight (hw ▸ rotates.weight_lt) n' rfl
      exact ⟨m, .head rotates steps, done⟩

/-- Rotations keep the lexemes and what is read off them. -/
lemma OfWords.rotated (hn : n.OfWords) (h : ReflTransGen Rotates n m) :
    m.OfWords ∧ m.lexemes = n.lexemes ∧ m.plain = n.plain := by
  induction h with
  | refl => exact ⟨hn, rfl, rfl⟩
  | tail _ rotates ih =>
    obtain ⟨words, lexemes, plain⟩ := ih
    exact ⟨rotates.ofWords words, (rotates.lexemes_eq words).trans lexemes,
      (rotates.plain_eq words).trans plain⟩

lemma OfWords.endsOpen (h : n.OfWords) : n.endsOpen = false := by
  induction h with
  | identifier => rfl
  | not _ ih | binary _ _ _ _ ih => simp [Node.endsOpen, ih]

/-- There is no number in the expression, and no substring, so that every level will do. -/
lemma OfWords.throughout (h : n.OfWords) (p : Nat) : n.Throughout (Readable p) := by
  induction h with
  | identifier => exact .identifier ⟨nofun, trivial⟩
  | not _ ih => exact .notRight ⟨nofun, trivial⟩ ih
  | binary binary hleft _ ihleft ihright =>
    refine .binary binary ⟨nofun, fun _ _ opens => ?_⟩ ihleft ihright
    rw [hleft.endsOpen] at opens
    cases opens

/-- A settled expression is plain, but for its lines. -/
lemma OfWords.plain_eq_lineless (h : n.OfWords) (settled : n.Settled) : n.plain = n.lineless := by
  induction h with
  | identifier => rfl
  | not _ ih =>
    rw [plain_not_right, ih fun m rotates => settled _ (.right rotates)]
    rfl
  | @binary line left op right binary hleft hright ihleft ihright =>
    have apart : op.regroups = true → ∀ child, right.binaryOperator? = some child →
        child.precedence ≠ op.precedence := by
      intro regroups child hchild same
      cases hright with
      | identifier => cases hchild
      | not => cases hchild
      | @binary _ _ inner _ hinner =>
        rw [binaryOperator?_binary _ hinner, Option.some.injEq] at hchild
        exact settled _ (.here regroups (hchild ▸ same))
    rw [plain_binary _ binary, (hright.throughout 0).graft_eq apart,
      ihleft fun m rotates => settled _ (.left rotates),
      ihright fun m rotates => settled _ (.right rotates)]
    rfl

end Node

/-! ## The lexemes of words -/

namespace Lexeme

/-- The lexeme is one of an expression over names. -/
def Worded : Lexeme → Prop
  | name s => IsWord s
  | bang | opening | closing | operator _ => True
  | _ => False

/-- The lexeme that is read off the characters of a lexeme: a name may be a reserved word. -/
def seen : Lexeme → Lexeme
  | name s => ofLetters s
  | t => t

lemma next?_seen {t : Lexeme} {rest : List Char} (worded : t.Worded) (fresh : t.Fresh rest) :
    next? (t.chars ++ rest) = some (t.seen, rest) := by
  cases t with
  | name s => exact next?_letters worded.ne_nil worded.letters fresh
  | bang | opening | closing | operator => exact next?_chars trivial trivial
  | _ => cases worded

/-- The lexeme of an expression over names that has the same characters. -/
def named (t : Lexeme) : Lexeme :=
  if t.runs then name (String.ofList t.chars) else t

lemma ofLetters_word (s : String) : (ofLetters s).runs = true ∧ (ofLetters s).chars = s.toList := by
  unfold ofLetters
  split_ifs with h h h h
  all_goals first | exact ⟨rfl, h ▸ rfl⟩ | exact ⟨rfl, rfl⟩

lemma named_seen {t : Lexeme} (worded : t.Worded) : t.seen.named = t := by
  cases t with
  | name s =>
    obtain ⟨runs, chars⟩ := ofLetters_word s
    rw [seen, named, if_pos runs, chars, String.ofList_toList]
  | bang | opening | closing | operator => rfl
  | _ => cases worded

lemma map_named_seen {ts : List Lexeme} (h : ∀ t ∈ ts, t.Worded) : (ts.map seen).map named = ts := by
  rw [List.map_map]
  exact (List.map_congr_left fun t mem => named_seen (h t mem)).trans (List.map_id ts)

end Lexeme

namespace Node

variable {n n' : Node}

lemma OfWords.legal (h : n.OfWords) : Lexeme.Legal Lexeme.Worded n.lexemes := by
  have brackets {parent onRight} {m : Node} (h : Lexeme.Legal Lexeme.Worded m.lexemes) :
      Lexeme.Legal Lexeme.Worded (bracketed parent onRight m m.lexemes) :=
    legal_bracketed trivial trivial h
  induction h with
  | identifier word => exact .single word
  | not _ ih =>
    rw [lexemes_not_right]
    exact .cons trivial rfl (brackets ih)
  | binary binary _ _ ihleft ihright =>
    rw [lexemes_binary _ binary]
    exact (brackets ihleft).append rfl (.cons trivial rfl (brackets ihright))

/-- The text of an expression over names tells its lexemes. -/
lemma OfWords.text_eq_iff (hn : n.OfWords) (hn' : n'.OfWords) :
    n.text = n'.text ↔ n.lexemes = n'.lexemes := by
  have spelled := (hn.throughout 0).text_toList
  have spelled' := (hn'.throughout 0).text_toList
  constructor
  · intro same
    have same' : Lexeme.spelling n.lexemes = Lexeme.spelling n'.lexemes := by
      rw [← spelled, ← spelled', same]
    have seen := Lexeme.map_eq_of_spelling_eq Lexeme.next?_seen hn.legal hn'.legal same'
    rw [← Lexeme.map_named_seen hn.legal.valid, seen, Lexeme.map_named_seen hn'.legal.valid]
  · intro same
    rw [← String.toList_inj, spelled, spelled', same]

/-- Expressions over names can be rotated until they are settled, and they have the same text exactly
when, whatever node is rotated first, they are the same then, lines aside. -/
theorem text_eq_iff_rotated (hn : n.OfWords) (hn' : n'.OfWords) :
    (∃ m, n.RotatesTo m) ∧ (∃ m', n'.RotatesTo m') ∧
      ∀ m m', n.RotatesTo m → n'.RotatesTo m' → (n.text = n'.text ↔ m.lineless = m'.lineless) := by
  refine ⟨exists_rotatesTo n, exists_rotatesTo n', fun m m' settles settles' => ?_⟩
  obtain ⟨words, lexemes, plain⟩ := hn.rotated settles.steps
  obtain ⟨words', lexemes', plain'⟩ := hn'.rotated settles'.steps
  constructor
  · intro same
    have read := plain_eq_of_lexemes_eq (hn.throughout 0) (hn'.throughout 0)
      ((hn.text_eq_iff hn').1 same)
    rwa [← plain, ← plain', words.plain_eq_lineless settles.settled,
      words'.plain_eq_lineless settles'.settled] at read
  · intro same
    have settledText : m.text = m'.text := by rw [← m.text_lineless, ← m'.text_lineless, same]
    rw [words.text_eq_iff words', lexemes, lexemes'] at settledText
    exact (hn.text_eq_iff hn').2 settledText

end Node

/-- The quotient of a variable and a negated one. -/
def Node.quotient : Node :=
  .operation .div (.identifier (some 2) "b") (.expression (some 2) none .not (some (.identifier none "c")))

/-- A variable with the name `true` stands last in both products; the one is grouped from the right, and
the other from the left. -/
theorem Node.text_eq_iff_rotated_quotient :
    let onRight := operation .mul (identifier none "a")
      (operation .mul quotient (identifier (some 3) "true"))
    let onLeft := operation .mul (operation .mul (identifier none "a") quotient) (identifier none "true")
    onRight.text = "a * b / !c * true" ∧ onRight.text = onLeft.text ∧
      ∃ m m', onRight.RotatesTo m ∧ onLeft.RotatesTo m' ∧ m.lineless = m'.lineless := by
  intro onRight onLeft
  have word (line : Option UInt32) (name : String) (hne : name.toList ≠ [])
      (letters : name.toList.all Char.isAlpha = true) : (identifier line name).OfWords :=
    .identifier ⟨hne, List.all_eq_true.1 letters⟩
  have a := word none "a" (by decide) rfl
  have quotient : quotient.OfWords :=
    .binary rfl (word _ "b" (by decide) rfl) (.not (word _ "c" (by decide) rfl))
  have same : onRight.text = onLeft.text := by decide +kernel
  obtain ⟨⟨m, settles⟩, ⟨m', settles'⟩, iff⟩ := text_eq_iff_rotated
    (show onRight.OfWords from .binary rfl a (.binary rfl quotient (word _ "true" (by decide) rfl)))
    (show onLeft.OfWords from .binary rfl (.binary rfl a quotient) (word _ "true" (by decide) rfl))
  exact ⟨by decide +kernel, same, m, m', settles, settles', (iff m m' settles settles').1 same⟩

end Playback
