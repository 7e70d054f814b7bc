import Playback.Evaluation
import Playback.Proofs.Reading

/-!
# What the text of a condition tells

The text of a condition is the spelling of its lexemes, so that conditions with the same text are the
same once they are plain. A plain condition has the value of the condition it comes from, unless a sum
or a product has been regrouped: regrouping `and` and `or` changes nothing, but `+` also joins texts,
and numbers are rounded.

Main statements: the plain condition is told by the text (`Node.plain_eq_of_text_eq`), and so is the
value where the text shows the grouping (`Node.evaluate_eq_of_text_eq`).
-/

namespace Playback

namespace Node

/-! ## Spelling -/

section

variable {op : Operator} (line : Option UInt32)

@[simp] lemma text_not_right (left : Option Node) (operand : Node) :
    (expression line left .not (some operand)).text =
      "!" ++ enclosed .not true operand operand.text := by
  cases left <;> rfl

@[simp] lemma text_not_left (operand : Node) :
    (expression line (some operand) .not none).text =
      "!" ++ enclosed .not true operand operand.text := rfl

lemma text_binary (binary : op.isUnary = false) (left right : Node) :
    (expression line (some left) op (some right)).text =
      enclosed op false left left.text ++ " " ++ op.symbol ++ " " ++
        enclosed op true right right.text := by
  cases op with
  | not => cases binary
  | _ => rfl

lemma text_substring (source : String) (first last : Node) :
    (substring line source first last).text =
      "substring of " ++ source ++ " from " ++ first.text ++ " to " ++ last.text := rfl

end

lemma spelling_bracketed {parent : Operator} {onRight : Bool} {n : Node}
    (h : n.text.toList = Lexeme.spelling n.lexemes) :
    (enclosed parent onRight n n.text).toList =
      Lexeme.spelling (bracketed parent onRight n n.lexemes) := by
  have parens : ("(" ++ n.text ++ ")").toList =
      Lexeme.spelling (.opening :: (n.lexemes ++ [.closing])) := by
    simp only [String.toList_append, h, Lexeme.spelling_cons, Lexeme.spelling_append,
      Lexeme.spelling_nil, List.append_nil]
    rfl
  unfold enclosed bracketed isEnclosed
  cases n.binaryOperator? with
  | none => exact h
  | some child =>
    dsimp only
    split
    · exact parens
    · exact h

/-- The text of a condition is the spelling of its lexemes. -/
theorem Throughout.text_toList {P : Node → Prop} {n : Node} (h : n.Throughout P) :
    n.text.toList = Lexeme.spelling n.lexemes := by
  induction h with
  | identifier | number | boolean => exact (List.append_nil _).symm
  | @string _ value =>
    show ("\"" ++ value ++ "\"").toList = ('"' :: (value.toList ++ ['"'])) ++ []
    rw [String.toList_append, String.toList_append, List.append_nil]
    rfl
  | @length _ source =>
    show ("length of " ++ source).toList = _
    rw [String.toList_append, ← List.append_nil source.toList]
    rfl
  | substring _ _ _ ihfirst ihlast =>
    simp only [text_substring, lexemes, String.toList_append, ihfirst, ihlast,
      Lexeme.spelling_cons, Lexeme.spelling_append, List.append_assoc]
    rfl
  | notRight _ _ ih =>
    rw [text_not_right, lexemes_not_right, String.toList_append, spelling_bracketed ih]
    rfl
  | notLeft _ _ ih =>
    rw [text_not_left, lexemes_not_left, String.toList_append, spelling_bracketed ih]
    rfl
  | @binary _ _ op _ binary _ _ _ ihleft ihright =>
    have operator : (Lexeme.operator op).chars = " ".toList ++ op.symbol.toList ++ " ".toList := rfl
    simp only [text_binary _ binary, lexemes_binary _ binary, String.toList_append,
      spelling_bracketed ihleft, spelling_bracketed ihright, Lexeme.spelling_append,
      Lexeme.spelling_cons, operator, List.append_assoc]

lemma legal_bracketed {P : Lexeme → Prop} (hopening : P .opening) (hclosing : P .closing)
    {parent : Operator} {onRight : Bool} {n : Node} (h : Lexeme.Legal P n.lexemes) :
    Lexeme.Legal P (bracketed parent onRight n n.lexemes) := by
  unfold bracketed
  split
  · exact .cons hopening rfl (h.append rfl (.single hclosing))
  · exact h

lemma Throughout.legal {n : Node} (h : n.Throughout Spelled) :
    Lexeme.Legal Lexeme.Valid n.lexemes := by
  have brackets {parent onRight} {m : Node} (h : Lexeme.Legal Lexeme.Valid m.lexemes) :
      Lexeme.Legal Lexeme.Valid (bracketed parent onRight m m.lexemes) :=
    legal_bracketed trivial trivial h
  induction h with
  | identifier h => exact .single h
  | number h => exact .single (Lexeme.valid_number h)
  | string h => exact .single h
  | boolean => exact .single trivial
  | length h =>
    have word : Lexeme.Legal Lexeme.Valid [.lengthWord] := .single trivial
    exact word.append rfl (.cons trivial rfl (.single h))
  | @substring _ source _ _ h _ _ ihfirst ihlast =>
    have name : Lexeme.Legal Lexeme.Valid [.name source] := .single h
    have stop : Lexeme.Legal Lexeme.Valid (.toWord :: _) := .cons trivial rfl ihlast
    have bounds : Lexeme.Legal Lexeme.Valid (.fromWord :: _) := .cons trivial rfl (ihfirst.append rfl stop)
    have word : Lexeme.Legal Lexeme.Valid [.substringWord] := .single trivial
    have opened : Lexeme.Legal Lexeme.Valid (.ofWord :: _) := .cons trivial rfl (name.append rfl bounds)
    exact word.append rfl opened
  | notRight _ _ ih =>
    rw [lexemes_not_right]
    exact .cons trivial rfl (brackets ih)
  | notLeft _ _ ih =>
    rw [lexemes_not_left]
    exact .cons trivial rfl (brackets ih)
  | binary binary _ _ _ ihleft ihright =>
    rw [lexemes_binary _ binary]
    exact (brackets ihleft).append rfl (.cons trivial rfl (brackets ihright))

variable {p : Nat} {n n' : Node}

lemma Throughout.mono {P Q : Node → Prop} (h : n.Throughout P) (imp : ∀ m, P m → Q m) :
    n.Throughout Q := by
  induction h with
  | identifier h => exact .identifier (imp _ h)
  | number h => exact .number (imp _ h)
  | string h => exact .string (imp _ h)
  | boolean h => exact .boolean (imp _ h)
  | length h => exact .length (imp _ h)
  | substring h _ _ ihfirst ihlast => exact .substring (imp _ h) ihfirst ihlast
  | notRight h _ ih => exact .notRight (imp _ h) ih
  | notLeft h _ ih => exact .notLeft (imp _ h) ih
  | binary binary h _ _ ihleft ihright => exact .binary binary (imp _ h) ihleft ihright

/-- All of a readable condition is read, and nothing is left. -/
lemma Throughout.reads (h : n.Throughout (Readable p)) :
    Reads p (.expression 0) n.lexemes n.plain [] := by
  have followed : n.Followed p [] := ⟨fun _ _ => below_nil _, fun _ => below_nil _⟩
  have reads := (readsBack h).alone 0 [] n.plain [] (fun _ _ => Nat.zero_le _) followed
    (.stop (below_nil 0))
  rwa [List.append_nil] at reads

/-- Readable conditions with the same lexemes are the same once they are plain. -/
lemma plain_eq_of_lexemes_eq (hn : n.Throughout (Readable p)) (hn' : n'.Throughout (Readable p))
    (h : n.lexemes = n'.lexemes) : n.plain = n'.plain := by
  have reads := hn.reads
  rw [h] at reads
  exact (hn'.reads.unique reads).1

/-- Legible conditions with the same text are the same once they are plain. -/
theorem plain_eq_of_text_eq (hn : n.Throughout (Legible p)) (hn' : n'.Throughout (Legible p))
    (h : n.text = n'.text) : n.plain = n'.plain := by
  have legal := (hn.mono fun _ legible => legible.spelled).legal
  have legal' := (hn'.mono fun _ legible => legible.spelled).legal
  refine plain_eq_of_lexemes_eq (hn.mono fun _ legible => legible.readable)
    (hn'.mono fun _ legible => legible.readable) (Lexeme.spelling_injective legal legal' ?_)
  rw [← hn.text_toList, ← hn'.text_toList, h]

/-! ## Meaning -/

/-- The grouping of sums and products is shown, and so is the sign of zero. -/
def Explicit : Node → Prop
  | number _ value => value ≠ -0.0
  | expression _ (some _) op (some right) =>
    op = .add ∨ op = .mul → ∀ child, right.binaryOperator? = some child →
      child.precedence ≠ op.precedence
  | _ => True

lemma binary_regrouped {op : Operator} (logical : op = .and ∨ op = .or) (a b c : Value) :
    (Value.binary op a.primitive b.primitive).bind (fun x => Value.binary op x.primitive c.primitive) =
      (Value.binary op b.primitive c.primitive).bind fun y =>
        Value.binary op a.primitive y.primitive := by
  rcases logical with rfl | rfl
  · simp [Value.binary, Except.bind, Value.isTruthy, Value.primitive, Bool.and_assoc]
  · simp [Value.binary, Except.bind, Value.isTruthy, Value.primitive, Bool.or_assoc]

/-- Regrouping `and` and `or` keeps the value and the fault. -/
lemma evaluate_graft {op : Operator} (logical : op = .and ∨ op = .or) (store : Store) (left : Node) :
    ∀ right, (graft op left right).evaluate store =
      (expression none (some left) op (some right)).evaluate store
  | expression line (some l) child (some r) => by
    have binary : op.isUnary = false := by rcases logical with rfl | rfl <;> rfl
    rw [graft]
    split
    · next same =>
      have hchild : child = op := by
        rcases logical with rfl | rfl <;> cases child <;> simp_all [Operator.precedence]
      subst hchild
      simp only [evaluate_binary _ _ binary, evaluate_graft logical store left l]
      cases left.evaluate store with
      | error => rfl
      | ok a =>
        cases l.evaluate store with
        | error => rfl
        | ok b =>
          cases r.evaluate store with
          | error => rcases logical with rfl | rfl <;> rfl
          | ok c => exact binary_regrouped logical a b c
    · rw [evaluate_binary store none binary]
  | expression _ none _ _ | expression _ (some _) _ none | identifier .. | number .. | string ..
  | boolean .. | length .. | substring .. | declaration .. | print .. | branch .. | loopUntil ..
  | loopFromTo .. | function .. | ret .. | unsupported .. => rfl

/-- A plain condition has the value of the condition, where the text shows the grouping. -/
theorem Throughout.evaluate_plain (h : n.Throughout Explicit) (store : Store) :
    n.plain.evaluate store = n.evaluate store := by
  induction h with
  | identifier | string | boolean | length => rfl
  | number h =>
    rw [plain, if_neg h]
    rfl
  | substring _ _ _ ihfirst ihlast => simp only [plain, evaluate, ihfirst, ihlast]
  | notRight _ _ ih => rw [plain_not_right, evaluate_not_right, evaluate_not_right, ih]
  | notLeft _ _ ih => rw [plain_not_left, evaluate_not_right, evaluate_not_left, ih]
  | @binary _ left op right binary h _ hright ihleft ihright =>
    have grouping : (graft op left.plain right.plain).evaluate store =
        (expression none (some left.plain) op (some right.plain)).evaluate store := by
      by_cases logical : op = .and ∨ op = .or
      · exact evaluate_graft logical store _ _
      · have apart : op.regroups = true → op = .add ∨ op = .mul := by
          intro regroups
          cases op <;> simp_all [Operator.regroups]
        rw [hright.graft_eq fun regroups => h (apart regroups)]
    rw [plain_binary _ binary, grouping, evaluate_binary _ _ binary, evaluate_binary _ _ binary,
      ihleft, ihright]

/-- Where the text shows the grouping, it tells the value and the fault in every store. -/
theorem evaluate_eq_of_text_eq (hn : n.Throughout (Legible p)) (hn' : n'.Throughout (Legible p))
    (explicit : n.Throughout Explicit) (explicit' : n'.Throughout Explicit) (h : n.text = n'.text)
    (store : Store) : n.evaluate store = n'.evaluate store := by
  rw [← explicit.evaluate_plain, ← explicit'.evaluate_plain, plain_eq_of_text_eq hn hn' h]

end Node

/-! ## Conditions with the same text -/

section

open Node

/-- An operation between two operands. -/
def Node.operation (op : Operator) (left right : Node) : Node :=
  expression none (some left) op (some right)

/-- The first characters of `s`, one more than `n` says, are compared. -/
def comparesPart : Node :=
  operation .equal
    (substring none "s" (number none 0) (operation .add (identifier none "n") (number none 1)))
    (string none "abc")

/-- The level 4 shows that the bound `n + 1` goes on behind `n` and that it ends in front of `==`. -/
theorem evaluate_eq_of_text_eq_comparesPart :
    let store := ((Store.empty.set "s" (.text "abcd")).set "n" (.number 2)).set "b" (.truth true)
    let left := operation .and (operation .and comparesPart (identifier none "b")) (boolean none true)
    let right := operation .and comparesPart (operation .and (identifier none "b") (boolean none true))
    left.text = "substring of s from 0 to n + 1 == \"abc\" and b and true" ∧ left.text = right.text ∧
      left.evaluate store = .ok (.truth true) ∧ left.evaluate store = right.evaluate store := by
  intro store left right
  have s : IsName "s" := ⟨by decide, List.all_eq_true.1 rfl, by decide⟩
  have n : IsName "n" := ⟨by decide, List.all_eq_true.1 rfl, by decide⟩
  have b : IsName "b" := ⟨by decide, List.all_eq_true.1 rfl, by decide⟩
  have abc : (string none "abc").Spelled := show '"' ∉ "abc".toList by decide
  have zero : (number none 0).Explicit := show (0 : Float) ≠ -0.0 by decide
  have one : (number none 1).Explicit := show (1 : Float) ≠ -0.0 by decide
  have legible : comparesPart.Throughout (Legible 4) := by
    refine .binary rfl ⟨trivial, fun _ _ _ => by decide⟩ (.substring ⟨s, ?_⟩ ?_ ?_) (.string ?_)
    · rintro child ⟨⟩
      decide
    · exact .number ⟨rfl, trivial⟩
    · exact .binary rfl ⟨trivial, nofun⟩ (.identifier ⟨n, trivial⟩) (.number ⟨rfl, trivial⟩)
    · exact ⟨abc, trivial⟩
  have explicit : comparesPart.Throughout Explicit := by
    refine .binary rfl (fun _ => nofun) (.substring trivial (.number zero) ?_) (.string trivial)
    exact .binary rfl (fun _ => nofun) (.identifier trivial) (.number one)
  have flag : (identifier none "b").Throughout (Legible 4) := .identifier ⟨b, trivial⟩
  have truth : (boolean none true).Throughout (Legible 4) := .boolean ⟨trivial, trivial⟩
  have and (l r : Node) : (operation .and l r).Legible 4 := ⟨trivial, fun _ _ _ => by decide⟩
  have and' (l r : Node) : (operation .and l r).Explicit := by rintro (h | h) <;> cases h
  have same : left.text = right.text := by decide +kernel
  refine ⟨by decide +kernel, same, by decide +kernel, ?_⟩
  refine evaluate_eq_of_text_eq (p := 4) ?_ ?_ ?_ ?_ same store
  · exact .binary rfl (and _ _) (.binary rfl (and _ _) legible flag) truth
  · exact .binary rfl (and _ _) legible (.binary rfl (and _ _) flag truth)
  · exact .binary rfl (and' _ _) (.binary rfl (and' _ _) explicit (.identifier trivial)) (.boolean trivial)
  · exact .binary rfl (and' _ _) explicit (.binary rfl (and' _ _) (.identifier trivial) (.boolean trivial))

/-- The conditions have the same text and different values. -/
structure Confused (store : Store) (n n' : Node) : Prop where
  spelled : n.Throughout Spelled ∧ n'.Throughout Spelled
  same : n.text = n'.text
  differ : n.evaluate store ≠ n'.evaluate store

/-- The text tells neither how a sum or a product is grouped, nor where the bound of a substring ends,
nor the sign of zero. -/
theorem text_confuses :
    Confused .empty
      (operation .add (operation .add (string none "a") (number none 1)) (number none 2))
      (operation .add (string none "a") (operation .add (number none 1) (number none 2))) ∧
    Confused .empty
      (operation .mul (operation .mul (number none 0.1) (number none 0.2)) (number none 0.3))
      (operation .mul (number none 0.1) (operation .mul (number none 0.2) (number none 0.3))) ∧
    Confused ((Store.empty.set "s" (.text "abcd")).set "n" (.number 2))
      (operation .add (substring none "s" (number none 0) (identifier none "n")) (number none 1))
      (substring none "s" (number none 0)
        (operation .add (identifier none "n") (number none 1))) ∧
    Confused (Store.empty.set "x" (.number (0.0 / 0.0)))
      (operation .less (identifier none "x") (number none 0))
      (operation .less (identifier none "x") (number none (-0.0))) := by
  have s : IsName "s" := ⟨by decide, List.all_eq_true.1 rfl, by decide⟩
  have n : IsName "n" := ⟨by decide, List.all_eq_true.1 rfl, by decide⟩
  have x : IsName "x" := ⟨by decide, List.all_eq_true.1 rfl, by decide⟩
  have a : (string none "a").Spelled := show '"' ∉ "a".toList by decide
  refine ⟨⟨⟨?_, ?_⟩, by decide +kernel, by decide +kernel⟩,
    ⟨⟨?_, ?_⟩, by decide +kernel, by decide +kernel⟩,
    ⟨⟨?_, ?_⟩, by decide +kernel, by decide +kernel⟩,
    ⟨⟨?_, ?_⟩, by decide +kernel, by decide +kernel⟩⟩
  · exact .binary rfl trivial (.binary rfl trivial (.string a) (.number rfl)) (.number rfl)
  · exact .binary rfl trivial (.string a) (.binary rfl trivial (.number rfl) (.number rfl))
  · exact .binary rfl trivial (.binary rfl trivial (.number rfl) (.number rfl)) (.number rfl)
  · exact .binary rfl trivial (.number rfl) (.binary rfl trivial (.number rfl) (.number rfl))
  · exact .binary rfl trivial (.substring s (.number rfl) (.identifier n)) (.number rfl)
  · exact .substring s (.number rfl) (.binary rfl trivial (.identifier n) (.number rfl))
  · exact .binary rfl trivial (.identifier x) (.number rfl)
  · exact .binary rfl trivial (.identifier x) (.number rfl)

end

end Playback
