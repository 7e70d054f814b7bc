import Playback.Json.Reader
import Playback.Proofs.Layout

/-!
# Reading printed documents

A document that is printed in either layout reads as itself again. Its text is read as its tokens;
from these the reader builds the value as it is spelled, which has all strings as single characters;
and decoding gives the value back where it `Json.Fits`: the numbers are in the range of the reader,
an object has no name twice, and containers are nested no deeper than allowed.

Main statements: what fits is read back from both layouts (`Json.ofText?_render`), and what was
decoded fits (`Json.fits_of_decode?`).
-/

namespace Playback

namespace Json

/-- Induction on a value, with all elements or all values of fields at once. -/
@[elab_as_elim]
lemma tree_induction {motive : Json → Prop} (null : motive .null) (bool : ∀ b, motive (.bool b))
    (number : ∀ n, motive (.number n)) (string : ∀ s, motive (.string s))
    (array : ∀ vs, (∀ v ∈ vs, motive v) → motive (.array vs))
    (object : ∀ fs, (∀ f ∈ fs, motive f.2) → motive (.object fs)) (v : Json) : motive v := by
  refine @JsonTree.rec String motive (fun vs => ∀ v ∈ vs, motive v) (fun fs => ∀ f ∈ fs, motive f.2)
    (fun f => motive f.2) null bool number string array object ?_ ?_ ?_ ?_ ?_ v
  · exact nofun
  · exact fun v vs head tail => List.forall_mem_cons.2 ⟨head, tail⟩
  · exact nofun
  · exact fun f fs head tail => List.forall_mem_cons.2 ⟨head, tail⟩
  · exact fun k v h => h

/-! ## Tokens -/

mutual

lemma tokensOnto_eq (done : List Token) : ∀ v, tokensOnto done v = tokensOnto [] v ++ done
  | .null | .bool _ | .number _ | .string _ => rfl
  | .array vs => by
    rw [tokensOnto, tokensOnto, elementsOnto_eq _ vs, elementsOnto_eq [_] vs]
    simp
  | .object fs => by
    rw [tokensOnto, tokensOnto, fieldsOnto_eq _ fs, fieldsOnto_eq [_] fs]
    simp

lemma elementsOnto_eq (done : List Token) : ∀ vs, elementsOnto done vs = elementsOnto [] vs ++ done
  | [] => rfl
  | [v] => by
    rw [elementsOnto, elementsOnto, tokensOnto_eq _ v]
  | v :: w :: vs => by
    rw [elementsOnto, elementsOnto, elementsOnto_eq _ (w :: vs), elementsOnto_eq (_ :: _) (w :: vs),
      tokensOnto_eq _ v]
    simp

lemma fieldsOnto_eq (done : List Token) : ∀ fs, fieldsOnto done fs = fieldsOnto [] fs ++ done
  | [] => rfl
  | [(k, v)] => by
    rw [fieldsOnto, fieldsOnto, tokensOnto_eq _ v, tokensOnto_eq [_, _] v]
    simp
  | (k, v) :: g :: fs => by
    rw [fieldsOnto, fieldsOnto, fieldsOnto_eq _ (g :: fs), fieldsOnto_eq (_ :: _) (g :: fs),
      tokensOnto_eq _ v, tokensOnto_eq [_, _] v]
    simp

end

/-- The tokens of a field. -/
def fieldTokens (f : String × Json) : List Token :=
  stringToken f.1 :: .colon :: f.2.tokens

/-- What follows the first part of a container: each further part with a comma in front. -/
def following (parts : List (List Token)) : List Token :=
  parts.flatMap (.comma :: ·)

lemma elementsOnto_cons (v : Json) (vs : List Json) :
    (elementsOnto [] (v :: vs)).reverse = v.tokens ++ following (vs.map tokens) := by
  induction vs generalizing v with
  | nil => simp [elementsOnto, tokens, following]
  | cons w vs ih =>
    rw [elementsOnto, elementsOnto_eq, List.reverse_append, ih]
    simp [tokens, following]

lemma fieldsOnto_cons (f : String × Json) (fs : List (String × Json)) :
    (fieldsOnto [] (f :: fs)).reverse = fieldTokens f ++ following (fs.map fieldTokens) := by
  induction fs generalizing f with
  | nil =>
    obtain ⟨k, v⟩ := f
    rw [fieldsOnto, tokensOnto_eq]
    simp [fieldTokens, tokens, following]
  | cons g fs ih =>
    obtain ⟨k, v⟩ := f
    rw [fieldsOnto, fieldsOnto_eq, tokensOnto_eq, List.reverse_append, ih]
    simp [fieldTokens, tokens, following]

/-- A container: its parts with commas between them, and a bracket on either side. -/
def enclosed (first last : Token) : List (List Token) → List Token
  | [] => [first, last]
  | part :: parts => first :: (part ++ (following parts ++ [last]))

lemma tokens_array (vs : List Json) :
    tokens (.array vs) = enclosed .openArray .closeArray (vs.map tokens) := by
  cases vs with
  | nil => rfl
  | cons v vs =>
    rw [tokens, tokensOnto, elementsOnto_eq, List.reverse_cons, List.reverse_append, elementsOnto_cons]
    simp [enclosed]

lemma tokens_object (fs : List (String × Json)) :
    tokens (.object fs) = enclosed .openObject .closeObject (fs.map fieldTokens) := by
  cases fs with
  | nil => rfl
  | cons f fs =>
    rw [tokens, tokensOnto, fieldsOnto_eq, List.reverse_cons, List.reverse_append, fieldsOnto_cons]
    simp [enclosed]

/-! ## What the tokens are -/

section

open Token

variable {t first last : Token} {ts rest : List Token} {parts : List (List Token)}

lemma mem_following (mem : t ∈ following parts) : t = .comma ∨ ∃ part ∈ parts, t ∈ part := by
  obtain ⟨part, hpart, mem⟩ := List.mem_flatMap.1 mem
  exact (List.mem_cons.1 mem).imp_right fun mem => ⟨part, hpart, mem⟩

lemma isWhole_of_mem_enclosed (hfirst : first.IsWhole) (hlast : last.IsWhole)
    (h : ∀ part ∈ parts, ∀ t ∈ part, t.IsWhole) : ∀ t ∈ enclosed first last parts, t.IsWhole := by
  intro t mem
  cases parts with
  | nil =>
    rcases List.mem_cons.1 mem with rfl | mem
    · exact hfirst
    · rw [List.mem_singleton.1 mem]
      exact hlast
  | cons part parts =>
    rcases List.mem_cons.1 mem with rfl | mem
    · exact hfirst
    rcases List.mem_append.1 mem with mem | mem
    · exact h part (.head _) t mem
    rcases List.mem_append.1 mem with mem | mem
    · obtain rfl | ⟨part', hpart, mem⟩ := mem_following mem
      · trivial
      · exact h part' (.tail _ hpart) t mem
    · rw [List.mem_singleton.1 mem]
      exact hlast

lemma isWhole_stringToken (s : String) : (stringToken s).IsWhole := by
  intro p mem
  obtain ⟨c, -, rfl⟩ := List.mem_map.1 mem
  exact ⟨c, rfl⟩

/-- Strings are printed without halves of surrogate pairs. -/
lemma isWhole_of_mem_tokens (v : Json) : ∀ t ∈ v.tokens, t.IsWhole := by
  induction v using tree_induction with
  | null | bool _ | number _ =>
    intro t mem
    cases List.mem_singleton.1 mem
    trivial
  | string s =>
    intro t mem
    cases List.mem_singleton.1 mem
    exact isWhole_stringToken s
  | array vs ih =>
    rw [tokens_array]
    exact isWhole_of_mem_enclosed trivial trivial (List.forall_mem_map.2 ih)
  | object fs ih =>
    rw [tokens_object]
    refine isWhole_of_mem_enclosed trivial trivial (List.forall_mem_map.2 fun f hf => ?_)
    exact List.forall_mem_cons.2 ⟨isWhole_stringToken f.1, List.forall_mem_cons.2 ⟨trivial, ih f hf⟩⟩

/-- No word stands at the front. -/
def Clear (ts : List Token) : Prop :=
  ∀ t ∈ ts.head?, t.isWord = false

/-- In front of what begins with no word, the tokens make no two words stand side by side. -/
def KeepsApart (ts : List Token) : Prop :=
  ∀ rest, Clear rest → Separated rest → Separated (ts ++ rest)

lemma clear_mark (mark : t.isWord = false) : Clear (t :: rest) := by
  intro u mem
  cases mem
  exact mark

lemma separated_mark (mark : t.isWord = false) (separated : Separated rest) :
    Separated (t :: rest) :=
  List.isChain_cons.2 ⟨fun _ _ word => absurd (mark.symm.trans word) (by decide), separated⟩

lemma keepsApart_single (t : Token) : KeepsApart [t] := fun _ clear separated =>
  List.isChain_cons.2 ⟨fun u mem _ => clear u mem, separated⟩

lemma clear_following (clear : Clear rest) : Clear (following parts ++ rest) := by
  cases parts with
  | nil => exact clear
  | cons part parts => exact clear_mark rfl

lemma keepsApart_following (h : ∀ part ∈ parts, KeepsApart part) : KeepsApart (following parts) := by
  intro rest clear separated
  induction parts with
  | nil => exact separated
  | cons part parts ih =>
    have behind := ih fun p mem => h p (.tail _ mem)
    have more := h part (.head _) _ (clear_following clear) behind
    rw [following, List.flatMap_cons, List.append_assoc]
    exact separated_mark rfl more

lemma keepsApart_enclosed (hfirst : first.isWord = false) (hlast : last.isWord = false)
    (h : ∀ part ∈ parts, KeepsApart part) : KeepsApart (enclosed first last parts) := by
  intro rest _ separated
  have closed : Separated (last :: rest) := separated_mark hlast separated
  cases parts with
  | nil => exact separated_mark hfirst closed
  | cons part parts =>
    have behind := keepsApart_following (fun p mem => h p (.tail _ mem)) _ (clear_mark hlast) closed
    have more := h part (.head _) _ (clear_following (clear_mark hlast)) behind
    have whole : enclosed first last (part :: parts) ++ rest =
        first :: (part ++ (following parts ++ last :: rest)) := by simp [enclosed]
    rw [whole]
    exact separated_mark hfirst more

lemma keepsApart_tokens (v : Json) : KeepsApart v.tokens := by
  induction v using tree_induction with
  | null | bool _ | number _ | string _ => exact keepsApart_single _
  | array vs ih =>
    rw [tokens_array]
    exact keepsApart_enclosed rfl rfl (List.forall_mem_map.2 ih)
  | object fs ih =>
    rw [tokens_object]
    refine keepsApart_enclosed rfl rfl (List.forall_mem_map.2 fun f hf rest clear separated => ?_)
    exact separated_mark rfl (separated_mark rfl (ih f hf rest clear separated))

end

/-- A printed document is read as its tokens. -/
lemma scan?_render (pretty : Bool) (v : Json) : Token.scan? (v.render pretty) = some v.tokens := by
  have separated := keepsApart_tokens v [] nofun .nil
  rw [List.append_nil] at separated
  exact Token.scan?_eq_of_spread (spread_render pretty v) separated (isWhole_of_mem_tokens v)

/-! ## Building the value as it is spelled -/

mutual

/-- The value with its strings as single characters. -/
def spelled : Json → RawJson
  | .null => .null
  | .bool b => .bool b
  | .number n => .number n
  | .string s => .string (s.toList.map .char)
  | .array vs => .array (spelledAll vs)
  | .object fs => .object (spelledFields fs)

/-- The elements with their strings as single characters. -/
def spelledAll : List Json → List RawJson
  | [] => []
  | v :: vs => spelled v :: spelledAll vs

/-- The fields with their names and strings as single characters. -/
def spelledFields : List (String × Json) → List (List Piece × RawJson)
  | [] => []
  | (k, v) :: fs => (k.toList.map .char, spelled v) :: spelledFields fs

end

section

open RawJson

variable {outer : List Unclosed} {ts : List Token}

/-- Where a value must follow, its tokens complete it. -/
def Builds (v : Json) : Prop :=
  ∀ outer ts, build? (.value outer) (v.tokens ++ ts) = build? (.complete v.spelled outer) ts

lemma build?_cons {p q : Partial} {t : Token} (h : step? p t = some q) (ts : List Token) :
    build? p (t :: ts) = build? q ts := by
  rw [build?, h]

/-- Behind an opening bracket, the first element is built as it is elsewhere. -/
lemma build?_opened (v : Json) : build? (.opened outer) (v.tokens ++ ts) =
    build? (.value (.array [] :: outer)) (v.tokens ++ ts) := by
  obtain ⟨t, more, htokens, h⟩ : ∃ t more, v.tokens = t :: more ∧
      step? (.opened outer) t = step? (.value (.array [] :: outer)) t := by
    cases v with
    | null | bool _ | number _ | string _ => exact ⟨_, [], rfl, rfl⟩
    | array vs =>
      rw [tokens_array]
      cases vs <;> exact ⟨_, _, rfl, rfl⟩
    | object fs =>
      rw [tokens_object]
      cases fs <;> exact ⟨_, _, rfl, rfl⟩
  rw [htokens, List.cons_append, build?, build?, h]

lemma build?_elements {vs : List Json} (h : ∀ v ∈ vs, Builds v) (v : RawJson) (done : List RawJson) :
    build? (.complete v (.array done :: outer)) (following (vs.map tokens) ++ .closeArray :: ts) =
      build? (.complete (.array (done.reverse ++ v :: spelledAll vs)) outer) ts := by
  induction vs generalizing v done with
  | nil =>
    rw [List.map_nil, following, List.flatMap_nil, List.nil_append, build?_cons rfl, List.reverse_cons]
    rfl
  | cons w vs ih =>
    have more : following ((w :: vs).map tokens) ++ .closeArray :: ts =
        .comma :: (w.tokens ++ (following (vs.map tokens) ++ .closeArray :: ts)) := by
      simp [following]
    rw [more, build?_cons rfl, h w (.head _), ih fun u mem => h u (.tail _ mem)]
    rw [List.reverse_cons, List.append_assoc]
    rfl

/-- From an opening brace or a comma on, a field is built up to its value. -/
lemma build?_field {mayClose : Bool} {done : List (List Piece × RawJson)} {f : String × Json}
    (h : Builds f.2) : build? (.name done mayClose outer) (fieldTokens f ++ ts) =
      build? (.complete f.2.spelled (.object done (f.1.toList.map .char) :: outer)) ts := by
  have named : step? (.name done mayClose outer) (stringToken f.1) =
      some (.named done (f.1.toList.map .char) outer) := by
    cases mayClose <;> rfl
  rw [fieldTokens, List.cons_append, List.cons_append, build?_cons named, build?_cons rfl, h]

lemma build?_fields {fs : List (String × Json)} (h : ∀ f ∈ fs, Builds f.2) (v : RawJson)
    (done : List (List Piece × RawJson)) (key : List Piece) :
    build? (.complete v (.object done key :: outer))
        (following (fs.map fieldTokens) ++ .closeObject :: ts) =
      build? (.complete (.object (done.reverse ++ (key, v) :: spelledFields fs)) outer) ts := by
  induction fs generalizing v done key with
  | nil =>
    rw [List.map_nil, following, List.flatMap_nil, List.nil_append, build?_cons rfl, List.reverse_cons]
    rfl
  | cons f fs ih =>
    have more : following ((f :: fs).map fieldTokens) ++ .closeObject :: ts =
        .comma :: (fieldTokens f ++ (following (fs.map fieldTokens) ++ .closeObject :: ts)) := by
      simp [following]
    rw [more, build?_cons rfl, build?_field (h f (.head _)), ih fun g mem => h g (.tail _ mem)]
    rw [List.reverse_cons, List.append_assoc]
    rfl

/-- The tokens of a value build the value as it is spelled. -/
lemma builds (v : Json) : Builds v := by
  induction v using tree_induction with
  | null | bool _ | number _ | string _ => exact fun _ _ => rfl
  | array vs ih =>
    intro outer ts
    rw [tokens_array]
    cases vs with
    | nil => rfl
    | cons v vs =>
      have whole : enclosed .openArray .closeArray ((v :: vs).map tokens) ++ ts =
          .openArray :: (tokens v ++ (following (vs.map tokens) ++ .closeArray :: ts)) := by
        simp [enclosed]
      rw [whole, build?_cons rfl, build?_opened, ih v (.head _),
        build?_elements fun w mem => ih w (.tail _ mem)]
      rfl
  | object fs ih =>
    intro outer ts
    rw [tokens_object]
    cases fs with
    | nil => rfl
    | cons f fs =>
      have whole : enclosed .openObject .closeObject ((f :: fs).map fieldTokens) ++ ts =
          .openObject :: (fieldTokens f ++ (following (fs.map fieldTokens) ++ .closeObject :: ts)) := by
        simp [enclosed]
      rw [whole, build?_cons rfl, build?_field (ih f (.head _)),
        build?_fields fun g mem => ih g (.tail _ mem)]
      rfl

end

lemma rawOfText?_render (pretty : Bool) (v : Json) :
    RawJson.ofText? (v.render pretty) = some v.spelled := by
  have built := builds v [] []
  rw [List.append_nil] at built
  rw [RawJson.ofText?, scan?_render, Option.bind_some, RawJson.ofTokens?, built]
  rfl

/-! ## Decoding -/

/-- The value can be decoded as it stands: numbers are in range, no name is there twice in an
object, and at most `depth` containers stand inside one another. -/
inductive Fits : Nat → Json → Prop where
  | null {depth} : Fits depth .null
  | bool {depth b} : Fits depth (.bool b)
  | number {depth n} (range : n.isInRange = true) : Fits depth (.number n)
  | string {depth s} : Fits depth (.string s)
  | array {depth vs} (all : ∀ v ∈ vs, Fits depth v) : Fits (depth + 1) (.array vs)
  | object {depth fs} (all : ∀ f ∈ fs, Fits depth f.2) (distinct : (fs.map Prod.fst).Nodup) :
      Fits (depth + 1) (.object fs)

lemma Fits.mono {depth more : Nat} {v : Json} (fits : Fits depth v) (le : depth ≤ more) :
    Fits more v := by
  induction fits generalizing more with
  | null => exact .null
  | bool => exact .bool
  | number range => exact .number range
  | string => exact .string
  | array _ ih =>
    cases more with
    | zero => cases le
    | succ more => exact .array fun v mem => ih v mem (Nat.le_of_succ_le_succ le)
  | object _ distinct ih =>
    cases more with
    | zero => cases le
    | succ more => exact .object (fun f mem => ih f mem (Nat.le_of_succ_le_succ le)) distinct

lemma get?_eq_none_iff {key : String} {fs : List (String × Json)} :
    get? key fs = none ↔ key ∉ fs.map Prod.fst := by
  induction fs with
  | nil => simp [get?]
  | cons f fs ih =>
    obtain ⟨k, v⟩ := f
    by_cases h : k = key
    · simp [get?, h]
    · simp [get?, h, ih, Ne.symm h]

lemma mem_of_get? {key : String} {fs : List (String × Json)} {v : Json} (h : get? key fs = some v) :
    (key, v) ∈ fs := by
  induction fs with
  | nil => cases h
  | cons f fs ih =>
    rw [get?] at h
    split at h
    next same =>
      cases h
      exact same ▸ .head _
    next => exact .tail _ (ih h)

section

open RawJson

lemma decodeFrom?_chars (done cs : List Char) :
    decodeFrom? done (cs.map .char) = some (done.reverse ++ cs) := by
  induction cs generalizing done with
  | nil => simp [decodeFrom?]
  | cons c cs ih => simp [decodeFrom?, ih]

lemma decodeText?_chars (s : String) : decodeText? (s.toList.map .char) = some s := by
  rw [decodeText?, decodeFrom?_chars]
  simp

lemma decodeAll?_spelled {depth : Nat} {vs : List Json}
    (h : ∀ v ∈ vs, decode? depth v.spelled = some v) : decodeAll? depth (spelledAll vs) = some vs := by
  induction vs with
  | nil => rfl
  | cons v vs ih =>
    rw [spelledAll, decodeAll?, h v (.head _), ih fun w mem => h w (.tail _ mem)]
    rfl

lemma decodeFields?_spelled {depth : Nat} {fs : List (String × Json)}
    (h : ∀ f ∈ fs, decode? depth f.2.spelled = some f.2) (distinct : (fs.map Prod.fst).Nodup) :
    decodeFields? depth (spelledFields fs) = some fs := by
  induction fs with
  | nil => rfl
  | cons f fs ih =>
    obtain ⟨k, v⟩ := f
    obtain ⟨alone, distinct⟩ := List.nodup_cons.1 distinct
    have missing : get? k fs = none := get?_eq_none_iff.2 alone
    rw [spelledFields, decodeFields?, decodeText?_chars, h (k, v) (.head _),
      ih (fun f mem => h f (.tail _ mem)) distinct]
    simp [missing]

/-- What fits is decoded from its own spelling. -/
lemma Fits.decode?_spelled {depth : Nat} {v : Json} (fits : Fits depth v) :
    decode? depth v.spelled = some v := by
  induction fits with
  | null | bool => rfl
  | number range => rw [spelled, decode?, if_pos range]
  | string => rw [spelled, decode?, decodeText?_chars, Option.map_some]
  | array _ ih =>
    rw [spelled, decode?, if_neg (Nat.succ_ne_zero _), Nat.add_sub_cancel, decodeAll?_spelled ih]
    rfl
  | object _ distinct ih =>
    rw [spelled, decode?, if_neg (Nat.succ_ne_zero _), Nat.add_sub_cancel,
      decodeFields?_spelled ih distinct]
    rfl

/-- What fits is read back from both layouts. -/
theorem ofText?_render {v : Json} (fits : Fits depthLimit v) (pretty : Bool) :
    ofText? (v.render pretty) = some v := by
  rw [ofText?, rawOfText?_render, Option.bind_some, fits.decode?_spelled]

/-! ## What was decoded -/

mutual

/-- What was decoded fits. -/
theorem fits_of_decode? {depth : Nat} : ∀ {raw : RawJson} {v : Json}, decode? depth raw = some v →
    Fits depth v
  | .null, v, h => by
    cases h
    exact .null
  | .bool b, v, h => by
    cases h
    exact .bool
  | .number n, v, h => by
    rw [decode?] at h
    split at h
    next range =>
      cases h
      exact .number range
    next => cases h
  | .string ps, v, h => by
    obtain ⟨s, -, rfl⟩ := Option.map_eq_some_iff.1 h
    exact .string
  | .array vs, v, h => by
    rw [decode?] at h
    split at h
    next => cases h
    next pos =>
      obtain ⟨ws, hws, rfl⟩ := Option.map_eq_some_iff.1 h
      obtain ⟨d, rfl⟩ := Nat.exists_eq_succ_of_ne_zero pos
      exact .array (fits_of_decodeAll? hws)
  | .object fs, v, h => by
    rw [decode?] at h
    split at h
    next => cases h
    next pos =>
      obtain ⟨gs, hgs, rfl⟩ := Option.map_eq_some_iff.1 h
      obtain ⟨d, rfl⟩ := Nat.exists_eq_succ_of_ne_zero pos
      obtain ⟨all, distinct⟩ := fits_of_decodeFields? hgs
      exact .object all distinct

lemma fits_of_decodeAll? {depth : Nat} : ∀ {vs : List RawJson} {ws : List Json},
    decodeAll? depth vs = some ws → ∀ w ∈ ws, Fits depth w
  | [], ws, h => by
    cases h
    exact nofun
  | v :: vs, ws, h => by
    rw [decodeAll?] at h
    obtain ⟨w, hw, h⟩ := Option.bind_eq_some_iff.1 h
    obtain ⟨ws, hws, h⟩ := Option.bind_eq_some_iff.1 h
    cases h
    exact List.forall_mem_cons.2 ⟨fits_of_decode? hw, fits_of_decodeAll? hws⟩

lemma fits_of_decodeFields? {depth : Nat} : ∀ {fs : List (List Piece × RawJson)}
    {gs : List (String × Json)}, decodeFields? depth fs = some gs →
    (∀ g ∈ gs, Fits depth g.2) ∧ (gs.map Prod.fst).Nodup
  | [], gs, h => by
    cases h
    exact ⟨nofun, .nil⟩
  | (k, v) :: fs, gs, h => by
    rw [decodeFields?] at h
    obtain ⟨key, -, h⟩ := Option.bind_eq_some_iff.1 h
    obtain ⟨w, hw, h⟩ := Option.bind_eq_some_iff.1 h
    obtain ⟨gs, hgs, h⟩ := Option.bind_eq_some_iff.1 h
    have rest := fits_of_decodeFields? hgs
    split at h
    next =>
      cases h
      exact rest
    next missing =>
      cases h
      have alone : key ∉ gs.map Prod.fst := get?_eq_none_iff.1 (by simpa using missing)
      exact ⟨List.forall_mem_cons.2 ⟨fits_of_decode? hw, rest.1⟩, List.nodup_cons.2 ⟨alone, rest.2⟩⟩

end

end

end Json

end Playback
