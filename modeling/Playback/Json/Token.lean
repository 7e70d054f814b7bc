import Playback.Json.Basic

/-!
# Tokens of JSON texts

A JSON text is a sequence of tokens with blanks between them. `Token.scan?` reads the tokens of a
text in one pass over its characters, `Token.text` writes one token. Strings are read as pieces:
an escape for half of a surrogate pair is kept as it is until the string is decoded.
-/

namespace Playback

/-- What a string is spelled with. -/
inductive Piece where
  /-- A character, written as itself or as an escape. -/
  | char (c : Char)
  /-- An escape for half of a surrogate pair. -/
  | half (unit : Nat)
deriving DecidableEq, Repr

/-- The smallest parts of a JSON text. -/
inductive Token where
  | openArray
  | closeArray
  | openObject
  | closeObject
  | comma
  | colon
  | null
  | bool (b : Bool)
  | number (n : Numeral)
  | string (ps : List Piece)
deriving DecidableEq, Repr

namespace Token

/-! ## Writing -/

/-- The four hexadecimal digits of a 16-bit unit. -/
def hexDigits (n : Nat) : List Char :=
  [n / 4096 % 16, n / 256 % 16, n / 16 % 16, n % 16].map Nat.digitChar

/-- A character inside a string: only the quote, the backslash and control characters are
escaped. -/
def escaped (c : Char) : List Char :=
  if c = '"' then ['\\', '"']
  else if c = '\\' then ['\\', '\\']
  else if c = '\n' then ['\\', 'n']
  else if c = '\r' then ['\\', 'r']
  else if c = '\t' then ['\\', 't']
  else if c = '\x08' then ['\\', 'b']
  else if c = '\x0c' then ['\\', 'f']
  else if c.toNat < 0x20 then '\\' :: 'u' :: hexDigits c.toNat
  else [c]

/-- The characters of a piece. -/
def pieceChars : Piece → List Char
  | .char c => escaped c
  | .half u => '\\' :: 'u' :: hexDigits u

/-- The characters of a token. -/
def chars : Token → List Char
  | .openArray => ['[']
  | .closeArray => [']']
  | .openObject => ['\x7b']
  | .closeObject => ['\x7d']
  | .comma => [',']
  | .colon => [':']
  | .null => ['n', 'u', 'l', 'l']
  | .bool true => ['t', 'r', 'u', 'e']
  | .bool false => ['f', 'a', 'l', 's', 'e']
  | .number n => n.chars
  | .string ps => '"' :: ps.flatMap pieceChars ++ ['"']

/-- The text of a token. -/
def text (t : Token) : String := String.ofList t.chars

/-! ## Reading -/

/-- Where in a text the scanner stands. What it has read of an unfinished token is kept in
reverse. -/
inductive Scan where
  /-- Between two tokens. -/
  | between
  /-- In a word: a literal name or a numeral. -/
  | word (cs : List Char)
  /-- In a string. -/
  | quoted (ps : List Piece)
  /-- In a string, behind a backslash. -/
  | escape (ps : List Piece)
  /-- In an escape by number, with `left` more digits to come. -/
  | hex (ps : List Piece) (value left : Nat)
deriving DecidableEq, Repr

/-- The blanks that may stand between tokens. -/
def isSpace (c : Char) : Bool :=
  c = ' ' || c = '\t' || c = '\n' || c = '\r'

/-- The tokens of one character. -/
def mark? (c : Char) : Option Token :=
  if c = '[' then some .openArray
  else if c = ']' then some .closeArray
  else if c = '\x7b' then some .openObject
  else if c = '\x7d' then some .closeObject
  else if c = ',' then some .comma
  else if c = ':' then some .colon
  else none

/-- The token that a word is. -/
def word? (cs : List Char) : Option Token :=
  if cs = ['n', 'u', 'l', 'l'] then some .null
  else if cs = ['t', 'r', 'u', 'e'] then some (.bool true)
  else if cs = ['f', 'a', 'l', 's', 'e'] then some (.bool false)
  else (Numeral.ofChars? Numeral.Parts.strict cs).map .number

/-- The character that a letter behind a backslash stands for. -/
def escapeLetter? (c : Char) : Option Char :=
  if c = '"' || c = '\\' || c = '/' then some c
  else if c = 'b' then some '\x08'
  else if c = 'f' then some '\x0c'
  else if c = 'n' then some '\n'
  else if c = 'r' then some '\r'
  else if c = 't' then some '\t'
  else none

/-- The value of a hexadecimal digit. -/
def hexValue? (c : Char) : Option Nat :=
  if '0' ≤ c ∧ c ≤ '9' then some (c.toNat - 48)
  else if 'a' ≤ c ∧ c ≤ 'f' then some (c.toNat - 87)
  else if 'A' ≤ c ∧ c ≤ 'F' then some (c.toNat - 55)
  else none

/-- The piece that a 16-bit unit stands for. -/
def unitPiece (u : Nat) : Piece :=
  if 0xd800 ≤ u ∧ u ≤ 0xdfff then .half u else .char (Char.ofNat u)

/-- The step from between two tokens: the tokens completed, and where the scanner stands next. -/
def start (c : Char) : List Token × Scan :=
  if isSpace c then ([], .between)
  else if c = '"' then ([], .quoted [])
  else match mark? c with
    | some t => ([t], .between)
    | none => ([], .word [c])

/-- The step over one character. -/
def step? : Scan → Char → Option (List Token × Scan)
  | .between, c => some (start c)
  | .word cs, c =>
    if isSpace c || c = '"' || (mark? c).isSome then do
      let t ← word? cs.reverse
      let (ts, next) := start c
      some (t :: ts, next)
    else some ([], .word (c :: cs))
  | .quoted ps, c =>
    if c = '"' then some ([.string ps.reverse], .between)
    else if c = '\\' then some ([], .escape ps)
    else if c.toNat < 0x20 then none
    else some ([], .quoted (.char c :: ps))
  | .escape ps, c =>
    if c = 'u' then some ([], .hex ps 0 4)
    else (escapeLetter? c).map fun d => ([], .quoted (.char d :: ps))
  | .hex ps value left, c => do
    let d ← hexValue? c
    let value := 16 * value + d
    some ([], if left ≤ 1 then .quoted (unitPiece value :: ps) else .hex ps value (left - 1))

/-- What the end of the text completes. -/
def finish? : Scan → Option (List Token)
  | .between => some []
  | .word cs => (word? cs.reverse).map ([·])
  | _ => none

/-- Scans on, with the tokens so far in reverse. -/
def scanFrom? (s : Scan) (done : List Token) : List Char → Option (List Token)
  | [] => (finish? s).map fun ts => (ts.reverseAux done).reverse
  | c :: cs =>
    match step? s c with
    | none => none
    | some (ts, next) => scanFrom? next (ts.reverseAux done) cs

/-- The tokens of a text. -/
def scan? (text : String) : Option (List Token) :=
  scanFrom? .between [] text.toList

end Token

end Playback
