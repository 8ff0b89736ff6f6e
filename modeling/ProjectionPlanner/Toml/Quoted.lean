/-! # Quoted texts

The four ways in which TOML quotes a text. A basic text stands between quotation marks and knows
escapes; a literal text stands between apostrophes and is taken as it is; either may also stand
between three marks and then run over several lines. Reading goes in two steps: the raw text up to
the closing marks is cut off first, then its characters are checked and its escapes replaced.
-/

namespace ProjectionPlanner.Toml

/-- The mark of a basic text. -/
def basicMark : Char := '"'

/-- The mark of a literal text. -/
def literalMark : Char := '\x27'

/-- The mark of a quoted text. -/
def isMark (c : Char) : Bool :=
  c == basicMark || c == literalMark

/-- Spaces and tabs. -/
def isBlank (c : Char) : Bool :=
  c == ' ' || c == '\t'

/-- A control character other than the tab. These stand neither in texts nor in comments. -/
def isControl (c : Char) : Bool :=
  (c.toNat < 0x20 && c != '\t') || c.toNat == 0x7F

/-! ## Cutting off the raw text -/

/-- The raw text before the next mark, and what follows the mark. With `escapes`, a character
    after a backslash never closes the text. -/
def cutLine (mark : Char) (escapes escaped : Bool) : List Char → Option (List Char × List Char)
  | [] => none
  | c :: rest =>
      if c == mark && !escaped then
        some ([], rest)
      else
        (cutLine mark escapes (escapes && !escaped && c == '\\') rest).map fun (raw, after) =>
          (c :: raw, after)

/-- The raw text before three closing marks, and what follows them. Up to two marks may stand
    directly before the closing ones. `raw` is what was passed, last character first, and `marks`
    is the length of the run of marks at its end. -/
def cutLines (mark : Char) (escapes escaped : Bool) (marks : Nat) (raw : List Char) :
    List Char → Option (List Char × List Char)
  | [] => if marks ≥ 3 then some ((raw.drop 3).reverse, []) else none
  | c :: rest =>
      if marks == 5 || (marks ≥ 3 && c != mark) then
        some ((raw.drop 3).reverse, c :: rest)
      else if escaped then
        cutLines mark escapes false 0 (c :: raw) rest
      else if c == mark then
        cutLines mark escapes false (marks + 1) (c :: raw) rest
      else
        cutLines mark escapes (escapes && c == '\\') 0 (c :: raw) rest

/-- A line break directly behind the opening marks is not part of the text. -/
def dropFirstBreak : List Char → List Char
  | '\n' :: rest => rest
  | '\r' :: '\n' :: rest => rest
  | chars => chars

/-! ## Checking characters and replacing escapes -/

/-- The character may stand in a text as it is, given what follows it. In a text of several lines
    so may a line break. -/
def isPlain (lines : Bool) (c : Char) (rest : List Char) : Bool :=
  !isControl c || (lines && (c == '\n' || (c == '\r' && rest.head? == some '\n')))

/-- The character that a one-letter escape stands for. -/
def shortEscape? : Char → Option Char
  | 'b' => some '\x08'
  | 't' => some '\t'
  | 'n' => some '\n'
  | 'f' => some '\x0c'
  | 'r' => some '\r'
  | 'e' => some '\x1b'
  | '"' => some '"'
  | '\\' => some '\\'
  | _ => none

/-- The number of digits of an escape that gives a code point. -/
def codeEscape? : Char → Option Nat
  | 'x' => some 2
  | 'u' => some 4
  | 'U' => some 8
  | _ => none

def hexDigit? (c : Char) : Option Nat :=
  if c.isDigit then some (c.toNat - '0'.toNat)
  else if 'a' ≤ c ∧ c ≤ 'f' then some (c.toNat - 'a'.toNat + 10)
  else if 'A' ≤ c ∧ c ≤ 'F' then some (c.toNat - 'A'.toNat + 10)
  else none

/-- The character with a code point; surrogates and numbers beyond the last one are none. -/
def charOf? (code : Nat) : Option Char :=
  if code.isValidChar then some (Char.ofNat code) else none

/-- Where the reader of a basic text stands. -/
inductive EscapeState where
  | plain
  /-- Behind a backslash. -/
  | backslash
  /-- Inside an escape that gives a code point: how many digits are left, and the value so far. -/
  | digits (left value : Nat)
  /-- Behind a backslash at the end of a line, where blanks and breaks are skipped. The flag says
      whether the break was met. -/
  | lineEnd (broken : Bool)
  deriving DecidableEq

/-- Check the characters of a basic text and replace its escapes. -/
def unescape (lines : Bool) : EscapeState → List Char → Option (List Char)
  | .plain, [] => some []
  | .lineEnd true, [] => some []
  | _, [] => none
  | .digits left value, c :: rest =>
      (hexDigit? c).bind fun digit =>
        if left ≤ 1 then
          (charOf? (value * 16 + digit)).bind fun decoded =>
            (unescape lines .plain rest).map (decoded :: ·)
        else
          unescape lines (.digits (left - 1) (value * 16 + digit)) rest
  | .backslash, c :: rest =>
      match shortEscape? c, codeEscape? c with
      | some decoded, _ => (unescape lines .plain rest).map (decoded :: ·)
      | none, some count => unescape lines (.digits count 0) rest
      | none, none =>
          if lines && (isBlank c || (isControl c && isPlain lines c rest)) then
            unescape lines (.lineEnd (c == '\n')) rest
          else
            none
  | state, c :: rest =>
      if state != .plain && (isBlank c || (isControl c && isPlain lines c rest)) then
        unescape lines (.lineEnd (state == .lineEnd true || c == '\n')) rest
      else if state == .lineEnd false then
        none
      else if c == '\\' then
        unescape lines .backslash rest
      else if isPlain lines c rest then
        (unescape lines .plain rest).map (c :: ·)
      else
        none

/-- Check the characters of a literal text. -/
def allPlain (lines : Bool) : List Char → Bool
  | [] => true
  | c :: rest => isPlain lines c rest && allPlain lines rest

/-- The text that raw characters stand for. -/
def decode (mark : Char) (lines : Bool) (raw : List Char) : Option String :=
  if mark == basicMark then
    (unescape lines .plain raw).map String.ofList
  else if allPlain lines raw then
    some (String.ofList raw)
  else
    none

/-! ## Reading a quoted text -/

/-- Read a text on one line, behind its opening mark. -/
def quotedLine? (mark : Char) (chars : List Char) : Option (String × List Char) :=
  (cutLine mark (mark == basicMark) false chars).bind fun (raw, rest) =>
    (decode mark false raw).map (·, rest)

/-- Read a text of several lines, behind its opening marks. -/
def quotedLines? (mark : Char) (chars : List Char) : Option (String × List Char) :=
  (cutLines mark (mark == basicMark) false 0 [] (dropFirstBreak chars)).bind fun (raw, rest) =>
    (decode mark true raw).map (·, rest)

end ProjectionPlanner.Toml
