import ProjectionPlanner.Toml.Moment
import ProjectionPlanner.Toml.Number
import ProjectionPlanner.Toml.Table

/-! # Reading TOML

A text is a list of statements, one on a line: a key with its value, or the header of the table
that the statements below it belong to. A reader of a part takes characters and gives the part and
the characters behind it, or nothing if no such part stands there. Values can contain values, so
that their readers count down from a number that the length of the text bounds. A second number
counts the brackets and braces that may still be opened inside each other.
-/

namespace ProjectionPlanner.Toml

/-! ## Blanks, comments and line ends -/

def skipBlanks (chars : List Char) : List Char :=
  chars.dropWhile isBlank

/-- Skip blanks, line breaks and comments. -/
def skipGap (inComment : Bool) : List Char → Option (List Char)
  | [] => some []
  | '\n' :: rest => skipGap false rest
  | '\r' :: '\n' :: rest => skipGap false rest
  | c :: rest =>
      if inComment then
        if isControl c then none else skipGap true rest
      else if isBlank c then
        skipGap false rest
      else if c == '#' then
        skipGap true rest
      else
        some (c :: rest)

/-- Nothing but blanks and a comment may stand on the rest of the line. -/
def lineEnd? (chars : List Char) : Option (List Char) :=
  match skipBlanks chars with
  | [] => some []
  | '\n' :: rest => some rest
  | '\r' :: '\n' :: rest => some rest
  | '#' :: rest => skipGap true rest
  | _ => none

/-! ## Keys -/

/-- A character of a key without quotes. -/
def isBare (c : Char) : Bool :=
  c.isAlphanum || c == '_' || c == '-'

/-- Read one part of a key. -/
def keyPart? : List Char → Option (String × List Char)
  | [] => none
  | c :: rest =>
      if isMark c then
        quotedLine? c rest
      else if isBare c then
        some (String.ofList (c :: rest.takeWhile isBare), rest.dropWhile isBare)
      else
        none

/-- Read a key, whose parts have dots between them. -/
def key? : Nat → List Char → Option (List String × List Char)
  | 0, _ => none
  | fuel + 1, chars =>
      (keyPart? (skipBlanks chars)).bind fun (part, rest) =>
        match skipBlanks rest with
        | '.' :: later => (key? fuel later).map fun (parts, after) => (part :: parts, after)
        | after => some ([part], after)

/-! ## Values -/

/-- A character of a value without quotes. -/
def isUnquoted (c : Char) : Bool :=
  !(isBlank c || ['\n', '\r', '#', '=', ',', '[', ']', '{', '}'].contains c)

/-- Cut off a value without quotes. The blanks that were passed last belong to it if more of it
    follows them, as a time follows its date; else they are dropped. -/
def cutUnquoted (blanks : List Char) : List Char → List Char × List Char
  | [] => ([], [])
  | c :: rest =>
      if isBlank c then
        cutUnquoted (c :: blanks) rest
      else if isUnquoted c && (blanks.isEmpty || !isMark c) then
        let (value, after) := cutUnquoted [] rest
        (blanks.reverse ++ c :: value, after)
      else
        ([], c :: rest)

/-- The value that a text without quotes stands for. -/
def unquotedValue? (chars : List Char) : Option Value :=
  if chars == ['t', 'r', 'u', 'e'] then
    some (.flag true)
  else if chars == ['f', 'a', 'l', 's', 'e'] then
    some (.flag false)
  else if isNumber chars then
    some (.number (String.ofList (ungrouped chars)))
  else if isMoment chars then
    some (.moment (String.ofList chars))
  else
    none

/-- Read a value without quotes. -/
def unquoted? (chars : List Char) : Option (Value × List Char) :=
  let (value, rest) := cutUnquoted [] chars
  (unquotedValue? value).map (·, rest)

/-- Read a text in quotes, behind its first mark. Three marks open a text of several lines. -/
def quoted? (mark : Char) : List Char → Option (Value × List Char)
  | b :: c :: rest =>
      if b == mark && c == mark then
        (quotedLines? mark rest).map fun (text, after) => (.text text, after)
      else
        (quotedLine? mark (b :: c :: rest)).map fun (text, after) => (.text text, after)
  | chars => (quotedLine? mark chars).map fun (text, after) => (.text text, after)

/-- Skip what may stand around the parts of an entry: blanks, and in braces also line breaks and
    comments. -/
def skipAround (braces : Bool) (chars : List Char) : Option (List Char) :=
  if braces then skipGap false chars else some (skipBlanks chars)

mutual

/-- Read a value inside which `room` brackets and braces may be opened. -/
def value? : Nat → Nat → List Char → Option (Value × List Char)
  | 0, _, _ => none
  | _ + 1, _, [] => none
  | fuel + 1, room, c :: rest =>
      if c == '[' || c == '{' then
        match room with
        | 0 => none
        | room + 1 =>
            if c == '[' then
              (items? fuel room rest).map fun (items, after) => (.list items, after)
            else
              (pairs? fuel room rest).bind fun (pairs, after) =>
                (Table.addAll pairs []).map fun table => (.table .braces table, after)
      else if isMark c then
        quoted? c rest
      else
        unquoted? (c :: rest)

/-- Read the values of a list, behind its opening bracket. -/
def items? : Nat → Nat → List Char → Option (List Value × List Char)
  | 0, _, _ => none
  | fuel + 1, room, chars =>
      (skipGap false chars).bind fun
        | ']' :: rest => some ([], rest)
        | start =>
            (value? fuel room start).bind fun (item, rest) =>
              (skipGap false rest).bind fun
                | ',' :: later =>
                    (items? fuel room later).map fun (items, after) => (item :: items, after)
                | ']' :: after => some ([item], after)
                | _ => none

/-- Read a key and its value. -/
def pair? : Nat → Nat → Bool → List Char → Option ((List String × Value) × List Char)
  | 0, _, _, _ => none
  | fuel + 1, room, braces, chars =>
      (key? fuel chars).bind fun (path, rest) =>
        (skipAround braces rest).bind fun
          | '=' :: later =>
              (skipAround braces later).bind fun start =>
                (value? fuel room start).map fun (value, after) => ((path, value), after)
          | _ => none

/-- Read the entries of a table, behind its opening brace. -/
def pairs? : Nat → Nat → List Char → Option (List (List String × Value) × List Char)
  | 0, _, _ => none
  | fuel + 1, room, chars =>
      (skipGap false chars).bind fun
        | '}' :: rest => some ([], rest)
        | start =>
            (pair? fuel room true start).bind fun (pair, rest) =>
              (skipGap false rest).bind fun
                | ',' :: later =>
                    (pairs? fuel room later).map fun (pairs, after) => (pair :: pairs, after)
                | '}' :: after => some ([pair], after)
                | _ => none

end

/-- How many brackets and braces may be opened inside each other. -/
def maxNesting : Nat := 80

/-! ## Statements -/

/-- A line that says something. -/
inductive Statement where
  | pair (path : List String) (value : Value)
  | header (path : List String)

/-- Read a statement, up to the end of its line. -/
def statement? (fuel : Nat) : List Char → Option (Statement × List Char)
  | '[' :: rest =>
      (key? fuel rest).bind fun
        | (path, ']' :: after) => (lineEnd? after).map (.header path, ·)
        | _ => none
  | chars =>
      (pair? fuel maxNesting false chars).bind fun ((path, value), rest) =>
        (lineEnd? rest).map (.pair path value, ·)

/-- Read all statements. -/
def statements? : Nat → List Char → Option (List Statement)
  | 0, _ => none
  | fuel + 1, chars =>
      (skipGap false chars).bind fun
        | [] => some []
        | start =>
            (statement? fuel start).bind fun (statement, rest) =>
              (statements? fuel rest).map (statement :: ·)

/-- The key and value pairs before the first header, and the sections under the headers. -/
def sections : List Statement →
    List (List String × Value) × List (List String × List (List String × Value))
  | [] => ([], [])
  | .pair path value :: rest =>
      let (first, later) := sections rest
      ((path, value) :: first, later)
  | .header path :: rest =>
      let (first, later) := sections rest
      ([], (path, first) :: later)

/-- The table that the statements make. -/
def tableOf? (statements : List Statement) : Option Table :=
  let (first, later) := sections statements
  (Table.addAll first []).bind fun table =>
    later.foldlM (fun known (path, pairs) => known.addSection pairs path) table

/-- A mark that some editors put before a text. -/
def byteOrderMark : Char := '\uFEFF'

/-- Read a whole text. Reading a value or an entry takes two steps of the count for at least one
    character, so that twice the length is enough. -/
def table? (text : String) : Option Table :=
  let chars :=
    match text.toList with
    | [] => []
    | first :: rest => if first == byteOrderMark then rest else first :: rest
  (statements? (2 * chars.length + 4) chars).bind tableOf?

end ProjectionPlanner.Toml
