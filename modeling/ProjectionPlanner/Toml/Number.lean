import ProjectionPlanner.Toml.Quoted

/-! # Numbers

Which texts are numbers. A number has digits of base ten, perhaps with a fraction and an exponent,
or stands behind `0x`, `0o` or `0b` and has digits of that base. Underscores group the digits. No
setting is a number, so that numbers are told apart from other texts and never evaluated: one that
is too large for any machine is still a number, and of a whole number in groups only the first
group and the ends of the others are looked at.
-/

namespace ProjectionPlanner.Toml

/-- Every underscore stands between two digits. `behindDigit` says whether a digit stands before
    the text. -/
def underscoresFit (isDigit : Char → Bool) (behindDigit : Bool) : List Char → Bool
  | [] => true
  | c :: rest =>
      (c != '_' || (behindDigit && rest.head?.any isDigit)) &&
        underscoresFit isDigit (isDigit c) rest

/-- Every underscore of a whole text stands between two digits. -/
def isGrouped (isDigit : Char → Bool) (chars : List Char) : Bool :=
  underscoresFit isDigit false chars

/-- A digit of base sixteen. -/
def isHexDigit (c : Char) : Bool :=
  (hexDigit? c).isSome

/-! ## Base ten -/

/-- A digit of base ten, or an underscore. -/
def isGroupDigit (c : Char) : Bool :=
  c.isDigit || c == '_'

/-- Skip digits and underscores, among which there is at least one digit. -/
def skipDigits? (chars : List Char) : Option (List Char) :=
  if (chars.takeWhile isGroupDigit).any Char.isDigit then
    some (chars.dropWhile isGroupDigit)
  else
    none

/-- Skip the digits before the point. If the first one is zero, it is the only one. -/
def skipWhole? (chars : List Char) : Option (List Char) :=
  if chars.head? == some '0' && (chars.takeWhile isGroupDigit).countP Char.isDigit > 1 then
    none
  else
    skipDigits? chars

/-- Skip a point and the digits behind it, if there is a point. -/
def skipFraction? : List Char → Option (List Char)
  | '.' :: rest => skipDigits? rest
  | chars => some chars

/-- Leave out a sign. -/
def skipSign : List Char → List Char
  | '+' :: rest => rest
  | '-' :: rest => rest
  | chars => chars

/-- Skip an exponent, if there is one. Its digits may start with zeros. -/
def skipExponent? : List Char → Option (List Char)
  | 'e' :: rest => skipDigits? (skipSign rest)
  | 'E' :: rest => skipDigits? (skipSign rest)
  | chars => some chars

/-- A number in base ten without its sign. -/
def isDecimal (chars : List Char) : Bool :=
  isGrouped Char.isDigit chars &&
    ((skipWhole? chars).bind skipFraction?).bind skipExponent? == some []

/-- The character makes a number other than a whole one, or no number at all. -/
def partsNumber (c : Char) : Bool :=
  c == '.' || c == 'e' || c == 'E' || c == ' '

/-- A whole number in groups, without its sign. The first group is of base ten and does not start
    with zero. Behind it the underscores stand between digits, for which those of base sixteen
    count too, and other characters are passed over. -/
def isWholeInGroups (chars : List Char) : Bool :=
  let first := chars.takeWhile Char.isDigit
  let others := chars.dropWhile Char.isDigit
  first.head?.any (· != '0') && others.head? == some '_' && !others.any partsNumber &&
    isGrouped isHexDigit chars

/-- A number without its sign, or one of the two words that also count as numbers. -/
def isUnsigned (chars : List Char) : Bool :=
  chars == ['i', 'n', 'f'] || chars == ['n', 'a', 'n'] || isDecimal chars || isWholeInGroups chars

/-! ## Other bases -/

/-- The digits of the base that a letter stands for. -/
def baseDigits? : Char → Option (Char → Bool)
  | 'x' => some isHexDigit
  | 'o' => some fun c => '0' ≤ c && c ≤ '7'
  | 'b' => some fun c => c == '0' || c == '1'
  | _ => none

/-- A number in another base, which has no sign. It may even have no digits. -/
def isBased : List Char → Bool
  | '0' :: base :: digits =>
      match baseDigits? base with
      | some isDigit => isGrouped isDigit digits && digits.all fun c => isDigit c || c == '_'
      | none => false
  | _ => false

/-! ## All numbers -/

/-- The text is a number. -/
def isNumber (chars : List Char) : Bool :=
  isUnsigned (skipSign chars) || isBased chars

/-- A number without the underscores that group its digits. -/
def ungrouped (chars : List Char) : List Char :=
  chars.filter (· != '_')

end ProjectionPlanner.Toml
