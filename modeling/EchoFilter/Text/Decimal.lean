/-!
Decimal numerals of real numbers: an optional sign, digits with or without a point, and an optional
exponent; or a word for infinity or for no number at all.
-/

namespace EchoFilter.Decimal

/-- The numeral without its sign. -/
def unsigned : List Char → List Char
  | '+' :: r => r
  | '-' :: r => r
  | s => s

/-- Whether what follows the digits is nothing, or an exponent. -/
def isExponent : List Char → Bool
  | [] => true
  | c :: r =>
    let digits := unsigned r
    (c = 'e' || c = 'E') && !digits.isEmpty && digits.all Char.isDigit

/-- Whether a text is a numeral with at least one digit before or behind the point. -/
def isFinite (s : List Char) : Bool :=
  let whole := s.takeWhile Char.isDigit
  match s.dropWhile Char.isDigit with
  | '.' :: r =>
    !(whole.isEmpty && (r.takeWhile Char.isDigit).isEmpty) && isExponent (r.dropWhile Char.isDigit)
  | r => !whole.isEmpty && isExponent r

/-- The words for what is no finite number, in lower case. -/
def words : List String :=
  ["inf", "infinity", "nan"]

/-- Whether a text reads as a real number.  The words may stand in any case. -/
def isNumeral (s : List Char) : Bool :=
  isFinite (unsigned s) || String.ofList ((unsigned s).map Char.toLower) ∈ words

end EchoFilter.Decimal
