import CallbackFerry.LogFilter.Pattern

/-!
# Values of fields

A field in a log filter is a name, or a name, an equals sign and a value.  A value is a number or a
pattern.
-/

namespace CallbackFerry.LogFilter

/-- Characters without a sign in front. -/
def unsigned : List Char → List Char
  | '+' :: rest | '-' :: rest => rest
  | text => text

/-- Whether characters are digits, at least one. -/
def areDigits (text : List Char) : Bool :=
  !text.isEmpty && text.all Char.isDigit

/-- Whether characters are the exponent of a number, or nothing. -/
def isExponent : List Char → Bool
  | [] => true
  | e :: rest => (e == 'e' || e == 'E') && areDigits (unsigned rest)

/-- Whether characters are digits with at most one point among them, perhaps with an exponent. -/
def isDecimal (text : List Char) : Bool :=
  let whole := text.takeWhile Char.isDigit
  let (part, rest) :=
    match text.dropWhile Char.isDigit with
    | '.' :: rest => (rest.takeWhile Char.isDigit, rest.dropWhile Char.isDigit)
    | rest => ([], rest)
  areDigits (whole ++ part) && isExponent rest

/-- Whether a text is a number: a decimal one, an infinite one or none at all, perhaps signed. -/
def isNumber (text : List Char) : Bool :=
  let body := unsigned text
  isDecimal body
    || ["inf", "infinity", "nan"].contains (String.ofList (body.map Char.toLower))

/-- The value of a field: what stands between the first equals sign and the next. -/
def valueOf? (field : List Char) : Option (List Char) :=
  match field.dropWhile (· != '=') with
  | _ :: rest => some (rest.takeWhile (· != '='))
  | [] => none

/-- Whether a text is a field. -/
def isField (field : List Char) : Bool :=
  !field.isEmpty && (valueOf? field).all fun value => isNumber value || Pattern.isUsable value

end CallbackFerry.LogFilter
