set_option relaxedAutoImplicit false
set_option autoImplicit false

/-!
# Errors in a JSON text

What can be wrong with a text that should hold data in JSON: first the faults of the text itself,
then the ways in which a well-formed text holds other data than was asked for.

## Main definitions

* `Messenger.Json.Error`: the causes.
* `Messenger.Json.Error.message`: their wording.
-/

namespace Messenger.Json

/-- What is wrong with a JSON text. -/
inductive Error
  | eofInArray | eofInObject | eofInText | eofInValue
  | expectedColon | expectedCommaOrBracket | expectedCommaOrBrace | expectedWord | expectedValue
  | invalidEscape | invalidNumber | numberOutOfRange
  | controlCharacter | nameNotText
  | loneSurrogate | unfinishedSurrogatePair
  | trailingComma | trailingCharacters | tooDeep
  /-- A value of another type stands where `expected` was asked for. -/
  | wrongType (found expected : String)
  /-- An array holds too few items. -/
  | wrongLength (length : Nat) (expected : String)
  | missingMember (name : String)
  | duplicateMember (name : String)
  /-- A text does not denote what it should. -/
  | badContent (reason : String)
  deriving DecidableEq, Repr, Inhabited

/-- The wording of an error. -/
def Error.message : Error → String
  | eofInArray => "EOF while parsing a list"
  | eofInObject => "EOF while parsing an object"
  | eofInText => "EOF while parsing a string"
  | eofInValue => "EOF while parsing a value"
  | expectedColon => "expected `:`"
  | expectedCommaOrBracket => "expected `,` or `]`"
  | expectedCommaOrBrace => "expected `,` or `\x7d`"
  | expectedWord => "expected ident"
  | expectedValue => "expected value"
  | invalidEscape => "invalid escape"
  | invalidNumber => "invalid number"
  | numberOutOfRange => "number out of range"
  | controlCharacter => "control character (\\u0000-\\u001F) found while parsing a string"
  | nameNotText => "key must be a string"
  | loneSurrogate => "lone leading surrogate in hex escape"
  | unfinishedSurrogatePair => "unexpected end of hex escape"
  | trailingComma => "trailing comma"
  | trailingCharacters => "trailing characters"
  | tooDeep => "recursion limit exceeded"
  | wrongType found expected => "invalid type: " ++ found ++ ", expected " ++ expected
  | wrongLength length expected =>
    "invalid length " ++ toString length ++ ", expected " ++ expected
  | missingMember name => "missing field `" ++ name ++ "`"
  | duplicateMember name => "duplicate field `" ++ name ++ "`"
  | badContent reason => reason

end Messenger.Json
