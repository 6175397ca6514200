import Messenger.Json.Number
import Messenger.Json.Text

set_option relaxedAutoImplicit false
set_option autoImplicit false

/-!
# Writing JSON

A value is written without blanks: arrays and objects with a comma between their entries, the
members of an object in the order in which it holds them.

## Main definitions

* `Messenger.Json.Value.write`: the written form of a value.
* `Messenger.Json.Value.render`: the same as a string.
-/

namespace Messenger.Json.Value

/-- Written entries, with a comma between any two of them. -/
def commaSeparated (entries : List (List Char)) : List Char :=
  (entries.intersperse [',']).flatten

mutual

/-- The written form of a value. -/
def write : Value → List Char
  | .null => ['n', 'u', 'l', 'l']
  | .bool true => ['t', 'r', 'u', 'e']
  | .bool false => ['f', 'a', 'l', 's', 'e']
  | .int n => Text.signedDecimal n
  | .float x => numberText x
  | .text s => quote s.toList
  | .array items => '[' :: commaSeparated (writeItems items) ++ [']']
  | .object members => '{' :: commaSeparated (writeMembers members) ++ ['}']

/-- The written forms of the items of an array. -/
def writeItems : List Value → List (List Char)
  | [] => []
  | v :: rest => write v :: writeItems rest

/-- The written forms of the members of an object. -/
def writeMembers : List (String × Value) → List (List Char)
  | [] => []
  | m :: rest => (quote m.1.toList ++ ':' :: write m.2) :: writeMembers rest

end

/-- The written form of a value, as a string. -/
def render (v : Value) : String :=
  String.ofList v.write

end Messenger.Json.Value
