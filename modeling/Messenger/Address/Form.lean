import Messenger.Address.Percent
import Messenger.Text.Ranges

set_option relaxedAutoImplicit false
set_option autoImplicit false

/-!
# Pairs in a query

A query holds pairs of a name and a value, with an equals sign within a pair and an ampersand
between two. A space is written as a plus sign, and all characters but letters, digits and a few
signs as their bytes, so that none of the signs with a meaning occurs in a name or a value.

## Main definitions

* `Messenger.Address.Form.encode`, `Messenger.Address.Form.encodePair`: the written form of a text
  and of a pair.
* `Messenger.Address.Form.decode?`, `Messenger.Address.Form.pairs?`: the text of a written form and
  the pairs of a query.
-/

namespace Messenger.Address.Form

/-- What is written as it is. -/
def keeps (c : Char) : Bool :=
  c.isAlphanum || c = '*' || c = '-' || c = '.' || c = '_'

/-- The written form of a text. -/
def encode (s : List Char) : List Char :=
  s.flatMap fun c =>
    if c = ' ' then ['+']
    else if keeps c then [c]
    else (String.utf8EncodeChar c).flatMap percentByte

/-- The written form of a pair. -/
def encodePair (name value : String) : List Char :=
  encode name.toList ++ '=' :: encode value.toList

/-- The text of a written form, if its bytes make one. -/
def decode? (s : List Char) : Option String :=
  String.fromUTF8? ⟨(percentDecode (s.map fun c => if c = '+' then ' ' else c)).toArray⟩

/-- The pair that a part of a query holds. -/
def pair? (s : List Char) : Option (String × String) :=
  match decode? (s.takeWhile (· ≠ '=')), decode? ((s.dropWhile (· ≠ '=')).drop 1) with
  | some name, some value => some (name, value)
  | _, _ => none

/-- The pairs that a query holds. -/
def pairs? (query : List Char) : Option (List (String × String)) :=
  ((Text.splitAtEvery '&' query).filter (· ≠ [])).mapM pair?

end Messenger.Address.Form
