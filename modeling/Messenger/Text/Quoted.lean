import Messenger.Text.Printable

set_option relaxedAutoImplicit false
set_option autoImplicit false

/-!
# Quoted text in messages

A text that an error message cites stands between quotes. A backslash, a quote and the characters
that have no shape of their own are written as escapes, so that what is cited is seen.

## Main definitions

* `Messenger.Text.quoted`: the cited form of a text.
-/

namespace Messenger.Text

/-- A character in a cited text. -/
def shown (c : Char) : List Char :=
  if c = '"' then ['\\', '"']
  else if c = '\\' then ['\\', '\\']
  else if c = '\n' then ['\\', 'n']
  else if c = '\r' then ['\\', 'r']
  else if c = '\t' then ['\\', 't']
  else if c.toNat = 0 then ['\\', '0']
  else if isPrintable c then [c]
  else '\\' :: 'u' :: '{' :: Nat.toDigits 16 c.toNat ++ ['}']

/-- The cited form of a text. -/
def quoted (s : List Char) : List Char :=
  '"' :: s.flatMap shown ++ ['"']

end Messenger.Text
