import Messenger.Error
import Messenger.Text.Blank

set_option relaxedAutoImplicit false
set_option autoImplicit false

/-!
# Credentials

A connection is opened with a credential. It is asked from a provider anew for every attempt that
starts on its own, so that a provider can give one that is valid at that time. A provider may have
nothing to give, or may fail.

## Main definitions

* `Messenger.Credential.Provider`: where credentials come from.
* `Messenger.Credential.Provider.ask`: the credential that a provider gives.

## Main results

* `Messenger.Credential.ofVariable_eq_ok_none_iff`: when a variable gives nothing.
-/

namespace Messenger.Credential

/-- What a provider gives: a credential, nothing, or a failure. -/
abbrev Answer := Except Error (Option String)

/-- Where credentials come from. -/
inductive Provider
  /-- Always the same token, or always nothing. -/
  | fixed (token : Option String)
  /-- The value that a variable of the environment has at the time. -/
  | environment (name : String)
  deriving DecidableEq, Repr, Inhabited

/-- The credential in the bytes of a variable: its text without blanks around it. A variable that
is not set or that is blank holds none. -/
def ofVariable (name : String) (value : Option ByteArray) : Answer :=
  match value with
  | none => .ok none
  | some bytes =>
    match String.fromUTF8? bytes with
    | none => .error (.credential (name ++ ": environment variable was not valid unicode"))
    | some text =>
      match Text.trim text.toList with
      | [] => .ok none
      | c :: rest => .ok (some (String.ofList (c :: rest)))

/-- The credential that a provider gives, given the values of the variables. -/
def Provider.ask (values : String → Option ByteArray) : Provider → Answer
  | fixed token => .ok token
  | environment name => ofVariable name (values name)

/-- A variable gives nothing exactly if it is not set or holds nothing but blanks. -/
theorem ofVariable_eq_ok_none_iff {name : String} {value : Option ByteArray} :
    ofVariable name value = .ok none ↔
      ∀ bytes, value = some bytes → ∃ text, String.fromUTF8? bytes = some text ∧
        ∀ c ∈ text.toList, Text.isBlank c := by
  cases value with
  | none => simp [ofVariable]
  | some bytes =>
    cases h : String.fromUTF8? bytes with
    | none => simp [ofVariable, h]
    | some text =>
      simp only [Option.some.injEq, forall_eq', h, exists_eq_left', ← Text.trim_eq_nil_iff]
      cases ht : Text.trim text.toList <;> simp [ofVariable, h, ht]

end Messenger.Credential
