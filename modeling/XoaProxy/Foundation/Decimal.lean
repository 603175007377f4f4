import XoaProxy.Foundation.LineFields

namespace XoaProxy

/-!
# Unsigned decimal numbers of a bounded type

`parseUnsigned` reads a number the way the standard library of the source
does: an optional plus sign, at least one digit, leading zeros allowed, and a
failure as soon as the value leaves its type.  Nothing is trimmed.
-/

def digit (char : Char) : Option Nat :=
  if '0' ≤ char ∧ char ≤ '9' then some (char.toNat - '0'.toNat) else none

/-- Read digits behind a value, which stays below the bound at every digit. -/
def parseDigits (bound : Nat) : Nat -> Text -> Option Nat
  | value, [] => some value
  | value, char :: rest =>
      match digit char with
      | none => none
      | some digit =>
          if value * 10 + digit < bound then parseDigits bound (value * 10 + digit) rest else none

/-- `str::parse` for an unsigned type with values below the bound. -/
def parseUnsigned (bound : Nat) : Text -> Option Nat
  | [] => none
  | ['+'] => none
  | '+' :: digits => parseDigits bound 0 digits
  | digits => parseDigits bound 0 digits

theorem parseDigits_lt {bound value result : Nat} {text : Text} (small : value < bound)
    (parsed : parseDigits bound value text = some result) : result < bound := by
  induction text generalizing value with
  | nil =>
      cases parsed
      exact small
  | cons char rest ih =>
      simp only [parseDigits] at parsed
      split at parsed
      · cases parsed
      · split at parsed
        · rename_i digit _ fits
          exact ih fits parsed
        · cases parsed

theorem parseUnsigned_lt {bound result : Nat} {text : Text}
    (parsed : parseUnsigned bound text = some result) (positive : 0 < bound) : result < bound := by
  unfold parseUnsigned at parsed
  split at parsed
  · cases parsed
  · cases parsed
  · exact parseDigits_lt positive parsed
  · exact parseDigits_lt positive parsed

end XoaProxy
