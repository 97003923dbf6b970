/-!
# ASCII letters, digits and numbers

Names and keywords are compared without regard to the case of ASCII
letters, and numbers are written with ASCII digits. Every function here
leaves characters outside ASCII alone: `ſ` is not an `s` and `٣` is not a
digit.
-/

namespace SchemaPlan.Text

/-- The text with its ASCII capitals in lower case. All other characters stay,
also capitals of other alphabets. -/
def lower (s : String) : String :=
  String.ofList (s.toList.map Char.toLower)

/-- Whether two texts are equal once their ASCII capitals are lowered. -/
def equalIgnoringCase (a b : String) : Bool :=
  lower a == lower b

/-- The text with its first character in upper case, if that is an ASCII
letter. -/
def capitalize (s : String) : String :=
  match s.toList with
  | [] => s
  | c :: cs => String.ofList (c.toUpper :: cs)

/-- A letter is a capital or a small one. -/
theorem toNat_of_isAlpha {c : Char} (h : c.isAlpha = true) :
    65 ≤ c.toNat ∧ c.toNat ≤ 90 ∨ 97 ≤ c.toNat ∧ c.toNat ≤ 122 := by
  rcases Bool.or_eq_true_iff.1 h with upper | lower
  · have range : c.val ≥ 'A'.val ∧ c.val ≤ 'Z'.val := of_decide_eq_true upper
    exact .inl ⟨range.1, range.2⟩
  · have range := Bool.and_eq_true_iff.1 lower
    exact .inr ⟨of_decide_eq_true range.1, of_decide_eq_true range.2⟩

theorem toNat_of_isAlphanum {c : Char} (h : c.isAlphanum = true) :
    48 ≤ c.toNat ∧ c.toNat ≤ 57 ∨ 65 ≤ c.toNat ∧ c.toNat ≤ 90 ∨
      97 ≤ c.toNat ∧ c.toNat ≤ 122 := by
  rcases Bool.or_eq_true_iff.1 h with letter | digit
  · exact .inr (toNat_of_isAlpha letter)
  · exact .inl (Char.isDigit_iff_toNat.1 digit)

/-! ## Decimal numbers -/

/-- Whether the characters are one or more ASCII digits. No character at all is
no number. -/
def areDigits (cs : List Char) : Bool :=
  !cs.isEmpty && cs.all Char.isDigit

/-- The number that a list of ASCII digits denotes in base ten. It may have
zeros in front, and is not bounded. -/
def digitsValue (cs : List Char) : Nat :=
  cs.foldl (fun n c => 10 * n + (c.toNat - '0'.toNat)) 0

/-- Reads a number of at most `limit`: an optional `+` and one or more
ASCII digits, leading zeros allowed. -/
def readNumber? (limit : Nat) (s : String) : Option Nat :=
  let digits := match s.toList with
    | '+' :: cs => cs
    | cs => cs
  if areDigits digits && digitsValue digits ≤ limit then some (digitsValue digits) else none

/-- The number in base ten, with zeros in front up to `width` digits. -/
def padded (width n : Nat) : String :=
  String.ofList (List.leftpad width '0' (Nat.toDigits 10 n))

end SchemaPlan.Text
