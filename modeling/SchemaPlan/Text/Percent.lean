/-!
# Percent escapes

In an address an octet may be written as a percent sign and the two
hexadecimal digits of its value. Texts are taken as their octets in UTF-8,
the escapes among them are resolved, and what comes out may or may not be
the octets of a text again.
-/

namespace SchemaPlan.Text

/-- The octets of a text in UTF-8. Texts compare as their octets do. -/
def octets (s : String) : List UInt8 :=
  s.toUTF8.data.toList

/-- The text that has the octets, if they are those of one: overlong forms and
surrogates are those of none. -/
def ofOctets? (bs : List UInt8) : Option String :=
  String.fromUTF8? ⟨bs.toArray⟩

/-- The octets of a text are those of that text. -/
theorem ofOctets?_octets (s : String) : ofOctets? (octets s) = some s := by
  rw [ofOctets?, octets, Array.toArray_toList, String.fromUTF8?,
    dif_pos (String.toUTF8_eq_toByteArray ▸ s.isValidUTF8)]
  rfl

/-- The text that has the octets. Octets of no text become one that is the
replacement character alone. -/
def ofOctets (bs : List UInt8) : String :=
  (ofOctets? bs).getD "\ufffd"

/-- The value of a hexadecimal digit of either case. -/
def hexOctet? (b : UInt8) : Option UInt8 :=
  if 0x30 ≤ b ∧ b ≤ 0x39 then some (b - 0x30)
  else if 0x41 ≤ b ∧ b ≤ 0x46 then some (b - 0x37)
  else if 0x61 ≤ b ∧ b ≤ 0x66 then some (b - 0x57)
  else none

/-- The octets with the escapes among them resolved. A percent sign that two
hexadecimal digits do not follow stands for itself. -/
def unescape : List UInt8 → List UInt8
  | b :: high :: low :: rest =>
    if b = 0x25 then
      match hexOctet? high, hexOctet? low with
      | some h, some l => (16 * h + l) :: unescape rest
      | _, _ => b :: unescape (high :: low :: rest)
    else
      b :: unescape (high :: low :: rest)
  | bs => bs
termination_by bs => bs.length

/-- The octets before the first NUL, or all of them if there is none. -/
def untilNul (bs : List UInt8) : List UInt8 :=
  bs.takeWhile fun b => b != 0

end SchemaPlan.Text
