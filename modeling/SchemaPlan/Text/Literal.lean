import SchemaPlan.Text.Printable

/-!
# String literals

How a text is written between quotes in generated code. Five control and
quoting characters have short escapes, and NUL has one; a character that
would not show as itself, or would attach to the quote before it, is written
by its code in hexadecimal. All other characters, the apostrophe among them,
stand for themselves.

`decodeChars?` reads the inside of a literal back up to its closing quote,
and gives what follows. It knows every escape that `encodeChars` writes, and
takes the code of any character, also of one that would not need it.
-/

namespace SchemaPlan.Text

/-! ## Writing -/

/-- How one character is written inside a literal. A quote is only written
behind a backslash, so the first one that is met without it closes the literal.
-/
def encodeChar (c : Char) : List Char :=
  if c = '\x00' then ['\\', '0']
  else if c = '\t' then ['\\', 't']
  else if c = '\r' then ['\\', 'r']
  else if c = '\n' then ['\\', 'n']
  else if c = '"' then ['\\', '"']
  else if c = '\\' then ['\\', '\\']
  else if isAttaching c || !isPrintable c then
    ['\\', 'u', '\x7b'] ++ Nat.toDigits 16 c.toNat ++ ['\x7d']
  else [c]

/-- How characters are written inside a literal. -/
def encodeChars (cs : List Char) : List Char :=
  cs.flatMap encodeChar

/-- The literal of a text, with its quotes. It is on one line, whatever the
text is. -/
def quote (s : String) : String :=
  String.ofList ('"' :: (encodeChars s.toList ++ ['"']))

/-- The literals of several texts, separated by commas. -/
def quoteAll (items : List String) : String :=
  ", ".intercalate (items.map quote)

/-! ## Reading -/

/-- The value of a hexadecimal digit in lower case. Capitals are not read,
since none are written. -/
def hexDigit? (c : Char) : Option Nat :=
  if '0' ≤ c ∧ c ≤ '9' then some (c.toNat - '0'.toNat)
  else if 'a' ≤ c ∧ c ≤ 'f' then some (c.toNat - 'a'.toNat + 10)
  else none

/-- Reads hexadecimal digits up to a closing brace: the number, given the
value of the digits before, and what follows the brace. -/
def decodeHex? (value : Nat) : List Char → Option (Nat × List Char)
  | [] => none
  | c :: cs =>
    if c = '\x7d' then some (value, cs)
    else (hexDigit? c).bind fun digit => decodeHex? (16 * value + digit) cs

theorem length_of_decodeHex? {value n : Nat} {cs rest : List Char}
    (h : decodeHex? value cs = some (n, rest)) : rest.length < cs.length := by
  induction cs generalizing value with
  | nil => simp [decodeHex?] at h
  | cons c cs ih =>
    rw [decodeHex?] at h
    split at h
    · simp only [Option.some.injEq, Prod.mk.injEq] at h
      simp [h.2]
    · obtain ⟨digit, _, h⟩ := Option.bind_eq_some_iff.1 h
      exact Nat.lt_succ_of_lt (ih h)

/-- The character that the character after a backslash stands for, unless it
begins a code. -/
def shortEscape? (c : Char) : Option Char :=
  if c = '0' then some '\x00'
  else if c = 't' then some '\t'
  else if c = 'r' then some '\r'
  else if c = 'n' then some '\n'
  else if c = '"' then some '"'
  else if c = '\\' then some '\\'
  else none

/-- Reads the inside of a literal: the characters it denotes and what follows
its closing quote. -/
def decodeChars? : List Char → Option (List Char × List Char)
  | [] => none
  | '"' :: rest => some ([], rest)
  | '\\' :: 'u' :: '\x7b' :: digits =>
    match h : decodeHex? 0 digits with
    | none => none
    | some (code, rest) =>
      have : rest.length < digits.length := length_of_decodeHex? h
      if code.isValidChar then
        (decodeChars? rest).map fun (cs, after) => (Char.ofNat code :: cs, after)
      else
        none
  | '\\' :: c :: rest =>
    (shortEscape? c).bind fun char =>
      (decodeChars? rest).map fun (cs, after) => (char :: cs, after)
  | c :: rest => (decodeChars? rest).map fun (cs, after) => (c :: cs, after)
termination_by cs => cs.length

end SchemaPlan.Text
