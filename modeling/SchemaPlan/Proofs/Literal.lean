import Mathlib.Tactic.SplitIfs
import SchemaPlan.Proofs.Parts
import SchemaPlan.Text.Literal

/-!
# Literals are read back

Whatever text stands in a literal, reading the literal gives the text and
stops at the quote that closes it (`Text.decodeChars?_encodeChars`). So no
text can end its own literal, and none can be taken for another.

The statement holds character by character: what is written for one
character is read as that character, whatever follows. For a code in
hexadecimal the reading is digit by digit from the front and the writing from
the back, so there the induction is on the number.
-/

namespace SchemaPlan.Text

/-! ## Codes -/

/-- A hexadecimal digit denotes its value, and none of them is the brace that
ends a code. There are sixteen, and they are tried. -/
theorem hexDigit?_digitChar {d : Nat} (h : d < 16) :
    hexDigit? (Nat.digitChar d) = some d ∧ Nat.digitChar d ≠ '\x7d' := by
  revert d
  decide

/-- So a code is read digit by digit, and the value grows by one place each
time. -/
theorem decodeHex?_digitChar {d : Nat} (h : d < 16) (value : Nat) (cs : List Char) :
    decodeHex? value (Nat.digitChar d :: cs) = decodeHex? (16 * value + d) cs := by
  obtain ⟨digit, open'⟩ := hexDigit?_digitChar h
  rw [decodeHex?, if_neg open', digit]
  rfl

theorem exists_digitChar_of_mem {n : Nat} {c : Char} (h : c ∈ Nat.toDigits 16 n) :
    ∃ d < 16, c = Nat.digitChar d := by
  induction n using Nat.strongRecOn with
  | _ n ih =>
    by_cases small : n < 16
    · rw [Nat.toDigits_of_lt_base small, List.mem_singleton] at h
      exact ⟨n, small, h⟩
    · have large : 16 ≤ n := Nat.le_of_not_lt small
      rw [Nat.toDigits_of_base_le (by decide) large, List.mem_append, List.mem_singleton] at h
      rcases h with front | last
      · exact ih (n / 16) (Nat.div_lt_self (by omega) (by decide)) front
      · exact ⟨n % 16, Nat.mod_lt n (by decide), last⟩

/-- The digits of a number are read as that number. -/
theorem decodeHex?_toDigits (n : Nat) (cs : List Char) :
    decodeHex? 0 (Nat.toDigits 16 n ++ cs) = decodeHex? n cs := by
  induction n using Nat.strongRecOn generalizing cs with
  | _ n ih =>
    by_cases small : n < 16
    · rw [Nat.toDigits_of_lt_base small]
      show decodeHex? 0 (Nat.digitChar n :: cs) = decodeHex? n cs
      rw [decodeHex?_digitChar small, Nat.mul_zero, Nat.zero_add]
    · have large : 16 ≤ n := Nat.le_of_not_lt small
      -- the digits before the last one are those of the quotient
      rw [Nat.toDigits_of_base_le (by decide) large, List.append_assoc,
        ih (n / 16) (Nat.div_lt_self (by omega) (by decide))]
      show decodeHex? (n / 16) (Nat.digitChar (n % 16) :: cs) = decodeHex? n cs
      rw [decodeHex?_digitChar (Nat.mod_lt n (by decide)), Nat.div_add_mod]

/-! ## What stands at the beginning -/

@[simp] theorem decodeChars?_quote (rest : List Char) :
    decodeChars? ('"' :: rest) = some ([], rest) := by
  rw [decodeChars?]

/-- The three statements from here on are the cases of the reader: a character
that stands for itself, a short escape, and a code between braces. Writing is
matched with them character by character. -/
theorem decodeChars?_plain {c : Char} (quote : c ≠ '"') (slash : c ≠ '\\') (rest : List Char) :
    decodeChars? (c :: rest) = (decodeChars? rest).map fun (cs, after) => (c :: cs, after) := by
  rw [decodeChars?]
  · exact quote
  · exact fun _ h _ => slash h
  · exact fun _ _ h _ => slash h

theorem decodeChars?_escape {c char : Char} (h : shortEscape? c = some char) (rest : List Char) :
    decodeChars? ('\\' :: c :: rest) =
      (decodeChars? rest).map fun (cs, after) => (char :: cs, after) := by
  rw [decodeChars?, h]
  · rfl
  · rintro digits rfl -
    cases h

theorem decodeChars?_code {code : Nat} {digits rest : List Char}
    (h : decodeHex? 0 digits = some (code, rest)) (valid : code.isValidChar) :
    decodeChars? ('\\' :: 'u' :: '\x7b' :: digits) =
      (decodeChars? rest).map fun (cs, after) => (Char.ofNat code :: cs, after) := by
  rw [decodeChars?]
  split
  · rename_i failed
    rw [h] at failed
    cases failed
  · rename_i code' rest' found
    rw [h] at found
    cases found
    rw [if_pos valid]

/-! ## Characters and texts -/

/-- **What is written for a character is read as that character.** -/
theorem decodeChars?_encodeChar (c : Char) (rest : List Char) :
    decodeChars? (encodeChar c ++ rest) =
      (decodeChars? rest).map fun (cs, after) => (c :: cs, after) := by
  unfold encodeChar
  split_ifs with nul tab carriage newline quote slash coded
  · rw [nul]
    exact decodeChars?_escape rfl rest
  · rw [tab]
    exact decodeChars?_escape rfl rest
  · rw [carriage]
    exact decodeChars?_escape rfl rest
  · rw [newline]
    exact decodeChars?_escape rfl rest
  · rw [quote]
    exact decodeChars?_escape rfl rest
  · rw [slash]
    exact decodeChars?_escape rfl rest
  · have code : decodeHex? 0 (Nat.toDigits 16 c.toNat ++ '\x7d' :: rest) = some (c.toNat, rest) := by
      rw [decodeHex?_toDigits, decodeHex?, if_pos rfl]
    have read := decodeChars?_code code c.valid
    rw [Char.ofNat_toNat] at read
    rw [← read, List.append_assoc, List.append_assoc]
    rfl
  · exact decodeChars?_plain quote slash rest

/-- **The inside of a literal is read as the text that is written there**, up
to the closing quote. -/
@[simp] theorem decodeChars?_encodeChars (cs rest : List Char) :
    decodeChars? (encodeChars cs ++ '"' :: rest) = some (cs, rest) := by
  unfold encodeChars
  induction cs with
  | nil => exact decodeChars?_quote rest
  | cons c cs ih =>
    rw [List.flatMap_cons, List.append_assoc, decodeChars?_encodeChar, ih]
    rfl

/-- A literal is a quote, the characters in their written form, and a quote. -/
@[simp] theorem toList_quote (s : String) :
    (quote s).toList = '"' :: (encodeChars s.toList ++ ['"']) :=
  String.toList_ofList

/-- No character is written with a line break, not even the line break itself,
so a literal stays on its line. -/
theorem newline_notMem_encodeChar (c : Char) : '\n' ∉ encodeChar c := by
  unfold encodeChar
  split_ifs with nul tab carriage newline quote slash coded
  · decide
  · decide
  · decide
  · decide
  · decide
  · decide
  · rw [List.mem_append, List.mem_append]
    rintro ((h | h) | h)
    · revert h
      decide
    · obtain ⟨d, small, digit⟩ := exists_digitChar_of_mem h
      revert d
      decide
    · revert h
      decide
  · rw [List.mem_singleton]
    exact fun same => newline same.symm

/-- A literal stands on one line. -/
theorem isLine_quote (s : String) : IsLine (quote s) := by
  intro c h same
  rw [toList_quote, same, List.mem_cons, List.mem_append, encodeChars, List.mem_flatMap] at h
  obtain opening | ⟨d, -, inside⟩ | closing := h
  · cases opening
  · exact newline_notMem_encodeChar d inside
  · simp at closing

theorem isLine_quoteAll (items : List String) : IsLine (quoteAll items) :=
  Consists.intercalate (by decide) fun item _ => isLine_quote item

end SchemaPlan.Text
