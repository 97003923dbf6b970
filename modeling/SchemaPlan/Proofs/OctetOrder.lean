import Mathlib.Tactic.SplitIfs
import SchemaPlan.Text.Percent

/-!
# Texts in the order of their octets

Archives and databases list names octet by octet, in UTF-8, while texts are compared
character by character. The order is the same (`Text.octets_lt`), and for one reason: of two
characters the later one has an octet that is greater where their octets first differ, and
not just more octets (`Text.utf8EncodeChar_append_lt`). So whatever follows the two does not
matter any more.
-/

namespace SchemaPlan.Text

theorem octets_eq (s : String) : octets s = s.toList.flatMap String.utf8EncodeChar := by
  rw [octets, String.toUTF8_eq_toByteArray, ← String.utf8Encode_toList, List.utf8Encode,
    List.toList_data_toByteArray]

theorem cons_octet_lt {m n : Nat} (hm : m < 256) (hn : n < 256) {xs ys : List UInt8} :
    UInt8.ofNat m :: xs < UInt8.ofNat n :: ys ↔ m < n ∨ m = n ∧ xs < ys := by
  rw [List.cons_lt_cons_iff, UInt8.lt_iff_toNat_lt, ← UInt8.toNat_inj,
    UInt8.toNat_ofNat_of_lt' hm, UInt8.toNat_ofNat_of_lt' hn]

/-- **The octets of a character come before those of a later one**, whatever follows. -/
theorem utf8EncodeChar_append_lt {c d : Char} (h : c < d) (xs ys : List UInt8) :
    String.utf8EncodeChar c ++ xs < String.utf8EncodeChar d ++ ys := by
  have less : c.val.toNat < d.val.toNat := h
  have bound : d.val.toNat < 0x110000 := by
    rcases d.valid with low | ⟨-, high⟩
    · exact Nat.lt_trans low (by decide)
    · exact high
  unfold String.utf8EncodeChar
  dsimp only
  generalize c.val.toNat = m at less ⊢
  generalize d.val.toNat = n at less bound ⊢
  -- the octets hold the digits of the code to base 64, so the digits in front are compared first
  have digits (k : Nat) : k / 64 / 64 = k / 4096 ∧ k / 4096 / 64 = k / 262144 :=
    ⟨Nat.div_div_eq_div_mul k 64 64, Nat.div_div_eq_div_mul k 4096 64⟩
  have hm := digits m
  have hn := digits n
  have second : m / 64 ≤ n / 64 := Nat.div_le_div_right (Nat.le_of_lt less)
  have third : m / 4096 ≤ n / 4096 := Nat.div_le_div_right (Nat.le_of_lt less)
  have fourth : m / 262144 ≤ n / 262144 := Nat.div_le_div_right (Nat.le_of_lt less)
  have top : m / 262144 % 8 = m / 262144 ∧ n / 262144 % 8 = n / 262144 :=
    ⟨Nat.mod_eq_of_lt (by omega), Nat.mod_eq_of_lt (by omega)⟩
  split_ifs <;> simp only [List.cons_append, List.nil_append]
  all_goals
    repeat rw [cons_octet_lt (by omega) (by omega)]
    omega

theorem flatMap_utf8EncodeChar_lt {cs ds : List Char} (h : cs < ds) :
    cs.flatMap String.utf8EncodeChar < ds.flatMap String.utf8EncodeChar := by
  induction cs generalizing ds with
  | nil =>
    cases ds with
    | nil => exact absurd h (List.not_lt_nil [])
    | cons d ds =>
      obtain ⟨octet, rest, more⟩ := List.exists_cons_of_ne_nil (@String.utf8EncodeChar_ne_nil d)
      rw [List.flatMap_cons, more]
      exact List.nil_lt_cons _ _
  | cons c cs ih =>
    cases ds with
    | nil => exact absurd h (List.not_lt_nil _)
    | cons d ds =>
      rw [List.flatMap_cons, List.flatMap_cons]
      rcases List.cons_lt_cons_iff.1 h with before | ⟨rfl, later⟩
      · exact utf8EncodeChar_append_lt before _ _
      · exact List.append_left_lt (ih later)

/-- **Texts compare by their octets as they do by their characters.** This is
what UTF-8 was made for, and it holds for all characters, not only for those of
ASCII. -/
theorem octets_lt {s t : String} (h : s.toList < t.toList) : octets s < octets t := by
  rw [octets_eq, octets_eq]
  exact flatMap_utf8EncodeChar_lt h

end SchemaPlan.Text
