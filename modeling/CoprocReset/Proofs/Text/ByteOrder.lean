import Mathlib.Tactic.SplitIfs

/-!
# The order of bytes

Texts that are in the order of their characters are in the order of their bytes as well
(`bytes_lt`): of two characters the greater one has the greater bytes, and that is seen before
either of them ends (`utf8EncodeChar_lt`).
-/

namespace CoprocReset.Text

/-- The bytes of the text. -/
def bytes (text : String) : List UInt8 := text.toUTF8.data.toList

theorem cons_lt_cons_iff {m n : Nat} {ms ns : List UInt8} (hm : m < 256) (hn : n < 256) :
    UInt8.ofNat m :: ms < UInt8.ofNat n :: ns ↔ m < n ∨ m = n ∧ ms < ns := by
  rw [List.cons_lt_cons_iff, UInt8.lt_iff_toNat_lt, ← UInt8.toNat_inj, UInt8.toNat_ofNat',
    UInt8.toNat_ofNat', Nat.mod_eq_of_lt hm, Nat.mod_eq_of_lt hn]

/-- Two numbers differ in their last six bits, or in those before. -/
theorem sixBits_lt {m n : Nat} (h : m < n) :
    m / 64 < n / 64 ∨ m / 64 = n / 64 ∧ m % 64 < n % 64 := by
  omega

/-- The greater character has the greater bytes, whatever comes after them. -/
theorem utf8EncodeChar_lt {c d : Char} (h : c < d) (rest rest' : List UInt8) :
    String.utf8EncodeChar c ++ rest < String.utf8EncodeChar d ++ rest' := by
  have hlt : c.val.toNat < d.val.toNat := h
  have hvalid : d.val.toNat < 0x110000 := by
    have := d.valid
    simp only [UInt32.isValidChar, Nat.isValidChar] at this
    omega
  simp only [String.utf8EncodeChar]
  generalize c.val.toNat = m at *
  generalize d.val.toNat = n at *
  -- the bytes after the first have six bits each, and the first has all that is left
  have hlast := sixBits_lt hlt
  have hthird : m / 64 < n / 64 → _ := sixBits_lt
  have hsecond : m / 64 / 64 < n / 64 / 64 → _ := sixBits_lt
  simp only [Nat.div_div_eq_div_mul, Nat.reduceMul] at hthird hsecond
  have hfirst {k : Nat} (hk : k < 0x110000) : k / 262144 % 8 = k / 262144 :=
    Nat.mod_eq_of_lt (by omega)
  rw [hfirst hvalid, hfirst (Nat.lt_trans hlt hvalid)]
  split_ifs <;> try omega
  all_goals
    simp only [List.cons_append, List.nil_append]
    repeat rw [cons_lt_cons_iff (by omega) (by omega)]
    omega

theorem flatMap_utf8EncodeChar_lt {cs ds : List Char} (h : cs < ds) :
    cs.flatMap String.utf8EncodeChar < ds.flatMap String.utf8EncodeChar := by
  induction h with
  | @nil d rest =>
    obtain ⟨first, others, hbytes⟩ :=
      List.exists_cons_of_ne_nil (String.utf8EncodeChar_ne_nil (c := d))
    rw [List.flatMap_nil, List.flatMap_cons, hbytes]
    exact List.nil_lt_cons ..
  | rel h => exact utf8EncodeChar_lt h _ _
  | cons _ ih => exact List.append_left_lt ih

theorem bytes_eq (text : String) : bytes text = text.toList.flatMap String.utf8EncodeChar := by
  rw [bytes, String.toUTF8_eq_toByteArray, ← String.utf8Encode_toList, List.utf8Encode,
    List.toList_data_toByteArray]

theorem bytes_lt {text other : String} (h : text < other) : bytes text < bytes other := by
  rw [bytes_eq, bytes_eq]
  exact flatMap_utf8EncodeChar_lt h

end CoprocReset.Text
