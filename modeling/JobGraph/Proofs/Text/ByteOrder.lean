import JobGraph.SortedMap
import JobGraph.Text.Utf8
import Mathlib.Data.Nat.Init
import Mathlib.Tactic.SplitIfs
import Mathlib.Tactic.ByContra

/-!
# The order of texts as bytes

Texts stand in the order of their code points. This is the order of their UTF-8 bytes: a
greater code point has a greater first byte, or the same one and then greater digits.
-/

namespace JobGraph.Text

/-! ### Bytes of one character -/

theorem ofNat_lt_ofNat_iff {a b : Nat} (ha : a < 256) (hb : b < 256) :
  UInt8.ofNat a < UInt8.ofNat b ↔ a < b
  := by
  rw [UInt8.lt_iff_toNat_lt, UInt8.toNat_ofNat_of_lt' ha, UInt8.toNat_ofNat_of_lt' hb]

theorem ofNat_eq_ofNat_iff {a b : Nat} (ha : a < 256) (hb : b < 256) :
  UInt8.ofNat a = UInt8.ofNat b ↔ a = b
  := by
  rw [← UInt8.toNat_inj, UInt8.toNat_ofNat_of_lt' ha, UInt8.toNat_ofNat_of_lt' hb]

/-- The bytes of the smaller of two characters come first, whatever follows. -/
theorem utf8EncodeChar_append_lt {c d : Char} (h : c < d) (xs ys : List UInt8) :
  String.utf8EncodeChar c ++ xs < String.utf8EncodeChar d ++ ys
  := by
  have hlt : c.val.toNat < d.val.toNat := h
  have hmax : d.val.toNat < 0x110000 := by
    rcases d.valid with hd | ⟨-, hd⟩
    · apply Nat.lt_trans hd (by decide)
    · apply hd
  unfold String.utf8EncodeChar
  generalize c.val.toNat = m at hlt
  generalize d.val.toNat = n at hlt hmax
  -- To base 64 the smaller number has the smaller digit at the first place where they differ.
  have hsecond : m / 64 < n / 64 ∨ m / 64 = n / 64 ∧ m % 64 < n % 64 := by omega
  have hthird : m / 4096 < n / 4096 ∨ m / 4096 = n / 4096 ∧ (m / 64 % 64 < n / 64 % 64
      ∨ m / 64 % 64 = n / 64 % 64 ∧ m % 64 < n % 64) := by
    omega
  have hfourth : m / 262144 < n / 262144 ∨ m / 262144 = n / 262144
      ∧ (m / 4096 % 64 < n / 4096 % 64 ∨ m / 4096 % 64 = n / 4096 % 64
        ∧ (m / 64 % 64 < n / 64 % 64 ∨ m / 64 % 64 = n / 64 % 64 ∧ m % 64 < n % 64)) := by
    omega
  -- Characters of different lengths differ in their first bytes.
  simp only
  split_ifs <;> simp (disch := omega) only [List.cons_append, List.nil_append,
    List.cons_lt_cons_iff, ofNat_lt_ofNat_iff, ofNat_eq_ofNat_iff, Nat.mod_eq_of_lt] <;> omega

/-! ### Bytes of texts -/

theorem utf8_cons {c : Char} {cs : List Char} :
  utf8 (c :: cs) = String.utf8EncodeChar c ++ utf8 cs
  := rfl

theorem utf8_lt_of_lt {cs ds : List Char} (h : cs < ds) :
  utf8 cs < utf8 ds
  := by
  induction h with
  | @nil d ds =>
    obtain ⟨b, bs, hbytes⟩ := List.exists_cons_of_ne_nil (@String.utf8EncodeChar_ne_nil d)
    rw [utf8_cons, hbytes]
    apply List.nil_lt_cons
  | @rel c cs d ds hlt =>
    rw [utf8_cons, utf8_cons]
    apply utf8EncodeChar_append_lt hlt
  | @cons c cs ds _ ih =>
    rw [utf8_cons, utf8_cons]
    apply List.append_left_lt ih

/-- Texts stand in the order of their bytes. -/
theorem utf8_lt_iff {s t : String} :
  utf8 s.toList < utf8 t.toList ↔ s < t
  := by
  constructor
  · intro h
    by_contra hge
    rcases eq_or_ne s t with rfl | hne
    · apply List.lt_irrefl _ h
    · have hlt := lt_of_not_lt_of_ne hge hne
      apply List.lt_asymm h (utf8_lt_of_lt (String.lt_iff.mp hlt))
  · intro h
    apply utf8_lt_of_lt (String.lt_iff.mp h)

theorem utf8_le_iff {s t : String} :
  utf8 s.toList ≤ utf8 t.toList ↔ s ≤ t
  := by
  rw [← List.not_lt, ← String.not_lt, utf8_lt_iff]

end JobGraph.Text
