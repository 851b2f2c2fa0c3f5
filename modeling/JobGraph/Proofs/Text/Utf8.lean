import JobGraph.Text.Utf8
import Mathlib.Data.Nat.Init
import Mathlib.Tactic.SplitIfs

/-!
# Texts read from their bytes

The bytes of a text are decoded to the text. So bytes are UTF-8 exactly when they are the bytes
of a text, and no two texts have the same bytes.
-/

namespace JobGraph.Text

variable {mark : List Char} {code left low high n : Nat} {rest : List UInt8}

/-! ### Single bytes -/

/-- A byte below 128 is a character. -/
theorem decodeFrom_single (h : n < 0x80) :
  decodeFrom mark 0 0 0 0 (UInt8.ofNat n :: rest) = Char.ofNat n :: decodeFrom mark 0 0 0 0 rest
  := by
  rw [decodeFrom, UInt8.toNat_ofNat_of_lt' (Nat.lt_trans h (by decide))]
  simp [h]

/-- The first of several bytes says how many follow. -/
theorem decodeFrom_lead {count : Nat} (hn : 0x80 ≤ n) (hmax : n < 256)
    (h : followers? n = some (low, high, count)) :
  decodeFrom mark 0 0 0 0 (UInt8.ofNat n :: rest)
    = decodeFrom mark (leadValue n) count low high rest
  := by
  rw [decodeFrom, UInt8.toNat_ofNat_of_lt' hmax]
  simp [h, Nat.not_lt.mpr hn]

/-- A byte that follows adds its six bits. -/
theorem decodeFrom_follow (hn : n < 0x40) (hlow : low ≤ n + 0x80) (hhigh : n + 0x80 ≤ high) :
  decodeFrom mark code (left + 1) low high (UInt8.ofNat (n + 0x80) :: rest)
    = if left = 0 then Char.ofNat (code * 0x40 + n) :: decodeFrom mark 0 0 0 0 rest
      else decodeFrom mark (code * 0x40 + n) left 0x80 0xbf rest
  := by
  have hmax : n + 0x80 < 256 := by omega
  rw [decodeFrom, UInt8.toNat_ofNat_of_lt' hmax]
  simp [hlow, hhigh]

/-! ### Characters -/

/-- Of a character of three bytes the second one is in the bounds that the first one sets. -/
theorem exists_followers?_three {v : Nat} (hmin : 0x800 ≤ v) (hmax : v < 0x10000)
    (hvalid : v < 0xd800 ∨ 0xdfff < v) :
  ∃ low high, followers? (v / 0x1000 % 0x10 + 0xe0) = some (low, high, 2)
    ∧ low ≤ v / 0x40 % 0x40 + 0x80 ∧ v / 0x40 % 0x40 + 0x80 ≤ high
  := by
  unfold followers?
  rw [if_neg (by omega)]
  split_ifs with hfirst hsurrogate hmiddle
  case pos => exact ⟨_, _, rfl, by omega, by omega⟩
  case pos => exact ⟨_, _, rfl, by omega, by omega⟩
  case pos => exact ⟨_, _, rfl, by omega, by omega⟩
  all_goals omega

/-- Of a character of four bytes the second one is in the bounds that the first one sets. -/
theorem exists_followers?_four {v : Nat} (hmin : 0x10000 ≤ v) (hmax : v < 0x110000) :
  ∃ low high, followers? (v / 0x40000 % 8 + 0xf0) = some (low, high, 3)
    ∧ low ≤ v / 0x1000 % 0x40 + 0x80 ∧ v / 0x1000 % 0x40 + 0x80 ≤ high
  := by
  unfold followers?
  rw [if_neg (by omega), if_neg (by omega), if_neg (by omega), if_neg (by omega)]
  split_ifs with hfirst hmiddle hlast
  case pos => exact ⟨_, _, rfl, by omega, by omega⟩
  case pos => exact ⟨_, _, rfl, by omega, by omega⟩
  case pos => exact ⟨_, _, rfl, by omega, by omega⟩
  case neg => omega

/-- The bytes of a character are decoded to the character, whatever follows. -/
theorem decodeFrom_utf8EncodeChar (c : Char) (rest : List UInt8) :
  decodeFrom mark 0 0 0 0 (String.utf8EncodeChar c ++ rest) = c :: decodeFrom mark 0 0 0 0 rest
  := by
  have hvalid : c.val.toNat < 0xd800 ∨ 0xdfff < c.val.toNat ∧ c.val.toNat < 0x110000 := c.valid
  have hc : Char.ofNat c.val.toNat = c := Char.ofNat_toNat c
  unfold String.utf8EncodeChar
  generalize c.val.toNat = v at hvalid hc
  subst hc
  simp only
  -- One case for each number of bytes: what the bytes contribute adds up to the code point.
  split_ifs with hone htwo hthree
  case pos => exact decodeFrom_single (by omega)
  all_goals simp only [List.cons_append, List.nil_append]
  case pos =>
    have hlead : followers? (v / 0x40 % 0x20 + 0xc0) = some (0x80, 0xbf, 1) := by
      rw [followers?, if_pos (by omega)]
    rw [decodeFrom_lead (by omega) (by omega) hlead,
      decodeFrom_follow (by omega) (by omega) (by omega), if_pos rfl, leadValue, if_pos (by omega)]
    congr 2
    omega
  case pos =>
    obtain ⟨low, high, hlead, hlow, hhigh⟩ :=
      @exists_followers?_three v (by omega) (by omega) (by omega)
    rw [decodeFrom_lead (by omega) (by omega) hlead, decodeFrom_follow (by omega) hlow hhigh,
      if_neg (by decide), decodeFrom_follow (by omega) (by omega) (by omega), if_pos rfl,
      leadValue, if_neg (by omega), if_pos (by omega)]
    congr 2
    omega
  case neg =>
    obtain ⟨low, high, hlead, hlow, hhigh⟩ := @exists_followers?_four v (by omega) (by omega)
    rw [decodeFrom_lead (by omega) (by omega) hlead, decodeFrom_follow (by omega) hlow hhigh,
      if_neg (by decide), decodeFrom_follow (by omega) (by omega) (by omega), if_neg (by decide),
      decodeFrom_follow (by omega) (by omega) (by omega), if_pos rfl, leadValue,
      if_neg (by omega), if_neg (by omega)]
    congr 2
    omega

/-! ### Texts -/

/-- The bytes of a text are decoded to the text, whatever the mark is. -/
theorem decodeMarking_utf8 (mark cs : List Char) :
  decodeMarking mark (utf8 cs) = cs
  := by
  induction cs with
  | nil => rfl
  | cons c cs ih =>
    rw [decodeMarking, utf8, List.flatMap_cons, decodeFrom_utf8EncodeChar]
    apply congrArg (c :: ·) ih

theorem decodeUtf8_utf8 (cs : List Char) :
  decodeUtf8 (utf8 cs) = cs
  := decodeMarking_utf8 _ cs

/-- The text of bytes is the one that has these bytes. -/
theorem ofUtf8?_eq_some_iff {bytes : List UInt8} {s : String} :
  ofUtf8? bytes = some s ↔ bytes = utf8 s.toList
  := by
  rw [ofUtf8?]
  constructor
  · intro h
    split at h
    case isTrue hbytes =>
      cases h
      rw [String.toList_ofList, hbytes]
    case isFalse => cases h
  · rintro rfl
    simp [decodeUtf8_utf8]

end JobGraph.Text
