import JobGraph.Http.Percent
import JobGraph.Proofs.Text.Utf8

/-!
# Escaped texts are read back

What is escaped can be read back as long as percent signs are escaped too: an escape is resolved
to its byte, and any other character to its own bytes.
-/

namespace JobGraph.Http

variable {p : Char → Bool} {c : Char} {cs : List Char} {rest : List Char}

/-! ### Single characters -/

theorem hexValue?_toUpper_digitChar {n : Nat} (h : n < 16) :
  Json.Draft.hexValue? (Nat.digitChar n).toUpper = some n
  := by
  revert n
  decide

@[simp] theorem unescape_escapeByte {b : UInt8} :
  unescape (escapeByte b ++ rest) = b :: unescape rest
  := by
  have hhigh : b.toNat / 16 < 16 := Nat.div_lt_of_lt_mul b.toNat_lt
  have hlow : b.toNat % 16 < 16 := Nat.mod_lt _ (by decide)
  simp only [escapeByte, List.cons_append, List.nil_append, unescape,
    hexValue?_toUpper_digitChar hhigh, hexValue?_toUpper_digitChar hlow, List.cons.injEq, and_true]
  rw [Nat.div_add_mod']
  exact UInt8.ofNat_toNat

theorem unescape_cons (h : c ≠ '%') :
  unescape (c :: rest) = String.utf8EncodeChar c ++ unescape rest
  := by
  rw [unescape]
  rintro a b rest' rfl
  exact absurd rfl h

theorem unescape_flatMap_escapeByte {bytes : List UInt8} :
  unescape (bytes.flatMap escapeByte ++ rest) = bytes ++ unescape rest
  := by
  induction bytes with
  | nil => rfl
  | cons b bytes ih =>
    rw [List.flatMap_cons, List.append_assoc, unescape_escapeByte, ih, List.cons_append]

/-! ### Texts -/

theorem unescape_escape (hp : p '%' = true) :
  unescape (escape p cs ++ rest) = Text.utf8 cs ++ unescape rest
  := by
  induction cs with
  | nil => rfl
  | cons c cs ih =>
    rw [escape, List.flatMap_cons, ← escape, Text.utf8, List.flatMap_cons, ← Text.utf8,
      List.append_assoc, List.append_assoc, ← ih, escapeChar]
    split
    case isTrue => apply unescape_flatMap_escapeByte
    case isFalse hc =>
      apply unescape_cons
      rintro rfl
      exact hc hp

/-- A text is read back from what is written for it. -/
theorem unescapeText_escape (hp : p '%' = true) (cs : List Char) :
  unescapeText (escape p cs) = cs
  := by
  have hbytes : unescape (escape p cs ++ []) = Text.utf8 cs ++ unescape [] := unescape_escape hp
  rw [List.append_nil, unescape, List.append_nil] at hbytes
  rw [unescapeText, hbytes, Text.decodeUtf8_utf8]

/-- What is written differs for different texts. -/
theorem escape_injective (hp : p '%' = true) :
  Function.Injective (escape p)
  := by
  intro cs ds h
  rw [← unescapeText_escape hp cs, h, unescapeText_escape hp]

theorem escape_eq_nil_iff (hp : p '%' = true) :
  escape p cs = [] ↔ cs = []
  := (escape_injective hp).eq_iff' rfl

theorem escape_congr {q : Char → Bool} (h : ∀ c ∈ cs, p c = q c) :
  escape p cs = escape q cs
  := by
  rw [escape, escape, List.flatMap_def, List.flatMap_def]
  apply congrArg List.flatten
  apply List.map_congr_left
  intro c hc
  rw [escapeChar, escapeChar, h c hc]

/-- A character that is escaped is not left, unless escapes are written with it. -/
theorem not_mem_escape (hp : p c = true) (hc : c ∉ "%0123456789ABCDEF".toList) :
  c ∉ escape p cs
  := by
  have hdigit : ∀ n < 16, (Nat.digitChar n).toUpper ∈ "%0123456789ABCDEF".toList := by decide
  rw [escape, List.mem_flatMap]
  rintro ⟨d, -, hd⟩
  rw [escapeChar] at hd
  split at hd
  case isTrue =>
    obtain ⟨b, -, hb⟩ := List.mem_flatMap.mp hd
    have hhigh : b.toNat / 16 < 16 := Nat.div_lt_of_lt_mul b.toNat_lt
    have hlow : b.toNat % 16 < 16 := Nat.mod_lt _ (by decide)
    simp only [escapeByte, List.mem_cons, List.not_mem_nil, or_false] at hb
    rcases hb with rfl | rfl | rfl
    · apply hc (by decide)
    · apply hc (hdigit _ hhigh)
    · apply hc (hdigit _ hlow)
  case isFalse hnot =>
    obtain rfl := List.mem_singleton.mp hd
    exact hnot hp

end JobGraph.Http
