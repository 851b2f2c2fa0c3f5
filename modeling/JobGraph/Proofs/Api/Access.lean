import JobGraph.Api.Router
import JobGraph.Proofs.Text.Splitting
import Mathlib

/-!
# Access that the environment grants

The environment names the origins that pages may come from and the number of calls that are
served at a time. Entries that cannot be origins are passed over, and so is a number that cannot
be read. But the origin that stands for all, a number of calls that cannot be counted, and the
number zero are taken as they are: with the first two there is no access, and with the last one
no request but a preflight is ever taken up.
-/

namespace JobGraph

/-! ### Numerals -/

theorem digitsValue_append {cs ds : List Char} :
  digitsValue (cs ++ ds) = Nat.ofDigitChars 10 ds (digitsValue cs)
  := by
  apply Nat.ofDigitChars_append

theorem digitsValue_zeros_append_toDigits (zeros n : Nat) :
  digitsValue (List.replicate zeros '0' ++ Nat.toDigits 10 n) = n
  := by
  have hzeros : digitsValue (List.replicate zeros '0') = 0 := by
    rw [digitsValue, ← Nat.ofDigitChars_eq_foldl, Nat.ofDigitChars_replicate_zero, Nat.mul_zero]
  rw [digitsValue_append, hzeros, Nat.ofDigitChars_ten_toDigits]

theorem exists_digitChar {c : Char} (h : c.isDigit = true) :
  ∃ d < 10, c = Nat.digitChar d
  := by
  simp only [Char.isDigit, Bool.and_eq_true, decide_eq_true_eq, ge_iff_le,
    UInt32.le_iff_toNat_le] at h
  obtain ⟨hlow, hhigh⟩ : 48 ≤ c.toNat ∧ c.toNat ≤ 57 := h
  use c.toNat - 48, by omega
  rw [← Char.toNat_inj, Nat.toNat_digitChar_of_lt_ten (by omega)]
  omega

/-- Digits are the shortest numeral of their value behind some zeros. -/
theorem exists_zeros_append_toDigits {cs : List Char} (hnil : cs ≠ [])
    (h : ∀ c ∈ cs, c.isDigit = true) :
  ∃ zeros, cs = List.replicate zeros '0' ++ Nat.toDigits 10 (digitsValue cs)
  := by
  induction cs using List.reverseRecOn with
  | nil => exact absurd rfl hnil
  | append_singleton cs c ih =>
    obtain ⟨d, hd, rfl⟩ := exists_digitChar (h c (by simp))
    rw [digitsValue_append, Nat.ofDigitChars_cons_digitChar_of_lt_ten hd, Nat.ofDigitChars_nil]
    by_cases hcs : cs = []
    · subst hcs
      use 0
      rw [digitsValue, List.foldl_nil, Nat.mul_zero, Nat.zero_add, Nat.toDigits_of_lt_base hd]
      rfl
    · obtain ⟨zeros, heq⟩ := ih hcs fun c hc => h c (List.mem_append_left _ hc)
      rcases Nat.eq_zero_or_pos (digitsValue cs) with hzero | hpos
      · -- All digits so far are zeros.
        use zeros + 1
        rw [hzero, Nat.toDigits_zero, ← List.replicate_succ'] at heq
        rw [hzero, Nat.mul_zero, Nat.zero_add, Nat.toDigits_of_lt_base hd, ← heq]
      · use zeros
        rw [← Nat.toDigits_append_toDigits (by decide) hpos hd, Nat.toDigits_of_lt_base hd,
          ← List.append_assoc, ← heq]

namespace Access

variable {env : Config.Environment} {text : String} {n : Nat}

/-- The text is a numeral of `n`, maybe behind a plus sign and zeros. -/
def Numbers (text : String) (n : Nat) : Prop :=
  ∃ sign zeros, (sign = "" ∨ sign = "+")
    ∧ text = sign ++ String.ofList (List.replicate zeros '0') ++ toString n

/-- A list without the plus sign in front of it. -/
def unsigned : List Char → List Char
  | '+' :: cs => cs
  | cs => cs

theorem exists_sign_append (cs : List Char) :
  ∃ sign : String, (sign = "" ∨ sign = "+") ∧ cs = sign.toList ++ unsigned cs
  := by
  unfold unsigned
  split
  case h_1 cs => exact ⟨"+", .inr rfl, rfl⟩
  case h_2 => exact ⟨"", .inl rfl, rfl⟩

theorem unsigned_append {sign : String} {digits : List Char} (hsign : sign = "" ∨ sign = "+")
    (h : ∀ c ∈ digits, c.isDigit = true) :
  unsigned (sign.toList ++ digits) = digits
  := by
  rcases hsign with rfl | rfl
  · rw [String.toList_empty, List.nil_append, unsigned.eq_2]
    rintro cs rfl
    have hplus := h '+' List.mem_cons_self
    revert hplus
    decide
  · rfl

/-- The numbers that are read are those of a machine word. -/
theorem parseConcurrency?_eq_some_iff :
  parseConcurrency? text = some n ↔ Numbers text n ∧ n < 2 ^ 64
  := by
  have hparse : parseConcurrency? text =
      if (unsigned text.toList).isEmpty || !(unsigned text.toList).all Char.isDigit then none
      else if digitsValue (unsigned text.toList) < 2 ^ 64 then
        some (digitsValue (unsigned text.toList))
      else none := rfl
  have hnumeral (cs : List Char) : ¬ (cs.isEmpty || !cs.all Char.isDigit) = true
      ↔ cs ≠ [] ∧ ∀ c ∈ cs, c.isDigit = true := by
    simp
  rw [hparse]
  constructor
  · intro hread
    split at hread
    case isTrue => cases hread
    case isFalse hdigits =>
      rw [hnumeral] at hdigits
      split at hread
      case isTrue hlt =>
        cases hread
        obtain ⟨sign, hsign, htext⟩ := exists_sign_append text.toList
        obtain ⟨zeros, heq⟩ := exists_zeros_append_toDigits hdigits.1 hdigits.2
        refine ⟨⟨sign, zeros, hsign, ?_⟩, hlt⟩
        apply String.toList_injective
        simp only [String.toList_append, String.toList_ofList, Nat.toString_eq_repr,
          Nat.toList_repr, List.append_assoc, ← heq]
        exact htext
      case isFalse => cases hread
  · rintro ⟨⟨sign, zeros, hsign, rfl⟩, hlt⟩
    have hdigits : ∀ c ∈ List.replicate zeros '0' ++ Nat.toDigits 10 n, c.isDigit = true := by
      intro c hc
      rcases List.mem_append.mp hc with hc | hc
      · rw [List.eq_of_mem_replicate hc]
        rfl
      · apply Nat.isDigit_of_mem_toDigits (by decide) (by decide) hc
    have hunsigned :
        unsigned (sign ++ String.ofList (List.replicate zeros '0') ++ toString n).toList
          = List.replicate zeros '0' ++ Nat.toDigits 10 n := by
      simpa using unsigned_append hsign hdigits
    rw [hunsigned, digitsValue_zeros_append_toDigits, if_neg, if_pos hlt]
    apply (hnumeral _).mpr ⟨by simp, hdigits⟩

/-- The environment sets the number of calls at a time to `n`: it gives a numeral of `n`, or
nothing that is the numeral of a machine word, and `n` is the default. -/
def Limits (env : Config.Environment) (n : Nat) : Prop :=
  (∃ text, env "VMFLOW_MAX_CONCURRENT_REQUESTS" = some text ∧ Numbers text n ∧ n < 2 ^ 64)
    ∨ (∀ text m, env "VMFLOW_MAX_CONCURRENT_REQUESTS" = some text → Numbers text m → 2 ^ 64 ≤ m)
      ∧ n = defaultConcurrency

theorem limits_concurrencyOf (env : Config.Environment) :
  Limits env (concurrencyOf env)
  := by
  rw [concurrencyOf]
  cases hread : (env "VMFLOW_MAX_CONCURRENT_REQUESTS").bind parseConcurrency? with
  | some n =>
    obtain ⟨text, htext, hparse⟩ := Option.bind_eq_some_iff.mp hread
    exact .inl ⟨text, htext, parseConcurrency?_eq_some_iff.mp hparse⟩
  | none =>
    refine .inr ⟨?_, rfl⟩
    intro text m htext hnumbers
    apply Nat.le_of_not_lt
    intro hlt
    rw [htext, Option.bind_some, parseConcurrency?_eq_some_iff.mpr ⟨hnumbers, hlt⟩] at hread
    cases hread

/-! ### Origins -/

/-- The origins among the entries of a list. -/
def given (entries : List String) : List String :=
  (entries.map Text.trim).filter fun origin => origin ≠ "" && origin.toList.all Http.isHeaderChar

theorem exists_entries (text : String) :
  ∃ entries : List String, (∀ entry ∈ entries, ',' ∉ entry.toList)
    ∧ text = ",".intercalate entries ∧ parseOrigins text = given entries
  := by
  refine ⟨(Http.splitAll ',' text.toList).map String.ofList, ?_, ?_, ?_⟩
  · intro entry hentry
    obtain ⟨part, hpart, rfl⟩ := List.mem_map.mp hentry
    rw [String.toList_ofList]
    apply Text.not_mem_of_mem_splitOn hpart
  · apply String.toList_injective
    rw [String.toList_intercalate, List.map_map]
    simp only [Function.comp_def, String.toList_ofList, List.map_id']
    symm
    apply List.intercalate_splitOn
  · simp only [parseOrigins, given, List.map_map, Function.comp_def]

/-- Without origins in the environment the default is used. -/
theorem originsOf_eq :
  originsOf env = if parseOrigins ((env "VMFLOW_CORS_ORIGINS").getD "") = [] then [defaultOrigin]
    else parseOrigins ((env "VMFLOW_CORS_ORIGINS").getD "")
  := by
  rw [originsOf]
  cases env "VMFLOW_CORS_ORIGINS" with
  | none => decide
  | some text =>
    rw [Option.getD_some, Option.getD_some]
    cases parseOrigins text with
    | nil => rfl
    | cons => rfl

/-! ### What is granted -/

theorem ofEnvironment_eq_ok_iff {access : Access} :
  ofEnvironment env = .ok access
    ↔ "*" ∉ originsOf env ∧ concurrencyOf env < 2 ^ 61 ∧ access = ⟨originsOf env, concurrencyOf env⟩
  := by
  rw [ofEnvironment]
  have hmax : maxConcurrency < concurrencyOf env ↔ ¬ concurrencyOf env < 2 ^ 61 := by
    rw [show maxConcurrency = 2 ^ 61 - 1 from rfl]
    omega
  constructor
  · intro h
    split at h
    case isTrue => cases h
    case isFalse hlimit =>
      split at h
      case isTrue => cases h
      case isFalse hstar =>
        cases h
        exact ⟨hstar, not_not.mp (mt hmax.mpr hlimit), rfl⟩
  · rintro ⟨hstar, hlimit, rfl⟩
    rw [if_neg (fun h => hmax.mp h hlimit), if_neg hstar]

/-- The environment names the origins, in order, and the number of calls at a time, and a default
stands in where it names none. There is access unless the origin that stands for all is among
those named or the number cannot be counted. -/
theorem ofEnvironment_grants (env : Config.Environment) :
  ∃ entries limit, (∀ entry ∈ entries, ',' ∉ entry.toList)
    ∧ (env "VMFLOW_CORS_ORIGINS").getD "" = ",".intercalate entries
    ∧ Limits env limit
    ∧ (∀ access, ofEnvironment env = .ok access → access.concurrency = limit
      ∧ access.origins = if given entries = [] then [defaultOrigin] else given entries)
    ∧ ((∃ access, ofEnvironment env = .ok access) ↔ "*" ∉ given entries ∧ limit < 2 ^ 61)
  := by
  obtain ⟨entries, hcomma, htext, hparse⟩ := exists_entries ((env "VMFLOW_CORS_ORIGINS").getD "")
  have horigins : originsOf env
      = if given entries = [] then [defaultOrigin] else given entries := by
    rw [originsOf_eq, hparse]
  have hstar : "*" ∈ originsOf env ↔ "*" ∈ given entries := by
    rw [horigins]
    split
    case isTrue hnil =>
      rw [hnil]
      decide
    case isFalse => rfl
  refine ⟨entries, concurrencyOf env, hcomma, htext, limits_concurrencyOf env, ?_, ?_⟩
  · intro access h
    obtain ⟨-, -, rfl⟩ := ofEnvironment_eq_ok_iff.mp h
    exact ⟨rfl, horigins⟩
  · rw [← hstar]
    constructor
    · rintro ⟨access, h⟩
      obtain ⟨hstar, hlimit, -⟩ := ofEnvironment_eq_ok_iff.mp h
      exact ⟨hstar, hlimit⟩
    · rintro ⟨hstar, hlimit⟩
      exact ⟨_, ofEnvironment_eq_ok_iff.mpr ⟨hstar, hlimit, rfl⟩⟩

/-- The origin that stands for all and a number that cannot be counted leave no access. The number
zero leaves one that takes up no request but preflights, however few calls are under way. -/
theorem ofEnvironment_of_star_of_many_of_zero :
  let star : Config.Environment := fun name =>
    if name = "VMFLOW_CORS_ORIGINS" then some "*" else none
  let limited (number : String) : Config.Environment := fun name =>
    if name = "VMFLOW_MAX_CONCURRENT_REQUESTS" then some number else none
  ofEnvironment star = .error .anyOrigin
    ∧ ofEnvironment (limited "2305843009213693952") = .error .tooManyCalls
    ∧ ∃ access, ofEnvironment (limited "0") = .ok access ∧ access.concurrency = 0
      ∧ ∀ p underWay r, r.method ≠ "OPTIONS" → Api.receive access p underWay r = none
  := by
  refine ⟨by decide, by decide, ⟨[defaultOrigin], 0⟩, by decide, rfl, ?_⟩
  intro p underWay r hmethod
  rw [Api.receive, if_neg]
  simp [admits, hmethod]

end Access

end JobGraph
