import JobGraph.Http.Message
import Mathlib.Data.List.TakeDrop
import Mathlib.Data.List.TakeWhile

/-!
# Texts split at characters

A text that is split at the first character of a kind is what was in front of it, the
character, and what is behind it. A text that is split at every such character has none of them
left in its parts.
-/

namespace JobGraph.Text

variable {p : Char → Bool} {cs front back : List Char} {c : Char}

theorem takeWhile_append_cons (h : ∀ d ∈ front, p d = true) (hc : p c = false) :
  (front ++ c :: back).takeWhile p = front
  := by
  rw [List.takeWhile_append_of_pos h, List.takeWhile_cons_of_neg (by simp [hc]), List.append_nil]

theorem dropWhile_append_cons (h : ∀ d ∈ front, p d = true) (hc : p c = false) :
  (front ++ c :: back).dropWhile p = c :: back
  := by
  rw [List.dropWhile_append_of_pos h, List.dropWhile_cons_of_neg (by simp [hc])]

/-- The first character without `p` is where the text is split. -/
theorem dropWhile_eq_cons_iff :
  cs.dropWhile p = c :: back
    ↔ cs = cs.takeWhile p ++ c :: back ∧ p c = false
  := by
  constructor
  · intro h
    have hc := List.head?_dropWhile_not p cs
    rw [h] at hc
    rw [← h, List.takeWhile_append_dropWhile]
    exact ⟨rfl, by simpa using hc⟩
  · rintro ⟨hsplit, hc⟩
    rw [hsplit, dropWhile_append_cons (fun _ => List.mem_takeWhile_imp) hc]

/-- A text behind the first character without `p` is not looked at. -/
theorem takeWhile_append_of_head (h : ∀ c ∈ back.head?, p c = false) :
  (cs ++ back).takeWhile p = cs.takeWhile p
  := by
  induction cs with
  | nil =>
    cases back with
    | nil => rfl
    | cons c back => simp [h c rfl]
  | cons c cs ih => simp [List.takeWhile_cons, ih]

theorem dropWhile_eq_self_of_head (h : ∀ c ∈ back.head?, p c = false) :
  back.dropWhile p = back
  := by
  cases back with
  | nil => rfl
  | cons c back => simp [h c rfl]

theorem dropWhile_append_of_head (h : ∀ c ∈ back.head?, p c = false) :
  (cs ++ back).dropWhile p = cs.dropWhile p ++ back
  := by
  induction cs with
  | nil => apply dropWhile_eq_self_of_head h
  | cons c cs ih =>
    rw [List.cons_append, List.dropWhile_cons, List.dropWhile_cons, ih]
    split
    · rfl
    · rfl

/-- No character at which a text is split is left in its parts. -/
theorem eq_false_of_mem_splitOnP {part : List Char} (h : part ∈ cs.splitOnP p) :
  ∀ d ∈ part, p d = false
  := by
  induction cs generalizing part with
  | nil =>
    obtain rfl := List.mem_singleton.mp h
    simp
  | cons c cs ih =>
    rw [List.splitOnP_cons_eq_if_modifyHead] at h
    split at h
    case isTrue =>
      rcases List.mem_cons.mp h with rfl | h
      · simp
      · apply ih h
    case isFalse hc =>
      obtain ⟨first, parts, heq⟩ := List.exists_cons_of_ne_nil (List.splitOnP_ne_nil p cs)
      rw [heq, List.modifyHead_cons] at h
      rw [heq] at ih
      rcases List.mem_cons.mp h with rfl | h
      · apply List.forall_mem_cons.mpr ⟨by simpa using hc, ih List.mem_cons_self⟩
      · apply ih (List.mem_cons_of_mem _ h)

theorem not_mem_of_mem_splitOn {part : List Char} (h : part ∈ cs.splitOn c) :
  c ∉ part
  := by
  intro hc
  have hne := eq_false_of_mem_splitOnP h c hc
  simp at hne

end JobGraph.Text

namespace JobGraph.Http

variable {c : Char} {cs front back : List Char}

theorem splitFirst_of_not_mem (h : c ∉ cs) :
  splitFirst c cs = (cs, none)
  := by
  have hall : cs.dropWhile (· ≠ c) = [] := by
    rw [List.dropWhile_eq_nil_iff]
    intro d hd
    rw [decide_eq_true_eq]
    rintro rfl
    exact h hd
  rw [splitFirst, hall]

theorem splitFirst_append_cons (h : c ∉ front) :
  splitFirst c (front ++ c :: back) = (front, some back)
  := by
  have hall : ∀ d ∈ front, decide (d ≠ c) = true := by
    intro d hd
    rw [decide_eq_true_eq]
    rintro rfl
    exact h hd
  rw [splitFirst, Text.dropWhile_append_cons hall (by simp),
    Text.takeWhile_append_cons hall (by simp)]

theorem not_mem_of_splitFirst_eq_none (h : splitFirst c cs = (front, none)) :
  c ∉ cs
  := by
  intro hc
  obtain ⟨front', back, rfl, hfront⟩ := List.eq_append_cons_of_mem hc
  rw [splitFirst_append_cons hfront] at h
  cases h

end JobGraph.Http
