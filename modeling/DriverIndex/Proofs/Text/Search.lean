import DriverIndex.Marker
import Mathlib.Data.List.TakeWhile

/-!
# The first occurrence of a word

What stands behind the first occurrence of a word, said without going through the text, and that the search finds it. The first occurrence is the one with the shortest text before it, so all others end in what stands behind it. The same is true of a single character: a second cut at it, further on, leaves less behind.
-/

namespace DriverIndex.Text

variable {word text rest : List Char}

/-- What stands behind the first occurrence of a word in a text. -/
def FirstBehind (word text rest : List Char) : Prop :=
  ∃ front, text = front ++ (word ++ rest) ∧ ∀ other back, text = other ++ (word ++ back) → front.length ≤ other.length

theorem firstBehind_append (word rest : List Char) : FirstBehind word (word ++ rest) rest :=
  ⟨[], rfl, fun _ _ _ => Nat.zero_le _⟩

theorem FirstBehind.unique {other : List Char} (hrest : FirstBehind word text rest)
    (hother : FirstBehind word text other) : rest = other := by
  obtain ⟨front, rfl, hfront⟩ := hrest
  obtain ⟨start, heq, hstart⟩ := hother
  have hlength : front.length = start.length := Nat.le_antisymm (hfront start other heq) (hstart front rest rfl)
  exact List.append_cancel_left (List.append_inj_right heq hlength)

/-- A text that does not begin with the word has its first occurrence behind its first character. -/
theorem FirstBehind.cons {c : Char} (hbegins : ¬word <+: c :: text) (hrest : FirstBehind word text rest) :
    FirstBehind word (c :: text) rest := by
  obtain ⟨front, rfl, hfront⟩ := hrest
  refine ⟨c :: front, rfl, fun other back heq => ?_⟩
  cases other with
  | nil => exact absurd ⟨back, heq.symm⟩ hbegins
  | cons first other =>
    rw [List.cons_append, List.cons.injEq] at heq
    exact Nat.succ_le_succ (hfront other back heq.2)

theorem firstBehind_of_after? (hafter : after? word text = some rest) : FirstBehind word text rest := by
  induction text with
  | nil =>
    rw [after?] at hafter
    split_ifs at hafter with hempty
    rw [List.isEmpty_iff.1 hempty, ← Option.some.inj hafter]
    exact firstBehind_append [] []
  | cons c text ih =>
    rw [after?] at hafter
    split_ifs at hafter with hbegins
    · obtain ⟨back, hback⟩ := List.isPrefixOf_iff_prefix.1 hbegins
      rw [← hback, List.drop_left] at hafter
      rw [← hback, ← Option.some.inj hafter]
      exact firstBehind_append word back
    · exact (ih hafter).cons (mt List.isPrefixOf_iff_prefix.2 hbegins)

theorem isSome_after?_iff : (after? word text).isSome = true ↔ word <:+: text := by
  induction text with
  | nil =>
    rw [after?]
    cases word <;> simp
  | cons c rest ih =>
    rw [after?, List.infix_cons_iff, ← List.isPrefixOf_iff_prefix, ← ih]
    split_ifs with hbegins
    · exact iff_of_true rfl (.inl hbegins)
    · simp [hbegins]

theorem exists_firstBehind (hoccurs : word <:+: text) : ∃ rest, FirstBehind word text rest := by
  obtain ⟨rest, hrest⟩ := Option.isSome_iff_exists.1 (isSome_after?_iff.2 hoccurs)
  exact ⟨rest, firstBehind_of_after? hrest⟩

/-- The search finds what stands behind the first occurrence. -/
theorem after?_eq_some_iff : after? word text = some rest ↔ FirstBehind word text rest := by
  constructor
  · exact firstBehind_of_after?
  · intro hrest
    have hoccurs : word <:+: text := by
      obtain ⟨front, rfl, -⟩ := hrest
      exact ⟨front, rest, List.append_assoc ..⟩
    obtain ⟨found, hfound⟩ := Option.isSome_iff_exists.1 (isSome_after?_iff.2 hoccurs)
    rw [hfound, (firstBehind_of_after? hfound).unique hrest]

/-- Every occurrence of the word ends in what stands behind the first one. -/
theorem FirstBehind.suffix (hrest : FirstBehind word text rest) {front back : List Char}
    (heq : text = front ++ (word ++ back)) : back <:+ rest := by
  obtain ⟨start, rfl, hstart⟩ := hrest
  have hlength := congrArg List.length heq
  have hfirst := hstart front back heq
  simp only [List.length_append] at hlength
  have hback : back <:+ start ++ (word ++ rest) := ⟨front ++ word, by rw [heq, List.append_assoc]⟩
  have hlater : rest <:+ start ++ (word ++ rest) := ⟨start ++ word, List.append_assoc ..⟩
  exact List.suffix_of_suffix_length_le hback hlater (by omega)

/-! ### The first occurrence of a character -/

section Cut

variable {α : Type} {x : α} {front back other more : List α}

theorem suffix_of_append_cons_eq (hfront : x ∉ front) (heq : front ++ x :: back = other ++ x :: more) : more <:+ back := by
  rcases List.append_eq_append_iff.1 heq with ⟨gap, -, hback⟩ | ⟨gap, hgap, hmore⟩
  · cases gap with
    | nil => exact (List.cons.inj hback).2 ▸ List.suffix_refl back
    | cons first gap => exact ⟨gap ++ [x], by rw [(List.cons.inj hback).2, List.append_assoc]; rfl⟩
  · cases gap with
    | nil => exact (List.cons.inj hmore).2 ▸ List.suffix_refl more
    | cons first gap =>
      obtain ⟨rfl, -⟩ := List.cons.inj hmore
      exact absurd (hgap ▸ List.mem_append_right other List.mem_cons_self) hfront

variable [DecidableEq α]

theorem dropWhile_ne_append_cons (hfront : x ∉ front) : (front ++ x :: back).dropWhile (· ≠ x) = x :: back := by
  rw [List.dropWhile_append_of_pos fun y hy => by simpa using ne_of_mem_of_not_mem hy hfront,
    List.dropWhile_cons_of_neg (by simp)]

theorem takeWhile_ne_append_cons (hfront : x ∉ front) : (front ++ x :: back).takeWhile (· ≠ x) = front := by
  rw [List.takeWhile_append_of_pos fun y hy => by simpa using ne_of_mem_of_not_mem hy hfront,
    List.takeWhile_cons_of_neg (by simp), List.append_nil]

theorem dropWhile_ne_eq_nil (habsent : x ∉ front) : front.dropWhile (· ≠ x) = [] := by
  rw [List.dropWhile_eq_nil_iff]
  intro y hy
  simpa using ne_of_mem_of_not_mem hy habsent

end Cut

end DriverIndex.Text
