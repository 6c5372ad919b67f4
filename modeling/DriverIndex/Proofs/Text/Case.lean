import DriverIndex.Text.Case
import Mathlib.Data.List.Basic

/-!
# Letter case and underscores

Names in generated files are joined by underscores after their case is changed, so this file settles how the two meet. An underscore has no case and no character turns into one; it also ends a word, so the form of a sigma never depends on what stands beyond it. Changing the case of joined words is therefore the same as joining the changed words, and a text with no underscore gets none.
-/

namespace DriverIndex.Text

/-- Texts without underscores can be read off what they are joined to. -/
theorem append_underscore_inj {front other back rest : String} (hfront : '_' ∉ front.toList)
    (hother : '_' ∉ other.toList) : front ++ "_" ++ back = other ++ "_" ++ rest ↔ front = other ∧ back = rest := by
  have hcut : ∀ {text : String} (tail : String), '_' ∉ text.toList →
      (text ++ "_" ++ tail).toList.takeWhile (· ≠ '_') = text.toList := by
    intro text tail htext
    have hall : ∀ c ∈ text.toList, decide (c ≠ '_') = true := fun c hmem =>
      decide_eq_true (ne_of_mem_of_not_mem hmem htext)
    rw [String.toList_append, String.toList_append, List.append_assoc, List.takeWhile_append_of_pos hall]
    simp
  constructor
  · intro heq
    have hsame : front = other := by rw [← String.toList_inj, ← hcut back hfront, heq, hcut rest hother]
    subst hsame
    exact ⟨rfl, (String.append_right_inj _).1 heq⟩
  · rintro ⟨rfl, rfl⟩
    rfl

/-- A mapping leaves underscores alone: no row and no expansion produces one. -/
def KeepsUnderscore (rows : List (Nat × Nat × Nat × Nat)) (expansions : List (Nat × List Nat)) : Prop :=
  (∀ row ∈ rows, '_'.toNat < row.2.2.2 ∨ row.2.2.2 + (row.2.1 - row.1) < '_'.toNat) ∧
    ∀ expansion ∈ expansions, expansion.2 ≠ [] ∧ ∀ image ∈ expansion.2, image ≠ '_'.toNat

instance (rows : List (Nat × Nat × Nat × Nat)) (expansions : List (Nat × List Nat)) :
    Decidable (KeepsUnderscore rows expansions) :=
  inferInstanceAs (Decidable (_ ∧ _))

theorem keepsUnderscore_upper : KeepsUnderscore CaseTable.upperRows CaseTable.upperExpansions := by decide +kernel

theorem keepsUnderscore_lower : KeepsUnderscore CaseTable.lowerRows CaseTable.lowerExpansions := by decide +kernel

theorem ofNat_ne_underscore {code : Nat} (hcode : code ≠ '_'.toNat) : Char.ofNat code ≠ '_' := by
  intro heq
  by_cases hvalid : code.isValidChar
  · rw [Char.ofNat, dif_pos hvalid] at heq
    exact hcode (congrArg Char.toNat heq)
  · rw [Char.ofNat, dif_neg hvalid] at heq
    exact absurd heq (by decide)

section Mapping

variable {rows : List (Nat × Nat × Nat × Nat)} {expansions : List (Nat × List Nat)}

theorem rowImage?_ne_underscore (hkeeps : KeepsUnderscore rows expansions) {code image : Nat}
    (himage : rowImage? rows code = some image) : image ≠ '_'.toNat := by
  obtain ⟨⟨first, last, step, start⟩, hmem, hrow⟩ := List.exists_of_findSome?_eq_some himage
  have hbounds := hkeeps.1 _ hmem
  dsimp only at hrow hbounds
  split_ifs at hrow with hcovers
  obtain rfl := Option.some.inj hrow
  omega

theorem lookup_mem {code : Nat} {images : List Nat} (hlookup : expansions.lookup code = some images) :
    (code, images) ∈ expansions := by
  obtain ⟨former, latter, rfl, -⟩ := List.lookup_eq_some_iff.1 hlookup
  simp

theorem mapCase_ne_nil (hkeeps : KeepsUnderscore rows expansions) (c : Char) : mapCase rows expansions c ≠ [] := by
  rw [mapCase]
  split
  · simp
  · split
    · rename_i images hlookup
      simpa using (hkeeps.2 _ (lookup_mem hlookup)).1
    · simp

theorem underscore_mem_mapCase (hkeeps : KeepsUnderscore rows expansions) {c : Char}
    (hmem : '_' ∈ mapCase rows expansions c) : c = '_' := by
  rw [mapCase] at hmem
  split at hmem
  · rename_i image himage
    exact absurd (List.mem_singleton.1 hmem).symm (ofNat_ne_underscore (rowImage?_ne_underscore hkeeps himage))
  · split at hmem
    · rename_i images hlookup
      obtain ⟨image, himage, heq⟩ := List.mem_map.1 hmem
      exact absurd heq (ofNat_ne_underscore ((hkeeps.2 _ (lookup_mem hlookup)).2 image himage))
    · exact (List.mem_singleton.1 hmem).symm

end Mapping

/-! ### Upper case -/

theorem upper_append (front back : List Char) : upper (front ++ back) = upper front ++ upper back :=
  List.flatMap_append

theorem upper_underscore : upper ['_'] = ['_'] := by decide +kernel

theorem upper_eq_nil_iff {text : List Char} : upper text = [] ↔ text = [] := by
  rw [upper, List.flatMap_eq_nil_iff]
  constructor
  · intro hnone
    refine List.eq_nil_iff_forall_not_mem.2 fun c hmem => mapCase_ne_nil keepsUnderscore_upper c (hnone c hmem)
  · rintro rfl c hmem
    cases hmem

theorem underscore_mem_upper {text : List Char} (hmem : '_' ∈ upper text) : '_' ∈ text := by
  obtain ⟨c, hc, himage⟩ := List.mem_flatMap.1 hmem
  rwa [underscore_mem_mapCase keepsUnderscore_upper himage] at hc

/-! ### Lower case -/

theorem meetsCased_append_underscore (front back : List Char) :
    meetsCased (front ++ '_' :: back) = meetsCased front := by
  have hignored : isCaseIgnorable '_' = false := by decide +kernel
  have hcased : isCased '_' = false := by decide +kernel
  induction front with
  | nil => simp [meetsCased, hignored, hcased]
  | cons c front ih =>
    by_cases hc : isCaseIgnorable c = true
    · simpa [meetsCased, hc] using ih
    · simp [meetsCased, hc]

/-- The lower case of the text that is left, after what was read backwards. -/
theorem lowerFrom_eq (before done text : List Char) :
    lowerFrom before done text = done.reverse ++ lowerFrom before [] text := by
  induction text generalizing before done with
  | nil => simp [lowerFrom]
  | cons c after ih =>
    rw [lowerFrom, ih, lowerFrom, List.append_nil, ih _ (List.reverse _)]
    simp

/-- The lower case of one character among others. -/
def lowerCharIn (before after : List Char) (c : Char) : List Char :=
  if c = 'Σ' then [if endsWord before after then 'ς' else 'σ'] else lowerChar c

theorem lowerFrom_cons (before after : List Char) (c : Char) :
    lowerFrom before [] (c :: after) = lowerCharIn before after c ++ lowerFrom (c :: before) [] after := by
  rw [lowerFrom, lowerFrom_eq, List.append_nil, List.reverse_reverse, lowerCharIn]

/-- What stands before an underscore does not matter beyond it. -/
theorem lowerFrom_append_underscore (before far text : List Char) :
    lowerFrom (before ++ '_' :: far) [] text = lowerFrom before [] text := by
  induction text generalizing before with
  | nil => rfl
  | cons c after ih =>
    rw [lowerFrom_cons, lowerFrom_cons, ← List.cons_append, ih, lowerCharIn, lowerCharIn, endsWord, endsWord,
      meetsCased_append_underscore]

/-- What stands after an underscore does not matter before it. -/
theorem lowerFrom_underscore (before front back : List Char) :
    lowerFrom before [] (front ++ '_' :: back) = lowerFrom before [] front ++ '_' :: lower back := by
  induction front generalizing before with
  | nil =>
    have hlower : lowerCharIn before back '_' = ['_'] := (if_neg (by decide)).trans (by decide +kernel)
    rw [List.nil_append, lowerFrom_cons, hlower, ← List.nil_append ('_' :: before), lowerFrom_append_underscore]
    rfl
  | cons c front ih =>
    rw [List.cons_append, lowerFrom_cons, ih, lowerFrom_cons, List.append_assoc, lowerCharIn, lowerCharIn, endsWord,
      endsWord, meetsCased_append_underscore]

theorem lower_append_underscore (front back : List Char) :
    lower (front ++ '_' :: back) = lower front ++ '_' :: lower back :=
  lowerFrom_underscore [] front back

theorem underscore_mem_lowerFrom {before text : List Char} (hmem : '_' ∈ lowerFrom before [] text) : '_' ∈ text := by
  induction text generalizing before with
  | nil => cases hmem
  | cons c after ih =>
    rw [lowerFrom_cons, List.mem_append] at hmem
    rcases hmem with hhead | htail
    · rw [lowerCharIn] at hhead
      split_ifs at hhead
      · simp at hhead
      · simp at hhead
      · rw [underscore_mem_mapCase keepsUnderscore_lower hhead]
        exact List.mem_cons_self
    · exact List.mem_cons_of_mem c (ih htail)

theorem underscore_mem_lower {text : List Char} (hmem : '_' ∈ lower text) : '_' ∈ text :=
  underscore_mem_lowerFrom hmem

end DriverIndex.Text
