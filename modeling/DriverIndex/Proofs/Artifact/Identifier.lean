import DriverIndex.Naming
import DriverIndex.Registry
import DriverIndex.Proofs.Text.Case

/-!
# What an identifier keeps of a name and a key

A constant and a record are named by the joined words of their slot, the one in upper and the other in lower case. Both lose letter case, and with it the place where a name ends once an underscore may stand in the name as well as behind it. Nothing else is lost: two identifiers are the same exactly if their words agree in that case, and if the names keep apart from what is joined to them, then exactly if names and keys agree.
-/

namespace DriverIndex

namespace Naming

variable {name other key otherKey : String}

/-- The name and the key of a slot as a constant shows them, before their case is changed. -/
def joined (name key : String) : String := if key = "" then name else name ++ "_" ++ key

theorem toList_upperCase (s : String) : (upperCase s).toList = Text.upper s.toList := String.toList_ofList

theorem toList_lowerCase (s : String) : (lowerCase s).toList = Text.lower s.toList := String.toList_ofList

theorem upperCase_joined (hkey : key ≠ "") : upperCase (joined name key) = upperCase name ++ "_" ++ upperCase key := by
  have hunderscore : "_".toList = ['_'] := rfl
  rw [joined, if_neg hkey, ← String.toList_inj]
  simp only [toList_upperCase, String.toList_append, hunderscore, Text.upper_append, Text.upper_underscore]

theorem lowerCase_joined (name key : String) :
    lowerCase (name ++ "_" ++ key) = lowerCase name ++ "_" ++ lowerCase key := by
  have hunderscore : "_".toList = ['_'] := rfl
  rw [← String.toList_inj]
  simp only [toList_lowerCase, String.toList_append, hunderscore, List.append_assoc, List.singleton_append,
    Text.lower_append_underscore]

theorem constantName_eq (naming : Naming) (name key : String) :
    naming.constantName name key = naming.constantPrefix ++ "_" ++ upperCase (joined name key) := by
  rw [constantName]
  by_cases hkey : key = ""
  · rw [if_pos hkey, joined, if_pos hkey]
  · rw [if_neg hkey, upperCase_joined hkey]
    simp only [String.append_assoc]

theorem recordName_eq (naming : Naming) (name key : String) :
    naming.recordName name key = naming.recordPrefix ++ "_" ++ lowerCase (name ++ "_" ++ key) := by
  rw [recordName, lowerCase_joined]
  simp only [String.append_assoc]

theorem constantName_eq_iff (naming : Naming) :
    naming.constantName name key = naming.constantName other otherKey ↔
      upperCase (joined name key) = upperCase (joined other otherKey) := by
  rw [constantName_eq, constantName_eq, String.append_right_inj]

theorem recordName_eq_iff (naming : Naming) :
    naming.recordName name key = naming.recordName other otherKey ↔
      lowerCase (name ++ "_" ++ key) = lowerCase (other ++ "_" ++ otherKey) := by
  rw [recordName_eq, recordName_eq, String.append_right_inj]

/-! ### Names that keep apart from their keys -/

/-- Where the name ends is certain for a name beside itself and for two names without underscores. -/
def Separable (name other : String) : Prop := name = other ∨ '_' ∉ name.toList ∧ '_' ∉ other.toList

theorem Separable.symm (hnames : Separable name other) : Separable other name := hnames.imp Eq.symm And.symm

theorem Separable.ne_append (hnames : Separable name other) {back : String} : name ≠ other ++ "_" ++ back := by
  intro heq
  rcases hnames with rfl | ⟨hname, -⟩
  · have hlength := congrArg (fun text => text.toList.length) heq
    simp only [String.toList_append, List.length_append] at hlength
    have hunderscore : "_".toList.length = 1 := rfl
    omega
  · refine hname ?_
    rw [heq]
    simp [String.toList_append]

theorem Separable.append_inj (hnames : Separable name other) :
    name ++ "_" ++ key = other ++ "_" ++ otherKey ↔ name = other ∧ key = otherKey := by
  rcases hnames with rfl | ⟨hname, hother⟩
  · rw [String.append_right_inj]
    exact (and_iff_right rfl).symm
  · exact Text.append_underscore_inj hname hother

theorem Separable.upperCase (hnames : Separable name other) : Separable (upperCase name) (upperCase other) := by
  refine hnames.imp (congrArg _) fun ⟨hname, hother⟩ => ?_
  rw [toList_upperCase, toList_upperCase]
  exact ⟨mt Text.underscore_mem_upper hname, mt Text.underscore_mem_upper hother⟩

theorem Separable.lowerCase (hnames : Separable name other) : Separable (lowerCase name) (lowerCase other) := by
  refine hnames.imp (congrArg _) fun ⟨hname, hother⟩ => ?_
  rw [toList_lowerCase, toList_lowerCase]
  exact ⟨mt Text.underscore_mem_lower hname, mt Text.underscore_mem_lower hother⟩

theorem upperCase_eq_empty_iff : upperCase key = "" ↔ key = "" := by
  rw [← String.toList_eq_nil_iff, toList_upperCase, Text.upper_eq_nil_iff, String.toList_eq_nil_iff]

theorem upperCase_joined_eq_iff (hnames : Separable name other) :
    upperCase (joined name key) = upperCase (joined other otherKey) ↔
      upperCase name = upperCase other ∧ upperCase key = upperCase otherKey := by
  by_cases hkey : key = "" <;> by_cases hotherKey : otherKey = ""
  · simp [joined, hkey, hotherKey]
  · rw [upperCase_joined hotherKey, joined, if_pos hkey, hkey]
    constructor
    · intro heq
      exact absurd heq hnames.upperCase.ne_append
    · rintro ⟨-, hempty⟩
      exact absurd (upperCase_eq_empty_iff.1 hempty.symm) hotherKey
  · rw [upperCase_joined hkey, joined, if_pos hotherKey, hotherKey]
    constructor
    · intro heq
      exact absurd heq.symm hnames.symm.upperCase.ne_append
    · rintro ⟨-, hempty⟩
      exact absurd (upperCase_eq_empty_iff.1 hempty) hkey
  · rw [upperCase_joined hkey, upperCase_joined hotherKey]
    exact hnames.upperCase.append_inj

theorem lowerCase_joined_eq_iff (hnames : Separable name other) :
    lowerCase (name ++ "_" ++ key) = lowerCase (other ++ "_" ++ otherKey) ↔
      lowerCase name = lowerCase other ∧ lowerCase key = lowerCase otherKey := by
  rw [lowerCase_joined, lowerCase_joined]
  exact hnames.lowerCase.append_inj

/-! ### The fixed words -/

/-- The closing constant is spelled by a name alone. -/
theorem constantName_eq_closing_iff (naming : Naming) :
    naming.constantName name key = naming.constantName closingName "" ↔ upperCase name = closingName ∧ key = "" := by
  have hclosing : upperCase (joined closingName "") = closingName := by decide +kernel
  rw [constantName_eq, constantName_eq, String.append_right_inj, hclosing]
  by_cases hkey : key = ""
  · rw [joined, if_pos hkey]
    exact (and_iff_left hkey).symm
  · rw [upperCase_joined hkey]
    constructor
    · intro heq
      have hmem : '_' ∈ closingName.toList := by
        rw [← heq]
        simp [String.toList_append]
      exact absurd hmem (by decide)
    · rintro ⟨-, hempty⟩
      exact absurd hempty hkey

/-- The terminator is spelled by a name alone, or by a name and a key that share its one underscore. -/
theorem constantName_eq_terminatorName_iff :
    ({} : Naming).constantName name key = ({} : Naming).terminatorName ↔
      upperCase name = "PCI_TERMINATOR" ∧ key = "" ∨ upperCase name = "PCI" ∧ upperCase key = "TERMINATOR" := by
  have hterminator : ({} : Naming).terminatorName = "ARC_DRIDEF" ++ "_" ++ ("PCI" ++ "_" ++ "TERMINATOR") := by decide
  rw [constantName_eq, hterminator, String.append_right_inj]
  by_cases hkey : key = ""
  · rw [joined, if_pos hkey, hkey]
    have hempty : upperCase "" ≠ "TERMINATOR" := by decide +kernel
    simp [hempty]
  · rw [upperCase_joined hkey]
    constructor
    · intro heq
      have hname : '_' ∉ (upperCase name).toList := by
        have hcount := congrArg (fun text => text.toList.count '_') heq
        simp only [String.toList_append, List.count_append] at hcount
        have hone : "_".toList.count '_' = 1 := rfl
        have hnone : "PCI".toList.count '_' = 0 ∧ "TERMINATOR".toList.count '_' = 0 := ⟨rfl, rfl⟩
        exact List.count_eq_zero.1 (by omega)
      exact .inr ((Text.append_underscore_inj hname (by decide)).1 heq)
    · rintro (⟨-, hempty⟩ | ⟨hname, hlast⟩)
      · exact absurd hempty hkey
      · rw [hname, hlast]

theorem constantName_ne_includeGuard : ({} : Naming).constantName name key ≠ ({} : Naming).includeGuard := by
  rw [constantName_eq, ne_eq, ← String.toList_inj]
  simp [String.toList_append]

end Naming

end DriverIndex
