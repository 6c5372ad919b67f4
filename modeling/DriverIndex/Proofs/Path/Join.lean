import DriverIndex.Proofs.FileSystem.Tree
import Mathlib.Data.List.Induction
import Mathlib.Data.List.TakeWhile

/-!
# Paths of what stands below a path

A name joined to a path becomes the last segment of it, whether the path ends in a slash or not, and so its last component. Going down by several names adds them all, and different names lead to different paths. More slashes at the end add nothing but empty segments. The extension of a name is what stands behind its last dot, if anything stands before that dot.
-/

namespace DriverIndex

open Node (IsName)

section Splitting

variable {α : Type} [BEq α] [LawfulBEq α] {separator : α} {whole piece : List α}

theorem mem_of_mem_splitOn (hpiece : piece ∈ whole.splitOn separator) {x : α} (hx : x ∈ piece) :
    x ∈ whole ∧ x ≠ separator := by
  induction whole generalizing piece with
  | nil =>
    rw [List.splitOn_nil, List.mem_singleton] at hpiece
    subst hpiece
    cases hx
  | cons first rest ih =>
    rw [List.splitOn_cons_eq_if_modifyHead] at hpiece
    split_ifs at hpiece with hfirst
    · rcases List.mem_cons.1 hpiece with rfl | hrest
      · cases hx
      · exact (ih hrest hx).imp_left (List.mem_cons_of_mem first)
    · obtain ⟨head, tail, hsplit⟩ := List.exists_cons_of_ne_nil (List.splitOn_ne_nil separator rest)
      rw [hsplit, List.modifyHead_cons] at hpiece
      rcases List.mem_cons.1 hpiece with rfl | htail
      · rcases List.mem_cons.1 hx with rfl | hhead
        · exact ⟨List.mem_cons_self, fun heq => hfirst (beq_iff_eq.2 heq)⟩
        · exact (ih (hsplit ▸ List.mem_cons_self) hhead).imp_left (List.mem_cons_of_mem first)
      · exact (ih (hsplit ▸ List.mem_cons_of_mem head htail) hx).imp_left (List.mem_cons_of_mem first)

end Splitting

namespace Path

variable {path : Path} {name segment : String} {names : List String}

theorem segments_ne_nil (path : Path) : path.segments ≠ [] := by
  rw [segments, Ne, List.map_eq_nil_iff]
  exact List.splitOn_ne_nil _ _

theorem mem_of_mem_segments (hsegment : segment ∈ path.segments) {c : Char} (hc : c ∈ segment.toList) :
    c ∈ path.text.toList ∧ c ≠ '/' := by
  obtain ⟨piece, hpiece, rfl⟩ := List.mem_map.1 hsegment
  rw [String.toList_ofList] at hc
  exact mem_of_mem_splitOn hpiece hc

/-- What stands before the last segment of a path with a name joined to it. -/
structure FrontIs (path : Path) (front : List String) : Prop where
  ne_nil : front ≠ []
  segments_eq : path.segments = front ∨ path.segments = front ++ [""]

/-- A joined name is the last segment, and no empty segment is put before it. -/
theorem segments_join (hpath : path.text ≠ "") (hname : '/' ∉ name.toList) :
    ∃ front, path.FrontIs front ∧ (path.join name).segments = front ++ [name] := by
  have hsingle : name.toList.splitOn '/' = [name.toList] := List.splitOn_eq_singleton hname
  have hlast : path.text.toList ≠ [] := fun h => hpath (String.toList_eq_nil_iff.1 h)
  obtain ⟨start, c, hstart⟩ := List.eq_nil_or_concat path.text.toList |>.resolve_left hlast
  rw [List.concat_eq_append] at hstart
  by_cases hslash : c = '/'
  · subst hslash
    refine ⟨(start.splitOn '/').map String.ofList, ⟨?_, .inr ?_⟩, ?_⟩
    · rw [Ne, List.map_eq_nil_iff]
      exact List.splitOn_ne_nil '/' start
    · rw [segments, hstart, List.splitOn_append_cons_self, List.splitOn_nil, List.map_append]
      rfl
    · have hjoin : (path.join name).text.toList = start ++ '/' :: name.toList := by
        rw [join, hstart, List.getLast?_concat]
        simp [hstart]
      rw [segments, hjoin, List.splitOn_append_cons_self, hsingle, List.map_append]
      simp
  · refine ⟨path.segments, ⟨segments_ne_nil path, .inl rfl⟩, ?_⟩
    have hjoin : (path.join name).text.toList = path.text.toList ++ '/' :: name.toList := by
      rw [join, hstart, List.getLast?_concat]
      split
      · simp_all
      · simp_all
      · simp [hstart]
    rw [segments, hjoin, List.splitOn_append_cons_self, hsingle, List.map_append, segments]
    simp

theorem join_text_ne (hpath : path.text ≠ "") : (path.join name).text ≠ "" := by
  rw [join]
  split <;> simp_all

theorem startOf_join (hpath : path.text ≠ "") (base : List String) :
    FileSystem.startOf (path.join name) base = FileSystem.startOf path base := by
  have hhead : (path.join name).text.toList.head? = path.text.toList.head? := by
    have hne : path.text.toList ≠ [] := fun h => hpath (String.toList_eq_nil_iff.1 h)
    obtain ⟨c, rest, hcons⟩ := List.exists_cons_of_ne_nil hne
    rw [join]
    split <;> simp_all
  rw [FileSystem.startOf, FileSystem.startOf, hhead]

theorem component?_name (hname : IsName name) (first : Bool) : component? first name = some (.name name) := by
  rw [component?, if_neg hname.ne_empty, if_neg hname.ne_dot, if_neg hname.ne_dots]

theorem components_eq (hpath : path.text ≠ "") : path.components =
    path.segments.zipIdx.filterMap fun (segment, index) => component? (index = 0) segment := by
  rw [components, parts, if_neg hpath, List.map_filterMap]
  congr 1
  funext entry
  dsimp only
  cases component? (entry.2 = 0) entry.1 <;> rfl

theorem components_join (hpath : path.text ≠ "") (hname : IsName name) :
    (path.join name).components = path.components ++ [.name name] := by
  obtain ⟨front, hfront, hjoin⟩ := segments_join hpath hname.slash_notMem
  have hlength : front.length ≠ 0 := fun h => hfront.ne_nil (List.length_eq_zero_iff.1 h)
  rw [components_eq (join_text_ne hpath), components_eq hpath, hjoin, List.zipIdx_append, List.filterMap_append]
  have hlast : ([name].zipIdx (0 + front.length)).filterMap
      (fun (segment, index) => component? (index = 0) segment) = [.name name] := by
    simp [component?_name hname]
  rw [hlast]
  rcases hfront.segments_eq with heq | heq
  · rw [heq]
  · rw [heq, List.zipIdx_append, List.filterMap_append]
    simp [component?, hlength]

/-! ### Several names -/

/-- The path of what is reached from a path by some names. -/
def descend (path : Path) (names : List String) : Path := names.foldl join path

theorem descend_singleton (path : Path) (name : String) : path.descend [name] = path.join name := rfl

theorem descend_concat (path : Path) (names : List String) (name : String) :
    path.descend (names ++ [name]) = (path.descend names).join name := by
  rw [descend, List.foldl_append, List.foldl_cons, List.foldl_nil, descend]

theorem descend_text_ne (hpath : path.text ≠ "") (names : List String) : (path.descend names).text ≠ "" := by
  induction names using List.reverseRecOn with
  | nil => exact hpath
  | append_singleton names name ih =>
    rw [descend_concat]
    exact join_text_ne ih

theorem components_descend (hpath : path.text ≠ "") (hnames : ∀ name ∈ names, IsName name) :
    (path.descend names).components = path.components ++ names.map .name := by
  induction names using List.reverseRecOn with
  | nil => exact (List.append_nil _).symm
  | append_singleton names name ih =>
    rw [List.forall_mem_append] at hnames
    rw [descend_concat, components_join (descend_text_ne hpath names) (hnames.2 name List.mem_cons_self), ih hnames.1,
      List.map_append, List.append_assoc, List.map_cons, List.map_nil]

/-! ### Slashes at the end -/

/-- A path with more slashes behind it. -/
def slashed (path : Path) (count : Nat) : Path := ⟨path.text ++ String.ofList (List.replicate count '/')⟩

theorem segments_slashed (path : Path) (count : Nat) :
    (path.slashed count).segments = path.segments ++ List.replicate count "" := by
  induction count with
  | zero => simp [slashed, segments]
  | succ count ih =>
    have htext : (path.slashed (count + 1)).text.toList = (path.slashed count).text.toList ++ '/' :: [] := by
      simp [slashed, List.replicate_succ']
    rw [segments, htext, List.splitOn_append_cons_self, List.map_append, ← segments, ih, List.replicate_succ',
      ← List.append_assoc]
    rfl

theorem utf8ByteSize_slashed (path : Path) (count : Nat) :
    (path.slashed count).text.utf8ByteSize = path.text.utf8ByteSize + count := by
  rw [slashed, String.utf8ByteSize_append, Nat.add_left_cancel_iff]
  induction count with
  | zero => rfl
  | succ count ih =>
    rw [List.replicate_succ', String.ofList_append, String.utf8ByteSize_append, ih]
    rfl

theorem join_slashed {count : Nat} (hcount : count ≠ 0) (path : Path) (name : String) :
    (path.slashed count).join name = ⟨(path.slashed count).text ++ name⟩ := by
  obtain ⟨count, rfl⟩ := Nat.exists_eq_succ_of_ne_zero hcount
  have hlast : (path.slashed (count + 1)).text.toList.getLast? = some '/' := by
    simp [slashed, List.replicate_succ']
  rw [join, hlast]
  rfl

theorem startOf_slashed (hpath : path.text ≠ "") (count : Nat) (base : List String) :
    FileSystem.startOf (path.slashed count) base = FileSystem.startOf path base := by
  have hne : path.text.toList ≠ [] := fun h => hpath (String.toList_eq_nil_iff.1 h)
  rw [FileSystem.startOf, FileSystem.startOf, slashed, String.toList_append, List.head?_append_of_ne_nil _ hne]

/-! ### Extensions -/

theorem nameExtension?_eq_some_iff {extension : String} : nameExtension? name = some extension ↔
    ∃ stem, stem ≠ "" ∧ name = stem ++ "." ++ extension ∧ '.' ∉ extension.toList := by
  constructor
  · intro heq
    obtain ⟨after, hafter⟩ : ∃ after, name.toList.reverse.takeWhile (· ≠ '.') = after := ⟨_, rfl⟩
    obtain ⟨back, hback⟩ : ∃ back, name.toList.reverse.dropWhile (· ≠ '.') = back := ⟨_, rfl⟩
    have hsplit : name.toList.reverse = after ++ back := by
      rw [← hafter, ← hback, List.takeWhile_append_dropWhile]
    rw [nameExtension?, hafter, hsplit, List.drop_left] at heq
    match back with
    | [] => cases heq
    | [_] => cases heq
    | dot :: c :: front =>
      obtain rfl := Option.some.inj heq
      have hdot : dot = '.' := by
        have hhead := List.head?_dropWhile_not (fun c => decide (c ≠ '.')) name.toList.reverse
        rw [hback] at hhead
        simpa using hhead
      refine ⟨String.ofList (c :: front).reverse, ?_, ?_, ?_⟩
      · simp
      · apply String.toList_injective
        rw [← List.reverse_inj, hsplit, hdot]
        simp
      · rw [String.toList_ofList, List.mem_reverse, ← hafter]
        intro hmem
        simpa using List.mem_takeWhile_imp hmem
  · rintro ⟨stem, hstem, rfl, hextension⟩
    have hreverse : (stem ++ "." ++ extension).toList.reverse = extension.toList.reverse ++ '.' :: stem.toList.reverse := by
      simp
    have htake : (stem ++ "." ++ extension).toList.reverse.takeWhile (· ≠ '.') = extension.toList.reverse := by
      rw [hreverse, List.takeWhile_append_of_pos]
      · simp
      · intro c hc
        exact decide_eq_true fun heq => hextension (heq ▸ List.mem_reverse.1 hc)
    have hne : stem.toList.reverse ≠ [] := by
      rw [Ne, List.reverse_eq_nil_iff]
      exact fun h => hstem (String.toList_eq_nil_iff.1 h)
    obtain ⟨c, rest, hcons⟩ := List.exists_cons_of_ne_nil hne
    rw [nameExtension?, htake, hreverse, List.drop_left, hcons, List.reverse_reverse, String.ofList_toList]

end Path

end DriverIndex
