import DriverIndex.Text.Utf8
import Mathlib.Data.List.Basic

/-!
# Line feeds in decoded bytes

A line feed cannot stand inside the encoding of another character, so it always ends what the decoder is in the middle of and leaves nothing behind. Bytes can therefore be cut at their line feeds before or after decoding, ill-formed or not, and decoding neither makes a line feed nor loses one. The invariant of the decoder that carries this is that the next byte it waits for is none below `0x80`, and that what it has read so far of a character is already too much for a line feed.
-/

namespace DriverIndex.Text.Utf8

theorem code_of_ofNat_eq_newline {code : Nat} (hchar : Char.ofNat code = '\n') : code = 0x0A := by
  by_cases hvalid : code.isValidChar
  · rw [Char.ofNat, dif_pos hvalid] at hchar
    exact congrArg Char.toNat hchar
  · rw [Char.ofNat, dif_neg hvalid] at hchar
    exact absurd hchar (by decide)

namespace Decoder

section Pending

variable {missing value : Nat} {low high byte : UInt8} {units : List (Option Char)}

theorem feed_nothing (units : List (Option Char)) (byte : UInt8) :
    (⟨.nothing, units⟩ : Decoder).feed byte = lead units byte := rfl

theorem feed_last (hbyte : low ≤ byte ∧ byte ≤ high) (hmissing : missing ≤ 1) :
    (⟨.character missing low high value, units⟩ : Decoder).feed byte =
      ⟨.nothing, some (Char.ofNat (value * 64 + (byte.toNat - 0x80))) :: units⟩ :=
  (if_pos hbyte).trans (if_pos hmissing)

theorem feed_more (hbyte : low ≤ byte ∧ byte ≤ high) (hmissing : ¬missing ≤ 1) :
    (⟨.character missing low high value, units⟩ : Decoder).feed byte =
      ⟨.character (missing - 1) 0x80 0xBF (value * 64 + (byte.toNat - 0x80)), units⟩ :=
  (if_pos hbyte).trans (if_neg hmissing)

theorem feed_broken (hbyte : ¬(low ≤ byte ∧ byte ≤ high)) :
    (⟨.character missing low high value, units⟩ : Decoder).feed byte = lead (none :: units) byte :=
  if_neg hbyte

end Pending

/-- The decoder waits for no byte below `0x80`, and no byte that it waits for can finish a line feed. -/
def Sound (decoder : Decoder) : Prop :=
  match decoder.pending with
  | .nothing => True
  | .character _ low _ value => 0x80 ≤ low.toNat ∧ (1 ≤ value ∨ 0x90 ≤ low.toNat)

theorem sound_start : start.Sound := trivial

/-- The ways in which a byte can start: as a character by itself, as the first byte of a longer one, or as neither. -/
inductive Leads (byte : UInt8) : Prop where
  | ascii (hascii : byte < 0x80)
      (hlead : ∀ units, lead units byte = ⟨.nothing, some (Char.ofNat byte.toNat) :: units⟩)
  | longer (missing value : Nat) (low high : UInt8) (hascii : ¬byte < 0x80) (hlow : 0x80 ≤ low.toNat)
      (hvalue : 1 ≤ value ∨ 0x90 ≤ low.toNat)
      (hlead : ∀ units, lead units byte = ⟨.character missing low high value, units⟩)
  | illFormed (hascii : ¬byte < 0x80) (hlead : ∀ units, lead units byte = ⟨.nothing, none :: units⟩)

theorem leads (byte : UInt8) : Leads byte := by
  have hbound : ∀ {limit : UInt8}, ¬byte < limit → limit.toNat ≤ byte.toNat := by
    intro limit hlimit
    exact UInt8.le_iff_toNat_le.1 (UInt8.not_lt.1 hlimit)
  -- The tests stand in the order in which `lead` makes them, so each lower bound is the refusal before it.
  by_cases h80 : byte < 0x80
  · exact .ascii h80 fun units => if_pos h80
  by_cases hC2 : byte < 0xC2
  · exact .illFormed h80 fun units => by rw [lead, if_neg h80, if_pos hC2]
  by_cases hE0 : byte < 0xE0
  · have hvalue : 1 ≤ byte.toNat - 0xC0 := Nat.le_trans (by decide) (Nat.sub_le_sub_right (hbound hC2) 0xC0)
    exact .longer 1 (byte.toNat - 0xC0) 0x80 0xBF h80 (by decide) (.inl hvalue) fun units => by
      rw [lead, if_neg h80, if_neg hC2, if_pos hE0]
  by_cases eE0 : byte = 0xE0
  · exact .longer 2 0 0xA0 0xBF h80 (by decide) (.inr (by decide)) fun units => by
      rw [lead, if_neg h80, if_neg hC2, if_neg hE0, if_pos eE0]
  by_cases eED : byte = 0xED
  · exact .longer 2 0xD 0x80 0x9F h80 (by decide) (.inl (by decide)) fun units => by
      rw [lead, if_neg h80, if_neg hC2, if_neg hE0, if_neg eE0, if_pos eED]
  by_cases hF0 : byte < 0xF0
  · have hfirst : byte.toNat ≠ (0xE0 : UInt8).toNat := mt UInt8.toNat_inj.1 eE0
    have hvalue : 1 ≤ byte.toNat - 0xE0 := Nat.sub_pos_of_lt (Nat.lt_of_le_of_ne (hbound hE0) hfirst.symm)
    exact .longer 2 (byte.toNat - 0xE0) 0x80 0xBF h80 (by decide) (.inl hvalue) fun units => by
      rw [lead, if_neg h80, if_neg hC2, if_neg hE0, if_neg eE0, if_neg eED, if_pos hF0]
  by_cases eF0 : byte = 0xF0
  · exact .longer 3 0 0x90 0xBF h80 (by decide) (.inr (by decide)) fun units => by
      rw [lead, if_neg h80, if_neg hC2, if_neg hE0, if_neg eE0, if_neg eED, if_neg hF0, if_pos eF0]
  by_cases hF4 : byte < 0xF4
  · have hfirst : byte.toNat ≠ (0xF0 : UInt8).toNat := mt UInt8.toNat_inj.1 eF0
    have hvalue : 1 ≤ byte.toNat - 0xF0 := Nat.sub_pos_of_lt (Nat.lt_of_le_of_ne (hbound hF0) hfirst.symm)
    exact .longer 3 (byte.toNat - 0xF0) 0x80 0xBF h80 (by decide) (.inl hvalue) fun units => by
      rw [lead, if_neg h80, if_neg hC2, if_neg hE0, if_neg eE0, if_neg eED, if_neg hF0, if_neg eF0, if_pos hF4]
  by_cases eF4 : byte = 0xF4
  · exact .longer 3 4 0x80 0x8F h80 (by decide) (.inl (by decide)) fun units => by
      rw [lead, if_neg h80, if_neg hC2, if_neg hE0, if_neg eE0, if_neg eED, if_neg hF0, if_neg eF0, if_neg hF4,
        if_pos eF4]
  · exact .illFormed h80 fun units => by
      rw [lead, if_neg h80, if_neg hC2, if_neg hE0, if_neg eE0, if_neg eED, if_neg hF0, if_neg eF0, if_neg hF4,
        if_neg eF4]

theorem sound_lead (units : List (Option Char)) (byte : UInt8) : (lead units byte).Sound := by
  cases leads byte with
  | ascii _ hlead =>
    rw [hlead]
    trivial
  | longer _ _ _ _ _ hlow hvalue hlead =>
    rw [hlead]
    exact ⟨hlow, hvalue⟩
  | illFormed _ hlead =>
    rw [hlead]
    trivial

/-- The value of a character that is being read only grows, and is past that of a line feed from the second byte on. -/
theorem next_value {low byte : UInt8} {value : Nat} (hlow : 0x80 ≤ low.toNat) (hvalue : 1 ≤ value ∨ 0x90 ≤ low.toNat)
    (hbyte : low ≤ byte) : 16 ≤ value * 64 + (byte.toNat - 0x80) := by
  rw [UInt8.le_iff_toNat_le] at hbyte
  omega

theorem Sound.feed {decoder : Decoder} (hsound : decoder.Sound) (byte : UInt8) : (decoder.feed byte).Sound := by
  obtain ⟨pending, units⟩ := decoder
  cases pending with
  | nothing => exact sound_lead units byte
  | character missing low high value =>
    by_cases hbyte : low ≤ byte ∧ byte ≤ high
    · have hnext := next_value hsound.1 hsound.2 hbyte.1
      by_cases hmissing : missing ≤ 1
      · rw [feed_last hbyte hmissing]
        trivial
      · rw [feed_more hbyte hmissing]
        exact ⟨by decide, .inl (by omega)⟩
    · rw [feed_broken hbyte]
      exact sound_lead _ byte

theorem Sound.foldl_feed {decoder : Decoder} (hsound : decoder.Sound) (bytes : List UInt8) :
    (bytes.foldl Decoder.feed decoder).Sound := by
  induction bytes generalizing decoder with
  | nil => exact hsound
  | cons byte rest ih => exact ih (hsound.feed byte)

/-! ### Bytes after bytes -/

/-- The decoder with units read before all of its own. -/
def after (former : List (Option Char)) (decoder : Decoder) : Decoder := ⟨decoder.pending, decoder.units ++ former⟩

theorem lead_after (former units : List (Option Char)) (byte : UInt8) :
    lead (units ++ former) byte = (lead units byte).after former := by
  cases leads byte with
  | ascii _ hlead =>
    rw [hlead, hlead]
    rfl
  | longer _ _ _ _ _ _ _ hlead =>
    rw [hlead, hlead]
    rfl
  | illFormed _ hlead =>
    rw [hlead, hlead]
    rfl

theorem feed_after (former : List (Option Char)) (decoder : Decoder) (byte : UInt8) :
    (decoder.after former).feed byte = (decoder.feed byte).after former := by
  obtain ⟨pending, units⟩ := decoder
  cases pending with
  | nothing => exact lead_after former units byte
  | character missing low high value =>
    rw [after]
    by_cases hbyte : low ≤ byte ∧ byte ≤ high
    · by_cases hmissing : missing ≤ 1
      · rw [feed_last hbyte hmissing, feed_last hbyte hmissing]
        rfl
      · rw [feed_more hbyte hmissing, feed_more hbyte hmissing]
        rfl
    · rw [feed_broken hbyte, feed_broken hbyte]
      exact lead_after former (none :: units) byte

theorem foldl_feed_after (former : List (Option Char)) (decoder : Decoder) (bytes : List UInt8) :
    bytes.foldl feed (decoder.after former) = (bytes.foldl feed decoder).after former := by
  induction bytes generalizing decoder with
  | nil => rfl
  | cons byte rest ih => rw [List.foldl_cons, feed_after, ih, List.foldl_cons]

theorem close_after (former : List (Option Char)) (decoder : Decoder) :
    (decoder.after former).close = former.reverse ++ decoder.close := by
  obtain ⟨pending, units⟩ := decoder
  cases pending <;> simp [after, close]

/-- No character that is being read can go on with a line feed. -/
theorem Sound.not_waits_newline {missing value : Nat} {low high : UInt8} {units : List (Option Char)}
    (hsound : (⟨.character missing low high value, units⟩ : Decoder).Sound) : ¬(low ≤ 0x0A ∧ 0x0A ≤ high) := by
  rintro ⟨hle, -⟩
  have hlow := hsound.1
  have hnewline : (0x0A : UInt8).toNat = 0x0A := rfl
  rw [UInt8.le_iff_toNat_le, hnewline] at hle
  omega

/-- A line feed closes what came before it. -/
theorem Sound.feed_newline {decoder : Decoder} (hsound : decoder.Sound) :
    decoder.feed 0x0A = start.after (some '\n' :: decoder.close.reverse) := by
  obtain ⟨pending, units⟩ := decoder
  have hlead : ∀ former : List (Option Char), lead former 0x0A = ⟨.nothing, some '\n' :: former⟩ := fun _ => rfl
  cases pending with
  | nothing =>
    rw [feed_nothing, hlead]
    simp [start, after, close]
  | character missing low high value =>
    rw [feed_broken hsound.not_waits_newline, hlead]
    simp [start, after, close]

/-! ### Where line feeds come from -/

theorem count_newline_lead (units : List (Option Char)) (byte : UInt8) :
    (lead units byte).units.count (some '\n') = units.count (some '\n') + if byte = 0x0A then 1 else 0 := by
  have hother : ¬byte < 0x80 → byte ≠ 0x0A := by
    rintro hascii rfl
    exact hascii (by decide)
  cases leads byte with
  | ascii hascii hlead =>
    have hchar : some (Char.ofNat byte.toNat) = some '\n' ↔ byte = 0x0A := by
      constructor
      · intro heq
        exact UInt8.toNat_inj.1 (code_of_ofNat_eq_newline (Option.some.inj heq))
      · rintro rfl
        rfl
    rw [hlead, List.count_cons]
    simp only [beq_iff_eq, hchar]
  | longer _ _ _ _ hascii _ _ hlead =>
    rw [hlead, if_neg (hother hascii)]
    rfl
  | illFormed hascii hlead =>
    rw [hlead, if_neg (hother hascii)]
    exact List.count_cons_of_ne (by simp)

theorem Sound.count_newline_feed {decoder : Decoder} (hsound : decoder.Sound) (byte : UInt8) :
    (decoder.feed byte).units.count (some '\n') = decoder.units.count (some '\n') + if byte = 0x0A then 1 else 0 := by
  obtain ⟨pending, units⟩ := decoder
  cases pending with
  | nothing => exact count_newline_lead units byte
  | character missing low high value =>
    by_cases hbyte : low ≤ byte ∧ byte ≤ high
    · have hnewline : byte ≠ 0x0A := by
        rintro rfl
        exact hsound.not_waits_newline hbyte
      rw [if_neg hnewline]
      by_cases hmissing : missing ≤ 1
      · have hnext := next_value hsound.1 hsound.2 hbyte.1
        have hchar : some (Char.ofNat (value * 64 + (byte.toNat - 0x80))) ≠ some '\n' := by
          intro heq
          have hcode := code_of_ofNat_eq_newline (Option.some.inj heq)
          omega
        rw [feed_last hbyte hmissing]
        exact List.count_cons_of_ne hchar
      · rw [feed_more hbyte hmissing]
        rfl
    · rw [feed_broken hbyte, count_newline_lead, List.count_cons_of_ne (by simp)]

theorem Sound.count_newline_foldl_feed {decoder : Decoder} (hsound : decoder.Sound) (bytes : List UInt8) :
    (bytes.foldl Decoder.feed decoder).units.count (some '\n') =
      decoder.units.count (some '\n') + bytes.count 0x0A := by
  induction bytes generalizing decoder with
  | nil => rfl
  | cons byte rest ih =>
    rw [List.foldl_cons, ih (hsound.feed byte), hsound.count_newline_feed, List.count_cons]
    simp only [beq_iff_eq]
    omega

theorem count_newline_close (decoder : Decoder) :
    decoder.close.count (some '\n') = decoder.units.count (some '\n') := by
  obtain ⟨pending, units⟩ := decoder
  cases pending <;> simp [close]

end Decoder

/-! ### Decoding line by line -/

/-- Bytes can be decoded apart on both sides of a line feed, whatever stands there. -/
theorem decodeLossy_append_newline (front back : List UInt8) :
    decodeLossy (front ++ 0x0A :: back) = decodeLossy front ++ '\n' :: decodeLossy back := by
  have hsound := Decoder.sound_start.foldl_feed front
  have hunits : units (front ++ 0x0A :: back) = units front ++ some '\n' :: units back := by
    rw [units, List.foldl_append, List.foldl_cons, hsound.feed_newline, Decoder.foldl_feed_after, Decoder.close_after,
      List.reverse_cons, List.reverse_reverse, List.append_assoc]
    rfl
  rw [decodeLossy, hunits, List.map_append, List.map_cons]
  rfl

/-- Decoding makes no line feed and loses none. -/
theorem count_newline_decodeLossy (bytes : List UInt8) : (decodeLossy bytes).count '\n' = bytes.count 0x0A := by
  have hunit : ∀ unit : Option Char, (unit.getD '\uFFFD' == '\n') = (unit == some '\n') := by
    intro unit
    cases unit <;> rfl
  have hunits : (decodeLossy bytes).count '\n' = (units bytes).count (some '\n') := by
    rw [decodeLossy, List.count_eq_countP, List.countP_map, List.count_eq_countP]
    exact List.countP_congr fun unit _ => by rw [Function.comp_apply, hunit]
  rw [hunits, units, Decoder.count_newline_close, Decoder.sound_start.count_newline_foldl_feed]
  exact Nat.zero_add _

end DriverIndex.Text.Utf8
