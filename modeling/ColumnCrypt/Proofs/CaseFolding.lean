import Mathlib
import ColumnCrypt.Factory

/-!
Case folding of names, byte by byte.

A name is a text, so its bytes are the UTF-8 encoding of its characters. Names fold as the C
library folds those bytes in the C locale: an ASCII letter moves by 32 and every other byte is
kept, those of characters beyond ASCII among them, so folding keeps the byte length. Two names
have the same small letters exactly when they have the same capitals, so the registry of
creators and the indexes of names tell apart the same names (`case_folds_agree`).
-/

namespace ColumnCrypt.Text

def lowerByte (byte : UInt8) : UInt8 :=
  if 65 ≤ byte.toNat ∧ byte.toNat ≤ 90 then byte + 32 else byte

def upperByte (byte : UInt8) : UInt8 :=
  if 97 ≤ byte.toNat ∧ byte.toNat ≤ 122 then byte - 32 else byte

theorem toNat_toLower (c : Char) :
    c.toLower.toNat = if 65 ≤ c.toNat ∧ c.toNat ≤ 90 then c.toNat + 32 else c.toNat := by
  have range : (c.val ≥ 'A'.val ∧ c.val ≤ 'Z'.val) ↔ (65 ≤ c.toNat ∧ c.toNat ≤ 90) := by
    simp [UInt32.le_iff_toNat_le]
  unfold Char.toLower
  split <;> rename_i capital
  · rw [if_pos (range.mp capital)]
    have bounds := range.mp capital
    show (c.val + ('a'.val - 'A'.val)).toNat = c.toNat + 32
    have shift : ('a'.val - 'A'.val).toNat = 32 := by decide
    rw [UInt32.toNat_add]
    simp only [Char.toNat_val, shift]
    omega
  · rw [if_neg (fun bounds => capital (range.mpr bounds))]

theorem toNat_toUpper (c : Char) :
    c.toUpper.toNat = if 97 ≤ c.toNat ∧ c.toNat ≤ 122 then c.toNat - 32 else c.toNat := by
  have range : ('a'.val ≤ c.val ∧ c.val ≤ 'z'.val) ↔ (97 ≤ c.toNat ∧ c.toNat ≤ 122) := by
    simp [UInt32.le_iff_toNat_le]
  unfold Char.toUpper
  split <;> rename_i small
  · rw [if_pos (range.mp small)]
    have bounds := range.mp small
    show (c.val + ('A'.val - 'a'.val)).toNat = c.toNat - 32
    -- the shift is 32 below zero, taken modulo 2 ^ 32
    have shift : ('A'.val - 'a'.val).toNat = 2 ^ 32 - 32 := by decide
    rw [UInt32.toNat_add]
    simp only [Char.toNat_val, shift]
    omega
  · rw [if_neg (fun bounds => small (range.mpr bounds))]

theorem toNat_lowerByte (byte : UInt8) :
    (lowerByte byte).toNat =
      if 65 ≤ byte.toNat ∧ byte.toNat ≤ 90 then byte.toNat + 32 else byte.toNat := by
  unfold lowerByte
  split
  · rw [UInt8.toNat_add]
    simp only [UInt8.reduceToNat]
    omega
  · rfl

theorem toNat_upperByte (byte : UInt8) :
    (upperByte byte).toNat =
      if 97 ≤ byte.toNat ∧ byte.toNat ≤ 122 then byte.toNat - 32 else byte.toNat := by
  unfold upperByte
  split
  · have above : 32 ≤ byte := by
      rw [UInt8.le_iff_toNat_le]
      simp only [UInt8.reduceToNat]
      omega
    rw [UInt8.toNat_sub_of_le _ _ above]
    rfl
  · rfl

theorem lowerByte_of_le {byte : UInt8} (high : 128 ≤ byte.toNat) : lowerByte byte = byte := by
  rw [lowerByte, if_neg (by omega)]

theorem upperByte_of_le {byte : UInt8} (high : 128 ≤ byte.toNat) : upperByte byte = byte := by
  rw [upperByte, if_neg (by omega)]

theorem le_toNat_of_mem_utf8EncodeChar {c : Char} (wide : 127 < c.toNat) {byte : UInt8}
    (member : byte ∈ String.utf8EncodeChar c) : 128 ≤ byte.toNat := by
  simp only [String.utf8EncodeChar, Char.toNat_val] at member
  split at member
  · omega
  split at member
  · simp only [List.mem_cons, List.not_mem_nil, or_false] at member
    rcases member with rfl | rfl <;> simp <;> omega
  split at member
  · simp only [List.mem_cons, List.not_mem_nil, or_false] at member
    rcases member with rfl | rfl | rfl <;> simp <;> omega
  · simp only [List.mem_cons, List.not_mem_nil, or_false] at member
    rcases member with rfl | rfl | rfl | rfl <;> simp <;> omega

/-- A fold of characters that keeps every character beyond ASCII folds their UTF-8 bytes one by
one, by a fold of bytes that keeps every byte from 128 up and agrees with it on ASCII. -/
theorem utf8EncodeChar_fold {fold : Char → Char} {foldByte : UInt8 → UInt8}
    (wideKept : ∀ c : Char, 127 < c.toNat → fold c = c)
    (highKept : ∀ byte : UInt8, 128 ≤ byte.toNat → foldByte byte = byte)
    (asciiAgrees : ∀ c : Char, c.toNat ≤ 127 →
      (fold c).toNat ≤ 127 ∧ UInt8.ofNat (fold c).toNat = foldByte (UInt8.ofNat c.toNat))
    (c : Char) : String.utf8EncodeChar (fold c) = (String.utf8EncodeChar c).map foldByte := by
  by_cases ascii : c.toNat ≤ 127
  · obtain ⟨folded, agrees⟩ := asciiAgrees c ascii
    simp only [String.utf8EncodeChar, Char.toNat_val, if_pos ascii, if_pos folded, List.map_cons,
      List.map_nil, agrees]
  · rw [wideKept c (by omega), List.map_congr_left fun byte member =>
      highKept byte (le_toNat_of_mem_utf8EncodeChar (by omega) member), List.map_id']

theorem toByteArray_eq_utf8Encode (name : String) : name.toByteArray = name.toList.utf8Encode := by
  rw [← String.toByteArray_ofList, String.ofList_toList]

theorem toUTF8_ofList_map {fold : Char → Char} {foldByte : UInt8 → UInt8}
    (encodes : ∀ c, String.utf8EncodeChar (fold c) = (String.utf8EncodeChar c).map foldByte)
    (name : String) :
    (String.ofList (name.toList.map fold)).toUTF8.data = name.toUTF8.data.map foldByte := by
  rw [String.toUTF8_eq_toByteArray, String.toUTF8_eq_toByteArray, String.toByteArray_ofList,
    toByteArray_eq_utf8Encode]
  simp only [List.utf8Encode, List.data_toByteArray, List.map_toArray, List.flatMap_map,
    List.map_flatMap, encodes]

theorem utf8ByteSize_eq_of_toUTF8 {name other : String} {foldByte : UInt8 → UInt8}
    (bytes : name.toUTF8.data = other.toUTF8.data.map foldByte) :
    name.utf8ByteSize = other.utf8ByteSize := by
  rw [← String.size_toByteArray, ← String.size_toByteArray, ← ByteArray.size_data,
    ← ByteArray.size_data, ← String.toUTF8_eq_toByteArray, ← String.toUTF8_eq_toByteArray, bytes,
    Array.size_map]

theorem toLower_ascii {c : Char} (ascii : c.toNat ≤ 127) :
    c.toLower.toNat ≤ 127 ∧ UInt8.ofNat c.toLower.toNat = lowerByte (UInt8.ofNat c.toNat) := by
  refine ⟨by rw [toNat_toLower]; split <;> omega, UInt8.toNat_inj.mp ?_⟩
  rw [toNat_lowerByte, UInt8.toNat_ofNat', UInt8.toNat_ofNat', toNat_toLower,
    Nat.mod_eq_of_lt (by omega : c.toNat < 2 ^ 8)]
  split <;> omega

theorem toUpper_ascii {c : Char} (ascii : c.toNat ≤ 127) :
    c.toUpper.toNat ≤ 127 ∧ UInt8.ofNat c.toUpper.toNat = upperByte (UInt8.ofNat c.toNat) := by
  refine ⟨by rw [toNat_toUpper]; split <;> omega, UInt8.toNat_inj.mp ?_⟩
  rw [toNat_upperByte, UInt8.toNat_ofNat', UInt8.toNat_ofNat', toNat_toUpper,
    Nat.mod_eq_of_lt (by omega : c.toNat < 2 ^ 8)]
  split <;> omega

theorem toUTF8_lowerAscii (name : String) :
    (lowerAscii name).toUTF8.data = name.toUTF8.data.map lowerByte :=
  toUTF8_ofList_map (utf8EncodeChar_fold
    (fun c wide => by rw [← Char.toNat_inj, toNat_toLower, if_neg (by omega)])
    (fun _ high => lowerByte_of_le high) (fun _ ascii => toLower_ascii ascii)) name

theorem toUTF8_upperAscii (name : String) :
    (upperAscii name).toUTF8.data = name.toUTF8.data.map upperByte :=
  toUTF8_ofList_map (utf8EncodeChar_fold
    (fun c wide => by rw [← Char.toNat_inj, toNat_toUpper, if_neg (by omega)])
    (fun _ high => upperByte_of_le high) (fun _ ascii => toUpper_ascii ascii)) name

theorem utf8ByteSize_lowerAscii (name : String) :
    (lowerAscii name).utf8ByteSize = name.utf8ByteSize :=
  utf8ByteSize_eq_of_toUTF8 (toUTF8_lowerAscii name)

theorem utf8ByteSize_upperAscii (name : String) :
    (upperAscii name).utf8ByteSize = name.utf8ByteSize :=
  utf8ByteSize_eq_of_toUTF8 (toUTF8_upperAscii name)

@[simp] theorem lowerAscii_lowerAscii (name : String) :
    lowerAscii (lowerAscii name) = lowerAscii name := by
  simp [← String.toList_inj, Function.comp_def]

@[simp] theorem lowerAscii_upperAscii (name : String) :
    lowerAscii (upperAscii name) = lowerAscii name := by
  simp [← String.toList_inj, Function.comp_def]

@[simp] theorem upperAscii_lowerAscii (name : String) :
    upperAscii (lowerAscii name) = upperAscii name := by
  simp [← String.toList_inj, Function.comp_def]

theorem lowerAscii_eq_iff_upperAscii_eq (name other : String) :
    lowerAscii name = lowerAscii other ↔ upperAscii name = upperAscii other := by
  constructor
  · intro same
    calc upperAscii name = upperAscii (lowerAscii name) := (upperAscii_lowerAscii name).symm
      _ = upperAscii (lowerAscii other) := by rw [same]
      _ = upperAscii other := upperAscii_lowerAscii other
  · intro same
    calc lowerAscii name = lowerAscii (upperAscii name) := (lowerAscii_upperAscii name).symm
      _ = lowerAscii (upperAscii other) := by rw [same]
      _ = lowerAscii other := lowerAscii_upperAscii other

end ColumnCrypt.Text

namespace ColumnCrypt

namespace AlgorithmRegistry

theorem find?_eq_of_lowerAscii_eq (registry : AlgorithmRegistry) {name other : String}
    (same : Text.lowerAscii name = Text.lowerAscii other) :
    registry.find? name = registry.find? other := by
  simp only [find?, (Text.lowerAscii_eq_iff_upperAscii_eq name other).mp same]

theorem contains_register_iff (creator : Creator) {type other : String} (named : type ≠ "") :
    (empty.register type (some creator)).2.contains other = true ↔
      Text.lowerAscii type = Text.lowerAscii other := by
  rw [Text.lowerAscii_eq_iff_upperAscii_eq]
  simp [register, contains, empty, named]

end AlgorithmRegistry

/-- Folding a name to small letters or to capitals folds its UTF-8 bytes one by one as the C
locale's `tolower` and `toupper` do, so it keeps the byte length. Folding to small letters is
idempotent and undoes a fold to capitals, and the other way round, so the two folds identify the
same names. The algorithm registry, filing types by capitals, finds one creator under names that
fold alike to small letters, and a type it holds under names that fold alike only. -/
theorem case_folds_agree :
    (∀ name : String,
      (Text.lowerAscii name).toUTF8.data = name.toUTF8.data.map Text.lowerByte ∧
      (Text.upperAscii name).toUTF8.data = name.toUTF8.data.map Text.upperByte ∧
      (Text.lowerAscii name).utf8ByteSize = name.utf8ByteSize ∧
      (Text.upperAscii name).utf8ByteSize = name.utf8ByteSize) ∧
    (∀ name : String,
      Text.lowerAscii (Text.lowerAscii name) = Text.lowerAscii name ∧
      Text.lowerAscii (Text.upperAscii name) = Text.lowerAscii name ∧
      Text.upperAscii (Text.lowerAscii name) = Text.upperAscii name) ∧
    (∀ name other : String,
      Text.lowerAscii name = Text.lowerAscii other ↔ Text.upperAscii name = Text.upperAscii other) ∧
    (∀ (registry : AlgorithmRegistry) (name other : String),
      Text.lowerAscii name = Text.lowerAscii other → registry.find? name = registry.find? other) ∧
    ∀ (creator : Creator) (type other : String), type ≠ "" →
      ((AlgorithmRegistry.empty.register type (some creator)).2.contains other = true ↔
        Text.lowerAscii type = Text.lowerAscii other) := by
  refine ⟨fun name => ⟨Text.toUTF8_lowerAscii name, Text.toUTF8_upperAscii name,
      Text.utf8ByteSize_lowerAscii name, Text.utf8ByteSize_upperAscii name⟩,
    fun name => ⟨Text.lowerAscii_lowerAscii name, Text.lowerAscii_upperAscii name,
      Text.upperAscii_lowerAscii name⟩,
    Text.lowerAscii_eq_iff_upperAscii_eq,
    fun registry _ _ same => registry.find?_eq_of_lowerAscii_eq same,
    fun creator _ _ named => AlgorithmRegistry.contains_register_iff creator named⟩

end ColumnCrypt
