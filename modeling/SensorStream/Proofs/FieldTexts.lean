import SensorStream.Foreign.Record
import SensorStream.Proofs.TextForms

/-!
# Texts that foreign programs read from fields

A foreign program reads a field up to its first zero byte.  What it reads are the first bytes of the
text that was written there, as many as the field has room for.  Whether they are a text again
depends on where the field ends: between two characters, then they are the whole characters before
its end, or inside of one, then they are no text.
-/

namespace SensorStream

namespace Text

/-! ## The bytes of a text -/

/-- No character of the text is the one that is written as a zero byte. -/
def Plain (text : String) : Prop :=
  Char.ofNat 0 ∉ text.toList

/-- Read bytes as a text. -/
def ofBytes? (bytes : List UInt8) : Option String :=
  String.fromUTF8? bytes.toByteArray

theorem ofBytes?_eq_some_iff {bytes : List UInt8} {text : String} :
    ofBytes? bytes = some text ↔ bytes = text.toUTF8.toList := by
  rw [ofBytes?, fromUTF8?_eq_some_iff, toList_toUTF8, ByteArray.ext_iff, List.data_toByteArray,
    ← Array.toList_inj]

theorem length_toUTF8 (text : String) : text.toUTF8.toList.length = text.utf8ByteSize := by
  rw [toList_toUTF8, Array.length_toList]
  rfl

theorem toUTF8_append (left right : String) :
    (left ++ right).toUTF8.toList = left.toUTF8.toList ++ right.toUTF8.toList := by
  simp only [toList_toUTF8, String.toByteArray_append, ByteArray.toList_data_append]

theorem toUTF8_singleton (character : Char) :
    (String.singleton character).toUTF8.toList = String.utf8EncodeChar character := by
  rw [toList_toUTF8, String.singleton_eq_ofList, String.toByteArray_ofList,
    List.utf8Encode_singleton, List.data_toByteArray]

/-- Only the character with the code zero is written with a zero byte. -/
theorem eq_zero_of_mem_utf8EncodeChar {character : Char}
    (member : 0 ∈ String.utf8EncodeChar character) : character = Char.ofNat 0 := by
  have byte {code : Nat} (same : 0 = UInt8.ofNat code) : code % 256 = 0 := by
    have read := congrArg UInt8.toNat same
    rw [UInt8.toNat_ofNat'] at read
    exact read.symm
  -- Every byte of a character that takes more than one is 128 at least.
  have high {code : Nat} (above : 128 ≤ code) (below : code < 256) : 0 ≠ UInt8.ofNat code := by
    intro same
    have none := byte same
    omega
  simp only [String.utf8EncodeChar] at member
  split at member
  · rename_i ascii
    have code := byte (List.mem_singleton.1 member)
    rw [← Char.toNat_inj]
    change character.val.toNat = 0
    omega
  · refine absurd member ?_
    split
    · simp only [List.mem_cons, List.not_mem_nil, or_false, not_or]
      exact ⟨high (by omega) (by omega), high (by omega) (by omega)⟩
    · split
      · simp only [List.mem_cons, List.not_mem_nil, or_false, not_or]
        exact ⟨high (by omega) (by omega), high (by omega) (by omega),
          high (by omega) (by omega)⟩
      · simp only [List.mem_cons, List.not_mem_nil, or_false, not_or]
        exact ⟨high (by omega) (by omega), high (by omega) (by omega),
          high (by omega) (by omega), high (by omega) (by omega)⟩

theorem toUTF8_eq_flatMap (text : String) :
    text.toUTF8.toList = text.toList.flatMap String.utf8EncodeChar := by
  have spelled : text.toByteArray = text.toList.utf8Encode := by
    rw [← String.toByteArray_ofList, String.ofList_toList]
  rw [toList_toUTF8, spelled, List.utf8Encode, List.data_toByteArray]

theorem Plain.zero_notMem {text : String} (plain : Plain text) : 0 ∉ text.toUTF8.toList := by
  rw [toUTF8_eq_flatMap]
  intro member
  rcases List.mem_flatMap.1 member with ⟨character, listed, zero⟩
  exact plain (eq_zero_of_mem_utf8EncodeChar zero ▸ listed)

/-! ## Cutting a text off -/

/-- The first bytes of a text, so many of them, end inside this character, which comes after these
whole ones. -/
structure Cuts (text : String) (count : Nat) (whole : String) (character : Char) : Prop where
  placed : ∃ rest : String, text = whole ++ String.singleton character ++ rest
  begun : whole.utf8ByteSize < count
  unfinished : count < whole.utf8ByteSize + character.utf8Size

variable {text whole : String} {count : Nat} {character : Char}

theorem Cuts.prepend (cuts : Cuts text count whole character) (front : String) :
    Cuts (front ++ text) (front.utf8ByteSize + count) (front ++ whole) character := by
  rcases cuts with ⟨⟨rest, rfl⟩, begun, unfinished⟩
  refine ⟨⟨rest, by simp only [String.append_assoc]⟩, ?_, ?_⟩ <;>
    rw [String.utf8ByteSize_append] <;> omega

/-- The first bytes of a text end between two characters or inside of one. -/
theorem split_or_cuts {text : String} {count : Nat} (within : count ≤ text.utf8ByteSize) :
    (∃ left right : String, text = left ++ right ∧ left.utf8ByteSize = count) ∨
      ∃ (whole : String) (character : Char), Cuts text count whole character := by
  rcases text.exists_eq_ofList with ⟨characters, rfl⟩
  induction characters generalizing count with
  | nil => exact .inl ⟨"", "", rfl, (Nat.le_zero.1 within).symm⟩
  | cons first others ih =>
      have parts : String.ofList (first :: others) =
          String.singleton first ++ String.ofList others := by
        rw [String.singleton_eq_ofList, ← String.ofList_append, List.singleton_append]
      have size : (String.singleton first).utf8ByteSize = first.utf8Size :=
        String.utf8ByteSize_singleton
      rw [parts] at within ⊢
      rw [String.utf8ByteSize_append, size] at within
      by_cases beyond : first.utf8Size ≤ count
      · have fits : count - first.utf8Size ≤ (String.ofList others).utf8ByteSize := by omega
        rcases ih fits with
          ⟨left, right, same, length⟩ | ⟨whole, character, cuts⟩
        · refine .inl ⟨String.singleton first ++ left, right, ?_, ?_⟩
          · rw [same, String.append_assoc]
          · rw [String.utf8ByteSize_append, size, length]
            omega
        · refine .inr ⟨String.singleton first ++ whole, character, ?_⟩
          have longer := cuts.prepend (String.singleton first)
          rwa [size, Nat.add_sub_cancel' beyond] at longer
      · by_cases none : count = 0
        · exact .inl ⟨"", _, (String.empty_append).symm, none.symm⟩
        · refine .inr ⟨"", first, ⟨_, by rw [String.empty_append]⟩, ?_, ?_⟩
          · rw [String.utf8ByteSize_empty]
            omega
          · rw [String.utf8ByteSize_empty]
            omega

/-- A cut inside a character leaves something of the text off. -/
theorem Cuts.lt (cuts : Cuts text count whole character) : count < text.utf8ByteSize := by
  rcases cuts with ⟨⟨rest, rfl⟩, _, unfinished⟩
  rw [String.utf8ByteSize_append, String.utf8ByteSize_append, String.utf8ByteSize_singleton]
  omega

/-- Not both. -/
theorem Cuts.not_split (cuts : Cuts text count whole character) {left right : String}
    (split : text = left ++ right) : left.utf8ByteSize ≠ count := by
  intro length
  rcases cuts with ⟨⟨rest, placed⟩, begun, unfinished⟩
  have between : String.Pos.Raw.IsValid text ⟨count⟩ :=
    String.Pos.Raw.isValid_iff_exists_append.2 ⟨left, right, split, by rw [← length]; rfl⟩
  rw [placed, String.append_assoc, String.Pos.Raw.isValid_append,
    String.Pos.Raw.isValid_append, String.Pos.Raw.isValid_singleton] at between
  -- The place is in the whole characters, at one of the ends of the character, or past it.
  rcases between with before | ⟨_, (first | last) | ⟨past, _⟩⟩
  · exact Nat.not_le.2 begun before.le_utf8ByteSize
  · have none := congrArg String.Pos.Raw.byteIdx first
    simp only [String.Pos.Raw.byteIdx_sub_string, String.Pos.Raw.byteIdx_zero] at none
    omega
  · simp only [String.Pos.Raw.byteIdx_sub_string] at last
    omega
  · simp only [String.Pos.Raw.le_iff, String.byteIdx_rawEndPos, String.utf8ByteSize_singleton,
      String.Pos.Raw.byteIdx_sub_string] at past
    omega

/-- The first bytes of a text are a text exactly if they end between two characters. -/
theorem ofBytes?_take_eq_some_iff {text shown : String} {count : Nat}
    (within : count ≤ text.utf8ByteSize) :
    ofBytes? (text.toUTF8.toList.take count) = some shown ↔
      ∃ rest : String, text = shown ++ rest ∧ shown.utf8ByteSize = count := by
  rw [ofBytes?_eq_some_iff]
  constructor
  · intro same
    have length : shown.utf8ByteSize = count := by
      rw [← length_toUTF8, ← same, List.length_take, length_toUTF8, Nat.min_eq_left within]
    have start : text.toByteArray.extract 0 count = shown.toByteArray := by
      rw [toList_toUTF8, toList_toUTF8] at same
      rw [ByteArray.ext_iff, ByteArray.data_extract, ← Array.toList_inj, ← same,
        Array.toList_extract, List.extract_eq_take_drop, Nat.sub_zero, List.drop_zero]
    have between : String.Pos.Raw.IsValid text ⟨count⟩ :=
      String.Pos.Raw.isValid_iff_isValidUTF8_extract_zero.2
        ⟨String.Pos.Raw.le_iff.2 within, start ▸ shown.isValidUTF8⟩
    rcases String.Pos.Raw.isValid_iff_exists_append.1 between with ⟨left, right, split, place⟩
    refine ⟨right, ?_, length⟩
    have front : left = shown := by
      rw [← String.toByteArray_inj, ← start, split, String.toByteArray_append,
        ByteArray.extract_append_eq_left (congrArg String.Pos.Raw.byteIdx place)]
    rw [split, front]
  · rintro ⟨rest, rfl, rfl⟩
    rw [toUTF8_append, List.take_left' (length_toUTF8 shown)]

/-- What is cut off inside of a character are the whole characters before it and its first bytes. -/
theorem Cuts.take_eq (cuts : Cuts text count whole character) :
    text.toUTF8.toList.take count =
      whole.toUTF8.toList ++
        (String.utf8EncodeChar character).take (count - whole.utf8ByteSize) := by
  rcases cuts with ⟨⟨rest, rfl⟩, begun, unfinished⟩
  have length := String.length_utf8EncodeChar character
  rw [toUTF8_append, toUTF8_append, toUTF8_singleton, List.append_assoc, List.take_append,
    length_toUTF8, List.take_of_length_le (length_toUTF8 whole ▸ Nat.le_of_lt begun),
    List.take_append_of_le_length (by omega)]

end Text

namespace Foreign

/-! ## What is read from a field -/

/-- The bytes of a field before its first zero. -/
def readable (field : List UInt8) : List UInt8 :=
  field.takeWhile fun byte => byte != 0

theorem readable_fixedText {size : Nat} {text : String} (positive : 0 < size)
    (plain : Text.Plain text) :
    readable (fixedText size text) = text.toUTF8.toList.take (size - 1) := by
  have short : (text.toUTF8.toList.take (size - 1)).length ≤ size - 1 := List.length_take_le _ _
  have nonzero : ∀ byte ∈ text.toUTF8.toList.take (size - 1), (byte != 0) = true := by
    intro byte member
    rw [bne_iff_ne]
    rintro rfl
    exact plain.zero_notMem (List.mem_of_mem_take member)
  have ended : size - (text.toUTF8.toList.take (size - 1)).length ≠ 0 := by omega
  rw [readable, fixedText, List.takeWhile_append_of_pos nonzero, List.takeWhile_replicate,
    bne_self_eq_false]
  exact List.append_nil _

/-- What is read from a field of this size in which a text was written. -/
structure Renders (size : Nat) (text : String) (field : List UInt8) : Prop where
  /-- It is the first bytes of the text, as far as one byte is left. -/
  bytes : readable field = text.toUTF8.toList.take (size - 1)
  complete : text.utf8ByteSize < size → Text.ofBytes? (readable field) = some text
  /-- It is a text exactly if the field does not end inside a character. -/
  legible : (∃ shown : String, Text.ofBytes? (readable field) = some shown) ↔
    ¬∃ (whole : String) (character : Char), Text.Cuts text (size - 1) whole character
  /-- And then it is whole characters from the beginning, as many as there is room for. -/
  shown : ∀ shown : String, Text.ofBytes? (readable field) = some shown →
    ∃ rest : String, text = shown ++ rest ∧
      shown.utf8ByteSize = min text.utf8ByteSize (size - 1)
  /-- Otherwise the first bytes of the character that is cut follow the whole ones. -/
  cut : ∀ (whole : String) (character : Char), Text.Cuts text (size - 1) whole character →
    readable field = whole.toUTF8.toList ++
      (String.utf8EncodeChar character).take (size - 1 - whole.utf8ByteSize)

theorem renders_fixedText {size : Nat} {text : String} (positive : 0 < size)
    (plain : Text.Plain text) : Renders size text (fixedText size text) := by
  have read := readable_fixedText positive plain
  have most (count : Nat) : text.toUTF8.toList.take count =
      text.toUTF8.toList.take (min text.utf8ByteSize count) := by
    rw [← Text.length_toUTF8, Nat.min_comm, List.take_eq_take_min]
  have part (shown : String) : Text.ofBytes? (readable (fixedText size text)) = some shown ↔
      ∃ rest : String, text = shown ++ rest ∧
        shown.utf8ByteSize = min text.utf8ByteSize (size - 1) := by
    rw [read, most]
    exact Text.ofBytes?_take_eq_some_iff (Nat.min_le_left _ _)
  constructor
  case bytes => exact read
  case complete =>
    intro fits
    refine (part text).2 ⟨"", String.append_empty.symm, ?_⟩
    omega
  case legible =>
    constructor
    · rintro ⟨shown, is⟩ ⟨whole, character, cuts⟩
      rcases (part shown).1 is with ⟨rest, split, length⟩
      exact cuts.not_split split (length.trans (Nat.min_eq_right (Nat.le_of_lt cuts.lt)))
    · intro uncut
      rcases Text.split_or_cuts (Nat.min_le_left text.utf8ByteSize (size - 1)) with
        ⟨left, right, split, length⟩ | ⟨whole, character, cuts⟩
      · exact ⟨left, (part left).2 ⟨right, split, length⟩⟩
      · have room : min text.utf8ByteSize (size - 1) = size - 1 := by
          have beyond := cuts.lt
          omega
        exact absurd ⟨whole, character, room ▸ cuts⟩ uncut
  case shown => exact fun shown => (part shown).1
  case cut => exact fun whole character cuts => read.trans cuts.take_eq

/-- What foreign programs read of a sensor. -/
structure SensorRecord.Renders (record : SensorRecord) (sensor : Descriptor) : Prop where
  name : Foreign.Renders 256 sensor.name record.name
  identifier : Foreign.Renders 64 sensor.identifier record.identifier
  address : Foreign.Renders 128 sensor.address record.address

/-- Whatever the texts of a sensor are, what is read from its record are their first bytes, and a
text exactly if the field does not end inside a character. -/
theorem SensorRecord.renders_ofDescriptor {sensor : Descriptor} (name : Text.Plain sensor.name)
    (identifier : Text.Plain sensor.identifier) (address : Text.Plain sensor.address) :
    (SensorRecord.ofDescriptor sensor).Renders sensor where
  name := renders_fixedText (by decide) name
  identifier := renders_fixedText (by decide) identifier
  address := renders_fixedText (by decide) address

/-- A sensor whose identifier is one byte longer than its field has room for, and ends with a
character of two bytes. -/
def accentedSensor : Descriptor where
  name := "LPMS"
  identifier := String.ofList (List.replicate 32 'é')
  transport := .hid
  address := "/dev/hidraw0"

theorem plain_accentedSensor :
    Text.Plain accentedSensor.name ∧ Text.Plain accentedSensor.identifier ∧
      Text.Plain accentedSensor.address := by
  refine ⟨?_, ?_, ?_⟩ <;> rw [Text.Plain] <;> decide +kernel

theorem cuts_accentedSensor :
    Text.Cuts accentedSensor.identifier 63 (String.ofList (List.replicate 31 'é')) 'é' where
  placed := ⟨"", by decide +kernel⟩
  begun := by decide +kernel
  unfinished := by decide +kernel

/-- Half of its last character is in the record. -/
theorem SensorRecord.renders_accentedSensor :
    Text.Plain accentedSensor.name ∧ Text.Plain accentedSensor.identifier ∧
      Text.Plain accentedSensor.address ∧
        (SensorRecord.ofDescriptor accentedSensor).Renders accentedSensor ∧
          readable (SensorRecord.ofDescriptor accentedSensor).identifier =
            (String.ofList (List.replicate 31 'é')).toUTF8.toList ++ [0xC3] := by
  have plain := plain_accentedSensor
  have renders := renders_ofDescriptor plain.1 plain.2.1 plain.2.2
  exact ⟨plain.1, plain.2.1, plain.2.2, renders, renders.identifier.cut _ _ cuts_accentedSensor⟩

/-- So not all that is read from fields are texts. -/
theorem SensorRecord.not_text_of_accentedSensor :
    ¬∀ sensor : Descriptor, Text.Plain sensor.name → Text.Plain sensor.identifier →
      Text.Plain sensor.address → ∃ shown rest : String,
        Text.ofBytes? (readable (SensorRecord.ofDescriptor sensor).identifier) = some shown ∧
          sensor.identifier = shown ++ rest := by
  intro always
  have plain := plain_accentedSensor
  rcases always accentedSensor plain.1 plain.2.1 plain.2.2 with ⟨shown, rest, is, _⟩
  have renders : Foreign.Renders 64 accentedSensor.identifier
      (fixedText 64 accentedSensor.identifier) := renders_fixedText (by decide) plain.2.1
  exact renders.legible.1 ⟨shown, is⟩ ⟨_, _, cuts_accentedSensor⟩

end Foreign

end SensorStream
