import Mathlib.Data.List.TakeWhile
import SensorStream.Text.Blank
import SensorStream.Text.Numeral
import SensorStream.Text.Utf16

/-!
# How texts and numbers are written

Texts arrive as bytes, as 16-bit units or between white space, and numbers arrive as texts.  For
each of these forms it is said here how a text or a number is written in it: what is read is what
was written, and what was not written in the form is not read at all.
-/

namespace SensorStream.Text

/-! ## Texts in bytes -/

/-- Bytes are read as a text exactly if they are its UTF-8 form. -/
theorem fromUTF8?_eq_some_iff {bytes : ByteArray} {text : String} :
    String.fromUTF8? bytes = some text ↔ bytes = text.toByteArray := by
  rw [String.fromUTF8?]
  constructor
  · intro read
    split at read
    · cases read
      rfl
    · cases read
  · rintro rfl
    rw [dif_pos text.isValidUTF8]
    rfl

/-- The list of bytes starts where the loop that makes it starts. -/
theorem toList_loop (bytes : ByteArray) (start : Nat) (read : List UInt8) :
    ByteArray.toList.loop bytes start read = read.reverse ++ bytes.data.toList.drop start := by
  fun_induction ByteArray.toList.loop bytes start read with
  | case1 start read within ih =>
      have listed : start < bytes.data.toList.length := within
      have next : bytes.get! start = bytes.data.toList[start] :=
        getElem!_pos bytes.data start within
      rw [ih, List.drop_eq_getElem_cons listed, List.reverse_cons, List.append_assoc, next]
      rfl
  | case2 start read without =>
      have ended : bytes.data.toList.length ≤ start := Nat.not_lt.1 without
      rw [List.drop_eq_nil_of_le ended, List.append_nil]

theorem toList_toUTF8 (text : String) : text.toUTF8.toList = text.toByteArray.data.toList := by
  rw [ByteArray.toList, toList_loop]
  rfl

/-! ## Texts in 16-bit units -/

namespace Utf16

theorem isHigh_iff {unit : UInt16} :
    isHigh unit = true ↔ 0xD800 ≤ unit.toNat ∧ unit.toNat ≤ 0xDBFF := by
  simp [isHigh, UInt16.le_iff_toNat_le]

theorem isLow_iff {unit : UInt16} :
    isLow unit = true ↔ 0xDC00 ≤ unit.toNat ∧ unit.toNat ≤ 0xDFFF := by
  simp [isLow, UInt16.le_iff_toNat_le]

/-- A number that is a character's is its number. -/
theorem toNat_ofNat {code : Nat} (valid : code.isValidChar) : (Char.ofNat code).toNat = code := by
  rw [Char.ofNat, dif_pos valid]
  rfl

theorem toNat_pair {high low : UInt16} (first : isHigh high = true) (second : isLow low = true) :
    (pair high low).toNat = 0x10000 + (high.toNat - 0xD800) * 0x400 + (low.toNat - 0xDC00) := by
  rw [isHigh_iff] at first
  rw [isLow_iff] at second
  rw [pair, toNat_ofNat]
  right
  omega

/-- A pair is written as its two units. -/
theorem units_pair {high low : UInt16} (first : isHigh high = true) (second : isLow low = true) :
    units (pair high low) = [high, low] := by
  have code := toNat_pair first second
  rw [isHigh_iff] at first
  rw [isLow_iff] at second
  have above : ¬(pair high low).toNat < 0x10000 := by omega
  have highPart : 0xD800 + ((pair high low).toNat - 0x10000) / 0x400 = high.toNat := by omega
  have lowPart : 0xDC00 + ((pair high low).toNat - 0x10000) % 0x400 = low.toNat := by omega
  simp only [units, if_neg above, highPart, lowPart, UInt16.ofNat_toNat]

/-- A unit that is no half of a pair is a character by itself. -/
theorem units_ofNat {unit : UInt16} (unhigh : isHigh unit = false) (unlow : isLow unit = false) :
    units (Char.ofNat unit.toNat) = [unit] := by
  rw [← Bool.not_eq_true, isHigh_iff] at unhigh
  rw [← Bool.not_eq_true, isLow_iff] at unlow
  have small := unit.toNat_lt
  have valid : unit.toNat.isValidChar := by
    simp only [Nat.isValidChar]
    omega
  have code : (Char.ofNat unit.toNat).toNat = unit.toNat := toNat_ofNat valid
  have below : unit.toNat < 0x10000 := by omega
  simp only [units, code, if_pos below, UInt16.ofNat_toNat]

/-- Each character is a unit by itself or a pair. -/
theorem alone_or_pair (character : Char) :
    (∃ unit : UInt16, isHigh unit = false ∧ isLow unit = false ∧
      character = Char.ofNat unit.toNat) ∨
    ∃ high low : UInt16, isHigh high = true ∧ isLow low = true ∧ character = pair high low := by
  have valid : character.toNat.isValidChar := character.valid
  simp only [Nat.isValidChar] at valid
  by_cases below : character.toNat < 0x10000
  · left
    have code : (UInt16.ofNat character.toNat).toNat = character.toNat := by
      rw [UInt16.toNat_ofNat', Nat.mod_eq_of_lt below]
    refine ⟨UInt16.ofNat character.toNat, ?_, ?_, ?_⟩
    · rw [← Bool.not_eq_true, isHigh_iff, code]
      omega
    · rw [← Bool.not_eq_true, isLow_iff, code]
      omega
    · rw [code, Char.ofNat_toNat]
  · right
    -- What is above 16 bits takes 20 bits, ten for each half.
    have high : (UInt16.ofNat (0xD800 + (character.toNat - 0x10000) / 0x400)).toNat =
        0xD800 + (character.toNat - 0x10000) / 0x400 := by
      rw [UInt16.toNat_ofNat', Nat.mod_eq_of_lt (by omega)]
    have low : (UInt16.ofNat (0xDC00 + (character.toNat - 0x10000) % 0x400)).toNat =
        0xDC00 + (character.toNat - 0x10000) % 0x400 := by
      rw [UInt16.toNat_ofNat', Nat.mod_eq_of_lt (by omega)]
    have first : isHigh (UInt16.ofNat (0xD800 + (character.toNat - 0x10000) / 0x400)) = true := by
      rw [isHigh_iff, high]
      omega
    have second : isLow (UInt16.ofNat (0xDC00 + (character.toNat - 0x10000) % 0x400)) = true := by
      rw [isLow_iff, low]
      omega
    refine ⟨_, _, first, second, ?_⟩
    rw [← Char.toNat_inj, toNat_pair first second, high, low]
    omega

theorem decode?_alone {unit : UInt16} (unhigh : isHigh unit = false) (unlow : isLow unit = false)
    (rest : List UInt16) :
    decode? (unit :: rest) = (decode? rest).map (Char.ofNat unit.toNat :: ·) := by
  cases rest with
  | nil => simp only [decode?, unhigh, unlow, Bool.or_self, Bool.false_eq_true, if_false,
      Option.map_some]
  | cons next rest => simp only [decode?, unhigh, unlow, Bool.false_eq_true, if_false]

theorem decode?_pair {high low : UInt16} (first : isHigh high = true) (second : isLow low = true)
    (rest : List UInt16) :
    decode? (high :: low :: rest) = (decode? rest).map (pair high low :: ·) := by
  simp only [decode?, first, second, if_true]

theorem decode?_units_append (character : Char) (rest : List UInt16) :
    decode? (units character ++ rest) = (decode? rest).map (character :: ·) := by
  rcases alone_or_pair character with ⟨unit, unhigh, unlow, same⟩ | ⟨high, low, first, second, same⟩
  · rw [same, units_ofNat unhigh unlow]
    exact decode?_alone unhigh unlow rest
  · rw [same, units_pair first second]
    exact decode?_pair first second rest

theorem decode?_encode (text : List Char) : decode? (encode text) = some text := by
  induction text with
  | nil => rfl
  | cons character rest ih =>
      rw [encode, List.flatMap_cons, decode?_units_append]
      exact congrArg (Option.map (character :: ·)) ih

theorem eq_encode_of_decode? {content : List UInt16} {text : List Char}
    (read : decode? content = some text) : content = encode text := by
  fun_induction decode? content generalizing text with
  | case1 =>
      cases read
      rfl
  | case2 => cases read
  | case3 unit alone =>
      cases read
      simp only [Bool.or_eq_true, not_or, Bool.not_eq_true] at alone
      rw [encode, List.flatMap_singleton, units_ofNat alone.1 alone.2]
  | case4 high low rest first second ih =>
      rcases Option.map_eq_some_iff.1 read with ⟨others, decoded, rfl⟩
      rw [ih decoded, encode, encode, List.flatMap_cons, units_pair first second]
      rfl
  | case5 => cases read
  | case6 => cases read
  | case7 unit next rest unhigh unlow ih =>
      rcases Option.map_eq_some_iff.1 read with ⟨others, decoded, rfl⟩
      rw [Bool.not_eq_true] at unhigh unlow
      rw [ih decoded, encode, encode, List.flatMap_cons, units_ofNat unhigh unlow]
      rfl

/-- Units are read as a text exactly if that text is written so. -/
theorem decode?_eq_some_iff {content : List UInt16} {text : List Char} :
    decode? content = some text ↔ content = encode text :=
  ⟨eq_encode_of_decode?, fun written => written ▸ decode?_encode text⟩

end Utf16

/-! ## White space around a text -/

/-- A text stands between white space. -/
def Padded (core text : List Char) : Prop :=
  ∃ before after : List Char, text = before ++ core ++ after ∧
    (∀ character ∈ before, isBlank character = true) ∧
      ∀ character ∈ after, isBlank character = true

/-- No white space is in the text. -/
def Solid (text : List Char) : Prop :=
  ∀ character ∈ text, isBlank character = false

theorem trimLeft_of_blank {text : List Char}
    (blank : ∀ character ∈ text, isBlank character = true) : trimLeft text = [] :=
  List.dropWhile_eq_nil_iff.2 blank

theorem trimLeft_append_of_blank {before : List Char}
    (blank : ∀ character ∈ before, isBlank character = true) (text : List Char) :
    trimLeft (before ++ text) = trimLeft text :=
  List.dropWhile_append_of_pos blank

theorem trimLeft_of_solid {text : List Char} (solid : Solid text) : trimLeft text = text := by
  cases text with
  | nil => rfl
  | cons first rest => exact List.dropWhile_cons_of_neg (by simp [solid first List.mem_cons_self])

theorem trim_of_solid {text : List Char} (solid : Solid text) : trim text = text := by
  have solidBack : Solid text.reverse := fun character member =>
    solid character (List.mem_reverse.1 member)
  rw [trim, trimLeft_of_solid solid, trimLeft_of_solid solidBack, List.reverse_reverse]

/-- More white space around a text makes no difference once it is dropped. -/
theorem trim_of_padded {core text : List Char} (padded : Padded core text) :
    trim text = trim core := by
  rcases padded with ⟨before, after, rfl, blankBefore, blankAfter⟩
  have blankBack : ∀ character ∈ after.reverse, isBlank character = true :=
    fun character member => blankAfter character (List.mem_reverse.1 member)
  rw [trim, List.append_assoc, trimLeft_append_of_blank blankBefore, trim]
  -- The white space at the back is reached from the front only if there is nothing else.
  have split : trimLeft (core ++ after) =
      if (trimLeft core).isEmpty then trimLeft after else trimLeft core ++ after :=
    List.dropWhile_append
  rw [split]
  split
  · rename_i empty
    rw [List.isEmpty_iff.1 empty, trimLeft_of_blank blankAfter]
  · rw [List.reverse_append, trimLeft_append_of_blank blankBack]

theorem padded_trim (text : List Char) : Padded (trim text) text := by
  have split (list : List Char) : list = list.takeWhile isBlank ++ trimLeft list :=
    List.takeWhile_append_dropWhile.symm
  refine ⟨text.takeWhile isBlank, ((trimLeft text).reverse.takeWhile isBlank).reverse, ?_, ?_, ?_⟩
  · rw [List.append_assoc, trim, ← List.reverse_append, ← split, List.reverse_reverse, ← split]
  · exact fun _ => List.mem_takeWhile_imp
  · intro character member
    exact List.mem_takeWhile_imp (List.mem_reverse.1 member)

/-- Between the white space there is one text without any. -/
theorem trim_eq_iff {core text : List Char} (solid : Solid core) :
    trim text = core ↔ Padded core text :=
  ⟨fun trimmed => trimmed ▸ padded_trim text,
    fun padded => (trim_of_padded padded).trans (trim_of_solid solid)⟩

/-! ## Numerals -/

/-- A text is a decimal numeral: ASCII digits after an optional plus sign. -/
def Numeral (text : List Char) (number : Nat) : Prop :=
  ∃ sign digits : List Char, text = sign ++ digits ∧ (sign = [] ∨ sign = ['+']) ∧ digits ≠ [] ∧
    (∀ digit ∈ digits, digit.isDigit = true) ∧ Nat.ofDigitChars 10 digits 0 = number

theorem isBlank_of_isDigit {character : Char} (digit : character.isDigit = true) :
    isBlank character = false := by
  have range : 48 ≤ character.toNat ∧ character.toNat ≤ 57 := by
    simpa [Char.isDigit, UInt32.le_iff_toNat_le] using digit
  simp only [isBlank, Bool.or_eq_false_iff, Bool.and_eq_false_iff, decide_eq_false_iff_not,
    beq_eq_false_iff_ne]
  omega

theorem Numeral.solid {text : List Char} {number : Nat} (numeral : Numeral text number) :
    Solid text := by
  rcases numeral with ⟨sign, digits, rfl, signed, _, digital, _⟩
  intro character member
  rcases List.mem_append.1 member with inSign | inDigits
  · rcases signed with rfl | rfl
    · cases inSign
    · cases List.mem_singleton.1 inSign
      decide
  · exact isBlank_of_isDigit (digital character inDigits)

theorem unsigned_of_digits {digits : List Char} (digital : ∀ digit ∈ digits, digit.isDigit = true) :
    unsigned digits = digits := by
  unfold unsigned
  split
  · exact absurd (digital '+' List.mem_cons_self) (by decide)
  · rfl

theorem unsigned_split (text : List Char) :
    text = unsigned text ∨ text = '+' :: unsigned text := by
  unfold unsigned
  split
  · exact .inr rfl
  · exact .inl rfl

theorem numeral?_eq_some_iff {limit number : Nat} {text : List Char} :
    numeral? limit text = some number ↔ Numeral text number ∧ number < limit := by
  constructor
  · intro read
    have below := lt_of_numeral? read
    simp only [numeral?] at read
    split at read
    · cases read
    · rename_i spelled
      simp only [Bool.or_eq_true, not_or, List.isEmpty_iff, Bool.not_eq_true', Bool.not_eq_false,
        List.all_eq_true] at spelled
      split at read
      · cases read
        refine ⟨?_, below⟩
        rcases unsigned_split text with bare | signed
        · exact ⟨[], unsigned text, bare, .inl rfl, spelled.1, spelled.2, rfl⟩
        · exact ⟨['+'], unsigned text, signed, .inr rfl, spelled.1, spelled.2, rfl⟩
      · cases read
  · rintro ⟨⟨sign, digits, rfl, signed, some, digital, rfl⟩, below⟩
    -- A plus sign is no digit, so no digit is lost with it.
    have rest : unsigned (sign ++ digits) = digits := by
      rcases signed with rfl | rfl
      · exact unsigned_of_digits digital
      · rfl
    have spelled : (digits.isEmpty || !digits.all Char.isDigit) = false := by
      simpa [List.isEmpty_eq_false_iff, some] using digital
    simp only [numeral?, rest, spelled, Bool.false_eq_true, if_false]
    exact if_pos below

/-- A count is a numeral that fits into 64 bits. -/
theorem count?_eq_some_iff {text : List Char} {count : UInt64} :
    count? text = some count ↔ Numeral text count.toNat := by
  rw [count?, Option.map_eq_some_iff]
  constructor
  · rintro ⟨number, read, rfl⟩
    rcases numeral?_eq_some_iff.1 read with ⟨numeral, below⟩
    rwa [UInt64.toNat_ofNat_of_lt' below]
  · intro numeral
    exact ⟨count.toNat, numeral?_eq_some_iff.2 ⟨numeral, count.toNat_lt⟩, UInt64.ofNat_toNat⟩

end SensorStream.Text
