import Mathlib.Data.List.Forall2
import SensorStream.Proofs.TransportKeys

/-!
# Sets of transports from lists of keys

A list of keys stands for a set of transports, and a list that is refused stands for the empty one.
A comma puts two lists together and their sets as well.  How often, in which order and among what
else a transport is named makes no difference, nor does the white space around the entries or the
case of their letters.
-/

namespace SensorStream

/-! ## Letters of either case -/

namespace Text

theorem toLower_eq_or (character : Char) :
    character.toLower = character ∨
      (65 ≤ character.toNat ∧ character.toNat ≤ 90) ∧
        character.toLower.toNat = character.toNat + 32 := by
  unfold Char.toLower
  split
  · rename_i upper
    have range : 65 ≤ character.toNat ∧ character.toNat ≤ 90 := by
      simpa [UInt32.le_iff_toNat_le] using upper
    refine .inr ⟨range, ?_⟩
    change (character.val.toNat + 32) % 4294967296 = character.val.toNat + 32
    exact Nat.mod_eq_of_lt (Nat.lt_of_le_of_lt (Nat.add_le_add_right range.2 32) (by decide))
  · exact .inl rfl

theorem toLower_eq_comma_iff {character : Char} : character.toLower = ',' ↔ character = ',' := by
  rcases toLower_eq_or character with same | ⟨upper, lower⟩
  · rw [same]
  · have comma : (',' : Char).toNat = 44 := rfl
    rw [← Char.toNat_inj, ← Char.toNat_inj, lower, comma]
    omega

@[simp] theorem isBlank_toLower (character : Char) :
    isBlank character.toLower = isBlank character := by
  rcases toLower_eq_or character with same | ⟨upper, lower⟩
  · rw [same]
  · have letter {code : Nat} (within : 65 ≤ code ∧ code ≤ 122) {other : Char}
        (spelled : other.toNat = code) : isBlank other = false := by
      simp only [isBlank, spelled, Bool.or_eq_false_iff, Bool.and_eq_false_iff,
        decide_eq_false_iff_not, beq_eq_false_iff_ne]
      omega
    rw [letter (by omega) lower, letter (by omega) rfl]

theorem trimLeft_map_toLower (text : List Char) :
    trimLeft (text.map Char.toLower) = (trimLeft text).map Char.toLower := by
  have blank : isBlank ∘ Char.toLower = isBlank := funext isBlank_toLower
  rw [trimLeft, List.dropWhile_map, blank, trimLeft]

theorem trim_map_toLower (text : List Char) :
    trim (text.map Char.toLower) = (trim text).map Char.toLower := by
  rw [trim, trimLeft_map_toLower, ← List.map_reverse, trimLeft_map_toLower, ← List.map_reverse,
    trim]

end Text

namespace Transport

/-- Keys that differ in the case of letters only are read alike. -/
theorem ofKey?_eq_of_lower {left right : List Char}
    (same : left.map Char.toLower = right.map Char.toLower) : ofKey? left = ofKey? right := by
  rw [ofKey?, ofKey?, ← Text.trim_map_toLower, same, Text.trim_map_toLower]

/-- Keys that differ in the white space around them only are read alike. -/
theorem ofKey?_eq_of_padded {core text : List Char} (padded : Text.Padded core text) :
    ofKey? text = ofKey? core := by
  rw [ofKey?, ofKey?, Text.trim_of_padded padded]

end Transport

namespace TransportSet

/-! ## Flags -/

/-- The flags of a set are those of its parts. -/
theorem bits_union (left right : TransportSet) :
    (union left right).bits = left.bits ||| right.bits := by
  rcases left with ⟨_ | _, _ | _, _ | _⟩ <;> rcases right with ⟨_ | _, _ | _, _ | _⟩ <;> decide

@[simp] theorem bits_singleton (transport : Transport) :
    (singleton transport).bits = flag transport := by
  cases transport <;> decide

/-! ## The set of a list -/

/-- The set that a list stands for: what is read from it, and none if it is refused. -/
def ofList (list : List Char) : TransportSet :=
  (ofKeys? list).getD empty

theorem ofList_eq_ofEntries (list : List Char) : ofList list = ofEntries list := by
  rw [ofList, ofKeys?]
  split
  · rename_i without
    exact (beq_iff_eq.1 without).symm
  · rfl

theorem has_ofList {list : List Char} {transport : Transport} :
    (ofList list).has transport = true ↔ transport.NamedIn list := by
  rw [ofList_eq_ofEntries, has_ofEntries]

/-- Nothing but a set with a member is read. -/
theorem ofKeys?_ne_empty (list : List Char) : ofKeys? list ≠ some empty := by
  rw [ofKeys?]
  split
  · exact (Option.some_ne_none empty).symm
  · rename_i some
    exact fun same => some (beq_iff_eq.2 (Option.some.inj same))

theorem ofKeys?_eq_of_ofList {left right : List Char} (same : ofList left = ofList right) :
    ofKeys? left = ofKeys? right := by
  rw [ofList_eq_ofEntries, ofList_eq_ofEntries] at same
  rw [ofKeys?, ofKeys?, same]

/-- Lists that name the same transports are read alike. -/
theorem ofKeys?_eq_of_namedIn {left right : List Char}
    (same : ∀ transport : Transport, transport.NamedIn left ↔ transport.NamedIn right) :
    ofKeys? left = ofKeys? right := by
  refine ofKeys?_eq_of_ofList (ext_has fun transport => Bool.eq_iff_iff.2 ?_)
  rw [has_ofList, has_ofList, same]

theorem ofList_append (left right : List Char) :
    ofList (left ++ ',' :: right) = union (ofList left) (ofList right) := by
  refine ext_has fun transport => Bool.eq_iff_iff.2 ?_
  rw [has_union, Bool.or_eq_true, has_ofList, has_ofList, has_ofList, Transport.namedIn_append]

/-- A list of one entry is read as what this entry names. -/
theorem ofKeys?_entry {entry : List Char} (single : ',' ∉ entry) :
    ofKeys? entry = (Transport.ofKey? entry).map singleton := by
  have alone : ofEntries entry = ofEntry entry := by
    rw [ofEntries, entries_eq_splitOn, List.splitOn_eq_singleton single]
    refine ext_has fun transport => Bool.eq_iff_iff.2 ?_
    rw [List.map_singleton, List.foldl_cons, List.foldl_nil, has_union, has_empty, Bool.false_or]
  rw [ofKeys?, alone, ofEntry]
  cases Transport.ofKey? entry with
  | none => rfl
  | some transport => cases transport <;> rfl

/-! ## Spellings of one list -/

theorem entries_map_toLower (list : List Char) :
    entries (list.map Char.toLower) = (entries list).map (List.map Char.toLower) := by
  induction list with
  | nil => rfl
  | cons character rest ih =>
      rw [List.map_cons, entries, entries, ih]
      by_cases comma : character = ','
      · rw [if_pos comma, if_pos (Text.toLower_eq_comma_iff.2 comma), List.map_cons, List.map_nil]
      · rw [if_neg comma, if_neg (mt Text.toLower_eq_comma_iff.1 comma)]
        cases entries rest with
        | nil => rfl
        | cons entry others => rfl

theorem map_ofEntry_eq {keys others : List (List Char)}
    (alike : List.Forall₂ (fun key other => Transport.ofKey? key = Transport.ofKey? other)
      keys others) : keys.map ofEntry = others.map ofEntry := by
  induction alike with
  | nil => rfl
  | cons same _ ih => rw [List.map_cons, List.map_cons, ih, ofEntry, ofEntry, same]

/-- Lists whose entries are read alike, one by one, are read alike. -/
theorem ofKeys?_eq_of_entries {left right : List Char}
    (alike : List.Forall₂ (fun entry other => Transport.ofKey? entry = Transport.ofKey? other)
      (entries left) (entries right)) : ofKeys? left = ofKeys? right := by
  rw [ofKeys?, ofKeys?, ofEntries, ofEntries, map_ofEntry_eq alike]

/-- The case of letters makes no difference, wherever in the list they are. -/
theorem ofKeys?_eq_of_lower {left right : List Char}
    (same : left.map Char.toLower = right.map Char.toLower) : ofKeys? left = ofKeys? right := by
  refine ofKeys?_eq_of_entries ?_
  have lowered := congrArg entries same
  rw [entries_map_toLower, entries_map_toLower, ← List.forall₂_eq_eq_eq, List.forall₂_map_left_iff,
    List.forall₂_map_right_iff] at lowered
  exact lowered.imp fun _ _ => Transport.ofKey?_eq_of_lower

/-- White space around the entries makes no difference. -/
theorem ofKeys?_eq_of_padded {list text : List Char}
    (padded : List.Forall₂ Text.Padded (list.splitOn ',') (text.splitOn ',')) :
    ofKeys? text = ofKeys? list := by
  rw [← entries_eq_splitOn, ← entries_eq_splitOn] at padded
  exact (ofKeys?_eq_of_entries
    (padded.imp fun _ _ around => (Transport.ofKey?_eq_of_padded around).symm)).symm

/-! ## What lists stand for -/

/-- What two lists of keys stand for, each by itself and both together. -/
structure Readings (left right : List Char) : Prop where
  /-- A comma puts lists together, and their sets. -/
  joined : ofList (left ++ ',' :: right) = union (ofList left) (ofList right)
  flags : (ofList (left ++ ',' :: right)).bits = (ofList left).bits ||| (ofList right).bits
  /-- A key is read as a transport exactly if it is one of the transport's words, in letters of
  any case and between any white space. -/
  recognised : ∀ transport : Transport,
    Transport.ofKey? left = some transport ↔ transport.NamedBy left
  /-- An entry by itself contributes the flag of the transport that it names. -/
  contributed : ',' ∉ left → ∀ transport : Transport, transport.NamedBy left →
    ofKeys? left = some (singleton transport) ∧ (ofList left).bits = flag transport
  /-- A list is refused exactly if it has no entry that names a transport, and this alone makes
  its set empty. -/
  refused : ofKeys? left = none ↔
    ∀ entry ∈ left.splitOn ',', ∀ transport : Transport, ¬transport.NamedBy entry
  inhabited : ofKeys? left ≠ some empty
  /-- Only which entries that name a transport there are makes a difference. -/
  alike : (∀ entry : List Char, (∃ transport : Transport, transport.NamedBy entry) →
      (entry ∈ left.splitOn ',' ↔ entry ∈ right.splitOn ',')) →
    ofKeys? left = ofKeys? right
  spaced : List.Forall₂ Text.Padded (left.splitOn ',') (right.splitOn ',') →
    ofKeys? right = ofKeys? left
  cased : left.map Char.toLower = right.map Char.toLower → ofKeys? left = ofKeys? right

/-- Lists of keys form a union, and how they are spelled makes no difference to it. -/
theorem readings_unite (left right : List Char) : Readings left right where
  joined := ofList_append left right
  flags := by rw [ofList_append, bits_union]
  recognised _ := Transport.ofKey?_eq_some_iff
  contributed := by
    intro single transport named
    have read : ofKeys? left = some (singleton transport) := by
      rw [ofKeys?_entry single, Transport.ofKey?_eq_some_iff.2 named, Option.map_some]
    exact ⟨read, by rw [ofList, read, Option.getD_some, bits_singleton]⟩
  refused := by
    rw [ofKeys?_eq_none_iff]
    constructor
    · exact fun silent entry member transport named => silent transport ⟨entry, member, named⟩
    · rintro silent transport ⟨entry, member, named⟩
      exact silent entry member transport named
  inhabited := ofKeys?_ne_empty left
  alike := by
    intro same
    refine ofKeys?_eq_of_namedIn fun transport => exists_congr fun entry => ?_
    exact and_congr_left fun named => same entry ⟨transport, named⟩
  spaced := ofKeys?_eq_of_padded
  cased := ofKeys?_eq_of_lower

example : ofKeys? " TEST,,usb\u00a0,no,SiUsb".toList = some ⟨false, true, true⟩ := by
  decide +kernel

end TransportSet

end SensorStream
