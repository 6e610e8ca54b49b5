import SensorStream.Proofs.TextForms
import SensorStream.Transport

/-!
# Keys of transports

A transport has a few words for it.  A key names the transport if it is one of these words, in
letters of any case and between any white space, and a list names the transports that its entries
name.  What is read from a key or a list is what it names, and the white space around a list makes
no difference to that.
-/

namespace SensorStream

namespace Transport

/-- The lower-case words for a transport. -/
def words : Transport → List (List Char)
  | hid => ["hid".toList]
  | siUsb => ["siusb".toList, "usb".toList]
  | simulated => ["testsensor".toList, "test".toList]

/-- A key names a transport: what stands between its white space is, in lower case, one of the
transport's words. -/
def NamedBy (transport : Transport) (key : List Char) : Prop :=
  ∃ word : List Char, Text.Padded word key ∧ word.map Char.toLower ∈ transport.words

/-- An entry of a comma separated list names a transport. -/
def NamedIn (transport : Transport) (list : List Char) : Prop :=
  ∃ entry ∈ list.splitOn ',', transport.NamedBy entry

variable {transport : Transport}

/-! ## Words and keys -/

theorem ofWord?_eq_some_iff {word : List Char} :
    ofWord? word = some transport ↔ word ∈ transport.words := by
  constructor
  · intro named
    simp only [ofWord?, Bool.or_eq_true, decide_eq_true_eq] at named
    split at named
    · rename_i same
      cases named
      exact List.mem_singleton.2 same
    · split at named
      · rename_i same
        cases named
        exact same.elim (fun same => same ▸ List.mem_cons_self)
          fun same => same ▸ List.mem_cons_of_mem _ List.mem_cons_self
      · split at named
        · rename_i same
          cases named
          exact same.elim (fun same => same ▸ List.mem_cons_self)
            fun same => same ▸ List.mem_cons_of_mem _ List.mem_cons_self
        · cases named
  · intro member
    have each : ∀ word ∈ transport.words, ofWord? word = some transport := by
      cases transport <;> decide
    exact each word member

theorem toLower_of_isBlank {character : Char} (blank : Text.isBlank character = true) :
    character.toLower = character := by
  unfold Char.toLower
  split
  · rename_i upper
    simp only [Text.isBlank, Bool.or_eq_true, Bool.and_eq_true, decide_eq_true_eq,
      beq_iff_eq] at blank
    have range : 65 ≤ character.toNat ∧ character.toNat ≤ 90 := by
      simpa [UInt32.le_iff_toNat_le] using upper
    omega
  · rfl

theorem solid_of_mem_words {word : List Char} (known : word.map Char.toLower ∈ transport.words) :
    Text.Solid word := by
  have each : (transport.words.all fun word =>
      word.all fun character => !Text.isBlank character) = true := by
    cases transport <;> decide
  intro character member
  -- White space has no case, so it would be in the lower-case word too.
  by_contra blank
  rw [Bool.not_eq_false] at blank
  have lower : character ∈ word.map Char.toLower :=
    List.mem_map.2 ⟨character, member, toLower_of_isBlank blank⟩
  have filled := List.all_eq_true.1 (List.all_eq_true.1 each _ known) character lower
  rw [blank] at filled
  cases filled

theorem ofKey?_eq_some_iff {key : List Char} :
    ofKey? key = some transport ↔ transport.NamedBy key := by
  rw [ofKey?, ofWord?_eq_some_iff]
  constructor
  · exact fun known => ⟨Text.trim key, Text.padded_trim key, known⟩
  · rintro ⟨word, padded, known⟩
    rwa [(Text.trim_eq_iff (solid_of_mem_words known)).2 padded]

theorem namedBy_padded {core text : List Char} (padded : Text.Padded core text) :
    transport.NamedBy text ↔ transport.NamedBy core := by
  rw [← ofKey?_eq_some_iff, ← ofKey?_eq_some_iff, ofKey?, ofKey?, Text.trim_of_padded padded]

/-! ## Lists -/

theorem namedIn_of_not_mem {list : List Char} (single : ',' ∉ list) :
    transport.NamedIn list ↔ transport.NamedBy list := by
  rw [NamedIn, List.splitOn_eq_singleton single]
  simp only [List.mem_singleton, exists_eq_left]

/-- A comma puts two lists together. -/
theorem namedIn_append {left right : List Char} :
    transport.NamedIn (left ++ ',' :: right) ↔
      transport.NamedIn left ∨ transport.NamedIn right := by
  simp only [NamedIn, List.splitOn_append_cons_self, List.mem_append, or_and_right, exists_or]

/-- White space around a list is white space around its first and its last entry. -/
theorem namedIn_padded {core text : List Char} (padded : Text.Padded core text) :
    transport.NamedIn text ↔ transport.NamedIn core := by
  by_cases comma : ',' ∈ core
  · rcases List.append_of_mem comma with ⟨left, right, parts⟩
    -- Each side of a comma is a shorter list, with white space at its outer end only.
    have shorter : left.length < core.length ∧ right.length < core.length := by
      simp +arith [parts]
    rcases padded with ⟨before, after, rfl, blankBefore, blankAfter⟩
    have split : before ++ core ++ after = (before ++ left) ++ ',' :: (right ++ after) := by
      simp only [parts, List.append_assoc, List.cons_append]
    have front : transport.NamedIn (before ++ left) ↔ transport.NamedIn left :=
      namedIn_padded ⟨before, [], (List.append_nil _).symm, blankBefore, List.forall_mem_nil _⟩
    have back : transport.NamedIn (right ++ after) ↔ transport.NamedIn right :=
      namedIn_padded ⟨[], after, rfl, List.forall_mem_nil _, blankAfter⟩
    rw [split, parts, namedIn_append, namedIn_append, front, back]
  · have textComma : ',' ∉ text := by
      rcases padded with ⟨before, after, rfl, blankBefore, blankAfter⟩
      simp only [List.mem_append, not_or]
      exact ⟨⟨fun member => absurd (blankBefore _ member) (by decide), comma⟩,
        fun member => absurd (blankAfter _ member) (by decide)⟩
    rw [namedIn_of_not_mem textComma, namedIn_of_not_mem comma, namedBy_padded padded]
termination_by core.length
decreasing_by all_goals omega

end Transport

namespace TransportSet

theorem entries_eq_splitOn (list : List Char) : entries list = list.splitOn ',' := by
  induction list with
  | nil => rw [entries, List.splitOn_nil]
  | cons character rest ih =>
      rw [entries, List.splitOn_cons_eq_if_modifyHead, ← ih]
      by_cases comma : character = ','
      · rw [if_pos comma, if_pos (beq_iff_eq.2 comma)]
      · rw [if_neg comma, if_neg (mt beq_iff_eq.1 comma)]
        have some : entries rest ≠ [] := ih ▸ List.splitOn_ne_nil _ _
        cases split : entries rest with
        | nil => exact absurd split some
        | cons entry others => rfl

theorem has_ofEntry {entry : List Char} {transport : Transport} :
    (ofEntry entry).has transport = true ↔ transport.NamedBy entry := by
  rw [← Transport.ofKey?_eq_some_iff, ofEntry]
  cases Transport.ofKey? entry <;> simp

theorem has_foldl_union {sets : List TransportSet} {set : TransportSet} {transport : Transport} :
    (sets.foldl union set).has transport = true ↔
      set.has transport = true ∨ ∃ part ∈ sets, part.has transport = true := by
  induction sets generalizing set with
  | nil => simp
  | cons part rest ih => simp [ih, or_assoc]

/-- A list stands for the transports that it names. -/
theorem has_ofEntries {list : List Char} {transport : Transport} :
    (ofEntries list).has transport = true ↔ transport.NamedIn list := by
  rw [ofEntries, has_foldl_union, entries_eq_splitOn]
  simp [has_ofEntry, Transport.NamedIn]

theorem isEmpty_iff {set : TransportSet} :
    set.isEmpty = true ↔ ∀ transport : Transport, set.has transport = false := by
  rw [isEmpty, beq_iff_eq]
  constructor
  · rintro rfl
    exact has_empty
  · exact fun without => ext_has fun transport => by rw [without, has_empty]

theorem ofKeys?_eq_none_iff {list : List Char} :
    ofKeys? list = none ↔ ∀ transport : Transport, ¬transport.NamedIn list := by
  simp only [ofKeys?, ← has_ofEntries, Bool.not_eq_true, ← isEmpty_iff]
  cases (ofEntries list).isEmpty <;> simp

theorem has_of_ofKeys? {list : List Char} {set : TransportSet} (read : ofKeys? list = some set)
    {transport : Transport} : set.has transport = true ↔ transport.NamedIn list := by
  simp only [ofKeys?] at read
  split at read
  · cases read
  · cases read
    exact has_ofEntries

end TransportSet

end SensorStream
