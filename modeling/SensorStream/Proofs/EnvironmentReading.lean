import SensorStream.Config
import SensorStream.Proofs.TransportKeys

/-!
# What an environment says

Settings are read from the environment, each from a variable of its own.  A variable says a number
if its value is a text and, between white space, a decimal numeral below `2 ^ 64`; any other value
says as little as none at all.  From this follows what each setting is for every environment, down
to single bytes.  The settings that are read need no raising, and raising changes none that is
valid.
-/

namespace SensorStream

/-! ## Values of variables -/

/-- The value of a variable is a decimal numeral between white space, in UTF-8, for a number of
64 bits. -/
def Says (value? : Option ByteArray) (number : Nat) : Prop :=
  number < UInt64.size ∧ ∃ (text : String) (numeral : List Char), value? = some text.toByteArray ∧
    Text.Padded numeral text.toList ∧ Text.Numeral numeral number

/-- The value of a variable is a comma separated list, in UTF-8, that names a transport. -/
def Lists (value? : Option ByteArray) (transport : Transport) : Prop :=
  ∃ text : String, value? = some text.toByteArray ∧ transport.NamedIn text.toList

/-- A setting is what the number that a variable says means.  If the variable says none, it is the
default. -/
def Follows {Setting : Type} (value? : Option ByteArray) (meaning : Nat → Setting)
    (otherwise setting : Setting) : Prop :=
  (∃ number : Nat, Says value? number ∧ setting = meaning number) ∨
    (∀ number : Nat, ¬Says value? number) ∧ setting = otherwise

/-- A setting that is read from the environment depends on one variable alone. -/
def DependsOn {Setting : Type} (name : String) (setting : Environment → Setting) : Prop :=
  ∀ environment other : Environment, environment.value? name = other.value? name →
    setting environment = setting other

namespace Environment

variable {environment : Environment} {name : String}

theorem text?_eq_some_iff {core : List Char} : environment.text? name = some core ↔
    ∃ text : String, environment.value? name = some text.toByteArray ∧
      Text.trim text.toList = core := by
  rw [text?, Option.map_eq_some_iff]
  constructor
  · rintro ⟨text, read, trimmed⟩
    rcases Option.bind_eq_some_iff.1 read with ⟨bytes, value, decoded⟩
    exact ⟨text, value.trans (congrArg some (Text.fromUTF8?_eq_some_iff.1 decoded)), trimmed⟩
  · rintro ⟨text, value, trimmed⟩
    exact ⟨text, Option.bind_eq_some_iff.2 ⟨_, value, Text.fromUTF8?_eq_some_iff.2 rfl⟩, trimmed⟩

/-- A count is read exactly if the variable says it. -/
theorem count?_eq_some_iff {count : UInt64} :
    environment.count? name = some count ↔ Says (environment.value? name) count.toNat := by
  rw [count?, Option.bind_eq_some_iff]
  constructor
  · rintro ⟨core, read, counted⟩
    rcases text?_eq_some_iff.1 read with ⟨text, value, rfl⟩
    exact ⟨count.toNat_lt, text, _, value, Text.padded_trim _, Text.count?_eq_some_iff.1 counted⟩
  · rintro ⟨_, text, numeral, value, padded, spelled⟩
    have trimmed : Text.trim text.toList = numeral := (Text.trim_eq_iff spelled.solid).2 padded
    exact ⟨numeral, text?_eq_some_iff.2 ⟨text, value, trimmed⟩, Text.count?_eq_some_iff.2 spelled⟩

theorem count?_eq_none_iff : environment.count? name = none ↔
    ∀ number : Nat, ¬Says (environment.value? name) number := by
  constructor
  · intro unread number said
    have same : (UInt64.ofNat number).toNat = number := UInt64.toNat_ofNat_of_lt' said.1
    cases unread.symm.trans (count?_eq_some_iff.2 (same.symm ▸ said))
  · intro silent
    cases read : environment.count? name with
    | none => rfl
    | some count => exact absurd (count?_eq_some_iff.1 read) (silent _)

/-- What is made of the count that is read follows the variable. -/
theorem follows {Setting : Type} (environment : Environment) (name : String)
    (meaning : Nat → Setting) (otherwise : Setting) :
    Follows (environment.value? name) meaning otherwise
      (((environment.count? name).map fun count => meaning count.toNat).getD otherwise) := by
  cases read : environment.count? name with
  | none => exact .inr ⟨count?_eq_none_iff.1 read, rfl⟩
  | some count => exact .inl ⟨count.toNat, count?_eq_some_iff.1 read, rfl⟩

theorem milliseconds_eq (environment : Environment) (name : String) (otherwise : Span) :
    environment.milliseconds name otherwise =
      ((environment.count? name).map fun count => Span.ofMilliseconds count.toNat).getD
        otherwise := by
  unfold milliseconds
  cases environment.count? name <;> rfl

theorem seconds_eq (environment : Environment) (name : String) (otherwise : Span) :
    environment.seconds name otherwise =
      ((environment.count? name).map fun count => Span.ofSeconds count.toNat).getD otherwise := by
  unfold seconds
  cases environment.count? name <;> rfl

theorem namedIn_text?_iff {transport : Transport} :
    (∃ core : List Char, environment.text? name = some core ∧ transport.NamedIn core) ↔
      Lists (environment.value? name) transport := by
  constructor
  · rintro ⟨core, read, named⟩
    rcases text?_eq_some_iff.1 read with ⟨text, value, rfl⟩
    exact ⟨text, value, (Transport.namedIn_padded (Text.padded_trim _)).2 named⟩
  · rintro ⟨text, value, named⟩
    exact ⟨_, text?_eq_some_iff.2 ⟨text, value, rfl⟩,
      (Transport.namedIn_padded (Text.padded_trim _)).1 named⟩

end Environment

theorem Says.unique {value? : Option ByteArray} {number other : Nat} (said : Says value? number)
    (again : Says value? other) : number = other := by
  have read {number : Nat} (said : Says value? number) :
      (Environment.mk fun _ => value?).count? "" = some (UInt64.ofNat number) := by
    rw [Environment.count?_eq_some_iff, UInt64.toNat_ofNat_of_lt' said.1]
    exact said
  have same := Option.some.inj ((read said).symm.trans (read again))
  rw [← UInt64.toNat_ofNat_of_lt' said.1, ← UInt64.toNat_ofNat_of_lt' again.1, same]

theorem Follows.unique {Setting : Type} {value? : Option ByteArray} {meaning : Nat → Setting}
    {otherwise setting other : Setting} (follows : Follows value? meaning otherwise setting)
    (again : Follows value? meaning otherwise other) : setting = other := by
  rcases follows with ⟨number, said, rfl⟩ | ⟨silent, rfl⟩
  · rcases again with ⟨same, saidSame, rfl⟩ | ⟨silent, _⟩
    · rw [said.unique saidSame]
    · exact absurd said (silent number)
  · rcases again with ⟨number, said, _⟩ | ⟨_, rfl⟩
    · exact absurd said (silent number)
    · rfl

theorem dependsOn_of_follows {Setting : Type} {name : String} {setting : Environment → Setting}
    {meaning : Nat → Setting} {otherwise : Setting}
    (each : ∀ environment : Environment,
      Follows (environment.value? name) meaning otherwise (setting environment)) :
    DependsOn name setting := fun environment other same =>
  (each environment).unique (same ▸ each other)

/-! ## Settings -/

namespace Config

/-- What the settings are that are read from an environment. -/
structure ReadFrom (config : Config) (environment : Environment) : Prop where
  /-- A count beyond 32 bits leaves the default, and zero counts as one. -/
  attempts : Follows (environment.value? "ZEN_CONNECT_ATTEMPTS")
    (fun number => if number < UInt32.size then max number 1 else 3) 3 config.connectAttempts.toNat
  retry : Follows (environment.value? "ZEN_RETRY_DELAY_MS")
    Span.ofMilliseconds .zero config.retryDelay
  /-- Zero counts as one millisecond. -/
  poll : Follows (environment.value? "ZEN_POLL_MS")
    (fun number => .ofMilliseconds (max number 1)) (.ofSeconds 1) config.discoveryPoll
  timeout : Follows (environment.value? "ZEN_DISCOVERY_TIMEOUT_MS")
    Span.ofMilliseconds (.ofSeconds 30) config.discoveryTimeout
  window : Follows (environment.value? "ZEN_STREAM_SECS")
    Span.ofSeconds (.ofSeconds 5) config.streamWindow
  downsample : Follows (environment.value? "ZEN_DOWNSAMPLE")
    (fun number => number) 100 config.downsampleEvery.toNat
  /-- The transports are those that the list names, and those that need hardware if it names
  none. -/
  interfaces : ∀ transport : Transport, config.interfaces.has transport = true ↔
    Lists (environment.value? "ZEN_INTERFACES") transport ∨
      (∀ other : Transport, ¬Lists (environment.value? "ZEN_INTERFACES") other) ∧
        (transport = .hid ∨ transport = .siUsb)
  /-- No variable is for these two. -/
  fixed : config.waitTimeout = .ofMilliseconds 100 ∧ config.sampleBuffer = 256
  /-- The settings need no raising. -/
  settled : config.sanitized = config

/-- Each setting depends on the variable that is for it. -/
structure Separate (read : Environment → Config) : Prop where
  attempts : DependsOn "ZEN_CONNECT_ATTEMPTS" fun environment => (read environment).connectAttempts
  retry : DependsOn "ZEN_RETRY_DELAY_MS" fun environment => (read environment).retryDelay
  poll : DependsOn "ZEN_POLL_MS" fun environment => (read environment).discoveryPoll
  timeout : DependsOn "ZEN_DISCOVERY_TIMEOUT_MS" fun environment =>
    (read environment).discoveryTimeout
  window : DependsOn "ZEN_STREAM_SECS" fun environment => (read environment).streamWindow
  downsample : DependsOn "ZEN_DOWNSAMPLE" fun environment => (read environment).downsampleEvery
  interfaces : DependsOn "ZEN_INTERFACES" fun environment => (read environment).interfaces
  fixed (environment other : Environment) :
    (read environment).waitTimeout = (read other).waitTimeout ∧
      (read environment).sampleBuffer = (read other).sampleBuffer

/-- What raising leaves as it is: every setting that is valid, and what has been raised before. -/
structure Kept (config : Config) : Prop where
  attempts : config.connectAttempts ≠ 0 → config.sanitized.connectAttempts = config.connectAttempts
  retry : config.sanitized.retryDelay = config.retryDelay
  poll : config.discoveryPoll ≠ .zero → config.sanitized.discoveryPoll = config.discoveryPoll
  timeout : config.sanitized.discoveryTimeout = config.discoveryTimeout
  window : config.sanitized.streamWindow = config.streamWindow
  downsample : config.sanitized.downsampleEvery = config.downsampleEvery
  wait : config.waitTimeout ≠ .zero → config.sanitized.waitTimeout = config.waitTimeout
  buffer : config.sampleBuffer ≠ 0 → config.sanitized.sampleBuffer = config.sampleBuffer
  interfaces : config.sanitized.interfaces = config.interfaces
  again : config.sanitized.sanitized = config.sanitized

/-! ### Raising -/

theorem orIfZero_of_ne_zero {span replacement : Span} (valid : span ≠ .zero) :
    span.orIfZero replacement = span := by
  have long : span.isZero = false := by
    rw [Span.isZero, beq_eq_false_iff_ne]
    exact fun zero => valid (congrArg Span.mk zero)
  rw [Span.orIfZero, long]
  rfl

/-- Raising changes no setting that is valid. -/
theorem Sane.sanitized_eq {config : Config} (sane : config.Sane) : config.sanitized = config := by
  have poll : config.discoveryPoll ≠ .zero := fun zero => absurd sane.poll (zero ▸ by decide)
  have wait : config.waitTimeout ≠ .zero := fun zero => absurd sane.wait (zero ▸ by decide)
  have buffer : max config.sampleBuffer 1 = config.sampleBuffer := Nat.max_eq_left sane.buffer
  simp only [sanitized, if_neg sane.attempts, buffer, orIfZero_of_ne_zero poll,
    orIfZero_of_ne_zero wait]

theorem kept (config : Config) : config.Kept where
  attempts some := if_neg some
  retry := rfl
  poll := orIfZero_of_ne_zero
  timeout := rfl
  window := rfl
  downsample := rfl
  wait := orIfZero_of_ne_zero
  buffer some := Nat.max_eq_left (Nat.one_le_iff_ne_zero.2 some)
  interfaces := rfl
  again := (sane_sanitized config).sanitized_eq

/-! ### Reading -/

theorem toNat_attemptsOf (environment : Environment) :
    (attemptsOf environment).toNat =
      ((environment.count? "ZEN_CONNECT_ATTEMPTS").map fun count =>
        if count.toNat < UInt32.size then count.toNat else 3).getD 3 := by
  rw [attemptsOf]
  cases environment.count? "ZEN_CONNECT_ATTEMPTS" with
  | none => rfl
  | some count =>
      simp only [Option.map_some, Option.getD_some]
      by_cases fits : count.toNat < UInt32.size
      · rw [if_pos fits, if_pos fits]
        exact (UInt64.toNat_toUInt32 count).trans (Nat.mod_eq_of_lt fits)
      · rw [if_neg fits, if_neg fits]
        rfl

theorem toNat_raised (attempts : UInt32) :
    (if attempts = 0 then 1 else attempts).toNat = max attempts.toNat 1 := by
  split
  · rename_i none
    rw [none]
    rfl
  · rename_i some
    have positive : attempts.toNat ≠ 0 := fun none => some (UInt32.toNat_inj.1 none)
    rw [Nat.max_eq_left (Nat.one_le_iff_ne_zero.2 positive)]

theorem follows_attempts (environment : Environment) :
    Follows (environment.value? "ZEN_CONNECT_ATTEMPTS")
      (fun number => if number < UInt32.size then max number 1 else 3) 3
        (ofEnvironment environment).connectAttempts.toNat := by
  have read : (ofEnvironment environment).connectAttempts.toNat =
      ((environment.count? "ZEN_CONNECT_ATTEMPTS").map fun count =>
        if count.toNat < UInt32.size then max count.toNat 1 else 3).getD 3 := by
    have raised : (ofEnvironment environment).connectAttempts.toNat =
        max (attemptsOf environment).toNat 1 := toNat_raised _
    rw [raised, toNat_attemptsOf]
    cases environment.count? "ZEN_CONNECT_ATTEMPTS" with
    | none => rfl
    | some count =>
        simp only [Option.map_some, Option.getD_some]
        split <;> rfl
  exact read ▸ environment.follows _ _ _

theorem orIfZero_ofMilliseconds (number : Nat) :
    (Span.ofMilliseconds number).orIfZero (.ofMilliseconds 1) = .ofMilliseconds (max number 1) := by
  cases number with
  | zero => rfl
  | succ less =>
      rw [Nat.max_eq_left (Nat.succ_pos less)]
      refine orIfZero_of_ne_zero fun zero => ?_
      have length := congrArg Span.nanoseconds zero
      simp only [Span.ofMilliseconds, Span.zero] at length
      omega

theorem follows_poll (environment : Environment) :
    Follows (environment.value? "ZEN_POLL_MS") (fun number => .ofMilliseconds (max number 1))
      (.ofSeconds 1) (ofEnvironment environment).discoveryPoll := by
  have read : (ofEnvironment environment).discoveryPoll =
      ((environment.count? "ZEN_POLL_MS").map fun count =>
        Span.ofMilliseconds (max count.toNat 1)).getD (.ofSeconds 1) := by
    simp only [ofEnvironment, sanitized, Environment.milliseconds_eq]
    cases environment.count? "ZEN_POLL_MS" with
    | none =>
        have long : default.discoveryPoll ≠ .zero := by decide
        simp only [Option.map_none, Option.getD_none, orIfZero_of_ne_zero long]
        rfl
    | some count => exact orIfZero_ofMilliseconds count.toNat
  exact read ▸ environment.follows _ _ _

theorem follows_downsample (environment : Environment) :
    Follows (environment.value? "ZEN_DOWNSAMPLE") (fun number => number) 100
      (ofEnvironment environment).downsampleEvery.toNat := by
  have read : (ofEnvironment environment).downsampleEvery.toNat =
      ((environment.count? "ZEN_DOWNSAMPLE").map fun count => count.toNat).getD 100 := by
    have bare : (ofEnvironment environment).downsampleEvery =
        (environment.count? "ZEN_DOWNSAMPLE").getD default.downsampleEvery := rfl
    rw [bare]
    cases environment.count? "ZEN_DOWNSAMPLE" with
    | none => rfl
    | some count => rfl
  exact read ▸ environment.follows _ _ _

theorem has_default {transport : Transport} :
    default.interfaces.has transport = true ↔ transport = .hid ∨ transport = .siUsb := by
  cases transport <;> decide

theorem has_interfacesOf (environment : Environment) (transport : Transport) :
    (interfacesOf environment).has transport = true ↔
      Lists (environment.value? "ZEN_INTERFACES") transport ∨
        (∀ other : Transport, ¬Lists (environment.value? "ZEN_INTERFACES") other) ∧
          (transport = .hid ∨ transport = .siUsb) := by
  simp only [interfacesOf, ← Environment.namedIn_text?_iff]
  cases environment.text? "ZEN_INTERFACES" with
  | none => simpa using has_default
  | some list =>
      simp only [Option.bind_some, Option.some.injEq, exists_eq_left']
      cases read : TransportSet.ofKeys? list with
      | none =>
          have silent := TransportSet.ofKeys?_eq_none_iff.1 read
          simpa [silent] using has_default
      | some set =>
          have named {transport : Transport} :
              set.has transport = true ↔ transport.NamedIn list :=
            TransportSet.has_of_ofKeys? read
          have some : ¬∀ other : Transport, ¬other.NamedIn list := fun silent => by
            cases read.symm.trans (TransportSet.ofKeys?_eq_none_iff.2 silent)
          simp only [Option.getD_some, named, some, false_and, or_false]

theorem readFrom_ofEnvironment (environment : Environment) :
    (ofEnvironment environment).ReadFrom environment where
  attempts := follows_attempts environment
  retry := by
    simp only [ofEnvironment, sanitized, Environment.milliseconds_eq]
    exact environment.follows _ _ _
  poll := follows_poll environment
  timeout := by
    simp only [ofEnvironment, sanitized, Environment.milliseconds_eq]
    exact environment.follows _ _ _
  window := by
    simp only [ofEnvironment, sanitized, Environment.seconds_eq]
    exact environment.follows _ _ _
  downsample := follows_downsample environment
  interfaces := has_interfacesOf environment
  fixed := ⟨rfl, rfl⟩
  settled := (sane_sanitized _).sanitized_eq

theorem separate_ofEnvironment : Separate ofEnvironment where
  attempts environment other same := UInt32.toNat_inj.1 <|
    dependsOn_of_follows follows_attempts environment other same
  retry := dependsOn_of_follows fun environment => (readFrom_ofEnvironment environment).retry
  poll := dependsOn_of_follows follows_poll
  timeout := dependsOn_of_follows fun environment => (readFrom_ofEnvironment environment).timeout
  window := dependsOn_of_follows fun environment => (readFrom_ofEnvironment environment).window
  downsample environment other same := UInt64.toNat_inj.1 <|
    dependsOn_of_follows follows_downsample environment other same
  interfaces environment other same := by
    refine TransportSet.ext_has fun transport => Bool.eq_iff_iff.2 ?_
    rw [(readFrom_ofEnvironment environment).interfaces, same]
    exact ((readFrom_ofEnvironment other).interfaces transport).symm
  fixed _ _ := ⟨rfl, rfl⟩

/-- Every environment gives settings, each as its own variable says, and raising settings that are
valid changes nothing. -/
theorem environment_reading :
    (∀ environment : Environment, (ofEnvironment environment).ReadFrom environment) ∧
      Separate ofEnvironment ∧ ∀ config : Config, config.Kept :=
  ⟨readFrom_ofEnvironment, separate_ofEnvironment, kept⟩

example : (ofEnvironment (.ofList [("ZEN_POLL_MS", " +007 ".toByteArray)])).discoveryPoll =
    .ofMilliseconds 7 := by
  decide +kernel

end Config

end SensorStream
