import MusicLibrary.SettingsFile
import MusicLibrary.Proofs.Http.Reading
import MusicLibrary.Proofs.Settings

/-!
# Settings under an environment

An environment gives values to variables by their names, and each setting has a variable of its own.
A variable counts if it says something: a text must not be empty, and a time limit must be written
in digits, with or without a plus sign in front of them, and be below `2 ^ 64`. What counts takes
the place of a setting, and nothing else does (`Settings.overrides_overriddenBy`).

Of an environment only what counts matters. So an environment that is applied twice is applied once,
and two environments, one after the other, are one that takes each variable from the later one if it
counts there, and from the earlier one otherwise (`Settings.overriddenBy_laws`).
-/

namespace MusicLibrary

open Settings (Given Missing)

/-! ### Time limits -/

/-- The text writes the number in digits, with or without a plus sign in front of them. -/
inductive WritesSeconds : List Char → ℕ → Prop where
  /-- Digits alone. -/
  | digits {ds : List Char} : ds ≠ [] → (∀ c ∈ ds, c.isDigit = true) →
      WritesSeconds ds (Nat.ofDigitChars 10 ds 0)
  /-- Digits behind a plus sign. -/
  | plus {ds : List Char} : ds ≠ [] → (∀ c ∈ ds, c.isDigit = true) →
      WritesSeconds ('+' :: ds) (Nat.ofDigitChars 10 ds 0)

theorem WritesSeconds.of_plus {ds : List Char} {n : ℕ} (h : WritesSeconds ('+' :: ds) n) :
    ds ≠ [] ∧ (∀ c ∈ ds, c.isDigit = true) ∧ Nat.ofDigitChars 10 ds 0 = n := by
  cases h with
  | digits _ hdigits => exact absurd (hdigits '+' List.mem_cons_self) (by decide)
  | plus hne hdigits => exact ⟨hne, hdigits, rfl⟩

theorem WritesSeconds.of_head_ne {s : List Char} {n : ℕ} (hs : s.head? ≠ some '+')
    (h : WritesSeconds s n) :
    s ≠ [] ∧ (∀ c ∈ s, c.isDigit = true) ∧ Nat.ofDigitChars 10 s 0 = n := by
  cases h with
  | digits hne hdigits => exact ⟨hne, hdigits, rfl⟩
  | plus _ _ => exact absurd rfl hs

/-- The number below `2 ^ 64` that a text of digits stands for. -/
def readUnsigned (ds : List Char) : Option UInt64 :=
  if ds.isEmpty || !ds.all Char.isDigit then none
  else if Nat.ofDigitChars 10 ds 0 < secondsLimit then
    some (UInt64.ofNat (Nat.ofDigitChars 10 ds 0))
  else none

theorem readUnsigned_eq_some_iff {ds : List Char} {n : UInt64} : readUnsigned ds = some n ↔
    ds ≠ [] ∧ (∀ c ∈ ds, c.isDigit = true) ∧ Nat.ofDigitChars 10 ds 0 = n.toNat := by
  constructor
  · intro h
    unfold readUnsigned at h
    split_ifs at h with hshape hlt
    obtain rfl := Option.some.inj h
    have hdigits : ds ≠ [] ∧ ∀ c ∈ ds, c.isDigit = true := by simpa using hshape
    exact ⟨hdigits.1, hdigits.2, (UInt64.toNat_ofNat_of_lt' hlt).symm⟩
  · rintro ⟨hne, hdigits, hn⟩
    have hlt : n.toNat < secondsLimit := n.toNat_lt
    have hall : ds.all Char.isDigit = true := List.all_eq_true.mpr hdigits
    simp [readUnsigned, hne, hall, hn, hlt]

theorem readSeconds_plus (ds : List Char) : readSeconds ('+' :: ds) = readUnsigned ds := rfl

theorem readSeconds_of_head_ne {s : List Char} (hs : s.head? ≠ some '+') :
    readSeconds s = readUnsigned s := by
  unfold readSeconds
  split
  · exact absurd rfl hs
  · rfl

/-- A time limit is read if it is written in digits and fits, and then it is this number. -/
theorem readSeconds_eq_some_iff {s : List Char} {n : UInt64} :
    readSeconds s = some n ↔ WritesSeconds s n.toNat := by
  by_cases hs : s.head? = some '+'
  · obtain ⟨ds, rfl⟩ := List.head?_eq_some_iff.mp hs
    rw [readSeconds_plus, readUnsigned_eq_some_iff]
    constructor
    · rintro ⟨hne, hdigits, hn⟩
      exact hn ▸ .plus hne hdigits
    · exact fun h => h.of_plus
  · rw [readSeconds_of_head_ne hs, readUnsigned_eq_some_iff]
    constructor
    · rintro ⟨hne, hdigits, hn⟩
      exact hn ▸ .digits hne hdigits
    · exact fun h => h.of_head_ne hs

example : readSeconds "+0012".toList = some 12 ∧ readSeconds "18446744073709551616".toList = none :=
  ⟨rfl, rfl⟩

/-! ### Variables that count -/

/-- What the setting is under a text of the environment. -/
inductive TextUnder (v setting : Option String) : Option String → Prop where
  /-- The variable is set and not empty. -/
  | said {s : String} : Given v s → TextUnder v setting (some s)
  /-- The variable is not set, or it is empty. -/
  | kept : Missing v → TextUnder v setting setting

/-- What the time limit is under a text of the environment. -/
inductive SecondsUnder (v : Option String) (setting : Option UInt64) :
    Option UInt64 → Prop where
  /-- The variable writes a number that fits. -/
  | said {s : String} {n : UInt64} : v = some s → WritesSeconds s.toList n.toNat →
      SecondsUnder v setting (some n)
  /-- It writes none, or one that is too large. -/
  | kept : (∀ s, v = some s → ∀ n < 2 ^ 64, ¬ WritesSeconds s.toList n) →
      SecondsUnder v setting setting

/-- The settings `d` are the settings `c` under the variables of an environment. -/
structure Overrides (lookup : String → Option String) (c d : Settings) : Prop where
  /-- The address. -/
  url : TextUnder (lookup "PMOJELLYFIN_URL") c.url d.url
  /-- The token. -/
  token : TextUnder (lookup "PMOJELLYFIN_TOKEN") c.token d.token
  /-- The user. -/
  userId : TextUnder (lookup "PMOJELLYFIN_USER_ID") c.userId d.userId
  /-- The device. -/
  deviceId : TextUnder (lookup "PMOJELLYFIN_DEVICE_ID") c.deviceId d.deviceId
  /-- The name of the client. -/
  clientName : TextUnder (lookup "PMOJELLYFIN_CLIENT_NAME") c.clientName d.clientName
  /-- The time limit. -/
  timeoutSeconds :
    SecondsUnder (lookup "PMOJELLYFIN_TIMEOUT_SECS") c.timeoutSeconds d.timeoutSeconds

namespace Environment

/-- A text that counts. -/
def effectiveText (v : Option String) : Option String := v.filter (!·.isEmpty)

/-- The text of a time limit that counts. -/
def effectiveSeconds (v : Option String) : Option String :=
  v.filter fun s => (readSeconds s.toList).isSome

/-- What counts of an environment. -/
def effective (e : Environment) : Environment where
  url := effectiveText e.url
  token := effectiveText e.token
  userId := effectiveText e.userId
  deviceId := effectiveText e.deviceId
  clientName := effectiveText e.clientName
  timeoutSeconds := effectiveSeconds e.timeoutSeconds

/-- Each variable from the first environment that sets it. -/
def or (e e' : Environment) : Environment where
  url := e.url.or e'.url
  token := e.token.or e'.token
  userId := e.userId.or e'.userId
  deviceId := e.deviceId.or e'.deviceId
  clientName := e.clientName.or e'.clientName
  timeoutSeconds := e.timeoutSeconds.or e'.timeoutSeconds

theorem or_self (e : Environment) : e.or e = e := by
  cases e
  simp [or]

theorem effectiveText_eq_some_iff {v : Option String} {s : String} :
    effectiveText v = some s ↔ Given v s := by
  simp [effectiveText, Given, Option.filter_eq_some_iff]

theorem effectiveSeconds_eq_some_iff {v : Option String} {s : String} :
    effectiveSeconds v = some s ↔
      v = some s ∧ ∃ n : UInt64, WritesSeconds s.toList n.toNat := by
  simp only [effectiveSeconds, Option.filter_eq_some_iff, Option.isSome_iff_exists,
    readSeconds_eq_some_iff]

end Environment

/-- What counts of a text is laid over a setting. -/
theorem overlay_eq_or (v setting : Option String) :
    overlay v setting = (Environment.effectiveText v).or setting := by
  cases v with
  | none => rfl
  | some s => by_cases hs : s = "" <;> simp [overlay, Environment.effectiveText, Option.filter, hs]

theorem textUnder_overlay (v setting : Option String) :
    TextUnder v setting (overlay v setting) := by
  rw [overlay_eq_or]
  cases h : Environment.effectiveText v with
  | some s => exact .said (Environment.effectiveText_eq_some_iff.mp h)
  | none =>
    refine .kept fun s hs => ?_
    rw [← Environment.effectiveText_eq_some_iff, h] at hs
    cases hs

theorem secondsUnder_or (v : Option String) (setting : Option UInt64) :
    SecondsUnder v setting
      ((v.bind fun s => readSeconds s.toList).or setting) := by
  cases hread : v.bind fun s => readSeconds s.toList with
  | some n =>
    obtain ⟨s, rfl, hs⟩ := Option.bind_eq_some_iff.mp hread
    exact .said rfl (readSeconds_eq_some_iff.mp hs)
  | none =>
    refine .kept fun s hs n hn hwrites => ?_
    have hsome : readSeconds s.toList = some (UInt64.ofNat n) := by
      rw [readSeconds_eq_some_iff, UInt64.toNat_ofNat_of_lt' hn]
      exact hwrites
    rw [hs, Option.bind_some, hsome] at hread
    cases hread

/-! ### Variables by their names -/

namespace Environment

theorem variableNames_eq : variableNames =
    ["PMOJELLYFIN_URL", "PMOJELLYFIN_TOKEN", "PMOJELLYFIN_USER_ID", "PMOJELLYFIN_DEVICE_ID",
      "PMOJELLYFIN_CLIENT_NAME", "PMOJELLYFIN_TIMEOUT_SECS"] := by
  decide

/-- Each part of an environment is the variable of its name. -/
theorem ofVariables_eq (lookup : String → Option String) : ofVariables lookup =
    ⟨lookup "PMOJELLYFIN_URL", lookup "PMOJELLYFIN_TOKEN", lookup "PMOJELLYFIN_USER_ID",
      lookup "PMOJELLYFIN_DEVICE_ID", lookup "PMOJELLYFIN_CLIENT_NAME",
      lookup "PMOJELLYFIN_TIMEOUT_SECS"⟩ :=
  rfl

/-- Variables with other names are no part of an environment. -/
theorem ofVariables_restricted (lookup : String → Option String) :
    (ofVariables fun name => if name ∈ variableNames then lookup name else none) =
      ofVariables lookup := by
  simp [ofVariables_eq, variableNames_eq]

/-- The value of a variable if it counts. -/
def effectiveValue (lookup : String → Option String) (name : String) : Option String :=
  if name = "PMOJELLYFIN_TIMEOUT_SECS" then effectiveSeconds (lookup name)
  else effectiveText (lookup name)

/-- Each variable from the later environment if it counts there, and otherwise from the earlier
one. -/
def succeeded (lookup later : String → Option String) (name : String) : Option String :=
  (effectiveValue later name).or (effectiveValue lookup name)

theorem ofVariables_succeeded (lookup later : String → Option String) :
    ofVariables (succeeded lookup later) =
      (ofVariables later).effective.or (ofVariables lookup).effective := by
  simp [ofVariables_eq, succeeded, effectiveValue, effective, or]

end Environment

/-! ### One environment after another -/

theorem filter_or_filter {α : Type} (p : α → Bool) (o o' : Option α) :
    ((o.filter p).or (o'.filter p)).filter p = (o.filter p).or (o'.filter p) := by
  cases h : o.filter p with
  | none => simp
  | some a =>
    obtain ⟨-, ha⟩ := Option.filter_eq_some_iff.mp h
    simp [Option.filter, ha]

theorem overlay_overlay (v v' setting : Option String) :
    overlay v' (overlay v setting) =
      overlay ((Environment.effectiveText v').or (Environment.effectiveText v)) setting := by
  simp only [overlay_eq_or, Environment.effectiveText, filter_or_filter, Option.or_assoc]

theorem overlay_effectiveText (v setting : Option String) :
    overlay (Environment.effectiveText v) setting = overlay v setting := by
  simp only [overlay_eq_or, Environment.effectiveText, Option.filter_filter, Bool.and_self]

theorem bind_effectiveSeconds (v : Option String) :
    ((Environment.effectiveSeconds v).bind fun s => readSeconds s.toList) =
      v.bind fun s => readSeconds s.toList := by
  cases v with
  | none => rfl
  | some s =>
    cases hread : readSeconds s.toList <;>
      simp [Environment.effectiveSeconds, Option.filter, hread]

theorem bind_or_effectiveSeconds (v v' : Option String) :
    (((Environment.effectiveSeconds v').or (Environment.effectiveSeconds v)).bind
      fun s => readSeconds s.toList) =
      (v'.bind fun s => readSeconds s.toList).or (v.bind fun s => readSeconds s.toList) := by
  rw [← bind_effectiveSeconds v', ← bind_effectiveSeconds v]
  cases h : Environment.effectiveSeconds v' with
  | none => simp
  | some s =>
    obtain ⟨-, n, hn⟩ := Environment.effectiveSeconds_eq_some_iff.mp h
    simp [readSeconds_eq_some_iff.mpr hn]

namespace Settings

/-- The settings under an environment are what they should be, one by one. -/
theorem overrides_overriddenBy (c : Settings) (lookup : String → Option String) :
    Overrides lookup c (c.overriddenBy (.ofVariables lookup)) := by
  rw [Environment.ofVariables_eq]
  exact ⟨textUnder_overlay _ c.url, textUnder_overlay _ c.token, textUnder_overlay _ c.userId,
    textUnder_overlay _ c.deviceId, textUnder_overlay _ c.clientName,
    secondsUnder_or _ c.timeoutSeconds⟩

/-- Only what counts of an environment matters. -/
theorem overriddenBy_effective (c : Settings) (e : Environment) :
    c.overriddenBy e.effective = c.overriddenBy e := by
  simp only [overriddenBy, Environment.effective, overlay_effectiveText, bind_effectiveSeconds]

/-- Two environments are one that prefers the later one. -/
theorem overriddenBy_overriddenBy (c : Settings) (e e' : Environment) :
    (c.overriddenBy e).overriddenBy e' = c.overriddenBy (e'.effective.or e.effective) := by
  simp only [overriddenBy, Environment.or, Environment.effective, overlay_overlay,
    bind_or_effectiveSeconds, Option.or_assoc]

/-- An environment has its effect at once. -/
theorem overriddenBy_self (c : Settings) (e : Environment) :
    (c.overriddenBy e).overriddenBy e = c.overriddenBy e := by
  rw [overriddenBy_overriddenBy, Environment.or_self, overriddenBy_effective]

/-- A file that can be read is loaded as its text, under the environment. -/
theorem load_toUTF8 (path text : String) (e : Environment) :
    load path (some text.toUTF8) e = (ofYaml text).map fun c => c.overriddenBy e := by
  have htext : String.fromUTF8? text.toUTF8 = some text := Http.fromUTF8?_eq_some_iff.mpr rfl
  rw [load, Option.bind_some, htext]

/-- **How an environment overrides settings.** Each variable that counts takes the place of the
setting that it is named after, the others leave theirs as they are, and no variable of another name
matters. An environment has no more effect the second time, and of two environments each variable
counts in the later one if it does so there. Settings from a file and settings from nothing are
overridden alike. -/
theorem overriddenBy_laws (c : Settings) (lookup later : String → Option String) :
    Overrides lookup c (c.overriddenBy (.ofVariables lookup)) ∧
      (c.overriddenBy (.ofVariables fun name =>
          if name ∈ Environment.variableNames then lookup name else none)) =
        c.overriddenBy (.ofVariables lookup) ∧
      (c.overriddenBy (.ofVariables lookup)).overriddenBy (.ofVariables lookup) =
        c.overriddenBy (.ofVariables lookup) ∧
      (c.overriddenBy (.ofVariables lookup)).overriddenBy (.ofVariables later) =
        c.overriddenBy (.ofVariables (Environment.succeeded lookup later)) ∧
      (∀ path text, load path (some text.toUTF8) (.ofVariables lookup) =
        (ofYaml text).map fun d => d.overriddenBy (.ofVariables lookup)) ∧
      ofEnvironment (.ofVariables lookup) = empty.overriddenBy (.ofVariables lookup) := by
  refine ⟨overrides_overriddenBy c lookup, ?_, overriddenBy_self c _, ?_,
    fun path text => load_toUTF8 path text _, rfl⟩
  · rw [Environment.ofVariables_restricted]
  · rw [Environment.ofVariables_succeeded, overriddenBy_overriddenBy]

end Settings

end MusicLibrary
