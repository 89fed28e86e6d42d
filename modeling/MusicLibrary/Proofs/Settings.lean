import MusicLibrary.Http.Client
import MusicLibrary.Proofs.BaseUrl

/-!
# Settings that make a session

A session needs an address, a token and a user. Settings that lack one of them make none, and the
client that is asked for says which is the first to be missing; all other settings make a session
(`Settings.session_eq_ok_iff`, `Settings.session_eq_error_iff`).

A setting is missing only if it is not there or empty. An address of white space and slashes is
there, but nothing is left of it in the session, whose questions then go to addresses without a
server (`Settings.session_points_at_server_iff`).
-/

namespace MusicLibrary

open Session

namespace Settings

/-! ### Settings that are given -/

/-- The setting is there and not empty. -/
def Given (setting : Option String) (s : String) : Prop := setting = some s ∧ s ≠ ""

/-- The setting is not there, or it is empty. -/
def Missing (setting : Option String) : Prop := ∀ s, ¬ Given setting s

/-- What is said of a setting that is missing. -/
def notConfigured (key : String) : String := "Jellyfin " ++ key ++ " not configured"

theorem given_or_missing (setting : Option String) : (∃ s, Given setting s) ∨ Missing setting := by
  cases setting with
  | none => exact .inr fun s h => by cases h.1
  | some s =>
    by_cases hs : s = ""
    · exact .inr fun t h => h.2 (Option.some.inj h.1 ▸ hs)
    · exact .inl ⟨s, rfl, hs⟩

theorem requiredSetting_of_given {setting : Option String} {s : String} (h : Given setting s)
    (key : String) : requiredSetting setting key = .ok s := by
  obtain ⟨rfl, hs⟩ := h
  exact if_neg (by simpa using hs)

theorem requiredSetting_of_missing {setting : Option String} (h : Missing setting) (key : String) :
    requiredSetting setting key = .error (notConfigured key) := by
  cases setting with
  | none => rfl
  | some s =>
    have hs : s = "" := by
      by_contra hs
      exact h s ⟨rfl, hs⟩
    rw [hs]
    rfl

/-! ### Settings that lack something -/

/-- The first setting that a session needs and that is missing. -/
inductive Lacks (c : Settings) : String → Prop where
  /-- There is no address. -/
  | url : Missing c.url → Lacks c "url"
  /-- There is an address but no token. -/
  | token {url : String} : Given c.url url → Missing c.token → Lacks c "token"
  /-- There are an address and a token but no user. -/
  | userId {url token : String} :
    Given c.url url → Given c.token token → Missing c.userId → Lacks c "user_id"

/-- All that a session needs is given. -/
structure Complete (c : Settings) (url token userId : String) : Prop where
  /-- There is an address. -/
  url : Given c.url url
  /-- There is a token. -/
  token : Given c.token token
  /-- There is a user. -/
  userId : Given c.userId userId

/-- The identifier of the device, `fresh` if the settings give none. -/
def deviceOr (c : Settings) (fresh : String) : String :=
  match c.deviceId with
  | none => fresh
  | some id => if id.isEmpty then fresh else id

variable {c : Settings} {fresh : String}

theorem lacks_or_complete (c : Settings) :
    (∃ key, c.Lacks key) ∨ ∃ url token userId, c.Complete url token userId := by
  obtain ⟨url, hurl⟩ | hurl := given_or_missing c.url
  · obtain ⟨token, htoken⟩ | htoken := given_or_missing c.token
    · obtain ⟨userId, huser⟩ | huser := given_or_missing c.userId
      · exact .inr ⟨url, token, userId, hurl, htoken, huser⟩
      · exact .inl ⟨_, .userId hurl htoken huser⟩
    · exact .inl ⟨_, .token hurl htoken⟩
  · exact .inl ⟨_, .url hurl⟩

theorem Complete.session {url token userId : String} (h : c.Complete url token userId) :
    c.session fresh = .ok (create url token userId (c.deviceOr fresh)) := by
  rw [Settings.session, requiredSetting_of_given h.url, requiredSetting_of_given h.token,
    requiredSetting_of_given h.userId]
  rfl

theorem Lacks.session {key : String} (h : c.Lacks key) :
    c.session fresh = .error (notConfigured key) := by
  cases h with
  | url hurl =>
    rw [Settings.session, requiredSetting_of_missing hurl]
    rfl
  | token hurl htoken =>
    rw [Settings.session, requiredSetting_of_given hurl, requiredSetting_of_missing htoken]
    rfl
  | userId hurl htoken huser =>
    rw [Settings.session, requiredSetting_of_given hurl, requiredSetting_of_given htoken,
      requiredSetting_of_missing huser]
    rfl

theorem session_eq_ok_iff {s : Session} : c.session fresh = .ok s ↔
    ∃ url token userId, c.Complete url token userId ∧
      create url token userId (c.deviceOr fresh) = s := by
  constructor
  · intro h
    obtain ⟨key, hlacks⟩ | ⟨url, token, userId, hcomplete⟩ := lacks_or_complete c
    · rw [hlacks.session] at h
      cases h
    · rw [hcomplete.session] at h
      exact ⟨url, token, userId, hcomplete, Except.ok.inj h⟩
  · rintro ⟨url, token, userId, hcomplete, rfl⟩
    exact hcomplete.session

theorem session_eq_error_iff {message : String} : c.session fresh = .error message ↔
    ∃ key, c.Lacks key ∧ message = notConfigured key := by
  constructor
  · intro h
    obtain ⟨key, hlacks⟩ | ⟨url, token, userId, hcomplete⟩ := lacks_or_complete c
    · rw [hlacks.session] at h
      exact ⟨key, hlacks, (Except.error.inj h).symm⟩
    · rw [hcomplete.session] at h
      cases h
  · rintro ⟨key, hlacks, rfl⟩
    exact hlacks.session

theorem deviceOr_ne_empty (hfresh : fresh ≠ "") : c.deviceOr fresh ≠ "" := by
  unfold deviceOr
  split
  · exact hfresh
  · split
    · exact hfresh
    next hid => simpa using hid

/-! ### Where a session points -/

theorem ofSettings_eq_error_iff {cause : Failure} : Http.Client.ofSettings c fresh = .error cause ↔
    ∃ message, c.session fresh = .error message ∧ cause = .configuration message := by
  unfold Http.Client.ofSettings
  cases hsession : c.session fresh with
  | error message => simp [eq_comm]
  | ok s => simp

/-- **Which settings make a session, and which of these sessions point at a server.** A session has
a token, a user and a device. It points at a server exactly if the address of the settings says more
than white space and slashes. Settings that make none lack an address, a token or a user, and the
failure names the first that is missing. -/
theorem session_points_at_server_iff (c : Settings) (fresh : String) (hfresh : fresh ≠ "") :
    (∀ s, c.session fresh = .ok s →
      s.accessToken ≠ "" ∧ s.userId ≠ "" ∧ s.deviceId ≠ "" ∧
        (s.PointsAtServer ↔ ∃ url, c.url = some url ∧ NamesServer url)) ∧
      ∀ cause, Http.Client.ofSettings c fresh = .error cause ↔
        ∃ key, c.Lacks key ∧ cause = .configuration (notConfigured key) := by
  constructor
  · intro s hsession
    obtain ⟨url, token, userId, hcomplete, rfl⟩ := session_eq_ok_iff.mp hsession
    refine ⟨hcomplete.token.2, hcomplete.userId.2, deviceOr_ne_empty hfresh, ?_⟩
    rw [pointsAtServer_create_iff, hcomplete.url.1]
    simp
  · intro cause
    rw [ofSettings_eq_error_iff]
    constructor
    · rintro ⟨message, hsession, rfl⟩
      obtain ⟨key, hlacks, rfl⟩ := session_eq_error_iff.mp hsession
      exact ⟨key, hlacks, rfl⟩
    · rintro ⟨key, hlacks, rfl⟩
      exact ⟨_, hlacks.session, rfl⟩

/-- Settings whose address has white space around it and slashes at its end. -/
def paddedSettings : Settings :=
  { empty with url := some " http://jellyfin.local// ", token := some "KEY", userId := some "USER" }

theorem session_points_at_server_iff_padded :
    ∃ s, paddedSettings.session "DEVICE" = .ok s ∧ s.deviceId = "DEVICE" ∧ s.PointsAtServer := by
  have hcomplete : paddedSettings.Complete " http://jellyfin.local// " "KEY" "USER" :=
    ⟨⟨rfl, by decide⟩, ⟨rfl, by decide⟩, ⟨rfl, by decide⟩⟩
  obtain ⟨-, -, -, hpoints⟩ := (session_points_at_server_iff paddedSettings "DEVICE" (by decide)).1
    _ hcomplete.session
  have hnames : NamesServer " http://jellyfin.local// " := ⟨'j', by simp, rfl, by decide⟩
  exact ⟨_, hcomplete.session, rfl, hpoints.mpr ⟨_, rfl, hnames⟩⟩

/-- Settings whose address is a slash. -/
def slashSettings : Settings :=
  { empty with url := some "/", token := some "KEY", userId := some "USER" }

/-- A slash for an address makes a session, and its questions go to addresses without a server. -/
theorem not_pointsAtServer_of_slash : ∃ s, slashSettings.session "DEVICE" = .ok s ∧
    ¬ s.PointsAtServer ∧
    (Http.Client.ofSession s).question .folders = ("/Users/USER/Items", []) := by
  have hcomplete : slashSettings.Complete "/" "KEY" "USER" :=
    ⟨⟨rfl, by decide⟩, ⟨rfl, by decide⟩, ⟨rfl, by decide⟩⟩
  refine ⟨_, hcomplete.session, ?_, rfl⟩
  rw [pointsAtServer_create_iff]
  rintro ⟨c, hc, -, hslash⟩
  exact hslash (by simpa using hc)

end Settings

end MusicLibrary
