import MusicLibrary.Proofs.Http.Parts
import MusicLibrary.Proofs.Media.Address

/-!
# What the authorization header says

Behind a word that names the scheme, the header is a list of fields, each a key and a value in
quotes. A value ends at the next quote, whatever else it holds, so the fields come out of the header
as they were put into it if and only if none of the values holds a quote
(`readFields?_fieldsText_iff`). The values that vary from client to client are its name, the
identifier of its device and its token: commas, equals signs and the keys of the other fields may
stand in them.
-/

namespace MusicLibrary.Http

/-! ### Fields -/

/-- A field: the key, and the value behind it in quotes. -/
def fieldText (field : String × String) : List Char :=
  field.1.toList ++ '=' :: '"' :: (field.2.toList ++ ['"'])

/-- Fields with a comma and a blank between any two. -/
def fieldsText (fields : List (String × String)) : List Char :=
  [',', ' '].intercalate (fields.map fieldText)

/-- The first field of a text, and what follows it. Blanks before the key are skipped, the key ends
at the next equals sign, and the value at the next quote. -/
def readField? (s : List Char) : Option ((String × String) × List Char) :=
  let s := s.dropWhile (· == ' ')
  match s.dropWhile (outside ['=']) with
  | '=' :: '"' :: rest =>
    match rest.dropWhile (outside ['"']) with
    | '"' :: more =>
      some ((String.ofList (s.takeWhile (outside ['='])),
        String.ofList (rest.takeWhile (outside ['"']))), more)
    | _ => none
  | _ => none

theorem length_lt_of_readField? {s more : List Char} {field : String × String}
    (h : readField? s = some (field, more)) : more.length < s.length := by
  have hblanks := (List.dropWhile_suffix (· == ' ') (l := s)).length_le
  unfold readField? at h
  generalize s.dropWhile (· == ' ') = t at h hblanks
  have hkey := (List.dropWhile_suffix (outside ['=']) (l := t)).length_le
  dsimp only at h
  split at h
  · next rest hrest =>
    have hvalue := (List.dropWhile_suffix (outside ['"']) (l := rest)).length_le
    split at h
    · next more' hmore =>
      obtain ⟨-, rfl⟩ := Prod.mk.inj (Option.some.inj h)
      simp only [hrest, hmore, List.length_cons] at hkey hvalue
      omega
    · cases h
  · cases h

/-- The fields that make up a text, with commas between them. -/
def readFields? (s : List Char) : Option (List (String × String)) :=
  match h : readField? s with
  | some (field, []) => some [field]
  | some (field, ',' :: more) =>
    have := length_lt_of_readField? h
    (readFields? more).map (field :: ·)
  | _ => none
termination_by s.length
decreasing_by
  simp only [List.length_cons] at this
  omega

theorem readFields?_eq (s : List Char) : readFields? s =
    match readField? s with
    | some (field, []) => some [field]
    | some (field, ',' :: more) => (readFields? more).map (field :: ·)
    | _ => none := by
  rw [readFields?]
  split <;> simp_all

/-- The value of a field that has been read holds no quote. -/
theorem quote_not_mem_of_readField? {s more : List Char} {field : String × String}
    (h : readField? s = some (field, more)) : '"' ∉ field.2.toList := by
  unfold readField? at h
  dsimp only at h
  split at h
  · split at h
    · obtain ⟨rfl, -⟩ := Prod.mk.inj (Option.some.inj h)
      intro hquote
      rw [String.toList_ofList] at hquote
      exact outside_iff.mp (List.mem_takeWhile_imp hquote) (List.mem_singleton_self _)
    · cases h
  · cases h

theorem quote_not_mem_of_readFields? {s : List Char} {fields : List (String × String)}
    (h : readFields? s = some fields) : ∀ field ∈ fields, '"' ∉ field.2.toList := by
  fun_induction readFields? s generalizing fields with
  | case1 s field hfield =>
    obtain rfl := Option.some.inj h
    rw [List.forall_mem_singleton]
    exact quote_not_mem_of_readField? hfield
  | case2 s field more hfield hlength ih =>
    obtain ⟨rest, hrest, rfl⟩ := Option.map_eq_some_iff.mp h
    rw [List.forall_mem_cons]
    exact ⟨quote_not_mem_of_readField? hfield, ih hrest⟩
  | case3 => cases h

/-- The text is one that a key can be read from: it does not start with a blank, and it holds no
equals sign. -/
structure Key (s : String) : Prop where
  /-- It does not start with a blank. -/
  head_ne : s.toList.head? ≠ some ' '
  /-- It holds no equals sign. -/
  equals_not_mem : '=' ∉ s.toList

/-- A character that a text does not hold parts it from what follows. -/
theorem span_outside_append_cons {c : Char} {s : List Char} (h : c ∉ s) (t : List Char) :
    (s ++ c :: t).takeWhile (outside [c]) = s ∧ (s ++ c :: t).dropWhile (outside [c]) = c :: t := by
  have hdisjoint := List.disjoint_singleton.mpr h
  have hstop : outside [c] c = false := by simp [outside]
  constructor
  · rw [takeWhile_outside_append_cons (List.mem_singleton_self c),
      takeWhile_outside_iff.mpr hdisjoint]
  · rw [dropWhile_outside_append hdisjoint, List.dropWhile_cons_of_neg (by simp [hstop])]

theorem readField?_fieldText {field : String × String} (hkey : Key field.1)
    (hvalue : '"' ∉ field.2.toList) (more : List Char) :
    readField? (fieldText field ++ more) = some (field, more) := by
  have htext : fieldText field ++ more =
      field.1.toList ++ '=' :: '"' :: (field.2.toList ++ '"' :: more) := by
    simp [fieldText]
  have hblanks : ∀ t, (field.1.toList ++ '=' :: t).dropWhile (· == ' ') =
      field.1.toList ++ '=' :: t := by
    intro t
    have hhead := hkey.head_ne
    cases hchars : field.1.toList with
    | nil => rfl
    | cons c chars => simp_all
  obtain ⟨htakeKey, hdropKey⟩ := span_outside_append_cons hkey.equals_not_mem
    ('"' :: (field.2.toList ++ '"' :: more))
  obtain ⟨htakeValue, hdropValue⟩ := span_outside_append_cons hvalue more
  simp only [readField?, hblanks, htext, htakeKey, hdropKey, htakeValue, hdropValue,
    String.ofList_toList]

theorem readFields?_cons_blank (s : List Char) : readFields? (' ' :: s) = readFields? s := by
  have hfield : readField? (' ' :: s) = readField? s := by simp [readField?]
  rw [readFields?_eq, hfield, ← readFields?_eq]

/-- Fields are read back if no value holds a quote. -/
theorem readFields?_fieldsText {fields : List (String × String)} (hne : fields ≠ [])
    (hkeys : ∀ field ∈ fields, Key field.1) (hvalues : ∀ field ∈ fields, '"' ∉ field.2.toList) :
    readFields? (fieldsText fields) = some fields := by
  induction fields with
  | nil => exact absurd rfl hne
  | cons field fields ih =>
    obtain ⟨hkey, hkeys⟩ := List.forall_mem_cons.mp hkeys
    obtain ⟨hvalue, hvalues⟩ := List.forall_mem_cons.mp hvalues
    have hfield := readField?_fieldText hkey hvalue
    cases fields with
    | nil =>
      have hlast := hfield []
      rw [List.append_nil] at hlast
      rw [fieldsText, List.map_singleton, List.intercalate_singleton, readFields?_eq, hlast]
    | cons next fields =>
      have htext : fieldsText (field :: next :: fields) =
          fieldText field ++ ',' :: ' ' :: fieldsText (next :: fields) := by
        simp [fieldsText]
      rw [htext, readFields?_eq, hfield]
      simp only [readFields?_cons_blank, ih (List.cons_ne_nil _ _) hkeys hvalues, Option.map_some]

/-- **Fields are read back if and only if no value holds a quote.** -/
theorem readFields?_fieldsText_iff {fields : List (String × String)} (hne : fields ≠ [])
    (hkeys : ∀ field ∈ fields, Key field.1) :
    readFields? (fieldsText fields) = some fields ↔ ∀ field ∈ fields, '"' ∉ field.2.toList :=
  ⟨quote_not_mem_of_readFields?, readFields?_fieldsText hne hkeys⟩

/-! ### The header of a client -/

/-- What the header starts with. -/
def authorizationScheme : String := "MediaBrowser "

/-- The fields that an authorization header holds, if it is one. -/
def readAuthorization? (header : String) : Option (List (String × String)) :=
  (Media.Address.dropStart? authorizationScheme.toList header.toList).bind readFields?

namespace Client

/-- What a client says of itself: its name, its device and version, and its token. -/
def announcement (session : Session) (name : String) : List (String × String) :=
  [("Client", name), ("Device", "PMOMusic"), ("DeviceId", session.deviceId), ("Version", "0.1.0"),
    ("Token", session.accessToken)]

/-- What a client says of itself holds no quotes. -/
structure Quotable (session : Session) (name : String) : Prop where
  /-- There is none in the name. -/
  name : '"' ∉ name.toList
  /-- There is none in the identifier of the device. -/
  deviceId : '"' ∉ session.deviceId.toList
  /-- There is none in the token. -/
  token : '"' ∉ session.accessToken.toList

theorem toList_authorizationFor (session : Session) (name : String) :
    (authorizationFor session name).toList =
      authorizationScheme.toList ++ fieldsText (announcement session name) := by
  have hclient : "MediaBrowser Client=\"".toList =
      authorizationScheme.toList ++ ("Client".toList ++ ['=', '"']) := rfl
  have hdevice : "\", Device=\"".toList =
      '"' :: ',' :: ' ' :: ("Device".toList ++ ['=', '"']) := rfl
  have hdeviceId : "\", DeviceId=\"".toList =
      '"' :: ',' :: ' ' :: ("DeviceId".toList ++ ['=', '"']) := rfl
  have hversion : "\", Version=\"".toList =
      '"' :: ',' :: ' ' :: ("Version".toList ++ ['=', '"']) := rfl
  have htoken : "\", Token=\"".toList =
      '"' :: ',' :: ' ' :: ("Token".toList ++ ['=', '"']) := rfl
  have hend : "\"".toList = ['"'] := rfl
  have hfixed : deviceName = "PMOMusic" ∧ version = "0.1.0" := ⟨rfl, rfl⟩
  unfold authorizationFor
  simp only [String.toList_append]
  rw [hclient, hdevice, hdeviceId, hversion, htoken, hend, hfixed.1, hfixed.2]
  simp only [fieldsText, announcement, fieldText, List.map_cons, List.map_nil,
    List.intercalate_cons_cons, List.intercalate_singleton, List.append_assoc, List.cons_append,
    List.nil_append]

theorem key_of_mem_announcement {session : Session} {name : String} {field : String × String}
    (h : field ∈ announcement session name) : Key field.1 := by
  have hkeys : ∀ key ∈ ["Client", "Device", "DeviceId", "Version", "Token"],
      key.toList.head? ≠ some ' ' ∧ '=' ∉ key.toList := by
    decide
  obtain ⟨hhead, hequals⟩ := hkeys field.1 (List.mem_map_of_mem (f := Prod.fst) h)
  exact ⟨hhead, hequals⟩

theorem quotable_iff {session : Session} {name : String} : Quotable session name ↔
    ∀ field ∈ announcement session name, '"' ∉ field.2.toList := by
  have hdevice : '"' ∉ "PMOMusic".toList := by decide
  have hversion : '"' ∉ "0.1.0".toList := by decide
  simp only [announcement, List.forall_mem_cons]
  constructor
  · rintro ⟨hname, hid, htoken⟩
    exact ⟨hname, hdevice, hid, hversion, htoken, List.forall_mem_nil _⟩
  · rintro ⟨hname, -, hid, -, htoken, -⟩
    exact ⟨hname, hid, htoken⟩

theorem readAuthorization?_iff (session : Session) (name : String) :
    readAuthorization? (authorizationFor session name) = some (announcement session name) ↔
      Quotable session name := by
  have hread : readAuthorization? (authorizationFor session name) =
      readFields? (fieldsText (announcement session name)) := by
    rw [readAuthorization?, toList_authorizationFor,
      Media.Address.dropStart?_eq_some_iff.mpr rfl, Option.bind_some]
  rw [hread, quotable_iff]
  exact readFields?_fieldsText_iff (List.cons_ne_nil _ _) fun _ => key_of_mem_announcement

/-- **The authorization header is unambiguous**: the fields of a client's header are its name, its
device and version, and its token, if and only if none of what may vary holds a quote. So clients
with the same header have the same name, the same device and the same token. -/
theorem authorization_unambiguous :
    (∀ session name timeout,
      readAuthorization? (create session name timeout).authorization =
        some (announcement session name) ↔ Quotable session name) ∧
    ∀ session session' name name' timeout timeout',
      Quotable session name → Quotable session' name' →
      (create session name timeout).authorization =
        (create session' name' timeout').authorization →
      name = name' ∧ session.deviceId = session'.deviceId ∧
        session.accessToken = session'.accessToken := by
  refine ⟨fun session name _ => readAuthorization?_iff session name, ?_⟩
  intro session session' name name' timeout timeout' h h' hsame
  have hread := (readAuthorization?_iff session name).mpr h
  have hread' := (readAuthorization?_iff session' name').mpr h'
  have hheader : authorizationFor session name = authorizationFor session' name' := hsame
  rw [hheader, hread'] at hread
  simpa [announcement, eq_comm] using hread

/-- The header of a client says what the client says, though the name, the device and the token
hold what stands between the fields; and it says nothing of the server and the user. -/
theorem authorization_unambiguous_separators :
    Quotable ⟨"http://jf:8096/", "=, Token=t", "u", "d, Version=2"⟩ "Living, Device=room" ∧
    readAuthorization? (create ⟨"http://jf:8096/", "=, Token=t", "u", "d, Version=2"⟩
        "Living, Device=room" 30).authorization =
      some [("Client", "Living, Device=room"), ("Device", "PMOMusic"), ("DeviceId", "d, Version=2"),
        ("Version", "0.1.0"), ("Token", "=, Token=t")] ∧
    ∀ session name timeout, Quotable session name →
      (create session name timeout).authorization =
        (create ⟨"http://jf:8096/", "=, Token=t", "u", "d, Version=2"⟩ "Living, Device=room"
          30).authorization →
      session.accessToken = "=, Token=t" := by
  obtain ⟨hread, hsame⟩ := authorization_unambiguous
  have hquotable :
      Quotable ⟨"http://jf:8096/", "=, Token=t", "u", "d, Version=2"⟩ "Living, Device=room" :=
    ⟨by decide, by decide, by decide⟩
  refine ⟨hquotable, (hread _ _ _).mpr hquotable, fun session name timeout h heq => ?_⟩
  exact (hsame _ _ _ _ _ _ h hquotable heq).2.2

/-- Quotes make a header ambiguous: what is the end of the one client's token stands in the
identifier of the other client's device. -/
example :
    authorizationFor ⟨"/", "b\", Version=\"0.1.0\", Token=\"c", "u", "a"⟩ "n" =
      authorizationFor ⟨"/", "c", "u", "a\", Version=\"0.1.0\", Token=\"b"⟩ "n" := by
  decide

end Client

end MusicLibrary.Http
