import MusicLibrary.Json.Lexeme
import MusicLibrary.Proofs.Http.Reading
import Mathlib

/-!
# What an address says

Behind a base an address names segments of a path and parameters of a query, with delimiters between
them and with some characters written as escapes. Texts that are put into an address as they are
come out of it again if and only if none of them holds a delimiter of its place or what is taken for
an escape (`Parts.read?_write_eq_some_iff`): a text loses bytes where it is cut and where an escape
in it is undone, and nothing gives them back.
-/

namespace MusicLibrary.PercentEncoding

open Json (hexValue?)

/-! ### Percent-decoding -/

/-- The bytes of a text in UTF-8. -/
def utf8 (s : List Char) : List UInt8 := s.flatMap String.utf8EncodeChar

/-- The byte that three characters are the escape of. -/
def escaped? (c a b : Char) : Option UInt8 :=
  if c = '%' then (hexValue? a).bind fun m => (hexValue? b).map fun n => UInt8.ofNat (16 * m + n)
  else none

/-- The bytes that a text stands for: an escape is one byte, and any other character is its own. -/
def decodeBytes : List Char → List UInt8
  | c :: a :: b :: s =>
    match escaped? c a b with
    | some byte => byte :: decodeBytes s
    | none => String.utf8EncodeChar c ++ decodeBytes (a :: b :: s)
  | s => utf8 s

/-- The text with its escapes undone, if that leaves a text. -/
def decode? (s : List Char) : Option String := String.fromUTF8? (decodeBytes s).toByteArray

/-- There is no escape in the text. -/
def Unescaped (s : List Char) : Prop := ∀ c a b, [c, a, b] <:+: s → escaped? c a b = none

theorem length_utf8_lt_cons (c : Char) (s : List Char) :
    (utf8 s).length < (utf8 (c :: s)).length := by
  have h := List.length_pos_of_ne_nil (String.utf8EncodeChar_ne_nil (c := c))
  simp only [utf8, List.flatMap_cons, List.length_append]
  omega

theorem unescaped_of_not_mem {s : List Char} (h : '%' ∉ s) : Unescaped s := by
  intro c a b hwithin
  refine if_neg ?_
  rintro rfl
  exact h (hwithin.subset (List.mem_cons_self ..))

theorem unescaped_cons_iff {c a b : Char} {s : List Char} :
    Unescaped (c :: a :: b :: s) ↔ escaped? c a b = none ∧ Unescaped (a :: b :: s) := by
  constructor
  · exact fun h => ⟨h c a b ⟨[], s, rfl⟩, fun c' a' b' hin => h _ _ _ (List.infix_cons hin)⟩
  · rintro ⟨h, hs⟩ c' a' b' hin
    rcases List.infix_cons_iff.mp hin with hpre | hin
    · obtain ⟨t, ht⟩ := hpre
      simp only [List.cons_append, List.nil_append, List.cons.injEq] at ht
      obtain ⟨rfl, rfl, rfl, -⟩ := ht
      exact h
    · exact hs _ _ _ hin

theorem length_decodeBytes_le (s : List Char) : (decodeBytes s).length ≤ (utf8 s).length := by
  fun_induction decodeBytes s with
  | case1 c a b s byte _ ih =>
    have hc := length_utf8_lt_cons c (a :: b :: s)
    have ha := length_utf8_lt_cons a (b :: s)
    have hb := length_utf8_lt_cons b s
    simp only [List.length_cons]
    omega
  | case2 c a b s _ ih =>
    rw [utf8, List.flatMap_cons, List.length_append, List.length_append]
    exact Nat.add_le_add_left ih _
  | case3 s _ => exact Nat.le_refl _

theorem decodeBytes_eq_utf8_iff {s : List Char} : decodeBytes s = utf8 s ↔ Unescaped s := by
  fun_induction decodeBytes s with
  | case1 c a b s byte hbyte ih =>
    rw [unescaped_cons_iff, hbyte]
    refine ⟨fun h => ?_, fun h => by cases h.1⟩
    -- Undoing an escape loses two bytes.
    have hlength := congrArg List.length h
    have hs := length_decodeBytes_le s
    have hc := length_utf8_lt_cons c (a :: b :: s)
    have ha := length_utf8_lt_cons a (b :: s)
    have hb := length_utf8_lt_cons b s
    simp only [List.length_cons] at hlength
    omega
  | case2 c a b s hnone ih =>
    rw [unescaped_cons_iff, ← ih, utf8, List.flatMap_cons, List.append_cancel_left_eq]
    exact ⟨fun h => ⟨hnone, h⟩, fun h => h.2⟩
  | case3 s hshort =>
    refine ⟨fun _ c a b hwithin => ?_, fun _ => rfl⟩
    obtain ⟨t, u, rfl⟩ := hwithin
    cases t with
    | nil => exact absurd rfl (hshort _ _ _ _)
    | cons d t =>
      rcases t with _ | ⟨e, _ | ⟨f, t⟩⟩ <;> exact absurd rfl (hshort _ _ _ _)

theorem decode?_eq_some_iff {s : List Char} {t : String} :
    decode? s = some t ↔ decodeBytes s = utf8 t.toList := by
  have htext : t.toUTF8 = (utf8 t.toList).toByteArray := String.utf8Encode_toList.symm
  rw [decode?, Http.fromUTF8?_eq_some_iff, htext]
  refine ⟨fun h => ?_, congrArg _⟩
  rw [← List.toList_data_toByteArray (l := decodeBytes s), h, List.toList_data_toByteArray]

theorem decode?_toList_iff {t : String} : decode? t.toList = some t ↔ Unescaped t.toList :=
  decode?_eq_some_iff.trans decodeBytes_eq_utf8_iff

/-- Of the beginnings of a text only the whole text can decode to it. -/
theorem eq_of_decode?_of_prefix {r : List Char} {t : String} (hr : r <+: t.toList)
    (h : decode? r = some t) : r = t.toList := by
  obtain ⟨lost, hlost⟩ := hr
  have hle := length_decodeBytes_le r
  rw [decode?_eq_some_iff.mp h, ← hlost, utf8, List.flatMap_append, List.length_append] at hle
  cases lost with
  | nil => rw [← hlost, List.append_nil]
  | cons c lost =>
    have hc := length_utf8_lt_cons c lost
    simp only [utf8] at hc hle
    omega

end MusicLibrary.PercentEncoding

namespace MusicLibrary.Http

open PercentEncoding (Unescaped decode? decode?_toList_iff eq_of_decode?_of_prefix)

/-! ### Texts that stand for themselves -/

/-- The character is none of the delimiters. -/
def outside (delimiters : List Char) (c : Char) : Bool := !delimiters.contains c

/-- A text without delimiters and escapes. -/
structure Plain (delimiters : List Char) (s : String) : Prop where
  /-- No character is a delimiter. -/
  disjoint : s.toList.Disjoint delimiters
  /-- There is no escape. -/
  unescaped : Unescaped s.toList

section Outside

variable {ds s : List Char}

theorem outside_iff {c : Char} : outside ds c = true ↔ c ∉ ds := by
  simp [outside]

theorem forall_outside_iff : (∀ c ∈ s, outside ds c = true) ↔ s.Disjoint ds := by
  simp only [outside_iff]
  exact Iff.rfl

theorem takeWhile_outside_iff : s.takeWhile (outside ds) = s ↔ s.Disjoint ds := by
  rw [List.takeWhile_eq_self_iff, forall_outside_iff]

theorem takeWhile_outside_append (h : s.Disjoint ds) (t : List Char) :
    (s ++ t).takeWhile (outside ds) = s ++ t.takeWhile (outside ds) :=
  List.takeWhile_append_of_pos (forall_outside_iff.mpr h)

theorem dropWhile_outside_append (h : s.Disjoint ds) (t : List Char) :
    (s ++ t).dropWhile (outside ds) = t.dropWhile (outside ds) :=
  List.dropWhile_append_of_pos (forall_outside_iff.mpr h)

theorem takeWhile_outside_append_cons {d : Char} (hd : d ∈ ds) (s t : List Char) :
    (s ++ d :: t).takeWhile (outside ds) = s.takeWhile (outside ds) := by
  have hstop : (d :: t).takeWhile (outside ds) = [] :=
    List.takeWhile_cons_of_neg (by simpa [outside_iff] using hd)
  rw [List.takeWhile_append, hstop, List.append_nil]
  split_ifs with hlength
  · exact ((List.takeWhile_prefix _).eq_of_length hlength).symm
  · rfl

theorem takeWhile_takeWhile_outside (ds es s : List Char) :
    (s.takeWhile (outside ds)).takeWhile (outside es) = s.takeWhile (outside (es ++ ds)) := by
  rw [List.takeWhile_takeWhile]
  congr 1
  funext c
  simp [outside]

/-- A text is read back up to the first delimiter if and only if it is plain. -/
theorem decode?_takeWhile_iff {t : String} :
    decode? (t.toList.takeWhile (outside ds)) = some t ↔ Plain ds t := by
  constructor
  · intro h
    have hwhole := eq_of_decode?_of_prefix (List.takeWhile_prefix _) h
    exact ⟨takeWhile_outside_iff.mp hwhole, decode?_toList_iff.mp (hwhole ▸ h)⟩
  · intro h
    rw [takeWhile_outside_iff.mpr h.disjoint]
    exact decode?_toList_iff.mpr h.unescaped

end Outside

/-! ### Pieces with delimiters between them -/

/-- The pieces with a delimiter between any two. -/
def joined (sep : Char) (pieces : List (List Char)) : List Char := [sep].intercalate pieces

theorem joined_singleton (sep : Char) (x : List Char) : joined sep [x] = x :=
  List.intercalate_singleton

theorem joined_cons_cons (sep : Char) (x y : List Char) (pieces : List (List Char)) :
    joined sep (x :: y :: pieces) = x ++ sep :: joined sep (y :: pieces) := by
  rw [joined, List.intercalate_cons_cons, List.append_assoc]
  rfl

theorem disjoint_joined {sep : Char} {ds : List Char} (hsep : sep ∉ ds) {pieces : List (List Char)}
    (h : ∀ piece ∈ pieces, piece.Disjoint ds) : (joined sep pieces).Disjoint ds := by
  induction pieces with
  | nil => exact List.disjoint_nil_left ds
  | cons x pieces ih =>
    obtain ⟨hx, hpieces⟩ := List.forall_mem_cons.mp h
    cases pieces with
    | nil => rwa [joined_singleton]
    | cons y pieces =>
      rw [joined_cons_cons, List.disjoint_append_left, List.disjoint_cons_left]
      exact ⟨hx, hsep, ih hpieces⟩

theorem splitOn_eq_cons (sep : Char) (s : List Char) :
    ∃ rest, s.splitOn sep = s.takeWhile (outside [sep]) :: rest := by
  by_cases h : sep ∈ s
  · obtain ⟨x, y, rfl, hx⟩ := List.eq_append_cons_of_mem h
    refine ⟨y.splitOn sep, ?_⟩
    rw [List.splitOn_append_cons_self_of_not_mem hx,
      takeWhile_outside_append_cons (List.mem_singleton_self sep),
      takeWhile_outside_iff.mpr (List.disjoint_singleton.mpr hx)]
  · refine ⟨[], ?_⟩
    rw [List.splitOn_eq_singleton h, takeWhile_outside_iff.mpr (List.disjoint_singleton.mpr h)]

section Joined

variable {α : Type} {sep : Char} {ds : List Char} {read : List Char → Option α}
  {write : α → List Char} {Good : α → Prop}

theorem mapM_cons_eq_some_iff {s : List Char} {rest : List (List Char)} {x : α} {xs : List α} :
    (s :: rest).mapM read = some (x :: xs) ↔ read s = some x ∧ rest.mapM read = some xs := by
  rw [List.mapM_cons]
  constructor
  · intro h
    obtain ⟨y, hy, h⟩ := Option.bind_eq_some_iff.mp h
    obtain ⟨ys, hys, h⟩ := Option.bind_eq_some_iff.mp h
    obtain ⟨rfl, rfl⟩ := List.cons.inj (Option.some.inj h)
    exact ⟨hy, hys⟩
  · rintro ⟨hx, hxs⟩
    rw [hx, hxs]
    rfl

theorem read_head_of_mapM {s : List Char} {x : α} {xs : List α}
    (h : ((s.takeWhile (outside ds)).splitOn sep).mapM read = some (x :: xs)) :
    read (s.takeWhile (outside (sep :: ds))) = some x := by
  obtain ⟨rest, hsplit⟩ := splitOn_eq_cons sep (s.takeWhile (outside ds))
  rw [hsplit, takeWhile_takeWhile_outside] at h
  exact (mapM_cons_eq_some_iff.mp h).1

/-- Pieces of which the good ones, and only they, are read back up to the first delimiter are read
back from a joined text if and only if all of them are good. -/
theorem mapM_splitOn_joined_iff (hsep : sep ∉ ds)
    (hread : ∀ x, read ((write x).takeWhile (outside (sep :: ds))) = some x ↔ Good x)
    (hwrite : ∀ x, Good x → (write x).Disjoint (sep :: ds)) {xs : List α} (hne : xs ≠ []) :
    (((joined sep (xs.map write)).takeWhile (outside ds)).splitOn sep).mapM read = some xs ↔
      ∀ x ∈ xs, Good x := by
  induction xs with
  | nil => exact absurd rfl hne
  | cons x xs ih =>
    rw [List.forall_mem_cons]
    by_cases hx : Good x
    · obtain ⟨hnot, hout⟩ := List.disjoint_cons_right.mp (hwrite x hx)
      have hback : read (write x) = some x := by
        rw [← (hread x).mpr hx, takeWhile_outside_iff.mpr (hwrite x hx)]
      cases xs with
      | nil =>
        rw [List.map_singleton, joined_singleton, takeWhile_outside_iff.mpr hout,
          List.splitOn_eq_singleton hnot, mapM_cons_eq_some_iff]
        exact iff_of_true ⟨hback, rfl⟩ ⟨hx, List.forall_mem_nil _⟩
      | cons y ys =>
        rw [List.map_cons, List.map_cons, joined_cons_cons, takeWhile_outside_append hout,
          List.takeWhile_cons_of_pos (outside_iff.mpr hsep),
          List.splitOn_append_cons_self_of_not_mem hnot, mapM_cons_eq_some_iff, ← List.map_cons,
          ih (List.cons_ne_nil y ys)]
        exact and_congr_left' (iff_of_true hback hx)
    -- The first piece is not read back, whatever comes behind it.
    · refine iff_of_false (fun h => hx ?_) fun h => hx h.1
      have hhead := read_head_of_mapM h
      cases xs with
      | nil =>
        rw [List.map_singleton, joined_singleton] at hhead
        exact (hread x).mp hhead
      | cons y ys =>
        rw [List.map_cons, List.map_cons, joined_cons_cons,
          takeWhile_outside_append_cons (List.mem_cons_self ..)] at hhead
        exact (hread x).mp hhead

end Joined

/-! ### Parameters -/

/-- A parameter as it is put into a query. -/
def writeParameter (p : String × String) : List Char := p.1.toList ++ '=' :: p.2.toList

/-- The parameter that a piece of a query stands for. The first `=` ends its name. -/
def readParameter? (s : List Char) : Option (String × String) := do
  let name ← decode? (s.takeWhile (outside ['=']))
  let value ← decode? ((s.dropWhile (outside ['='])).drop 1)
  return (name, value)

/-- The name and the value of a parameter are plain. -/
def PlainParameter (ds : List Char) (p : String × String) : Prop :=
  Plain ('=' :: ds) p.1 ∧ Plain ds p.2

section Parameter

variable {ds s : List Char} {p : String × String}

theorem PlainParameter.disjoint (h : PlainParameter ds p) (hds : '=' ∉ ds) :
    (writeParameter p).Disjoint ds := by
  rw [writeParameter, List.disjoint_append_left, List.disjoint_cons_left]
  exact ⟨(List.disjoint_cons_right.mp h.1.disjoint).2, hds, h.2.disjoint⟩

theorem readParameter?_eq_some_iff :
    readParameter? s = some p ↔ decode? (s.takeWhile (outside ['='])) = some p.1 ∧
      decode? ((s.dropWhile (outside ['='])).drop 1) = some p.2 := by
  constructor
  · intro h
    obtain ⟨name, hname, h⟩ := Option.bind_eq_some_iff.mp h
    obtain ⟨value, hvalue, h⟩ := Option.bind_eq_some_iff.mp h
    obtain rfl := Option.some.inj h
    exact ⟨hname, hvalue⟩
  · rintro ⟨hname, hvalue⟩
    rw [readParameter?, hname, hvalue]
    rfl

/-- A parameter is read back up to the first delimiter if and only if it is plain. -/
theorem readParameter?_takeWhile_iff (hds : '=' ∉ ds) :
    readParameter? ((writeParameter p).takeWhile (outside ds)) = some p ↔ PlainParameter ds p := by
  have hname : ((writeParameter p).takeWhile (outside ds)).takeWhile (outside ['=']) =
      p.1.toList.takeWhile (outside ('=' :: ds)) := by
    rw [takeWhile_takeWhile_outside]
    exact takeWhile_outside_append_cons (List.mem_cons_self ..) _ _
  have hvalue : Plain ('=' :: ds) p.1 →
      (((writeParameter p).takeWhile (outside ds)).dropWhile (outside ['='])).drop 1 =
        p.2.toList.takeWhile (outside ds) := by
    intro h
    obtain ⟨hequals, hout⟩ := List.disjoint_cons_right.mp h.disjoint
    rw [writeParameter, takeWhile_outside_append hout,
      List.takeWhile_cons_of_pos (outside_iff.mpr hds),
      dropWhile_outside_append (List.disjoint_singleton.mpr hequals)]
    rfl
  rw [readParameter?_eq_some_iff, hname, decode?_takeWhile_iff]
  exact and_congr_right fun h => by rw [hvalue h, decode?_takeWhile_iff]

end Parameter

/-! ### Addresses -/

/-- What an address says behind its base. -/
structure Parts where
  /-- The segments of the path. -/
  segments : List String
  /-- The parameters of the query, with their names. -/
  parameters : List (String × String)
  deriving DecidableEq, Repr

namespace Parts

/-- The path that is made of the segments as they are. -/
def path (p : Parts) : List Char := joined '/' (p.segments.map String.toList)

/-- The query that is made of the parameters as they are. -/
def query (p : Parts) : List Char := joined '&' (p.parameters.map writeParameter)

/-- The address that is made of the parts as they are. -/
def write (base : String) (p : Parts) : String :=
  String.ofList (base.toList ++ (p.path ++ '?' :: p.query))

/-- The parameters in the part of an address from the question mark on. -/
def readQuery? : List Char → Option (List (String × String))
  | [] => some []
  | _ :: query => (query.splitOn '&').mapM readParameter?

/-- What an address says behind a base. The first `#` ends it, and the first `?` before that starts
its query. -/
def read? (base address : String) : Option Parts := do
  let sent := address.toList.takeWhile (outside ['#'])
  let path ← base.toList.isPrefixOf? (sent.takeWhile (outside ['?']))
  let segments ← (path.splitOn '/').mapM decode?
  let parameters ← readQuery? (sent.dropWhile (outside ['?']))
  return ⟨segments, parameters⟩

variable {base : String} {p : Parts}

theorem read?_eq_some_iff {address : String} :
    read? base address = some p ↔
      ∃ path, base.toList ++ path = address.toList.takeWhile (outside ['?', '#']) ∧
        (path.splitOn '/').mapM decode? = some p.segments ∧
        readQuery? ((address.toList.takeWhile (outside ['#'])).dropWhile (outside ['?'])) =
          some p.parameters := by
  constructor
  · intro h
    obtain ⟨path, hpath, h⟩ := Option.bind_eq_some_iff.mp h
    obtain ⟨segments, hsegments, h⟩ := Option.bind_eq_some_iff.mp h
    obtain ⟨parameters, hparameters, h⟩ := Option.bind_eq_some_iff.mp h
    obtain rfl := Option.some.inj h
    rw [List.isPrefixOf?_eq_some_iff_append_eq, takeWhile_takeWhile_outside] at hpath
    exact ⟨path, hpath, hsegments, hparameters⟩
  · rintro ⟨path, hpath, hsegments, hparameters⟩
    have hpath : base.toList.isPrefixOf?
        ((address.toList.takeWhile (outside ['#'])).takeWhile (outside ['?'])) = some path := by
      rwa [List.isPrefixOf?_eq_some_iff_append_eq, takeWhile_takeWhile_outside]
    exact Option.bind_eq_some_iff.mpr ⟨path, hpath, Option.bind_eq_some_iff.mpr
      ⟨_, hsegments, Option.bind_eq_some_iff.mpr ⟨_, hparameters, rfl⟩⟩⟩

section Base

variable (hbase : base.toList.Disjoint ['?', '#'])
include hbase

theorem takeWhile_write : (p.write base).toList.takeWhile (outside ['?', '#']) =
    base.toList ++ p.path.takeWhile (outside ['?', '#']) := by
  rw [write, String.toList_ofList, takeWhile_outside_append hbase,
    takeWhile_outside_append_cons (List.mem_cons_self ..)]

/-- In an address that is made of plain segments the query is found where it was put. -/
theorem dropWhile_write (hsegments : ∀ s ∈ p.segments, Plain ['/', '?', '#'] s) :
    ((p.write base).toList.takeWhile (outside ['#'])).dropWhile (outside ['?']) =
      '?' :: p.query.takeWhile (outside ['#']) := by
  have hpath : p.path.Disjoint ['?', '#'] := by
    apply disjoint_joined (by decide)
    intro piece hpiece
    obtain ⟨s, hs, rfl⟩ := List.mem_map.mp hpiece
    exact (List.disjoint_cons_right.mp (hsegments s hs).disjoint).2
  have hwhole : (base.toList ++ p.path).Disjoint ['?', '#'] :=
    List.disjoint_append_left.mpr ⟨hbase, hpath⟩
  obtain ⟨hquestion, hhash⟩ := List.disjoint_cons_right.mp hwhole
  rw [write, String.toList_ofList, ← List.append_assoc, takeWhile_outside_append hhash,
    List.takeWhile_cons_of_pos rfl,
    dropWhile_outside_append (List.disjoint_singleton.mpr hquestion)]
  rfl

/-- **The parts of an address are read back** if and only if each of them is plain where it
stands. -/
theorem read?_write_eq_some_iff (hsegments : p.segments ≠ []) (hparameters : p.parameters ≠ []) :
    read? base (p.write base) = some p ↔
      (∀ s ∈ p.segments, Plain ['/', '?', '#'] s) ∧
      ∀ q ∈ p.parameters, PlainParameter ['&', '#'] q := by
  have hpath : ((p.path.takeWhile (outside ['?', '#'])).splitOn '/').mapM decode? =
      some p.segments ↔ ∀ s ∈ p.segments, Plain ['/', '?', '#'] s := by
    refine mapM_splitOn_joined_iff (by decide) ?_ ?_ hsegments
    · exact fun s => decode?_takeWhile_iff
    · exact fun s h => h.disjoint
  have hquery : ((p.query.takeWhile (outside ['#'])).splitOn '&').mapM readParameter? =
      some p.parameters ↔ ∀ q ∈ p.parameters, PlainParameter ['&', '#'] q := by
    refine mapM_splitOn_joined_iff (by decide) ?_ ?_ hparameters
    · exact fun q => readParameter?_takeWhile_iff (by decide)
    · exact fun q h => h.disjoint (by decide)
  simp only [read?_eq_some_iff, takeWhile_write hbase, List.append_cancel_left_eq, exists_eq_left,
    hpath]
  apply and_congr_right
  intro h
  rw [dropWhile_write hbase h, readQuery?, hquery]

end Base

end Parts

end MusicLibrary.Http
