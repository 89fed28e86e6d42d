import MusicLibrary.Proofs.Catalogue.ItemText
import MusicLibrary.Proofs.Http.Target

/-!
# What a request for items says

A query is put into a request in two steps: what it asks for becomes parameters, the fields with
commas between them, and the parameters become a text with escapes. Both steps can be undone. The
parameters are read back from any request (`Parts.readQuery?_queryText`), and the query from its
parameters, exactly if its kind is one that a name stands for and none of its fields holds a comma
(`ItemQuery.ofParams_params_iff`). So a request for items belongs to one query alone
(`Client.items_request_determines_query`).
-/

namespace MusicLibrary.Catalogue.ItemQuery

open Http (joined mapM_splitOn_joined_iff outside takeWhile_outside_iff)

/-! ### Parameters -/

/-- The fields that a text names, with a comma between any two. -/
def readFields (s : String) : List String := (s.toList.splitOn ',').map String.ofList

/-- The query that parameters describe. -/
def ofParams (ps : List (String × String)) : ItemQuery where
  recursive := ps.contains ("Recursive", "true")
  parent := ps.lookup "ParentId"
  kind := (ps.lookup "IncludeItemTypes").map ItemKind.ofName
  fields := ((ps.lookup "Fields").map readFields).getD []

/-- The parameters of the query leave nothing open. -/
structure Readable (q : ItemQuery) : Prop where
  /-- The kind is the one that its name stands for. -/
  kind : ∀ k ∈ q.kind, k.Canonical
  /-- No field holds the comma that parts fields. -/
  fields : ∀ field ∈ q.fields, ',' ∉ field.toList

theorem readFields_intercalate_iff {fields : List String} (hne : fields ≠ []) :
    readFields (",".intercalate fields) = fields ↔ ∀ field ∈ fields, ',' ∉ field.toList := by
  have hread : ∀ field : String,
      some (String.ofList (field.toList.takeWhile (outside [',']))) = some field ↔
        ',' ∉ field.toList := by
    intro field
    rw [Option.some_inj, ← String.toList_inj, String.toList_ofList, takeWhile_outside_iff,
      List.disjoint_singleton]
  have hpieces : (((joined ',' (fields.map String.toList)).takeWhile (outside [])).splitOn ',').mapM
      (fun s => some (String.ofList s)) = some fields ↔ ∀ field ∈ fields, ',' ∉ field.toList :=
    mapM_splitOn_joined_iff List.not_mem_nil hread (fun _ h => List.disjoint_singleton.mpr h) hne
  have hjoined : (joined ',' (fields.map String.toList)).takeWhile (outside []) =
      (",".intercalate fields).toList := by
    rw [takeWhile_outside_iff.mpr (List.disjoint_nil_right _), String.toList_intercalate]
    rfl
  have hmap : ((",".intercalate fields).toList.splitOn ',').mapM
      (fun s => some (String.ofList s)) = some (readFields (",".intercalate fields)) :=
    List.mapM_pure
  rw [← hpieces, hjoined, hmap, Option.some_inj]

theorem ofParams_params (q : ItemQuery) :
    ofParams q.params = { q with
      kind := q.kind.map fun k => ItemKind.ofName k.name
      fields := if q.fields = [] then [] else readFields (",".intercalate q.fields) } := by
  obtain ⟨recursive, parent, kind, fields⟩ := q
  cases recursive <;> cases parent <;> cases kind <;> cases fields <;>
    simp [params, ofParams, List.lookup]

/-- A query is read back from its parameters exactly if they leave nothing open. -/
theorem ofParams_params_iff {q : ItemQuery} : ofParams q.params = q ↔ q.Readable := by
  have hkind : (q.kind.map fun k => ItemKind.ofName k.name) = q.kind ↔
      ∀ k ∈ q.kind, k.Canonical := by
    cases q.kind with
    | none => simp
    | some k => simp [ItemKind.Canonical]
  have hfields : (if q.fields = [] then [] else readFields (",".intercalate q.fields)) = q.fields ↔
      ∀ field ∈ q.fields, ',' ∉ field.toList := by
    split_ifs with hempty
    · simp [hempty]
    · exact readFields_intercalate_iff hempty
  rw [ofParams_params]
  constructor
  · intro h
    exact ⟨hkind.mp (congrArg ItemQuery.kind h), hfields.mp (congrArg ItemQuery.fields h)⟩
  · intro h
    rw [hkind.mpr h.kind, hfields.mpr h.fields]

end MusicLibrary.Catalogue.ItemQuery

namespace MusicLibrary.Http

open Catalogue (ItemQuery)
open PercentEncoding

/-! ### The text of parameters -/

/-- What is encoded holds nothing that parts parameters or ends a query. -/
theorem disjoint_encode_query (s : List Char) :
    (encode keptInQuery s).Disjoint ['&', '=', '#', '+', ',', ' '] := by
  refine (escaped_encode keptInQuery s).disjoint ?_
  simp [keptInQuery, keptInSegment, isUpperHex]

theorem not_mem_encode_query {c : Char} (hc : c ∈ ['&', '=', '#', '+', ',', ' ']) (s : List Char) :
    c ∉ encode keptInQuery s := fun hmem => disjoint_encode_query s hmem hc

theorem ampersand_not_mem_encodePair (p : String × String) : '&' ∉ encodePair p := by
  simp [encodePair, not_mem_encode_query]

theorem encodePairs_eq_joined (pairs : List (String × String)) :
    encodePairs pairs = joined '&' (pairs.map encodePair) := by
  fun_induction encodePairs pairs with
  | case1 => rfl
  | case2 p => rw [List.map_singleton, joined_singleton]
  | case3 p q ps ih => rw [List.map_cons, List.map_cons, joined_cons_cons, ih, List.map_cons]

/-- A parameter is read back from its text. -/
theorem readParameter?_encodePair (p : String × String) :
    readParameter? (encodePair p) = some p := by
  have hname : (encode keptInQuery p.1.toList).Disjoint ['='] :=
    List.disjoint_singleton.mpr (not_mem_encode_query (by simp) _)
  rw [readParameter?_eq_some_iff, encodePair, takeWhile_outside_append hname,
    dropWhile_outside_append hname]
  constructor
  · rw [List.takeWhile_cons_of_neg (by simp [outside]), List.append_nil]
    exact decode?_encode rfl p.1
  · exact decode?_encode rfl p.2

theorem toList_queryText {pairs : List (String × String)} (h : pairs ≠ []) :
    (queryText pairs).toList = '?' :: encodePairs pairs := by
  simp [queryText, h]

/-- **Parameters are read back from the text of a query.** -/
theorem Parts.readQuery?_queryText (pairs : List (String × String)) :
    readQuery? (queryText pairs).toList = some pairs := by
  by_cases hempty : pairs = []
  · rw [hempty]
    rfl
  have hout : ∀ p : String × String, (encodePair p).Disjoint ['&'] :=
    fun p => List.disjoint_singleton.mpr (ampersand_not_mem_encodePair p)
  have hread : ∀ p : String × String,
      readParameter? ((encodePair p).takeWhile (outside ['&'])) = some p ↔ True := by
    intro p
    rw [takeWhile_outside_iff.mpr (hout p), iff_true]
    exact readParameter?_encodePair p
  have hpairs : (((joined '&' (pairs.map encodePair)).takeWhile (outside [])).splitOn '&').mapM
      readParameter? = some pairs ↔ ∀ p ∈ pairs, True :=
    mapM_splitOn_joined_iff List.not_mem_nil hread (fun p _ => hout p) hempty
  rw [takeWhile_outside_iff.mpr (List.disjoint_nil_right _), ← encodePairs_eq_joined] at hpairs
  rw [toList_queryText hempty]
  exact hpairs.mpr fun _ _ => trivial

/-! ### Requests for items -/

/-- The text of the parameters is the part of a target from the question mark on. -/
theorem Client.dropWhile_target {c : Client} (h : c.session.PathOnly) {query : ItemQuery}
    {q : Request} (hq : c.request (.items query) = .ok q) :
    q.target.toList.dropWhile (outside ['?']) = (queryText query.params).toList := by
  obtain ⟨q₀, hfolders, rfl⟩ := (request_items_eq_ok_iff h).mp hq
  have hpath : q₀.target.toList.Disjoint ['?'] :=
    List.disjoint_singleton.mpr (question_mark_not_mem_folders h hfolders)
  rw [String.toList_append, dropWhile_outside_append hpath]
  by_cases hempty : query.params = []
  · rw [hempty]
    rfl
  · rw [toList_queryText hempty]
    exact List.dropWhile_cons_of_neg (by simp [outside])

/-- **A request for items determines its query.** Any query is sent if the folders can be asked
for; its parameters are read from the target, and the query from its parameters exactly if these
leave nothing open. So two such queries with the same target are the same. -/
theorem Client.items_request_determines_query {c : Client} (h : c.session.PathOnly) :
    (∀ query, (∃ q, c.request (.items query) = .ok q) ↔ ∃ q, c.request .folders = .ok q) ∧
    (∀ query q, c.request (.items query) = .ok q →
      Parts.readQuery? (q.target.toList.dropWhile (outside ['?'])) = some query.params) ∧
    (∀ query : ItemQuery, ItemQuery.ofParams query.params = query ↔ query.Readable) ∧
    ∀ (query query' : ItemQuery) (q q' : Request), query.Readable → query'.Readable →
      c.request (.items query) = .ok q → c.request (.items query') = .ok q' →
      q.target = q'.target → query = query' := by
  have hparams : ∀ query q, c.request (.items query) = .ok q →
      Parts.readQuery? (q.target.toList.dropWhile (outside ['?'])) = some query.params := by
    intro query q hq
    rw [dropWhile_target h hq]
    exact Parts.readQuery?_queryText query.params
  refine ⟨fun query => ⟨?_, ?_⟩, hparams, fun query => ItemQuery.ofParams_params_iff, ?_⟩
  · rintro ⟨q, hq⟩
    obtain ⟨q₀, hfolders, -⟩ := (request_items_eq_ok_iff h).mp hq
    exact ⟨q₀, hfolders⟩
  · rintro ⟨q₀, hfolders⟩
    exact ⟨_, (request_items_eq_ok_iff h).mpr ⟨q₀, hfolders, rfl⟩⟩
  · intro query query' q q' hreadable hreadable' hq hq' htarget
    have hsame := hparams query q hq
    rw [htarget, hparams query' q' hq', Option.some_inj] at hsame
    rw [← ItemQuery.ofParams_params_iff.mpr hreadable, ← hsame,
      ItemQuery.ofParams_params_iff.mpr hreadable']

/-! ### A query full of delimiters -/

open Browsing (sampleSession)

/-- A query whose parent looks like parameters, for items without a kind, with an empty field. -/
def oddQuery : ItemQuery := ⟨false, some "a&b=c%d", some (.other ""), ["", "x+y"]⟩

theorem readable_oddQuery : oddQuery.Readable where
  kind := by
    rintro k ⟨⟩
    rfl
  fields := by simp [oddQuery]

theorem readable_of_fields {q : ItemQuery} (hkind : q.kind = none)
    (hfields : ∀ field ∈ q.fields, field = "") : q.Readable where
  kind := by simp [hkind]
  fields := by
    intro field hfield
    rw [hfields field hfield]
    exact List.not_mem_nil

/-- Delimiters in a parent and an empty field are read back, and a query for no field is not asked
as one for the field with the empty name. -/
theorem items_request_determines_query_odd :
    sampleSession.PathOnly ∧
    (∃ q, (Client.ofSession sampleSession).request (.items oddQuery) = .ok q ∧
      Parts.readQuery? (q.target.toList.dropWhile (outside ['?'])) =
        some [("ParentId", "a&b=c%d"), ("IncludeItemTypes", ""), ("Fields", ",x+y")] ∧
      ItemQuery.ofParams [("ParentId", "a&b=c%d"), ("IncludeItemTypes", ""), ("Fields", ",x+y")] =
        oddQuery) ∧
    ∃ q q', (Client.ofSession sampleSession).request (.items ⟨false, none, none, []⟩) = .ok q ∧
      (Client.ofSession sampleSession).request (.items ⟨false, none, none, [""]⟩) = .ok q' ∧
      q.target ≠ q'.target := by
  obtain ⟨hsent, hread, hback, hdetermined⟩ :=
    Client.items_request_determines_query (c := Client.ofSession sampleSession)
      pathOnly_sampleSession
  obtain ⟨q, hq⟩ := (hsent oddQuery).mpr ⟨_, request_folders⟩
  obtain ⟨q₁, hq₁⟩ := (hsent ⟨false, none, none, []⟩).mpr ⟨_, request_folders⟩
  obtain ⟨q₂, hq₂⟩ := (hsent ⟨false, none, none, [""]⟩).mpr ⟨_, request_folders⟩
  have hparams : oddQuery.params =
      [("ParentId", "a&b=c%d"), ("IncludeItemTypes", ""), ("Fields", ",x+y")] := rfl
  refine ⟨pathOnly_sampleSession, ⟨q, hq, ?_, ?_⟩, q₁, q₂, hq₁, hq₂, fun htarget => ?_⟩
  · rw [hread oddQuery q hq, hparams]
  · rw [← hparams]
    exact (hback oddQuery).mpr readable_oddQuery
  · have hsame := hdetermined _ _ q₁ q₂ (readable_of_fields rfl (by simp))
      (readable_of_fields rfl (by simp)) hq₁ hq₂ htarget
    cases hsame

end MusicLibrary.Http
