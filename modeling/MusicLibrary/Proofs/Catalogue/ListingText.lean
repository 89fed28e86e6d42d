import MusicLibrary.Proofs.Catalogue.ItemText

/-!
# Listings, item by item

A listing is decoded if and only if each of its elements is an item on its own, and then its items
are these, in their order, whatever number of items it states (`Listing.decode_textOf`).
-/

namespace MusicLibrary.Catalogue

open MusicLibrary.Json (Fills IsText MemberText RecordFormat RecordOf Reader Spaced Value)

/-- Where a listing states the number of its items: nowhere, in front of them or behind them. The
number may be `null`. -/
inductive Count where
  /-- It is not stated. -/
  | absent
  /-- It stands in front of the items. -/
  | before (total : Option UInt32)
  /-- It stands behind the items. -/
  | after (total : Option UInt32)

/-- The number that is stated. -/
def Count.total : Count → Option UInt32
  | absent => none
  | before total => total
  | after total => total

namespace Listing

/-- The members of a listing with the given texts for elements. -/
def membersOf (ts : List (List Char)) : Count → List (String × List Char)
  | .absent => [("Items", Json.writeArray ts)]
  | .before total =>
    [("TotalRecordCount", Json.writeNullable (fun n => Json.writeNat n.toNat) total),
      ("Items", Json.writeArray ts)]
  | .after total => [("Items", Json.writeArray ts),
      ("TotalRecordCount", Json.writeNullable (fun n => Json.writeNat n.toNat) total)]

/-- The text of a listing with the given texts for elements. -/
def textOf (ts : List (List Char)) (count : Count) : String :=
  String.ofList (Json.writeObject (membersOf ts count))

theorem exact_items (opens : ℕ) : (Json.array opens fun n _ => Item.reader n).Exact := by
  cases opens with
  | zero => exact Json.exact_array_zero
  | succ n => exact (RecordFormat.exact_record fun n _ => Item.exact_format n).specified_array.exact

theorem exact_total : (Json.nullable Json.word32).Exact :=
  Json.exact_word32.specified_nullable.exact

theorem exact_format (opens : ℕ) : (format opens).Exact := by
  simp only [RecordFormat.Exact, format, List.forall_mem_cons]
  exact ⟨Json.Member.exact_of (exact_items opens), Json.Member.exact_of exact_total,
    List.forall_mem_nil _⟩

theorem distinct_format (opens : ℕ) : (format opens).Distinct := by
  show ["Items", "TotalRecordCount"].Nodup
  decide

theorem commutes_format (opens : ℕ) : (format opens).Commutes := by
  refine RecordFormat.commutes_of_pairwise ?_
  simp only [format, List.pairwise_cons, List.forall_mem_cons, List.not_mem_nil, false_imp_iff,
    implies_true, List.Pairwise.nil, and_true]
  exact Json.Member.commute_of fun _ _ _ => rfl

/-- The member "TotalRecordCount" sets the number that is stated. -/
theorem sets_total (opens : ℕ) :
    (format opens).Sets "TotalRecordCount" (Json.nullable Json.word32) total := by
  refine RecordFormat.sets_of exact_total rfl (fun _ _ => rfl) ?_
  simp only [format, List.forall_mem_cons, List.not_mem_nil, false_imp_iff, implies_true, and_true]
  exact ⟨fun _ => Json.Member.keeps_of fun _ _ => rfl, fun h => absurd rfl h⟩

/-- An element of a listing is read as it is decoded on its own. -/
theorem takes_item_iff {e : Spaced} (he : Value e.core) {x : Item} :
    (Item.reader 125).Takes e.core x ↔ Item.decode (String.ofList e.text) = .ok x := by
  have hreader : Item.reader 125 = Item.reader Json.openLimit :=
    (Item.reader_eq 122).trans (Item.reader_eq 124).symm
  rw [hreader, Item.decode, String.toList_ofList]
  exact ((Item.specified_reader 126).exact.readAll_text_iff he).symm

theorem takes_items_iff {es : List Spaced} (hes : ∀ e ∈ es, Value e.core) {xs : List Item} :
    (Json.array 126 fun n _ => Item.reader n).Takes (Json.arrayText es) xs ↔
      List.Forall₂ (fun t x => Item.decode (String.ofList t) = .ok x) (es.map Spaced.text) xs := by
  have hitem : (Item.reader 125).Exact := (Item.specified_reader 124).exact
  have hiff : Json.ArrayOf (Item.reader 125) (Json.arrayText es) xs ↔
      List.Forall₂ (fun e x => (Item.reader 125).Takes e.core x) es xs :=
    ⟨Json.ArrayOf.of_arrayText hes, .elements⟩
  rw [hitem.specified_array.takes_iff, hiff, List.forall₂_map_left_iff]
  clear hiff
  induction es generalizing xs with
  | nil => cases xs <;> simp
  | cons e es ih =>
    obtain ⟨he, hes⟩ := List.forall_mem_cons.mp hes
    cases xs with
    | nil => simp
    | cons x xs => simp only [List.forall₂_cons, takes_item_iff he, ih hes]

theorem value_membersOf {es : List Spaced} (hes : ∀ e ∈ es, Value e.core) (count : Count) :
    ∀ m ∈ membersOf (es.map Spaced.text) count, Value m.2 := by
  have hitems : Value (Json.writeArray (es.map Spaced.text)) := .array hes
  cases count with
  | absent => simpa [membersOf] using hitems
  | before total => simpa [membersOf] using ⟨(takes_writeNullableNat total).value, hitems⟩
  | after total => simpa [membersOf] using ⟨hitems, (takes_writeNullableNat total).value⟩

/-- What the text of a listing is decoded to. -/
theorem decode_textOf_iff {es : List Spaced} (hes : ∀ e ∈ es, Value e.core) (count : Count)
    {l : Listing} : decode (textOf (es.map Spaced.text) count) = .ok l ↔
      (Json.array 126 fun n _ => Item.reader n).Takes (Json.arrayText es) l.items ∧
        l.total = count.total := by
  have hspec : (reader Json.openLimit).Specified (RecordOf (format 126)) :=
    (exact_format 126).specified_record
  have hitems : (format 126).member? "Items" = some (.of "Items" .optional
      (Json.array 126 fun n _ => Item.reader n) fun items l => { l with items }) := rfl
  have htotal : (format 126).member? "TotalRecordCount" = some (.of "TotalRecordCount" .optional
      (Json.nullable Json.word32) fun total l => { l with total }) := rfl
  rw [decode, textOf, String.toList_ofList,
    hspec.exact.readAll_value_iff (Json.value_writeObject (value_membersOf hes count)),
    Json.takes_writeObject_iff hspec (value_membersOf hes count)]
  cases count with
  | absent =>
    simp only [membersOf, List.map_cons, List.map_nil, Fills.cons_iff (exact_items 126) hitems,
      Fills.nil_iff]
    constructor
    · rintro ⟨q, ⟨-, xs, hxs, rfl⟩, -, rfl⟩
      exact ⟨hxs, rfl⟩
    · obtain ⟨xs, stated⟩ := l
      rintro ⟨hxs, rfl⟩
      exact ⟨_, ⟨nofun, xs, hxs, rfl⟩, rfl, rfl⟩
  | before total =>
    simp only [membersOf, List.map_cons, List.map_nil, Fills.cons_iff (exact_items 126) hitems,
      Fills.cons_iff exact_total htotal, Fills.nil_iff]
    constructor
    · rintro ⟨q, ⟨-, o, ho, -, xs, hxs, rfl⟩, -, rfl⟩
      exact ⟨hxs, ho.unique (takes_writeNullableNat total)⟩
    · obtain ⟨xs, stated⟩ := l
      rintro ⟨hxs, rfl⟩
      exact ⟨_, ⟨nofun, _, takes_writeNullableNat _, by decide, xs, hxs, rfl⟩, rfl, rfl⟩
  | after total =>
    simp only [membersOf, List.map_cons, List.map_nil, Fills.cons_iff (exact_items 126) hitems,
      Fills.cons_iff exact_total htotal, Fills.nil_iff]
    constructor
    · rintro ⟨q, ⟨-, xs, hxs, -, o, ho, rfl⟩, -, rfl⟩
      exact ⟨hxs, ho.unique (takes_writeNullableNat total)⟩
    · obtain ⟨xs, stated⟩ := l
      rintro ⟨hxs, rfl⟩
      exact ⟨_, ⟨nofun, xs, hxs, by decide, _, takes_writeNullableNat _, rfl⟩, rfl, rfl⟩

/-- Every element of a list is related to something if and only if the list is. -/
theorem exists_forall₂_iff {α β : Type} {R : α → β → Prop} {as : List α} :
    (∃ bs, List.Forall₂ R as bs) ↔ ∀ a ∈ as, ∃ b, R a b := by
  induction as with
  | nil => exact ⟨fun _ => nofun, fun _ => ⟨[], .nil⟩⟩
  | cons a as ih =>
    rw [List.forall_mem_cons, ← ih]
    constructor
    · rintro ⟨_, _ | ⟨ha, has⟩⟩
      exact ⟨⟨_, ha⟩, _, has⟩
    · rintro ⟨⟨b, hb⟩, bs, hbs⟩
      exact ⟨b :: bs, .cons hb hbs⟩

theorem exists_elements {ts : List (List Char)} (hts : ∀ t ∈ ts, IsText t) :
    ∃ es : List Spaced, ts = es.map Spaced.text ∧ ∀ e ∈ es, Value e.core := by
  induction ts with
  | nil => exact ⟨[], rfl, nofun⟩
  | cons t ts ih =>
    obtain ⟨⟨e, he, ht⟩, hrest⟩ := List.forall_mem_cons.mp hts
    obtain ⟨es, rfl, hes⟩ := ih hrest
    subst ht
    exact ⟨e :: es, rfl, List.forall_mem_cons.mpr ⟨he, hes⟩⟩

/-- **A listing is decoded item by item, or not at all.** -/
theorem decode_textOf (ts : List (List Char)) (hts : ∀ t ∈ ts, IsText t) (count : Count) :
    ((∃ l, decode (textOf ts count) = .ok l) ↔
      ∀ t ∈ ts, ∃ x, Item.decode (String.ofList t) = .ok x) ∧
    (∀ l, decode (textOf ts count) = .ok l →
      List.Forall₂ (fun t x => Item.decode (String.ofList t) = .ok x) ts l.items ∧
        l.total = count.total) ∧
    ((∃ t ∈ ts, ∃ e, Item.decode (String.ofList t) = .error e) →
      ∃ e, decode (textOf ts count) = .error e) := by
  obtain ⟨es, rfl, hes⟩ := exists_elements hts
  have hiff : ∀ l, decode (textOf (es.map Spaced.text) count) = .ok l ↔
      List.Forall₂ (fun t x => Item.decode (String.ofList t) = .ok x) (es.map Spaced.text) l.items ∧
        l.total = count.total := fun l => by
    rw [decode_textOf_iff hes count, takes_items_iff hes]
  refine ⟨?_, fun l => (hiff l).mp, ?_⟩
  · rw [← exists_forall₂_iff]
    refine ⟨fun ⟨l, hl⟩ => ⟨l.items, ((hiff l).mp hl).1⟩, fun ⟨xs, hxs⟩ => ⟨⟨xs, count.total⟩, ?_⟩⟩
    exact (hiff _).mpr ⟨hxs, rfl⟩
  · rintro ⟨t, ht, e, he⟩
    cases hl : decode (textOf (es.map Spaced.text) count) with
    | error e => exact ⟨e, rfl⟩
    | ok l =>
      obtain ⟨x, hx⟩ := exists_forall₂_iff.mp ⟨_, ((hiff l).mp hl).1⟩ t ht
      cases he.symm.trans hx

example : textOf [['1'], ['2']] (.after (some 7)) =
    "\x7b\"Items\":[1,2],\"TotalRecordCount\":7\x7d" := rfl

theorem decode_textOf_audio :
    (∃ l, decode (textOf [Item.write { Item.blank with kind := .audio }] (.after (some 7))) =
      .ok l ∧ l.total = some 7) ∧
    ∃ e, decode (textOf [Item.write { Item.blank with kind := .audio }, ['1']] .absent) =
      .error e := by
  have hitem : IsText (Item.write { Item.blank with kind := .audio }) :=
    ⟨.tight _, Json.value_writeObject (Item.value_writtenMembers [] _), (Spaced.text_tight _).symm⟩
  have hone : IsText ['1'] :=
    ⟨.tight _, .numeral (Json.spells_writeNat false 1), (Spaced.text_tight _).symm⟩
  have hcanonical : Item.Canonical { Item.blank with kind := .audio } := ⟨rfl, nofun, nofun⟩
  have hdecode := Item.decode_encodeWith hcanonical (.refl _)
  constructor
  · have h := decode_textOf [Item.write { Item.blank with kind := .audio }]
      (List.forall_mem_singleton.mpr hitem) (.after (some 7))
    obtain ⟨l, hl⟩ := h.1.mpr (List.forall_mem_singleton.mpr ⟨_, hdecode⟩)
    exact ⟨l, hl, (h.2.1 l hl).2⟩
  · have h := decode_textOf [Item.write { Item.blank with kind := .audio }, ['1']]
      (List.forall_mem_cons.mpr ⟨hitem, List.forall_mem_singleton.mpr hone⟩) .absent
    exact h.2.2 ⟨['1'], by simp, _, rfl⟩

end Listing

end MusicLibrary.Catalogue
