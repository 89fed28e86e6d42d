import MusicLibrary.Proofs.Yaml.Word

/-!
# Mappings written line by line

Lines that each give a word for a key and a word for a value are one mapping. A line takes three
steps: the key is read as a scalar, the colon behind it shows that it is a key, and the value is read
up to the end of the line (`Layout.run_key`, `Layout.run_colon`, `Layout.run_value`). The first key
opens the mapping. A word of more than 1024 characters is not remembered as a possible key until its
colon comes, so that a line with such a key spoils the text (`tokens_lines`). Values are not limited.
-/

namespace MusicLibrary.Yaml

/-! ### One step of the reading -/

namespace Layout

variable {l t next : Layout} {c : Char} {s r k v : List Char} {tokens : List Token} {indent : ℤ}
variable {outer : List ℤ} {line column : ℕ}

theorem run_of_atToken (hat : l.atToken = none) : l.run = none := by
  rw [run, hat]

theorem run_of_takeToken (hat : l.atToken = some t) (hrest : t.place.rest = c :: s)
    (htake : t.takeToken c s = some next)
    (hlt : next.place.rest.length < l.place.rest.length) : l.run = next.run := by
  rw [run, hat]
  simp only [hrest, htake, if_pos hlt]

theorem run_of_takeToken_eq_none (hat : l.atToken = some t) (hrest : t.place.rest = c :: s)
    (htake : t.takeToken c s = none) : l.run = none := by
  rw [run, hat]
  simp only [hrest, htake]

theorem run_of_end (hat : l.atToken = some t) (hrest : t.place.rest = []) :
    l.run = t.finish.map fun e => e.tokens.reverse := by
  rw [run, hat]
  simp only [hrest]

/-- A plain scalar is read where a word starts. -/
theorem takeToken_of_isPlainChar (hc : isPlainChar c = true) (l : Layout) (s : List Char) :
    l.takeToken c s = l.takePlain := by
  have hne : ∀ d, isPlainChar d = false → c ≠ d := fun d => ne_of_isPlainChar hc
  have hrange := toNat_of_isPlainChar hc
  have hquote : c.toNat ≠ 39 := by omega
  simp [takeToken, atDocumentMark_of_isPlainChar hc, startsPlain, isIndicator_of_isPlainChar hc,
    hquote, hne '%' (by decide), hne '[' (by decide), hne '{' (by decide), hne ']' (by decide),
    hne '}' (by decide), hne ',' (by decide), hne '-' (by decide), hne '?' (by decide),
    hne ':' (by decide), hne '*' (by decide), hne '&' (by decide), hne '!' (by decide),
    hne '|' (by decide), hne '>' (by decide), hne '"' (by decide)]

/-- The reading outside of flow collections. -/
def reached (tokens : List Token) (indent : ℤ) (outer : List ℤ) (keyAllowed : Bool)
    (key : Option PossibleKey) (line column : ℕ) (rest : List Char) : Layout :=
  ⟨⟨rest, line, column⟩, tokens, indent, outer, keyAllowed, key, []⟩

theorem closeBlocks_of_le {column : ℤ} (h : indent ≤ column) :
    closeBlocks column tokens indent outer = (tokens, indent, outer) := by
  cases outer with
  | nil => rfl
  | cons i outer => rw [closeBlocks, if_neg (Int.not_lt.mpr h)]

variable {keyAllowed keyAllowed' : Bool} {key key' : Option PossibleKey} {line' column' : ℕ}

theorem advance_reached
    (hnext : nextPlace false keyAllowed false line column r = (⟨s, line', column'⟩, keyAllowed')) :
    (reached tokens indent outer keyAllowed key line column r).advance =
      reached tokens indent outer keyAllowed' key line' column' s := by
  rw [advance]
  simp only [reached, inFlow, List.isEmpty_nil, Bool.not_true, hnext]

/-- Between tokens no block ends if the next one is not further out. -/
theorem atToken_reached
    (hnext : nextPlace false keyAllowed false line column r = (⟨s, line', column'⟩, keyAllowed'))
    (hkey : expire line' (byteCount s) key = some key') (hindent : indent ≤ column') :
    (reached tokens indent outer keyAllowed key line column r).atToken =
      some (reached tokens indent outer keyAllowed' key' line' column' s) := by
  have hexpire : (reached tokens indent outer keyAllowed' key line' column' s).expireKeys =
      some (reached tokens indent outer keyAllowed' key' line' column' s) := by
    simp [expireKeys, reached, hkey]
  rw [atToken, advance_reached hnext, hexpire, Option.map_some, unindentTo]
  simp [reached, inFlow, closeBlocks_of_le hindent]

theorem atToken_reached_of_expire
    (hnext : nextPlace false keyAllowed false line column r = (⟨s, line', column'⟩, keyAllowed'))
    (hkey : expire line' (byteCount s) key = none) :
    (reached tokens indent outer keyAllowed key line column r).atToken = none := by
  rw [atToken, advance_reached hnext]
  simp [expireKeys, reached, hkey]

/-- One token is read, and the reading goes on behind it. -/
theorem run_reached
    (hnext : nextPlace false keyAllowed false line column r =
      (⟨c :: s, line', column'⟩, keyAllowed'))
    (hkey : expire line' (byteCount (c :: s)) key = some key') (hindent : indent ≤ column')
    (htake : (reached tokens indent outer keyAllowed' key' line' column' (c :: s)).takeToken c s =
      some next)
    (hlt : next.place.rest.length < r.length) :
    (reached tokens indent outer keyAllowed key line column r).run = next.run :=
  run_of_takeToken (atToken_reached hnext hkey hindent) rfl htake hlt

theorem run_reached_eq_none
    (hnext : nextPlace false keyAllowed false line column r =
      (⟨c :: s, line', column'⟩, keyAllowed'))
    (hkey : expire line' (byteCount (c :: s)) key = some key') (hindent : indent ≤ column')
    (htake : (reached tokens indent outer keyAllowed' key' line' column' (c :: s)).takeToken c s =
      none) :
    (reached tokens indent outer keyAllowed key line column r).run = none :=
  run_of_takeToken_eq_none (atToken_reached hnext hkey hindent) rfl htake

/-- A mapping on the first column ends with the text. -/
theorem run_reached_nil (tokens : List Token) (line : ℕ) :
    (reached tokens 0 [-1] true none line 0 []).run =
      some (tokens.reverse ++ [.blockEnd, .streamEnd]) := by
  have hnext : nextPlace false true false line 0 [] = (⟨[], line, 0⟩, true) := rfl
  rw [run_of_end (atToken_reached hnext rfl (Int.natCast_nonneg 0)) rfl]
  simp [finish, reached, unindentTo, inFlow, closeBlocks, dropKey, push]

theorem nextPlace_of_isPlainChar (hc : isPlainChar c = true) :
    nextPlace false keyAllowed false line column (c :: s) =
      (⟨c :: s, line, column⟩, keyAllowed) := by
  have hspace := ne_of_isPlainChar hc (d := ' ') (by decide)
  have htab := ne_of_isPlainChar hc (d := '\t') (by decide)
  have hhash := ne_of_isPlainChar hc (d := '#') (by decide)
  have hrange := toNat_of_isPlainChar hc
  have hmark : isByteOrderMark c = false := beq_eq_false_iff_ne.mpr (by omega)
  simp [nextPlace, isBreak_of_isPlainChar hc, hspace, htab, hhash, hmark]

theorem nextPlace_colon :
    nextPlace false keyAllowed false line column (':' :: s) =
      (⟨':' :: s, line, column⟩, keyAllowed) := by
  simp [nextPlace, isBreak, isByteOrderMark]

theorem nextPlace_space (hc : isPlainChar c = true) :
    nextPlace false keyAllowed false line column (' ' :: c :: s) =
      (⟨c :: s, line, column + 1⟩, keyAllowed) := by
  have hstep : nextPlace false keyAllowed false line column (' ' :: c :: s) =
      nextPlace false keyAllowed false line (column + 1) (c :: s) := by
    simp [nextPlace, isBreak]
  rw [hstep, nextPlace_of_isPlainChar hc]

/-! ### A line -/

/-- A word is read as a scalar, which may turn out to be a key where a key is allowed. -/
theorem takeToken_reached {e : PlainEnd} (hc : isPlainChar c = true)
    (hplain : plain false (indent + 1).toNat ⟨c :: s, line, column⟩ = some e) :
    (reached tokens indent outer keyAllowed none line column (c :: s)).takeToken c s =
      some ⟨e.place, .scalar .plain e.text :: tokens, indent, outer, e.lineEnded,
        if keyAllowed then
          some ⟨indent == column, tokens.length, byteCount (c :: s), line, column⟩
        else none, []⟩ := by
  rw [takeToken_of_isPlainChar hc]
  cases keyAllowed <;> simp [takePlain, saveKey, dropKey, reached, inFlow, push, hplain]

/-- A word in front of a colon is read, and may turn out to be a key. -/
theorem run_key (hk : IsWord k) (hindent : indent ≤ 0) (r : List Char) :
    (reached tokens indent outer true none line 0 (k ++ ':' :: ' ' :: r)).run =
      (reached (.scalar .plain k :: tokens) indent outer false
        (some ⟨indent == 0, tokens.length, byteCount (k ++ ':' :: ' ' :: r), line, 0⟩) line k.length
        (':' :: ' ' :: r)).run := by
  have hplain : plain false (indent + 1).toNat ⟨k ++ ':' :: ' ' :: r, line, 0⟩ =
      some ⟨k, ⟨':' :: ' ' :: r, line, k.length⟩, false⟩ := by
    rw [plain, plainFrom_append hk.chars, plainFrom_colon]
    simp
  obtain ⟨c, k', rfl⟩ := List.exists_cons_of_ne_nil hk.ne_nil
  have hc : isPlainChar c = true := hk.chars c List.mem_cons_self
  exact run_reached (nextPlace_of_isPlainChar hc) rfl hindent (takeToken_reached hc hplain)
    (by simp [reached])

/-- A colon with a blank behind it is that of a value. -/
theorem takeToken_colon (l : Layout) (s : List Char) :
    l.takeToken ':' (' ' :: s) = l.takeValue := by
  simp [takeToken, atDocumentMark, startsWithSpace, isSpace, isBlank]

/-- A key that has been found opens a mapping, unless one is open there. -/
theorem takeValue_reached (hindent : indent ≤ 0) {required : Bool} {n : ℕ} :
    (reached (.scalar .plain k :: tokens) indent outer false
        (some ⟨required, tokens.length, n, line, 0⟩) line column (c :: s)).takeValue =
      some (reached (.value :: .scalar .plain k :: .key ::
        (if indent = 0 then tokens else .blockMappingStart :: tokens)) 0
        (if indent = 0 then outer else indent :: outer) false none line (column + 1) s) := by
  by_cases h : indent = 0
  · simp [takeValue, reached, insertAt, indentTo, inFlow, take, push, Place.skip, h]
  · have hlt : ¬ 0 ≤ indent := by omega
    have htwo : tokens.length + 1 + 1 - tokens.length = 2 := by omega
    simp [takeValue, reached, insertAt, indentTo, inFlow, take, push, Place.skip, h, hlt, htwo]

/-- A word of more than 1024 characters is no key any more when its end is reached. -/
theorem expire_word (hk : ∀ c ∈ k, isPlainChar c = true) (s : List Char) (line column : ℕ)
    (required : Bool) (position : ℕ) :
    expire line (byteCount s) (some ⟨required, position, byteCount (k ++ s), line, column⟩) =
      if k.length ≤ 1024 then some (some ⟨required, position, byteCount (k ++ s), line, column⟩)
      else if required then none else some none := by
  have hcount : byteCount (k ++ s) - byteCount s = k.length := by
    rw [byteCount_append_of_isPlainChar hk, Nat.add_sub_cancel]
  by_cases hlength : k.length ≤ 1024
  · simp [expire, hcount, hlength, Nat.not_lt.mpr hlength]
  · simp [expire, hcount, hlength, Nat.not_le.mp hlength]

/-- The colon behind a word makes it a key, if it is not too long. -/
theorem run_colon (hk : IsWord k) (hindent : indent ≤ 0) (r : List Char) :
    (reached (.scalar .plain k :: tokens) indent outer false
        (some ⟨indent == 0, tokens.length, byteCount (k ++ ':' :: ' ' :: r), line, 0⟩) line k.length
        (':' :: ' ' :: r)).run =
      if k.length ≤ 1024 then
        (reached (.value :: .scalar .plain k :: .key ::
          (if indent = 0 then tokens else .blockMappingStart :: tokens)) 0
          (if indent = 0 then outer else indent :: outer) false none line (k.length + 1)
            (' ' :: r)).run
      else none := by
  have hcolumn : indent ≤ (k.length : ℤ) := by omega
  have hexpire := expire_word hk.chars (':' :: ' ' :: r) line 0 (indent == 0) tokens.length
  by_cases hlength : k.length ≤ 1024
  · rw [if_pos hlength] at hexpire ⊢
    exact run_reached nextPlace_colon hexpire hcolumn
      ((takeToken_colon _ _).trans (takeValue_reached hindent)) (by simp [reached])
  · rw [if_neg hlength] at hexpire ⊢
    by_cases h : indent = 0
    · rw [h] at hexpire
      exact run_of_atToken (atToken_reached_of_expire nextPlace_colon (by rwa [h]))
    · -- the word is no key, and nothing else can stand in front of the colon
      rw [beq_false_of_ne h] at hexpire
      refine run_reached_eq_none nextPlace_colon (by rw [beq_false_of_ne h]; exact hexpire) hcolumn
        ((takeToken_colon _ _).trans ?_)
      simp [takeValue, reached, inFlow]

/-- The word behind a colon is read up to the end of the line. -/
theorem run_value (hv : IsWord v) (hr : AtWord r) :
    (reached tokens 0 outer false none line column (' ' :: (v ++ '\n' :: r))).run =
      (reached (.scalar .plain v :: tokens) 0 outer true none (line + 1) 0 r).run := by
  have hplain : plain false ((0 : ℤ) + 1).toNat ⟨v ++ '\n' :: r, line, column + 1⟩ =
      some ⟨v, ⟨r, line + 1, 0⟩, true⟩ := by
    rw [plain, plainFrom_append hv.chars, Int.zero_add, Int.toNat_one, plainFrom_newline hr]
    simp
  obtain ⟨c, v', rfl⟩ := List.exists_cons_of_ne_nil hv.ne_nil
  have hc : isPlainChar c = true := hv.chars c List.mem_cons_self
  refine run_reached (nextPlace_space hc) rfl (by omega) (takeToken_reached hc hplain) ?_
  simp [reached]
  omega

end Layout

/-! ### Lines one after another -/

/-- A line that gives a key a value. -/
structure Line where
  /-- The key. -/
  key : String
  /-- The value. -/
  value : String
  deriving DecidableEq

namespace Line

/-- The line as it is written. -/
def text (l : Line) : String := l.key ++ ": " ++ l.value ++ "\n"

/-- The line as a list of characters, as it is read. -/
def chars (l : Line) : List Char := l.key.toList ++ ':' :: ' ' :: (l.value.toList ++ ['\n'])

/-- The tokens of the line. -/
def tokens (l : Line) : List Token :=
  [.key, .scalar .plain l.key.toList, .value, .scalar .plain l.value.toList]

/-- Key and value are words. -/
structure Plain (l : Line) : Prop where
  /-- The key. -/
  key : IsWord l.key.toList
  /-- The value. -/
  value : IsWord l.value.toList

/-- The key is not too long to be one. -/
def Short (l : Line) : Prop := l.key.length ≤ 1024

instance (l : Line) : Decidable l.Short := inferInstanceAs (Decidable (l.key.length ≤ 1024))

theorem toList_text (l : Line) : l.text.toList = l.chars := by
  simp [text, chars]

end Line

/-- The lines one after another. -/
def document (ls : List Line) : String := String.join (ls.map Line.text)

variable {l : Line} {ls : List Line} {r : List Char} {line : ℕ}

theorem toList_document (ls : List Line) : (document ls).toList = ls.flatMap Line.chars := by
  simp [document, String.toList_join, List.flatMap, Function.comp_def, Line.toList_text]

theorem atWord_flatMap (hls : ∀ l ∈ ls, l.Plain) : AtWord (ls.flatMap Line.chars) := by
  cases ls with
  | nil => nofun
  | cons l ls =>
    have hkey := (hls l List.mem_cons_self).key
    obtain ⟨c, k, hk⟩ := List.exists_cons_of_ne_nil hkey.ne_nil
    intro d hd
    rw [List.flatMap_cons, Line.chars, hk] at hd
    obtain rfl := Option.some.inj hd
    exact hkey.chars c (by rw [hk]; exact List.mem_cons_self)

namespace Layout

variable {tokens : List Token} {indent : ℤ} {outer : List ℤ}

/-- A line is read as its tokens, with a mapping opened in front of the first one. -/
theorem run_line (hl : l.Plain) (hindent : indent ≤ 0) (hr : AtWord r) :
    (reached tokens indent outer true none line 0 (l.chars ++ r)).run =
      if l.Short then
        (reached (l.tokens.reverse ++
          (if indent = 0 then tokens else .blockMappingStart :: tokens)) 0
          (if indent = 0 then outer else indent :: outer) true none (line + 1) 0 r).run
      else none := by
  have hchars : l.chars ++ r = l.key.toList ++ ':' :: ' ' :: (l.value.toList ++ '\n' :: r) := by
    simp [Line.chars]
  rw [hchars, run_key hl.key hindent, run_colon hl.key hindent, String.length_toList]
  simp only [run_value hl.value hr]
  rfl

/-- Lines within a mapping are read one by one. -/
theorem run_lines (hls : ∀ l ∈ ls, l.Plain) (tokens : List Token) (line : ℕ) :
    (reached tokens 0 [-1] true none line 0 (ls.flatMap Line.chars)).run =
      if ∀ l ∈ ls, l.Short then
        some (tokens.reverse ++ ls.flatMap Line.tokens ++ [.blockEnd, .streamEnd])
      else none := by
  induction ls generalizing tokens line with
  | nil =>
    rw [List.flatMap_nil, run_reached_nil]
    simp
  | cons l ls ih =>
    obtain ⟨hl, hls⟩ := List.forall_mem_cons.mp hls
    rw [List.flatMap_cons, run_line hl le_rfl (atWord_flatMap hls), if_pos rfl, if_pos rfl, ih hls]
    simp only [List.forall_mem_cons, List.reverse_append, List.reverse_reverse, List.flatMap_cons,
      List.append_assoc]
    by_cases h : l.Short <;> simp [h]

end Layout

/-- **Lines of words are read line by line, as long as no key is too long.** -/
theorem tokens_lines (hne : ls ≠ []) (hls : ∀ l ∈ ls, l.Plain) :
    tokens (ls.flatMap Line.chars) =
      if ∀ l ∈ ls, l.Short then
        some (.blockMappingStart :: (ls.flatMap Line.tokens ++ [.blockEnd, .streamEnd]))
      else none := by
  obtain ⟨l, ls, rfl⟩ := List.exists_cons_of_ne_nil hne
  obtain ⟨hl, hls⟩ := List.forall_mem_cons.mp hls
  have hstart : Layout.start ((l :: ls).flatMap Line.chars) =
      Layout.reached [] (-1) [] true none 0 0 (l.chars ++ ls.flatMap Line.chars) := rfl
  have houtside : ¬ (-1 : ℤ) = 0 := by decide
  rw [tokens, hstart, Layout.run_line hl (by decide) (atWord_flatMap hls)]
  simp only [if_neg houtside, Layout.run_lines hls, List.forall_mem_cons, List.reverse_append,
    List.reverse_reverse, List.flatMap_cons, List.append_assoc]
  by_cases h : l.Short <;> simp [h]

end MusicLibrary.Yaml
