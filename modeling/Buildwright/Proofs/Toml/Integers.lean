import Buildwright.Toml.Document

/-!
# The integers of a document

A word that denotes an integer is refused if the integer has more than 64 bits. This is asked of
each word by itself, and what becomes of it afterwards leaves integers as they are: readers collect
values in arrays and inline tables, entries are added to tables under construction, and finished
tables become data. So every integer in the data that a document describes is one of 64 bits
(`fits_of_read?`).

What the results of a reader have in common (`Reader.Yields`) is followed through the combinators of
which readers are made, and what the nodes of a table have in common (`Entries.Fit`) through the
ways in which entries are added.
-/

namespace Buildwright

/-! ### What a reader yields -/

namespace Text.Reader

variable {α β : Type} {P : α → Prop} {Q : β → Prop} {p : Reader α}

/-- `p.Yields P`: whatever `p` reads from whichever text has the property `P`. -/
def Yields (p : Reader α) (P : α → Prop) : Prop := ∀ ⦃cs a rest⦄, p cs = some (a, rest) → P a

theorem yields_true (p : Reader α) : p.Yields fun _ => True := fun _ _ _ _ => trivial

theorem Yields.filterMap {f : α → Option β} (hp : p.Yields P)
    (hf : ∀ a b, P a → f a = some b → Q b) : (p.filterMap f).Yields Q := by
  intro cs b rest h
  obtain ⟨⟨a, rest'⟩, hread, h⟩ := Option.bind_eq_some_iff.1 h
  obtain ⟨b', hb, h⟩ := Option.map_eq_some_iff.1 h
  obtain ⟨rfl, rfl⟩ := Prod.mk.inj h
  exact hf a b' (hp hread) hb

theorem Yields.map {f : α → β} (hp : p.Yields P) (hf : ∀ a, P a → Q (f a)) :
    (p.map f).Yields Q :=
  hp.filterMap fun a _ ha h => Option.some.inj h ▸ hf a ha

theorem Yields.bind {q : α → Reader β} (hp : p.Yields P) (hq : ∀ a, P a → (q a).Yields Q) :
    (p.bind q).Yields Q := by
  intro cs b rest h
  obtain ⟨⟨a, rest₁, _⟩, hread, h⟩ := Option.bind_eq_some_iff.1 h
  obtain ⟨⟨b', rest₂⟩, hnext, h⟩ := Option.map_eq_some_iff.1 h
  obtain ⟨rfl, -⟩ := Prod.mk.inj h
  exact hq a (hp hread) hnext

/-- A reader behind another one yields what it yields alone. -/
theorem Yields.andThen {q : Reader β} (hq : q.Yields Q) (p : Reader α) : (p.andThen q).Yields Q :=
  (yields_true p).bind fun _ _ => hq

theorem Yields.orElse {q : Reader α} (hp : p.Yields P) (hq : q.Yields P) :
    (p.orElse q).Yields P := by
  intro cs a rest h
  obtain h | ⟨-, h⟩ := Option.or_eq_some_iff.1 h
  · exact hp h
  · exact hq h

theorem Yields.byFront {choose : List Char → Reader α} (h : ∀ cs, (choose cs).Yields P) :
    (byFront choose).Yields P :=
  fun cs _ _ hread => h cs hread

theorem Yields.ifRest (hp : p.Yields P) (ok : List Char → Bool) : (p.ifRest ok).Yields P :=
  fun _ _ _ h => hp (Option.filter_eq_some_iff.1 h).1

theorem Yields.skipBefore (hp : p.Yields P) (skip : Skipper) : (p.skipBefore skip).Yields P := by
  intro cs a rest h
  obtain ⟨⟨a', rest'⟩, hread, h⟩ := Option.map_eq_some_iff.1 h
  obtain ⟨rfl, -⟩ := Prod.mk.inj h
  exact hp hread

theorem Yields.skipAfter (hp : p.Yields P) (skip : Skipper) : (p.skipAfter skip).Yields P := by
  intro cs a rest h
  obtain ⟨⟨a', rest'⟩, hread, h⟩ := Option.map_eq_some_iff.1 h
  obtain ⟨rfl, -⟩ := Prod.mk.inj h
  exact hp hread

/-- Everything that is read by repetition is read by the reader that is repeated. -/
theorem Yields.many (hp : p.Yields P) (cs : List Char) : ∀ a ∈ (many p cs).1, P a := by
  induction cs using many.induct p with
  | case1 cs hnone =>
    rw [Reader.many, hnone]
    simp
  | case2 cs a rest hless hread _ _ _ _ ih =>
    rw [Reader.many, hread]
    exact List.forall_mem_cons.2 ⟨hp hread, ih⟩

theorem Yields.thenMany {q : Reader β} (hp : p.Yields P) (hq : q.Yields Q) :
    (p.thenMany q).Yields fun read => P read.1 ∧ ∀ b ∈ read.2, Q b := by
  intro cs read rest h
  obtain ⟨⟨a, rest', _⟩, hread, h⟩ := Option.map_eq_some_iff.1 h
  obtain ⟨rfl, -⟩ := Prod.mk.inj h
  exact ⟨hp hread, hq.many rest'⟩

theorem Yields.sepBy1 (hp : p.Yields P) (separator : Reader β) :
    (p.sepBy1 separator).Yields fun as => ∀ a ∈ as, P a :=
  (hp.thenMany (hp.andThen separator)).map fun _ h => List.forall_mem_cons.2 h

/-- A reader that may be left out selects the next one either way. -/
theorem Yields.optionalThen {q : Option α → Reader β} (hp : p.Yields P)
    (hq : ∀ a?, (∀ a, a? = some a → P a) → (q a?).Yields Q) : (p.optionalThen q).Yields Q := by
  intro cs b rest h
  unfold Reader.optionalThen at h
  split at h
  · exact hq none (by simp) h
  · next a rest' hless hread =>
    obtain ⟨⟨b', rest''⟩, hnext, h⟩ := Option.map_eq_some_iff.1 h
    obtain ⟨rfl, -⟩ := Prod.mk.inj h
    exact hq (some a) (fun a' ha => Option.some.inj ha ▸ hp hread) hnext

end Text.Reader

/-! ### Data and nodes of 64 bits -/

/-- Whether an integer has 64 bits. -/
def Is64Bit (n : Int) : Prop := Int64.minValue.toInt ≤ n ∧ n ≤ Int64.maxValue.toInt

/-- Data whose integers all have 64 bits. -/
inductive Data.Fits : Data → Prop
  | null : Fits .null
  | boolean (value : Bool) : Fits (.boolean value)
  | integer {value : Int} (h : Is64Bit value) : Fits (.integer value)
  | float (value : Binary64) : Fits (.float value)
  | text (value : String) : Fits (.text value)
  | moment (written : String) : Fits (.moment written)
  | list {items : List Data} (h : ∀ d ∈ items, Fits d) : Fits (.list items)
  | table {entries : List (String × Data)} (h : ∀ e ∈ entries, Fits e.2) : Fits (.table entries)

namespace Toml

open Text.Reader

/-- A node whose integers all have 64 bits. -/
inductive Node.Fits : Node → Prop
  | value {data : Data} (h : data.Fits) : Fits (.value data)
  | table {origin : Origin} {entries : List (String × Node)} (h : ∀ e ∈ entries, Fits e.2) :
    Fits (.table origin entries)
  | tables {closed : List Data} {last : List (String × Node)} (hclosed : ∀ d ∈ closed, d.Fits)
    (hlast : ∀ e ∈ last, Fits e.2) : Fits (.tables closed last)

/-- Entries whose integers all have 64 bits. -/
def Entries.Fit (entries : Entries) : Prop := ∀ e ∈ entries, e.2.Fits

/-- A value with its keys, whose integers all have 64 bits. -/
def PairFits (pair : List String × String × Data) : Prop := pair.2.2.Fits

/-- A loop keeps what each of its rounds keeps. -/
theorem foldlM_option_keeps {α β : Type} {f : β → α → Option β} {P : β → Prop} {l : List α}
    (h : ∀ a ∈ l, ∀ b b', P b → f b a = some b' → P b') {b b' : β} (hb : P b)
    (hl : l.foldlM f b = some b') : P b' := by
  induction l generalizing b with
  | nil => exact Option.some.inj hl ▸ hb
  | cons a l ih =>
    rw [List.foldlM_cons] at hl
    obtain ⟨b₁, hfirst, hl⟩ := Option.bind_eq_some_iff.1 hl
    exact ih (fun a ha => h a (.tail _ ha)) (h a (.head _) b b₁ hb hfirst) hl

/-! ### Finished tables -/

mutual

theorem Node.Fits.toData : (node : Node) → node.Fits → node.toData.Fits
  | .value _, .value h => by
    rw [Node.toData]
    exact h
  | .table _ entries, .table h => by
    rw [Node.toData]
    exact .table (entriesData_fits entries h)
  | .tables closed last, .tables hclosed hlast => by
    rw [Node.toData]
    refine .list fun d hd => ?_
    rcases List.mem_append.1 hd with hd | hd
    · exact hclosed d (List.mem_reverse.1 hd)
    · obtain rfl := List.mem_singleton.1 hd
      exact .table (entriesData_fits last hlast)

/-- The entries of a finished table. -/
theorem entriesData_fits : (entries : List (String × Node)) → (∀ e ∈ entries, e.2.Fits) →
    ∀ e ∈ entriesData entries, e.2.Fits
  | [], _ => by simp [entriesData]
  | (key, node) :: entries, h => by
    rw [entriesData, List.forall_mem_cons]
    obtain ⟨hnode, hentries⟩ := List.forall_mem_cons.1 h
    exact ⟨Node.Fits.toData node hnode, entriesData_fits entries hentries⟩

end

/-! ### Tables under construction -/

namespace Entries.Fit

variable {entries entries' : Entries} {key : String} {node : Node}

theorem nil : Fit [] := nofun

theorem lookup (h : entries.Fit) (hkey : entries.lookup key = some node) : node.Fits := by
  obtain ⟨front, back, rfl, -⟩ := List.lookup_eq_some_iff.1 hkey
  exact h (key, node) (by simp)

theorem concat (h : entries.Fit) (hnode : node.Fits) : Fit (entries ++ [(key, node)]) := by
  intro e he
  rcases List.mem_append.1 he with he | he
  · exact h e he
  · obtain rfl := List.mem_singleton.1 he
    exact hnode

theorem replace (h : entries.Fit) (hnode : node.Fits) : Fit (Entries.replace key node entries) := by
  intro e he
  obtain ⟨e', he', rfl⟩ := List.mem_map.1 he
  split
  · exact hnode
  · exact h e' he'

/-- Changes at the end of a path keep integers in range if they do so where they take place. -/
theorem descend {created : Origin} {f : Origin → Entries → Option Entries}
    (hf : ∀ origin entries entries', Fit entries → f origin entries = some entries' → Fit entries')
    {path : List String} {origin : Origin} (h : entries.Fit)
    (hdescend : Entries.descend created f path origin entries = some entries') : entries'.Fit := by
  induction path generalizing origin entries entries' with
  | nil => exact hf origin entries entries' h hdescend
  | cons key path ih =>
    rw [Entries.descend] at hdescend
    split at hdescend
    · obtain ⟨inner, hinner, hdescend⟩ := Option.bind_eq_some_iff.1 hdescend
      obtain rfl := Option.some.inj hdescend
      exact h.concat (.table (ih nil hinner))
    · next origin inner hkey =>
      split at hdescend
      · obtain ⟨inner', hinner, hdescend⟩ := Option.bind_eq_some_iff.1 hdescend
        obtain rfl := Option.some.inj hdescend
        cases h.lookup hkey with
        | table hentered => exact h.replace (.table (ih hentered hinner))
      · cases hdescend
    · next closed last hkey =>
      obtain ⟨last', hlast, hdescend⟩ := Option.bind_eq_some_iff.1 hdescend
      obtain rfl := Option.some.inj hdescend
      cases h.lookup hkey with
      | tables hclosed hentered => exact h.replace (.tables hclosed (ih hentered hlast))
    · cases hdescend

theorem insertNew (h : entries.Fit) (hnode : node.Fits)
    (hinsert : Entries.insertNew key node entries = some entries') : entries'.Fit := by
  unfold Entries.insertNew at hinsert
  split at hinsert
  · obtain rfl := Option.some.inj hinsert
    exact h.concat hnode
  · cases hinsert

theorem insertPair {before : List String} {data : Data} (h : entries.Fit) (hdata : data.Fits)
    (hinsert : Entries.insertPair before key data entries = some entries') : entries'.Fit := by
  refine h.descend (fun origin entries entries' hfit hchange => ?_) hinsert
  split at hchange
  · exact hfit.insertNew (.value hdata) hchange
  · cases hchange

theorem insertPairs {pairs : List (List String × String × Data)} (h : entries.Fit)
    (hpairs : ∀ pair ∈ pairs, PairFits pair)
    (hinsert : Entries.insertPairs pairs entries = some entries') : entries'.Fit := by
  exact foldlM_option_keeps (fun pair hpair _ _ hfit => hfit.insertPair (hpairs pair hpair)) h
    hinsert

theorem insertSection {isArray : Bool} {before : List String}
    {pairs : List (List String × String × Data)} (h : entries.Fit)
    (hpairs : ∀ pair ∈ pairs, PairFits pair)
    (hinsert : Entries.insertSection isArray before key pairs entries = some entries') :
    entries'.Fit := by
  refine h.descend (fun origin entries entries' hfit hchange => ?_) hinsert
  split at hchange
  · obtain ⟨inner, hinner, hchange⟩ := Option.bind_eq_some_iff.1 hchange
    obtain rfl := Option.some.inj hchange
    exact hfit.concat (.tables nofun (nil.insertPairs hpairs hinner))
  · next closed last hkey =>
    obtain ⟨inner, hinner, hchange⟩ := Option.bind_eq_some_iff.1 hchange
    obtain rfl := Option.some.inj hchange
    cases hfit.lookup hkey with
    | tables hclosed hlast =>
      refine hfit.replace (.tables (List.forall_mem_cons.2 ⟨?_, hclosed⟩)
        (nil.insertPairs hpairs hinner))
      exact .table (entriesData_fits last hlast)
  · obtain ⟨inner, hinner, hchange⟩ := Option.bind_eq_some_iff.1 hchange
    obtain rfl := Option.some.inj hchange
    exact hfit.concat (.table (nil.insertPairs hpairs hinner))
  · next inner hkey =>
    obtain ⟨inner', hinner, hchange⟩ := Option.bind_eq_some_iff.1 hchange
    obtain rfl := Option.some.inj hchange
    have hothers : Fit (entries.filter fun entry => entry.1 ≠ key) :=
      fun e he => hfit e (List.mem_filter.1 he).1
    cases hfit.lookup hkey with
    | table himplied =>
      exact hothers.concat (.table (insertPairs himplied hpairs hinner))
  · cases hchange

end Entries.Fit

/-! ### Scalars and values -/

theorem is64Bit_of_inRange? {n m : Int} (h : inRange? n = some m) : Is64Bit m := by
  unfold inRange? at h
  split at h
  · next hrange => exact Option.some.inj h ▸ hrange
  · cases h

theorem is64Bit_of_integer? {cs : List Char} {n : Int} (h : integer? cs = some n) : Is64Bit n := by
  unfold integer? at h
  split at h
  all_goals
    obtain ⟨digits, -, hrange⟩ := Option.bind_eq_some_iff.1 h
    exact is64Bit_of_inRange? hrange

theorem fits_of_scalar? {word : List Char} {d : Data} (h : scalar? word = some d) : d.Fits := by
  unfold scalar? at h
  split at h
  · exact Option.some.inj h ▸ .boolean true
  split at h
  · exact Option.some.inj h ▸ .boolean false
  split at h
  · exact Option.some.inj h ▸ .moment _
  obtain hfloat | ⟨-, hinteger⟩ := Option.or_eq_some_iff.1 h
  · obtain ⟨x, -, rfl⟩ := Option.map_eq_some_iff.1 hfloat
    exact .float x
  · obtain ⟨n, hn, rfl⟩ := Option.map_eq_some_iff.1 hinteger
    exact .integer (is64Bit_of_integer? hn)

theorem scalarValue_yields : scalarValue.Yields Data.Fits := by
  have htext : (anyString.map Data.text).Yields Data.Fits :=
    (yields_true anyString).map fun s _ => .text s
  refine .byFront fun cs => ?_
  split
  · exact htext
  · exact htext
  · refine Yields.orElse ?_ ((yields_true word).filterMap fun _ _ _ => fits_of_scalar?)
    exact (yields_true _).bind fun _ _ => (yields_true _).map fun _ _ => .moment _

section

variable {value : Text.Reader Data} (hvalue : value.Yields Data.Fits)
include hvalue

theorem pairOf_yields : (pairOf value).Yields PairFits :=
  (yields_true dottedKey).bind fun _ _ =>
    (((hvalue.skipBefore blanks).skipAfter blanks).andThen _).map fun _ hdata => hdata

theorem arrayOf_yields : (arrayOf value).Yields Data.Fits := by
  have hitems := ((hvalue.skipBefore spacing).skipAfter spacing).sepBy1 (char ',')
  refine Yields.andThen (hitems.optionalThen fun items? hitems? => ?_) _
  refine (yields_true _).optionalThen fun _ _ => (yields_true _).map fun _ _ => .list ?_
  cases items? with
  | none => exact nofun
  | some items => exact hitems? items rfl

theorem inlineTableOf_yields : (inlineTableOf value).Yields Data.Fits := by
  have hpairs := (pairOf_yields hvalue).sepBy1 (char ',')
  refine Yields.andThen (hpairs.optionalThen fun pairs? hpairs? => ?_) _
  refine (yields_true _).filterMap fun _ d _ hd => ?_
  obtain ⟨entries, hinsert, rfl⟩ := Option.map_eq_some_iff.1 hd
  refine .table (entriesData_fits entries (Entries.Fit.nil.insertPairs ?_ hinsert))
  cases pairs? with
  | none => exact nofun
  | some pairs => exact hpairs? pairs rfl

end

theorem valueWithin_yields (depth : Nat) : (valueWithin depth).Yields Data.Fits := by
  induction depth with
  | zero => exact scalarValue_yields
  | succ depth ih =>
    refine .byFront fun cs => ?_
    split
    · exact arrayOf_yields ih
    · exact inlineTableOf_yields ih
    · exact scalarValue_yields

/-! ### Documents -/

/-- A statement whose integers all have 64 bits. -/
def Statement.Fits : Statement → Prop
  | .pair _ _ data => data.Fits
  | .header _ _ => True

theorem header_yields : header.Yields Statement.Fits := by
  refine .byFront fun cs => ?_
  split
  all_goals exact (yields_true _).bind fun _ _ => (yields_true _).map fun _ _ => trivial

theorem statement_yields : statement.Yields Statement.Fits := by
  have hpair : ((pairOf value).map fun pair =>
      Statement.pair pair.1 pair.2.1 pair.2.2).Yields Statement.Fits :=
    (pairOf_yields (valueWithin_yields (depthLimit - 1))).map fun _ hdata => hdata
  exact (((header_yields.orElse hpair).skipAfter blanks).skipAfter _).ifRest atLineEnd

theorem fits_of_statements? {cs : List Char} {found : List Statement}
    (h : statements? cs = some found) : ∀ s ∈ found, s.Fits := by
  obtain ⟨-, hread⟩ := Option.ite_none_right_eq_some.1 h
  exact Option.some.inj hread ▸ (statement_yields.skipAfter spacing).many _

/-- Grouping statements changes none of them. -/
theorem fits_of_mem_sections {found : List Statement} (h : ∀ s ∈ found, s.Fits)
    (header? : Option (Bool × DottedKey)) :
    ∀ part ∈ sections header? found, ∀ pair ∈ part.pairs, PairFits pair := by
  induction found generalizing header? with
  | nil => simp [sections]
  | cons s found ih =>
    obtain ⟨hs, hfound⟩ := List.forall_mem_cons.1 h
    cases s with
    | pair before key data =>
      have hrest := ih hfound header?
      rw [sections]
      split
      · exact List.forall_mem_singleton.2 (List.forall_mem_singleton.2 hs)
      · next first others hsections =>
        rw [hsections, List.forall_mem_cons] at hrest
        obtain ⟨hfirst, hothers⟩ := hrest
        exact List.forall_mem_cons.2 ⟨List.forall_mem_cons.2 ⟨hs, hfirst⟩, hothers⟩
    | header isArray key =>
      rw [sections]
      exact List.forall_mem_cons.2 ⟨nofun, ih hfound _⟩

theorem Section.addTo_fit {part : Section} {entries entries' : Entries} (h : entries.Fit)
    (hpart : ∀ pair ∈ part.pairs, PairFits pair) (hadd : part.addTo entries = some entries') :
    entries'.Fit := by
  unfold Section.addTo at hadd
  split at hadd
  · exact h.insertPairs hpart hadd
  · exact h.insertSection hpart hadd

/-- **Every integer of a document has 64 bits.** -/
theorem fits_of_read? {text : String} {d : Data} (h : read? text = some d) : d.Fits := by
  obtain ⟨found, hfound, h⟩ := Option.bind_eq_some_iff.1 h
  obtain ⟨nodes, hnodes, h⟩ := Option.bind_eq_some_iff.1 h
  have hparts := fits_of_mem_sections (fits_of_statements? hfound) none
  have hfit : Entries.Fit nodes :=
    foldlM_option_keeps (fun part hpart _ _ h => Section.addTo_fit h (hparts part hpart)) .nil
      hnodes
  dsimp only at h
  split at h
  · exact Option.some.inj h ▸ .table (entriesData_fits nodes hfit)
  · cases h

end Toml

end Buildwright
