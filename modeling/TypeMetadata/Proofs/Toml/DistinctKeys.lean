import TypeMetadata.Proofs.Toml.Variation
import TypeMetadata.Toml.Document

/-!
No table that a text describes has two entries of one key, however deep it lies. A document is built
up statement by statement, and a statement that would give a key a second time is refused.
-/

namespace TypeMetadata.Toml

variable {key : String} {value : Value} {table : Table} {elements : List Value}

/-! ### The parts of a value -/

/-- A value, the elements and entries that it has, their elements and entries, and so on. -/
inductive Value.IsPartOf (part : Value) : Value → Prop
  | self : IsPartOf part part
  | element {elements : List Value} {element : Value} (hmem : element ∈ elements)
      (hpart : part.IsPartOf element) : IsPartOf part (.array elements)
  | entry {table : Table} {key : String} {value : Value} (hmem : (key, value) ∈ table)
      (hpart : part.IsPartOf value) : IsPartOf part (.table table)

/-- No table that is part of a value has two entries of one key. -/
def Value.HasDistinctKeys (value : Value) : Prop :=
  ∀ table : Table, Value.IsPartOf (.table table) value → (table.map Prod.fst).Nodup

theorem hasDistinctKeys_of_scalar (harray : ∀ elements, value ≠ .array elements)
    (htable : ∀ table, value ≠ .table table) : value.HasDistinctKeys := by
  rintro table hpart
  cases hpart with
  | self => exact absurd rfl (htable table)
  | element => exact absurd rfl (harray _)
  | entry => exact absurd rfl (htable _)

theorem hasDistinctKeys_array_iff :
    (Value.array elements).HasDistinctKeys ↔ ∀ element ∈ elements, element.HasDistinctKeys := by
  constructor
  · intro hdistinct element hmem table hpart
    exact hdistinct table (.element hmem hpart)
  · rintro hdistinct table (- | ⟨hmem, hpart⟩)
    exact hdistinct _ hmem table hpart

theorem hasDistinctKeys_table_iff :
    (Value.table table).HasDistinctKeys ↔
      (table.map Prod.fst).Nodup ∧ ∀ entry ∈ table, entry.2.HasDistinctKeys := by
  constructor
  · intro hdistinct
    refine ⟨hdistinct table .self, ?_⟩
    intro entry hmem inner hpart
    exact hdistinct inner (.entry hmem hpart)
  · rintro ⟨hkeys, hdistinct⟩ inner (- | - | ⟨hmem, hpart⟩)
    · exact hkeys
    · exact hdistinct _ hmem inner hpart

namespace Table

theorem hasDistinctKeys_concat (htable : (Value.table table).HasDistinctKeys)
    (hnew : table.lookup key = none) (hvalue : value.HasDistinctKeys) :
    (Value.table (table ++ [(key, value)])).HasDistinctKeys := by
  rw [hasDistinctKeys_table_iff] at htable ⊢
  refine ⟨?_, ?_⟩
  · rw [List.map_append, List.map_singleton, ← List.concat_eq_append, List.nodup_concat]
    refine ⟨?_, htable.1⟩
    intro hmem
    obtain ⟨⟨_, found⟩, hfound, rfl⟩ := List.mem_map.mp hmem
    exact not_mem_of_lookup hnew hfound
  · intro entry hmem
    rcases List.mem_append.mp hmem with hmem | hmem
    · exact htable.2 entry hmem
    · rw [List.mem_singleton.mp hmem]
      exact hvalue

theorem map_fst_withValue (table : Table) (key : String) (value : Value) :
    (table.withValue key value).map Prod.fst = table.map Prod.fst := by
  rw [withValue, List.map_map]
  apply List.map_congr_left
  intro entry _
  rw [Function.comp_apply]
  split
  · rename_i hkey
    exact hkey.symm
  · rfl

theorem hasDistinctKeys_withValue (htable : (Value.table table).HasDistinctKeys)
    (hvalue : value.HasDistinctKeys) :
    (Value.table (table.withValue key value)).HasDistinctKeys := by
  rw [hasDistinctKeys_table_iff] at htable ⊢
  rw [map_fst_withValue]
  refine ⟨htable.1, ?_⟩
  intro entry hmem
  rcases mem_withValue hmem with hmem | rfl
  · exact htable.2 entry hmem
  · exact hvalue

theorem hasDistinctKeys_of_lookup (htable : (Value.table table).HasDistinctKeys)
    (hlookup : table.lookup key = some value) : value.HasDistinctKeys :=
  (hasDistinctKeys_table_iff.mp htable).2 _ (mem_of_lookup hlookup)

end Table

/-! ### Tables under construction -/

/-- A table under construction would have distinct keys if it were finished as it stands. -/
def Entries.HasDistinctKeys (entries : Entries) : Prop :=
  (Value.table (tableOfEntries entries)).HasDistinctKeys

section

variable {entries : Entries} {node : Node}

theorem tableOfEntries_eq_map (entries : Entries) :
    tableOfEntries entries = entries.map fun entry => (entry.1, entry.2.toValue) := by
  induction entries with
  | nil => rfl
  | cons entry entries ih => rw [tableOfEntries, ih, List.map_cons]

theorem arrayOfElements_eq_map (elements : List Entries) :
    arrayOfElements elements = elements.map fun entries => .table (tableOfEntries entries) := by
  induction elements with
  | nil => rfl
  | cons entries elements ih => rw [arrayOfElements, ih, List.map_cons]

theorem lookup_tableOfEntries (entries : Entries) (key : String) :
    (tableOfEntries entries).lookup key = (entries.lookup key).map Node.toValue := by
  induction entries with
  | nil => rfl
  | cons entry entries ih =>
      rw [tableOfEntries, List.lookup_cons, List.lookup_cons, ih]
      split <;> rfl

namespace Entries

theorem hasDistinctKeys_nil : HasDistinctKeys [] :=
  hasDistinctKeys_table_iff.mpr ⟨List.nodup_nil, List.forall_mem_nil _⟩

namespace HasDistinctKeys

theorem append (hentries : entries.HasDistinctKeys) (hnew : entries.lookup key = none)
    (hnode : node.toValue.HasDistinctKeys) : (entries.append key node).HasDistinctKeys := by
  rw [HasDistinctKeys, Entries.append, tableOfEntries_eq_map, List.map_append,
    ← tableOfEntries_eq_map]
  refine Table.hasDistinctKeys_concat hentries ?_ hnode
  rw [lookup_tableOfEntries, hnew, Option.map_none]

theorem replace (hentries : entries.HasDistinctKeys) (hnode : node.toValue.HasDistinctKeys) :
    (entries.replace key node).HasDistinctKeys := by
  have hfinished : tableOfEntries (entries.replace key node) =
      (tableOfEntries entries).withValue key node.toValue := by
    rw [tableOfEntries_eq_map, tableOfEntries_eq_map, Entries.replace, Table.withValue,
      List.map_map, List.map_map]
    apply List.map_congr_left
    intro entry _
    rw [Function.comp_apply, Function.comp_apply]
    split <;> rfl
  rw [HasDistinctKeys, hfinished]
  exact Table.hasDistinctKeys_withValue hentries hnode

theorem of_lookup (hentries : entries.HasDistinctKeys) (hlookup : entries.lookup key = some node) :
    node.toValue.HasDistinctKeys := by
  have hfinished : (tableOfEntries entries).lookup key = some node.toValue := by
    rw [lookup_tableOfEntries, hlookup, Option.map_some]
  exact Table.hasDistinctKeys_of_lookup hentries hfinished

end HasDistinctKeys

end Entries

theorem Node.hasDistinctKeys_tables_iff {elements : List Entries} :
    (Node.tables elements).toValue.HasDistinctKeys ↔
      ∀ entries ∈ elements, entries.HasDistinctKeys := by
  rw [Node.toValue, hasDistinctKeys_array_iff, arrayOfElements_eq_map, List.forall_mem_map]
  rfl

end

/-! ### Statements -/

/-- A table with distinct keys that is changed, if the change is not refused, has distinct keys. -/
def KeepsKeysDistinct (change : Entries → Option Entries) : Prop :=
  ∀ entries next, entries.HasDistinctKeys → change entries = some next → next.HasDistinctKeys

/-- A change deep inside a table goes through all tables on the way and touches one entry of
each. -/
theorem Walk.keepsKeysDistinct_alter? (walk : Walk) {change : Origin → Entries → Option Entries}
    (hchange : ∀ origin, KeepsKeysDistinct (change origin)) (keys : List String)
    (origin : Origin) : KeepsKeysDistinct (walk.alter? change keys origin) := by
  induction keys generalizing origin with
  | nil => exact hchange origin
  | cons key keys ih =>
      intro entries next hentries halter
      rw [alter?] at halter
      split at halter
      · rename_i hnew
        obtain ⟨inner, hinner, hnext⟩ := Option.bind_eq_some_iff.mp halter
        cases hnext
        exact hentries.append hnew (ih _ _ _ Entries.hasDistinctKeys_nil hinner)
      · rename_i hfound
        obtain ⟨entered, -, hrest⟩ := Option.bind_eq_some_iff.mp halter
        obtain ⟨inner, hinner, hnext⟩ := Option.bind_eq_some_iff.mp hrest
        cases hnext
        exact hentries.replace (ih _ _ _ (hentries.of_lookup hfound) hinner)
      · rename_i elements hfound
        obtain ⟨last, hlast, hrest⟩ := Option.bind_eq_some_iff.mp halter
        obtain ⟨inner, hinner, hnext⟩ := Option.bind_eq_some_iff.mp hrest
        cases hnext
        have helements := Node.hasDistinctKeys_tables_iff.mp (hentries.of_lookup hfound)
        have hdistinct := ih _ _ _ (helements last (List.mem_of_getLast? hlast)) hinner
        refine hentries.replace (Node.hasDistinctKeys_tables_iff.mpr ?_)
        intro element hmem
        rcases List.mem_append.mp hmem with hmem | hmem
        · exact helements element (List.dropLast_subset elements hmem)
        · rw [List.mem_singleton.mp hmem]
          exact hdistinct
      · cases halter

namespace Entries

theorem keepsKeysDistinct_openTable? (path : KeyPath) : KeepsKeysDistinct (openTable? path) := by
  apply Walk.keepsKeysDistinct_alter?
  intro _ around next haround hopen
  dsimp only at hopen
  split at hopen
  · rename_i hnew
    cases hopen
    exact haround.append hnew hasDistinctKeys_nil
  · rename_i inner hfound
    cases hopen
    have hinner : Entries.HasDistinctKeys inner := haround.of_lookup hfound
    exact haround.replace hinner
  · cases hopen

theorem keepsKeysDistinct_openElement? (path : KeyPath) :
    KeepsKeysDistinct (openElement? path) := by
  apply Walk.keepsKeysDistinct_alter?
  intro _ around next haround hopen
  dsimp only at hopen
  split at hopen
  · rename_i hnew
    cases hopen
    refine haround.append hnew (Node.hasDistinctKeys_tables_iff.mpr ?_)
    exact List.forall_mem_singleton.mpr hasDistinctKeys_nil
  · rename_i elements hfound
    cases hopen
    have helements := Node.hasDistinctKeys_tables_iff.mp (haround.of_lookup hfound)
    refine haround.replace (Node.hasDistinctKeys_tables_iff.mpr ?_)
    rw [List.forall_mem_append]
    exact ⟨helements, List.forall_mem_singleton.mpr hasDistinctKeys_nil⟩
  · cases hopen

theorem keepsKeysDistinct_assign? (path : KeyPath) (hvalue : value.HasDistinctKeys) :
    KeepsKeysDistinct (assign? path value) := by
  apply Walk.keepsKeysDistinct_alter?
  intro _ around next haround hassign
  dsimp only at hassign
  split at hassign
  · rename_i hfree
    rw [Bool.and_eq_true, Option.isNone_iff_eq_none] at hfree
    cases hassign
    exact haround.append hfree.2 hvalue
  · cases hassign

end Entries

/-! ### Reading -/

/-- What holds of all items that a reader takes holds of all items of a list between brackets. -/
theorem forall_mem_readItems {α : Type} {item : Reader α} {motive : α → Prop} {close : Char}
    (hitem : ∀ text (parsed : Parsed α text), item text = some parsed → motive parsed.value)
    {text : List Char} {parsed : Parsed (List α) text}
    (hread : readItems item close text = some parsed) : ∀ found ∈ parsed.value, motive found := by
  fun_induction readItems item close text with
  | case1 text ih =>
      obtain ⟨start, -, hread⟩ := Option.bind_eq_some_iff.mp hread
      split at hread
      · cases hread
        exact List.forall_mem_nil _
      · obtain ⟨first, hfirst, hread⟩ := Option.bind_eq_some_iff.mp hread
        obtain ⟨next, -, hread⟩ := Option.bind_eq_some_iff.mp hread
        have hmotive := hitem _ first hfirst
        split at hread
        · cases hread
          exact List.forall_mem_singleton.mpr hmotive
        · split at hread
          · obtain ⟨others, hothers, hread⟩ := Option.bind_eq_some_iff.mp hread
            cases hread
            exact List.forall_mem_cons.mpr ⟨hmotive, ih first next hothers⟩
          · cases hread

/-- What each step of a fold keeps up holds at the end of a fold that is not broken off. -/
theorem foldlM_induction {α σ : Type} {motive : σ → Prop} {step : σ → α → Option σ}
    {items : List α} {start last : σ} (hstart : motive start)
    (hstep : ∀ item ∈ items, ∀ state next, motive state → step state item = some next →
      motive next)
    (hfold : items.foldlM step start = some last) : motive last := by
  induction items generalizing start with
  | nil =>
      cases hfold
      exact hstart
  | cons item items ih =>
      rw [List.foldlM_cons] at hfold
      obtain ⟨next, hnext, hrest⟩ := Option.bind_eq_some_iff.mp hfold
      have hkept := hstep item List.mem_cons_self start next hstart hnext
      exact ih hkept (fun other hmem => hstep other (List.mem_cons_of_mem item hmem)) hrest

theorem hasDistinctKeys_inlineTable? {assignments : List (KeyPath × Value)}
    (hvalues : ∀ assignment ∈ assignments, assignment.2.HasDistinctKeys)
    (htable : inlineTable? assignments = some table) : (Value.table table).HasDistinctKeys := by
  obtain ⟨entries, hentries, hfinished⟩ := Option.bind_eq_some_iff.mp htable
  cases hfinished
  refine foldlM_induction (motive := Entries.HasDistinctKeys) Entries.hasDistinctKeys_nil ?_
    hentries
  intro assignment hmem entries next hkept hassign
  exact Entries.keepsKeysDistinct_assign? _ (hvalues assignment hmem) entries next hkept hassign

theorem hasDistinctKeys_scalar? {spelling : List Char} (hvalue : scalar? spelling = some value) :
    value.HasDistinctKeys := by
  rw [scalar?] at hvalue
  repeat' split at hvalue
  all_goals cases hvalue
  all_goals exact hasDistinctKeys_of_scalar nofun nofun

/-- Whatever a reader takes for a value has distinct keys. -/
def ReadsDistinctKeys (read : Reader Value) : Prop :=
  ∀ text (parsed : Parsed Value text), read text = some parsed → parsed.value.HasDistinctKeys

theorem readsDistinctKeys_readPlain : ReadsDistinctKeys readPlain := by
  intro text parsed hread
  rw [readPlain] at hread
  split at hread
  · cases hread
    exact hasDistinctKeys_of_scalar nofun nofun
  · obtain ⟨spelling, -, hread⟩ := Option.bind_eq_some_iff.mp hread
    obtain ⟨value, hvalue, hread⟩ := Option.bind_eq_some_iff.mp hread
    cases hread
    exact hasDistinctKeys_scalar? hvalue

theorem hasDistinctKeys_readAssignment {spacing : Spacing} {read : Reader Value}
    (hvalues : ReadsDistinctKeys read) {text : List Char} {parsed : Parsed (KeyPath × Value) text}
    (hread : readAssignment spacing read text = some parsed) :
    parsed.value.2.HasDistinctKeys := by
  obtain ⟨path, -, hread⟩ := Option.bind_eq_some_iff.mp hread
  obtain ⟨sign, -, hread⟩ := Option.bind_eq_some_iff.mp hread
  obtain ⟨value, hvalue, hread⟩ := Option.bind_eq_some_iff.mp hread
  cases hread
  exact hvalues _ _ hvalue

theorem readsDistinctKeys_readValue (depth : Nat) : ReadsDistinctKeys (readValue depth) := by
  induction depth using Nat.strongRecOn with
  | ind depth ih =>
      intro text parsed hread
      fun_induction readValue depth text with
      | case1 depth rest =>
          have helement := ih depth (Nat.lt_succ_self depth)
          obtain ⟨elements, helements, hread⟩ := Option.bind_eq_some_iff.mp hread
          cases hread
          exact hasDistinctKeys_array_iff.mpr (forall_mem_readItems helement helements)
      | case2 depth rest =>
          have hvalue := ih depth (Nat.lt_succ_self depth)
          obtain ⟨assignments, hassignments, hread⟩ := Option.bind_eq_some_iff.mp hread
          obtain ⟨table, htable, hread⟩ := Option.bind_eq_some_iff.mp hread
          cases hread
          refine hasDistinctKeys_inlineTable? (forall_mem_readItems ?_ hassignments) htable
          intro text parsed hparsed
          exact hasDistinctKeys_readAssignment hvalue hparsed
      | case3 text =>
          exact readsDistinctKeys_readPlain _ _ hread

/-- A value that is assigned has distinct keys. Headers assign none. -/
def Statement.HasDistinctKeys : Statement → Prop
  | .assignment _ value => value.HasDistinctKeys
  | .table _ | .element _ => True

theorem hasDistinctKeys_readStatement {text : List Char} {parsed : Parsed Statement text}
    (hread : readStatement text = some parsed) : parsed.value.HasDistinctKeys := by
  unfold readStatement at hread
  split at hread
  · obtain ⟨header, -, hread⟩ := Option.bind_eq_some_iff.mp hread
    obtain ⟨close, -, hread⟩ := Option.bind_eq_some_iff.mp hread
    cases hread
    trivial
  · obtain ⟨header, -, hread⟩ := Option.bind_eq_some_iff.mp hread
    cases hread
    trivial
  · obtain ⟨assignment, hassignment, hread⟩ := Option.bind_eq_some_iff.mp hread
    cases hread
    exact hasDistinctKeys_readAssignment (readsDistinctKeys_readValue maxDepth) hassignment

theorem hasDistinctKeys_readStatements {text : List Char} {statements : List Statement}
    (hread : readStatements text = some statements) :
    ∀ statement ∈ statements, statement.HasDistinctKeys := by
  fun_induction readStatements text generalizing statements with
  | case1 text hdone =>
      cases hread
      exact List.forall_mem_nil _
  | case2 text hmore ih =>
      obtain ⟨statement, hstatement, hread⟩ := Option.bind_eq_some_iff.mp hread
      split at hread
      · obtain ⟨others, hothers, hread⟩ := Option.bind_eq_some_iff.mp hread
        cases hread
        exact List.forall_mem_cons.mpr
          ⟨hasDistinctKeys_readStatement hstatement, ih statement hothers⟩
      · cases hread

/-! ### Documents -/

theorem Document.hasDistinctKeys_add? {document next : Document} {statement : Statement}
    (hdocument : document.entries.HasDistinctKeys) (hstatement : statement.HasDistinctKeys)
    (hadd : document.add? statement = some next) : next.entries.HasDistinctKeys := by
  cases statement with
  | table path =>
      obtain ⟨entries, hentries, hnext⟩ := Option.bind_eq_some_iff.mp hadd
      cases hnext
      exact Entries.keepsKeysDistinct_openTable? path _ _ hdocument hentries
  | element path =>
      obtain ⟨entries, hentries, hnext⟩ := Option.bind_eq_some_iff.mp hadd
      cases hnext
      exact Entries.keepsKeysDistinct_openElement? path _ _ hdocument hentries
  | assignment path value =>
      obtain ⟨entries, hentries, hnext⟩ := Option.bind_eq_some_iff.mp hadd
      cases hnext
      refine Walk.keepsKeysDistinct_alter? _ ?_ _ _ _ _ hdocument hentries
      exact fun _ => Entries.keepsKeysDistinct_assign? path hstatement

/-- A text that describes a table gives no key twice in it or in any table inside. -/
theorem Table.hasDistinctKeys_of_ofText? {text : String} (htext : ofText? text = some table) :
    (Value.table table).HasDistinctKeys := by
  obtain ⟨statements, hstatements, hrest⟩ := Option.bind_eq_some_iff.mp htext
  obtain ⟨document, hdocument, hfinished⟩ := Option.bind_eq_some_iff.mp hrest
  cases hfinished
  refine foldlM_induction (motive := fun document => document.entries.HasDistinctKeys)
    Entries.hasDistinctKeys_nil ?_ hdocument
  intro statement hmem before after hbefore hadd
  have hstatement := hasDistinctKeys_readStatements hstatements statement hmem
  exact Document.hasDistinctKeys_add? hbefore hstatement hadd

example : Table.ofText? "a.b = 1\n[a]\nb = 2\n" = none := by
  decide +kernel

end TypeMetadata.Toml
