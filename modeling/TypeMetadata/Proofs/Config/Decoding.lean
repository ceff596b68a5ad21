import TypeMetadata.Config.Load
import TypeMetadata.Proofs.Toml.DistinctKeys

/-!
Settings survive being written and read back, whatever is left out, added or moved in between, as
long as what is left out says no more than the default and what is added is unknown to settings.
-/

namespace TypeMetadata

open Toml (Table Value)

variable {extra nameExtra table : Table}

/-! ### Values of settings -/

theorem textOr_lookup_of_variesFrom {known : List String} {defaults written : Table} {key : String}
    {default text : String} (hvaries : Table.VariesFrom known defaults written extra table)
    (hkeys : (written.map Prod.fst).Nodup) (hkey : key ∈ known)
    (hdefault : ∀ value, (key, value) ∈ defaults → value = .string default)
    (hwritten : written.lookup key = some (.string text)) :
    textOr default (table.lookup key) = some text := by
  have hread : textOr default (table.lookup key) = textOr default (written.lookup key) := by
    refine hvaries.read_lookup hkeys hkey (textOr default) ?_
    intro value _ hmem
    rw [hdefault value hmem]
    rfl
  rw [hread, hwritten]
  rfl

theorem texts?_map_string (texts : List String) :
    texts? (.array (texts.map .string)) = some texts := by
  rw [texts?, List.mapM_map]
  exact List.mapM_pure.trans (congrArg some (List.map_id' texts))

theorem count?_toNat (count : UInt64) : count? (.integer count.toNat) = some count := by
  have hsize : (count.toNat : Int) < UInt64.size := by
    exact_mod_cast count.toNat_lt_size
  rw [count?, if_pos ⟨Int.natCast_nonneg _, hsize⟩, Int.toNat_natCast, UInt64.ofNat_toNat]

namespace RuntimeNames

variable {names : RuntimeNames}

/-- The keys that runtime names have. -/
def keys : List String := ["response-completion-source", "invokable"]

theorem toTable_injective : Function.Injective toTable := by
  intro names other heq
  cases names
  cases other
  simpa [toTable] using heq

theorem ofValue?_of_variesFrom
    (hvaries : Table.VariesFrom keys default.toTable names.toTable extra table) :
    ofValue? (.table table) = some names := by
  have hkeys : (names.toTable.map Prod.fst).Nodup := by simp [toTable]
  have hsource : textOr default.completionSource (table.lookup "response-completion-source") =
      some names.completionSource :=
    textOr_lookup_of_variesFrom hvaries hkeys (by decide) (by simp [toTable]) rfl
  have hinvokable : textOr default.invokable (table.lookup "invokable") = some names.invokable :=
    textOr_lookup_of_variesFrom hvaries hkeys (by decide) (by simp [toTable]) rfl
  rw [ofValue?, hsource, hinvokable]
  rfl

theorem isReadable_of_mem_toTable {entry : String × Value} (hmem : entry ∈ names.toTable) :
    entry.2.isReadable = true :=
  Toml.areReadableEntries_iff.mp rfl entry hmem

end RuntimeNames

namespace Config

variable {config : Config}

/-- The keys that settings have. -/
def keys : List String :=
  ["namespace-root", "dispatch-method", "well-known", "application-parts", "parallelism"]

/-- A table that may stand for the settings: the one that they are written as, varied as a whole and
in the table of its runtime names. -/
def IsWrittenAs (config : Config) (extra nameExtra table : Table) : Prop :=
  ∃ outer names : Table, Table.VariesFrom keys default.toTable config.toTable extra outer ∧
    Table.VariesFrom RuntimeNames.keys RuntimeNames.default.toTable config.runtimeNames.toTable
      nameExtra names ∧
    table = outer.withValue "well-known" (.table names)

/-! ### Reading back -/

theorem nodup_keys_toTable (config : Config) : (config.toTable.map Prod.fst).Nodup := by
  rw [toTable]
  split <;> simp

theorem lookup_toTable_applicationParts (config : Config) :
    config.toTable.lookup "application-parts" = if config.applicationParts.isEmpty then none
      else some (.array (config.applicationParts.map .string)) := by
  rw [toTable]
  split <;> rfl

theorem lookup_toTable_parallelism (config : Config) :
    config.toTable.lookup "parallelism" = some (.integer config.parallelism.toNat) := by
  rw [toTable]
  split <;> rfl

section

variable {outer names : Table}
  (houter : Table.VariesFrom keys default.toTable config.toTable extra outer)

include houter

theorem runtimeNames_of_variesFrom
    (hnames : RuntimeNames.ofValue? (.table names) = some config.runtimeNames) :
    (((outer.withValue "well-known" (.table names)).lookup "well-known").map
      RuntimeNames.ofValue?).getD (some default.runtimeNames) = some config.runtimeNames := by
  rw [Table.lookup_withValue, Option.map_map]
  refine (houter.read_lookup config.nodup_keys_toTable (by decide)
    (fun found => (found.map (RuntimeNames.ofValue? ∘ fun _ => .table names)).getD
      (some default.runtimeNames)) ?_).trans hnames
  -- Names that were left out as a whole are the default ones.
  intro value hwritten hdefault
  have hvalue : .table config.runtimeNames.toTable = value :=
    Option.some.inj (Table.lookup_of_mem config.nodup_keys_toTable hwritten)
  have htable : value = .table RuntimeNames.default.toTable := by
    simpa [toTable, default] using hdefault
  rw [← hvalue, Value.table.injEq] at htable
  rw [RuntimeNames.toTable_injective htable] at hnames
  exact hnames

theorem applicationParts_of_variesFrom :
    ((outer.lookup "application-parts").map texts?).getD (some default.applicationParts) =
      some config.applicationParts := by
  rw [houter.read_lookup config.nodup_keys_toTable (by decide)
    (fun found => (found.map texts?).getD (some default.applicationParts))]
  · rw [lookup_toTable_applicationParts]
    split
    · rename_i hempty
      rw [List.isEmpty_iff.mp hempty]
      rfl
    · exact texts?_map_string _
  · intro value _ hdefault
    simp [toTable, default] at hdefault

theorem parallelism_of_variesFrom :
    ((outer.lookup "parallelism").map count?).getD (some default.parallelism) =
      some config.parallelism := by
  rw [houter.read_lookup config.nodup_keys_toTable (by decide)
    (fun found => (found.map count?).getD (some default.parallelism))]
  · rw [lookup_toTable_parallelism, Option.map_some, Option.getD_some, count?_toNat]
  · intro value _ hdefault
    obtain rfl : value = .integer default.parallelism.toNat := by
      simpa [toTable, default] using hdefault
    rw [Option.map_some, Option.getD_some, count?_toNat]
    rfl

end

theorem ofTable?_of_isWrittenAs (hwritten : config.IsWrittenAs extra nameExtra table) :
    ofTable? table = some config := by
  obtain ⟨outer, names, houter, hnames, rfl⟩ := hwritten
  have hkeys := config.nodup_keys_toTable
  have hroot : textOr default.namespaceRoot (outer.lookup "namespace-root") =
      some config.namespaceRoot :=
    textOr_lookup_of_variesFrom houter hkeys (by decide) (by simp [toTable, default]) rfl
  have hmethod : textOr default.dispatchMethod (outer.lookup "dispatch-method") =
      some config.dispatchMethod :=
    textOr_lookup_of_variesFrom houter hkeys (by decide) (by simp [toTable, default]) rfl
  rw [ofTable?, runtimeNames_of_variesFrom houter (RuntimeNames.ofValue?_of_variesFrom hnames)]
  simp only [Table.lookup_withValue_of_ne, ne_eq, String.reduceEq, not_false_eq_true, hroot,
    hmethod, applicationParts_of_variesFrom houter, parallelism_of_variesFrom houter]
  rfl

theorem isWrittenAs_toTable (config : Config) : config.IsWrittenAs [] [] config.toTable := by
  refine ⟨config.toTable, config.runtimeNames.toTable, .refl, .refl, ?_⟩
  rw [toTable]
  split <;> rfl

theorem ofTable?_toTable (config : Config) : ofTable? config.toTable = some config :=
  ofTable?_of_isWrittenAs config.isWrittenAs_toTable

/-! ### Reading a text -/

theorem isReadable_of_forall (hreadable : ∀ entry ∈ table, entry.2.isReadable = true) :
    isReadable table = true := by
  rw [isReadable, List.all_eq_true]
  intro entry hmem
  have hvalue := hreadable entry hmem
  split
  · rename_i elements
    rw [Value.isReadable, Toml.areReadableElements_iff] at hvalue
    rw [Toml.areReadableElements_iff]
    exact fun element hmem => hvalue element (List.mem_of_mem_take hmem)
  · exact hvalue

theorem isReadable_of_mem_toTable {entry : String × Value} (hmem : entry ∈ config.toTable) :
    entry.2.isReadable = true := by
  have hnumber : Toml.isReadableInteger config.parallelism.toNat = true := by
    have hlow : -Int.pow 2 127 ≤ 0 := by decide
    have hhigh : 2 ^ 64 ≤ Int.pow 2 128 := by decide
    have hlt := config.parallelism.toNat_lt
    rw [Toml.isReadableInteger, Bool.and_eq_true, decide_eq_true_eq, decide_eq_true_eq]
    omega
  have hparts : Toml.areReadableElements (config.applicationParts.map .string) = true := by
    rw [Toml.areReadableElements_iff]
    simp [Value.isReadable]
  have hentries : Toml.areReadableEntries config.toTable = true := by
    rw [toTable]
    split <;>
      simp [Toml.areReadableEntries, Value.isReadable, RuntimeNames.toTable, hnumber, hparts]
  exact Toml.areReadableEntries_iff.mp hentries entry hmem

theorem isReadable_of_isWrittenAs (hwritten : config.IsWrittenAs extra nameExtra table)
    (hextra : ∀ entry ∈ extra ++ nameExtra, entry.2.isReadable = true) :
    isReadable table = true := by
  obtain ⟨outer, names, houter, hnames, rfl⟩ := hwritten
  refine isReadable_of_forall fun entry hmem => ?_
  rcases Table.mem_withValue hmem with hmem | rfl
  · rcases houter.mem_written_or_mem_extra hmem with hmem | hmem
    · exact isReadable_of_mem_toTable hmem
    · exact hextra entry (List.mem_append_left _ hmem)
  · rw [Value.isReadable, Toml.areReadableEntries_iff]
    intro entry hmem
    rcases hnames.mem_written_or_mem_extra hmem with hmem | hmem
    · exact RuntimeNames.isReadable_of_mem_toTable hmem
    · exact hextra entry (List.mem_append_right _ hmem)

theorem ofTable?_congr {other : Table} (hlookup : ∀ key, table.lookup key = other.lookup key) :
    ofTable? table = ofTable? other := by
  simp only [ofTable?, hlookup]

/-- A text gives no key twice, so two texts that give the same settings in another order are read
alike. -/
theorem ofText_eq_of_perm {first second : String} {other : Table}
    (hfirst : Table.ofText? first = some table) (hsecond : Table.ofText? second = some other)
    (hperm : table.Perm other) : ofText first = ofText second := by
  have hkeys := (Toml.hasDistinctKeys_table_iff.mp (Table.hasDistinctKeys_of_ofText? hsecond)).1
  have htable : ofTable? table = ofTable? other :=
    ofTable?_congr fun key => Table.lookup_eq_of_perm hkeys hperm
  have hreadable : isReadable table = isReadable other := hperm.all_eq
  have hread : (readableTable? Table.ofText? first).bind ofTable? =
      (readableTable? Table.ofText? second).bind ofTable? := by
    rw [readableTable?, readableTable?, hfirst, hsecond, Option.filter_some, Option.filter_some,
      hreadable]
    cases isReadable other with
    | false => rfl
    | true => exact htable
  rw [ofText, ofTextBy, ofTextBy, hread]

/-! ### Acceptance -/

theorem accepted_eq_ok_iff : config.accepted = .ok config ↔ config.validate = .ok () := by
  rw [accepted]
  cases config.validate <;> simp

theorem accepted_eq_error_iff {problem : ConfigProblem} :
    config.accepted = .error (.invalid problem) ↔ config.validate = .error problem := by
  rw [accepted]
  cases config.validate <;> simp

/-- Any table that may stand for the settings gives just these settings, and they are accepted or
refused on their own account: neither the order of the keys nor what was left out or added makes a
difference. Whatever the parser, a text in which it finds such a table is read likewise if what was
added can be read. -/
theorem decoding_recovers_settings (config : Config)
    (hwritten : config.IsWrittenAs extra nameExtra table) :
    ofTable? table = some config ∧
      (config.accepted = .ok config ↔ config.validate = .ok ()) ∧
      (∀ problem,
        config.accepted = .error (.invalid problem) ↔ config.validate = .error problem) ∧
      ∀ (parse : String → Option Table) (text : String), parse text = some table →
        (∀ entry ∈ extra ++ nameExtra, entry.2.isReadable = true) →
          ofTextBy parse text = config.accepted := by
  have hdecoded := ofTable?_of_isWrittenAs hwritten
  refine ⟨hdecoded, accepted_eq_ok_iff, fun _ => accepted_eq_error_iff, ?_⟩
  intro parse text hparse hextra
  have hreadable : readableTable? parse text = some table := by
    rw [readableTable?, hparse, Option.filter_some_pos (isReadable_of_isWrittenAs hwritten hextra)]
  rw [ofTextBy, hreadable, Option.bind_some, hdecoded]

namespace Rearranged

def settings : Config where
  namespaceRoot := "Game"
  dispatchMethod := default.dispatchMethod
  runtimeNames := { default.runtimeNames with invokable := "Game.ICall" }
  applicationParts := ["Core", ""]
  parallelism := 18446744073709551615

def names : Table := [("note", .boolean true), ("invokable", .string "Game.ICall")]

/-- The settings back to front, with a note at either level and without the entries that have the
default value. -/
def rewritten : Table := [
  ("note", .string "spare"),
  ("parallelism", .integer 18446744073709551615),
  ("application-parts", .array [.string "Core", .string ""]),
  ("well-known", .table names),
  ("namespace-root", .string "Game")]

theorem isWrittenAs_rewritten :
    settings.IsWrittenAs [("note", .string "spare")] [("note", .boolean true)] rewritten := by
  refine ⟨rewritten.withValue "well-known" (.table settings.runtimeNames.toTable), names, ?_, ?_,
    rfl⟩
  · refine ⟨[_, _, _, _], .cons_cons _ (.cons _ (.refl _)), ?_, ?_, (List.reverse_perm _).symm⟩
    · simp [toTable, default, settings]
    · simp [keys]
  · refine ⟨[_], .cons _ (.refl _), ?_, ?_, (List.reverse_perm _).symm⟩
    · simp [RuntimeNames.toTable, settings, default]
    · simp [RuntimeNames.keys]

end Rearranged

theorem decoding_recovers_settings_of_rearranged :
    Rearranged.settings.IsWrittenAs [("note", .string "spare")] [("note", .boolean true)]
        Rearranged.rewritten ∧
      ofTable? Rearranged.rewritten = some Rearranged.settings ∧
      Rearranged.settings.accepted = .error (.invalid .emptyPart) := by
  obtain ⟨hdecoded, -, hrefused, -⟩ :=
    decoding_recovers_settings Rearranged.settings Rearranged.isWrittenAs_rewritten
  exact ⟨Rearranged.isWrittenAs_rewritten, hdecoded, (hrefused .emptyPart).mpr (by decide +kernel)⟩

example : ofText "note = 1\n\n[well-known]\ninvokable = \"Game.ICall\"\n" =
    .ok { default with runtimeNames.invokable := "Game.ICall" } := by
  decide +kernel

end Config

end TypeMetadata
