import BrickFormula.Proofs.Binary64.Bounds
import BrickFormula.Proofs.Steps
import BrickFormula.Proofs.Toml.Display
import BrickFormula.Proofs.Toml.Refusals
import BrickFormula.Settings.Document

/-!
# Settings that are accepted

Each setting is read from the value of its key, or else it has its default, and what a value may be is
said here without the order of the checks.  Settings are accepted just if every setting of the table
has such a value.  Loading stops with a fault in three cases only: an integer of the document has too many
digits to be read, the tolerance is an integer beyond the numbers, or the message for a refused value
would show an integer with too many digits; everything else is reported as a failure.

    IsSetting table key default means a    `a` is the setting that a table has for a key
    IsInteger, IsTolerance, IsLevel        what the value of a setting means
    Refuses table v                        `v` is the value of a key and means no setting
    ReadError.StopsWith e fault            there is no message for the error, but a fault
    TableOf files file table               the table with the settings of a run
    ofTable_eq_ok_iff                      the settings that a table is accepted with
    load_eq_ok_iff                         the settings that a run is started with
    load_eq_fault_iff                      the faults
    load_valid                             so settings are valid or rejected
-/

namespace BrickFormula

/-! ## Levels -/

namespace LogLevel

/-- The capitals of a text, as far as names of levels have such letters. -/
def upperCased (text : String) : String :=
  String.ofList (text.toList.map fun c => if c = 'ı' then 'I' else c.toUpper)

theorem ofName?_eq_some_iff {text : String} {l : LogLevel} : ofName? text = some l ↔ text = l.name := by
  constructor
  · intro h
    have hname := List.find?_some h
    exact (of_decide_eq_true hname).symm
  · rintro rfl
    cases l <;> decide

theorem ofText?_eq_some_iff {text : String} {l : LogLevel} :
    ofText? text = some l ↔ upperCased text = l.name := ofName?_eq_some_iff

end LogLevel

/-! ## Flaws -/

theorem Toml.map_shown_eq_error_iff {v : Toml} {f : String → String} {fault : Fault} :
    v.shown.map f = .error fault ↔ fault = .integerTooLong ∧ v.HasLongInteger := by
  unfold shown
  rw [← display?_eq_none_iff]
  cases v.display? with
  | none => simp [Except.map, eq_comm]
  | some s => simp [Except.map]

namespace SettingsFlaw

/-- The value that the message shows. -/
def value? : SettingsFlaw → Option Toml
  | .notTable => none
  | .notInteger _ v | .notNumber _ v | .notPositive _ v | .unknownLevel v => some v

/-- There is a message unless it would show an integer with too many digits. -/
theorem message_eq_error_iff {flaw : SettingsFlaw} {fault : Fault} : flaw.message = .error fault ↔
    fault = .integerTooLong ∧ ∃ v, flaw.value? = some v ∧ v.HasLongInteger := by
  cases flaw with
  | notTable => simp [message, value?]
  | _ => simp [message, value?, Toml.map_shown_eq_error_iff]

end SettingsFlaw

namespace Settings
open Binary64

/-! ## Values -/

inductive IsInteger : Toml → Int → Prop where
  | integer (n : Int) : IsInteger (.integer n) n

/-- A number above zero, or not-a-number. -/
inductive IsTolerance : Toml → Binary64 → Prop where
  | integer {n : Int} : 0 < n → (ofInt n).isFinite = true → IsTolerance (.integer n) (ofInt n)
  | real {x : Binary64} : zero.lt x = true → IsTolerance (.real x) x
  | notANumber : IsTolerance (.real .nan) .nan

inductive IsSeed : Toml → Option Int → Prop where
  | integer (n : Int) : IsSeed (.integer n) (some n)

inductive IsLevel : Toml → LogLevel → Prop where
  | text {s : String} {l : LogLevel} : LogLevel.upperCased s = l.name → IsLevel (.text s) l

section
variable {v : Toml} {n : Int} {x : Binary64} {l : LogLevel}

theorem integer_eq_ok_iff (key : String) : integer key v = .ok n ↔ IsInteger v n := by
  constructor
  · intro h
    cases v with
    | integer m =>
      cases h
      exact .integer _
    | _ => cases h
  · rintro ⟨n⟩
    rfl

theorem seed_eq_ok_iff (key : String) {seed : Option Int} :
    (integer key v).map some = .ok seed ↔ IsSeed v seed := by
  constructor
  · intro h
    cases v with
    | integer m =>
      cases h
      exact .integer _
    | _ => cases h
  · rintro ⟨n⟩
    rfl

theorem level_eq_ok_iff : level v = .ok l ↔ IsLevel v l := by
  constructor
  · intro h
    cases v with
    | text s =>
      simp only [level] at h
      cases hlevel : LogLevel.ofText? s with
      | none =>
        rw [hlevel] at h
        cases h
      | some l' =>
        rw [hlevel] at h
        cases h
        exact .text (LogLevel.ofText?_eq_some_iff.mp hlevel)
    | _ => cases h
  · rintro ⟨hname⟩
    simp only [level]
    rw [LogLevel.ofText?_eq_some_iff.mpr hname]
    rfl

/-- A number that is not at most zero is above it, or none. -/
theorem le_zero_eq_false_iff : x.le zero = false ↔ zero.lt x = true ∨ x = .nan := by
  unfold le lt
  rw [← position_eq_none_iff]
  cases x.position with
  | none => simp
  | some p =>
    rw [position_zero]
    simp

theorem positive_eq_ok_iff (key : String) : positive key v = .ok x ↔ IsTolerance v x := by
  constructor
  · intro h
    cases v with
    | integer m =>
      simp only [positive] at h
      split at h
      · cases h
      · next hpos =>
        split at h
        · next hfinite =>
          rw [← Except.ok.inj h]
          exact .integer (Int.not_le.mp hpos) hfinite
        · cases h
    | real y =>
      simp only [positive] at h
      split at h
      · cases h
      · next hle =>
        cases h
        rcases le_zero_eq_false_iff.mp (Bool.eq_false_iff.mpr hle) with hlt | rfl
        · exact .real hlt
        · exact .notANumber
    | _ => cases h
  · intro h
    cases h with
    | integer hpos hfinite =>
      simp only [positive]
      rw [if_neg (Int.not_le.mpr hpos), if_pos hfinite]
    | real hlt =>
      simp only [positive]
      rw [if_neg (Bool.eq_false_iff.mp (le_zero_eq_false_iff.mpr (.inl hlt)))]
    | notANumber => rfl

/-- The tolerance alone can be too large. -/
theorem positive_eq_tooLarge_iff (key : String) : positive key v = .error .tooLarge ↔
    ∃ n : Int, v = .integer n ∧ 0 < n ∧ ¬ (ofInt n).isFinite = true := by
  constructor
  · intro h
    cases v with
    | integer m =>
      simp only [positive] at h
      split at h
      · cases h
      · next hpos =>
        split at h
        · cases h
        · next hfinite => exact ⟨m, rfl, Int.not_le.mp hpos, hfinite⟩
    | real y =>
      simp only [positive] at h
      split at h <;> cases h
    | _ => cases h
  · rintro ⟨n, rfl, hpos, hfinite⟩
    simp only [positive]
    rw [if_neg (Int.not_le.mpr hpos), if_neg hfinite]

theorem integer_ne_tooLarge (key : String) (v : Toml) : integer key v ≠ .error .tooLarge := by
  cases v <;> exact nofun

theorem seed_ne_tooLarge (key : String) (v : Toml) :
    (integer key v).map some ≠ .error .tooLarge := by
  cases v <;> exact nofun

theorem level_ne_tooLarge (v : Toml) : level v ≠ .error .tooLarge := by
  cases v with
  | text s =>
    simp only [level]
    cases LogLevel.ofText? s <;> exact nofun
  | _ => exact nofun

section
variable {flaw : SettingsFlaw}

theorem integer_flaw (key : String) (h : integer key v = .error (.flaw flaw)) : flaw.value? = some v := by
  cases v with
  | integer n => cases h
  | _ =>
    cases h
    rfl

theorem seed_flaw (key : String) (h : (integer key v).map some = .error (.flaw flaw)) :
    flaw.value? = some v := by
  cases v with
  | integer n => cases h
  | _ =>
    cases h
    rfl

theorem positive_flaw (key : String) (h : positive key v = .error (.flaw flaw)) :
    flaw.value? = some v := by
  cases v with
  | integer n =>
    simp only [positive] at h
    split at h
    · cases h
      rfl
    · split at h <;> cases h
  | real x =>
    simp only [positive] at h
    split at h <;> cases h
    rfl
  | _ =>
    cases h
    rfl

theorem level_flaw (h : level v = .error (.flaw flaw)) : flaw.value? = some v := by
  cases v with
  | text s =>
    simp only [level] at h
    cases hlevel : LogLevel.ofText? s with
    | none =>
      rw [hlevel] at h
      cases h
      rfl
    | some l =>
      rw [hlevel] at h
      cases h
  | _ =>
    cases h
    rfl

end

end

/-! ## Tables -/

/-- The setting that a table has for a key: what its value means, or the default. -/
def IsSetting {α : Type} (table : Toml.Entries) (key : String) (default : α)
    (means : Toml → α → Prop) (a : α) : Prop :=
  (table.lookup key = none ∧ a = default) ∨ ∃ v, table.lookup key = some v ∧ means v a

theorem valueOf_eq_ok_iff {α : Type} {table : Toml.Entries} {key : String} {default a : α}
    {read : Toml → Except ReadError α} {means : Toml → α → Prop}
    (h : ∀ v a, read v = .ok a ↔ means v a) :
    valueOf table key default read = .ok a ↔ IsSetting table key default means a := by
  unfold valueOf IsSetting
  cases table.lookup key with
  | none => simp [eq_comm]
  | some v => simp [h]

theorem valueOf_eq_error_iff {α : Type} {table : Toml.Entries} {key : String} {default : α}
    {read : Toml → Except ReadError α} {e : ReadError} :
    valueOf table key default read = .error e ↔ ∃ v, table.lookup key = some v ∧ read v = .error e := by
  unfold valueOf
  cases table.lookup key with
  | none => simp
  | some v => simp

/-- **What the settings of a table are**: each stands under its key or has its default. -/
structure Accepts (table : Toml.Entries) (s : Settings) : Prop where
  virtualLayers : IsSetting table "virtual_layers" 2 IsInteger s.virtualLayers
  integerEpsilon :
    IsSetting table "integer_epsilon" (ofRatio 1 1000000000000) IsTolerance s.integerEpsilon
  randomSeed : IsSetting table "random_seed" none IsSeed s.randomSeed
  logLevel : IsSetting table "log_level" .warning IsLevel s.logLevel

/-- **What refused values are**: a value of a key that no setting can have. -/
inductive Refuses (table : Toml.Entries) (v : Toml) : Prop where
  | virtualLayers : table.lookup "virtual_layers" = some v → (∀ n, ¬ IsInteger v n) → Refuses table v
  | integerEpsilon : table.lookup "integer_epsilon" = some v → (∀ x, ¬ IsTolerance v x) → Refuses table v
  | randomSeed : table.lookup "random_seed" = some v → (∀ seed, ¬ IsSeed v seed) → Refuses table v
  | logLevel : table.lookup "log_level" = some v → (∀ l, ¬ IsLevel v l) → Refuses table v

section
variable {table : Toml.Entries} {s : Settings}

theorem ofTable_eq_ok_iff : ofTable table = .ok s ↔ Accepts table s := by
  simp only [ofTable, bind_eq_ok_iff, valueOf_eq_ok_iff fun _ _ => integer_eq_ok_iff "virtual_layers",
    valueOf_eq_ok_iff fun _ _ => positive_eq_ok_iff "integer_epsilon",
    valueOf_eq_ok_iff fun _ _ => seed_eq_ok_iff "random_seed",
    valueOf_eq_ok_iff fun _ _ => level_eq_ok_iff]
  constructor
  · rintro ⟨layers, hlayers, epsilon, hepsilon, seed, hseed, level, hlevel, h⟩
    cases h
    exact ⟨hlayers, hepsilon, hseed, hlevel⟩
  · rintro ⟨hlayers, hepsilon, hseed, hlevel⟩
    exact ⟨_, hlayers, _, hepsilon, _, hseed, _, hlevel, rfl⟩

/-- A table has a tolerance that is too large. -/
theorem ofTable_eq_tooLarge_iff : ofTable table = .error .tooLarge ↔
    (∃ n, IsSetting table "virtual_layers" 2 IsInteger n) ∧
      ∃ n : Int, table.lookup "integer_epsilon" = some (.integer n) ∧ 0 < n ∧
        ¬ (ofInt n).isFinite = true := by
  simp only [ofTable, bind_eq_error_iff, valueOf_eq_error_iff,
    valueOf_eq_ok_iff fun _ _ => integer_eq_ok_iff "virtual_layers", positive_eq_tooLarge_iff]
  constructor
  · rintro (⟨v, -, h⟩ | ⟨layers, hlayers, ⟨v, hv, n, rfl, hn⟩ | ⟨epsilon, -, ⟨v, -, h⟩ | ⟨seed, -, h⟩⟩⟩)
    · exact absurd h (integer_ne_tooLarge _ _)
    · exact ⟨⟨layers, hlayers⟩, n, hv, hn⟩
    · exact absurd h (seed_ne_tooLarge _ _)
    · rcases h with ⟨v, -, h⟩ | ⟨level, -, h⟩
      · exact absurd h (level_ne_tooLarge _)
      · cases h
  · rintro ⟨⟨layers, hlayers⟩, n, hv, hn⟩
    exact .inr ⟨layers, hlayers, .inl ⟨_, hv, n, rfl, hn⟩⟩

/-- The value of a flaw is refused. -/
theorem ofTable_flaw {flaw : SettingsFlaw} {v : Toml} (h : ofTable table = .error (.flaw flaw))
    (hvalue : flaw.value? = some v) : Refuses table v := by
  have hno {α : Type} {read : Toml → Except ReadError α} {means : Toml → α → Prop} {w : Toml}
      (hmeans : ∀ v a, read v = .ok a ↔ means v a) (hread : read w = .error (.flaw flaw)) :
      ∀ a, ¬ means w a := fun a ha => nomatch hread.symm.trans ((hmeans w a).mpr ha)
  simp only [ofTable, bind_eq_error_iff, valueOf_eq_error_iff] at h
  rcases h with ⟨w, hw, hread⟩ | ⟨layers, -, ⟨w, hw, hread⟩ | ⟨epsilon, -, ⟨w, hw, hread⟩ |
    ⟨seed, -, ⟨w, hw, hread⟩ | ⟨level, -, hreturn⟩⟩⟩⟩
  · cases hvalue.symm.trans (integer_flaw _ hread)
    exact .virtualLayers hw (hno (fun _ _ => integer_eq_ok_iff _) hread)
  · cases hvalue.symm.trans (positive_flaw _ hread)
    exact .integerEpsilon hw (hno (fun _ _ => positive_eq_ok_iff _) hread)
  · cases hvalue.symm.trans (seed_flaw _ hread)
    exact .randomSeed hw (hno (fun _ _ => seed_eq_ok_iff _) hread)
  · cases hvalue.symm.trans (level_flaw hread)
    exact .logLevel hw (hno (fun _ _ => level_eq_ok_iff) hread)
  · cases hreturn

end

/-! ## Documents -/

/-- The document that settings are read from; without a default file it is empty. -/
def DocumentOf (files : String → Option String) (file : Option String) (entries : Toml.Entries) : Prop :=
  (file = none ∧ files defaultFile = none ∧ entries = []) ∨
    ∃ text, files (file.getD defaultFile) = some text ∧ Toml.ofText? text = .ok entries

/-- The table of a document; without one it is empty. -/
def TableOf (files : String → Option String) (file : Option String) (table : Toml.Entries) : Prop :=
  ∃ entries, DocumentOf files file entries ∧
    (entries.lookup "formula" = none ∧ table = [] ∨ entries.lookup "formula" = some (.table table))

/-- The document has an integer with too many digits. -/
def TooManyDigits (files : String → Option String) (file : Option String) (digits : Nat) : Prop :=
  ∃ text, files (file.getD defaultFile) = some text ∧
    Toml.ofText? text = .error (.integerTooLong digits)

section
variable {files : String → Option String} {file : Option String} {entries table : Toml.Entries}
  {digits : Nat}

theorem TooManyDigits.lt (h : TooManyDigits files file digits) : 4300 < digits :=
  h.elim fun _ h => Toml.ofText?_integerTooLong h.2

/-- The settings of a document are those of its table. -/
theorem ofDocument_eq_ofTable (h : entries.lookup "formula" = none ∧ table = [] ∨
    entries.lookup "formula" = some (.table table)) : ofDocument entries = ofTable table := by
  unfold ofDocument
  rcases h with ⟨hnone, rfl⟩ | hsome
  · rw [hnone]
  · rw [hsome]

theorem ofDocument_cases (entries : Toml.Entries) :
    (∃ table, entries.lookup "formula" = none ∧ table = [] ∨
      entries.lookup "formula" = some (.table table)) ∨
    ofDocument entries = .error (.flaw .notTable) := by
  unfold ofDocument
  cases entries.lookup "formula" with
  | none => exact .inl ⟨[], .inl ⟨rfl, rfl⟩⟩
  | some v =>
    cases v with
    | table t => exact .inl ⟨t, .inr rfl⟩
    | _ => exact .inr rfl

/-- An empty table has the default settings. -/
theorem ofDocument_nil : ofDocument [] = .ok {} := by
  have htable : ofDocument [] = ofTable [] := ofDocument_eq_ofTable (.inl ⟨rfl, rfl⟩)
  rw [htable, ofTable_eq_ok_iff]
  exact ⟨.inl ⟨rfl, rfl⟩, .inl ⟨rfl, by dsimp only⟩, .inl ⟨rfl, rfl⟩, .inl ⟨rfl, rfl⟩⟩

theorem ofFile_of_text {text : String} (h : files (file.getD defaultFile) = some text) :
    ofFile files file = ofText? (file.getD defaultFile) text := by
  cases file with
  | none =>
    rw [Option.getD_none] at h ⊢
    simp only [ofFile, h]
  | some name =>
    rw [Option.getD_some] at h ⊢
    simp only [ofFile, h]

theorem ofFile_of_document (h : DocumentOf files file entries) :
    ∃ name, ofFile files file = (ofDocument entries).mapError (liftError name) := by
  rcases h with ⟨rfl, hfile, rfl⟩ | ⟨text, hfile, htext⟩
  · refine ⟨none, ?_⟩
    rw [ofDocument_nil]
    simp only [ofFile, hfile]
    rfl
  · refine ⟨some (file.getD defaultFile), ?_⟩
    rw [ofFile_of_text hfile]
    simp only [ofText?, htext]

theorem ofFile_of_tooManyDigits (h : TooManyDigits files file digits) :
    ofFile files file = .error (.fault (.numeralTooLong digits)) := by
  obtain ⟨text, hfile, htext⟩ := h
  rw [ofFile_of_text hfile]
  simp only [ofText?, htext]

/-- A file that is missing or no document is a failure. -/
theorem ofFile_cases (files : String → Option String) (file : Option String) :
    (∃ entries, DocumentOf files file entries) ∨ (∃ digits, TooManyDigits files file digits) ∨
      ∃ f : Failure, ofFile files file = .error (.failure f) ∧ f.kind = .settings := by
  cases hfile : files (file.getD defaultFile) with
  | none =>
    cases file with
    | none => exact .inl ⟨[], .inl ⟨rfl, hfile, rfl⟩⟩
    | some name =>
      rw [Option.getD_some] at hfile
      refine .inr (.inr ⟨.ofFile .settings "Config file not found" (some name), ?_, rfl⟩)
      simp only [ofFile, hfile]
  | some text =>
    cases htext : Toml.ofText? text with
    | ok entries => exact .inl ⟨entries, .inr ⟨text, hfile, htext⟩⟩
    | error e =>
      cases e with
      | integerTooLong digits => exact .inr (.inl ⟨digits, text, hfile, htext⟩)
      | malformed =>
        refine .inr (.inr ⟨.ofFile .settings "Invalid TOML" (some (file.getD defaultFile))
          (some .notToml), ?_, rfl⟩)
        rw [ofFile_of_text hfile]
        simp only [ofText?, htext]

end

/-! ## Errors -/

/-- The fault that an error stops with: the number is too large, or there is no message. -/
inductive ReadError.StopsWith : ReadError → Fault → Prop where
  | tooLarge : StopsWith .tooLarge .integerTooLarge
  | flaw {flaw : SettingsFlaw} {v : Toml} :
      flaw.value? = some v → v.HasLongInteger → StopsWith (.flaw flaw) .integerTooLong

/-! ## The environment variable -/

/-- The level of the environment variable, unless it is unset or empty. -/
def Overrides (env : Option String) (level l : LogLevel) : Prop :=
  (env.getD "" = "" ∧ l = level) ∨ (env.getD "" ≠ "" ∧ LogLevel.upperCased (env.getD "") = l.name)

theorem withLevel_of_empty {s : Settings} {env : Option String} (h : env.getD "" = "") :
    s.withLevel env = .ok s := by
  cases env with
  | none => rfl
  | some text =>
    obtain rfl : text = "" := h
    rfl

theorem withLevel_of_ne {s : Settings} {env : Option String} (h : env.getD "" ≠ "") :
    s.withLevel env = (level (.text (env.getD ""))).map fun l => { s with logLevel := l } := by
  cases env with
  | none => exact absurd rfl h
  | some text =>
    unfold withLevel
    split
    · next heq => cases heq
    · next heq => exact absurd (Option.some.inj heq) h
    · next heq => rw [Option.some.inj heq, Option.getD_some]

theorem withLevel_eq_ok_iff {s s' : Settings} {env : Option String} :
    s.withLevel env = .ok s' ↔ ∃ l, Overrides env s.logLevel l ∧ s' = { s with logLevel := l } := by
  unfold Overrides
  by_cases hempty : env.getD "" = ""
  · rw [withLevel_of_empty hempty]
    constructor
    · intro h
      exact ⟨s.logLevel, .inl ⟨hempty, rfl⟩, (Except.ok.inj h).symm⟩
    · rintro ⟨l, ⟨-, rfl⟩ | ⟨hne, -⟩, rfl⟩
      · rfl
      · exact absurd hempty hne
  · rw [withLevel_of_ne hempty]
    constructor
    · intro h
      cases hlevel : level (.text (env.getD "")) with
      | error e =>
        rw [hlevel] at h
        cases h
      | ok l =>
        rw [hlevel] at h
        obtain ⟨hname⟩ := level_eq_ok_iff.mp hlevel
        exact ⟨l, .inr ⟨hempty, hname⟩, (Except.ok.inj h).symm⟩
    · rintro ⟨l, ⟨heq, -⟩ | ⟨-, hname⟩, rfl⟩
      · exact absurd heq hempty
      · rw [level_eq_ok_iff.mpr (.text hname)]
        rfl

/-- The variable is text, which a message can show. -/
theorem withLevel_not_stopsWith {s : Settings} {env : Option String} {e : ReadError} {fault : Fault}
    (h : s.withLevel env = .error e) : ¬ e.StopsWith fault := by
  by_cases hempty : env.getD "" = ""
  · rw [withLevel_of_empty hempty] at h
    cases h
  · rw [withLevel_of_ne hempty] at h
    cases hlevel : level (.text (env.getD "")) with
    | ok l =>
      rw [hlevel] at h
      cases h
    | error e' =>
      rw [hlevel] at h
      cases h
      rintro (- | ⟨hvalue, hlong⟩)
      · exact level_ne_tooLarge _ hlevel
      · cases hvalue.symm.trans (level_flaw hlevel)
        cases hlong

/-! ## Runs -/

section
variable {files : String → Option String} {file env name : Option String} {s : Settings}
  {f : Failure} {fault : Fault}

theorem mapError_eq_ok_iff {r : Except ReadError Settings} :
    r.mapError (liftError name) = .ok s ↔ r = .ok s := by
  cases r with
  | error e => exact ⟨nofun, nofun⟩
  | ok a =>
    constructor <;> intro h <;> cases h <;> rfl

/-- Flaws are failures. -/
theorem mapError_eq_failure {r : Except ReadError Settings}
    (h : r.mapError (liftError name) = .error (.failure f)) : f.kind = .settings := by
  cases r with
  | error e =>
    have hlift : liftError name e = .failure f := Except.error.inj h
    cases e with
    | tooLarge => cases hlift
    | flaw flaw =>
      simp only [liftError] at hlift
      split at hlift <;> cases hlift
      rfl
  | ok a => cases h

theorem liftError_eq_fault_iff {e : ReadError} : liftError name e = .fault fault ↔ e.StopsWith fault := by
  cases e with
  | tooLarge =>
    constructor
    · intro h
      cases h
      exact .tooLarge
    · rintro ⟨⟩
      rfl
  | flaw flaw =>
    have hmessage : liftError name (.flaw flaw) = .fault fault ↔ flaw.message = .error fault := by
      simp only [liftError]
      cases flaw.message with
      | ok message => exact ⟨nofun, nofun⟩
      | error fault' => simp
    rw [hmessage, SettingsFlaw.message_eq_error_iff]
    constructor
    · rintro ⟨rfl, v, hvalue, hlong⟩
      exact .flaw hvalue hlong
    · rintro (- | ⟨hvalue, hlong⟩)
      exact ⟨rfl, _, hvalue, hlong⟩

/-- And the other errors are faults. -/
theorem mapError_eq_fault_iff {r : Except ReadError Settings} :
    r.mapError (liftError name) = .error (.fault fault) ↔ ∃ e, r = .error e ∧ e.StopsWith fault := by
  cases r with
  | error e =>
    have herror : (Except.error e : Except ReadError Settings).mapError (liftError name) =
        .error (.fault fault) ↔ liftError name e = .fault fault := ⟨Except.error.inj, congrArg _⟩
    rw [herror, liftError_eq_fault_iff]
    simp
  | ok a => exact ⟨nofun, nofun⟩

theorem ofFile_eq_ok_iff :
    ofFile files file = .ok s ↔ ∃ table, TableOf files file table ∧ Accepts table s := by
  constructor
  · intro h
    rcases ofFile_cases files file with ⟨entries, hdoc⟩ | ⟨digits, hdigits⟩ | ⟨f, hf, -⟩
    · obtain ⟨name, heq⟩ := ofFile_of_document hdoc
      rw [heq, mapError_eq_ok_iff] at h
      rcases ofDocument_cases entries with ⟨table, htable⟩ | hflaw
      · rw [ofDocument_eq_ofTable htable, ofTable_eq_ok_iff] at h
        exact ⟨table, ⟨entries, hdoc, htable⟩, h⟩
      · rw [hflaw] at h
        cases h
    · rw [ofFile_of_tooManyDigits hdigits] at h
      cases h
    · rw [hf] at h
      cases h
  · rintro ⟨table, ⟨entries, hdoc, htable⟩, haccepts⟩
    obtain ⟨name, heq⟩ := ofFile_of_document hdoc
    rw [heq, mapError_eq_ok_iff, ofDocument_eq_ofTable htable]
    exact ofTable_eq_ok_iff.mpr haccepts

theorem ofFile_eq_failure (h : ofFile files file = .error (.failure f)) : f.kind = .settings := by
  rcases ofFile_cases files file with ⟨entries, hdoc⟩ | ⟨digits, hdigits⟩ | ⟨f', hf, hkind⟩
  · obtain ⟨name, heq⟩ := ofFile_of_document hdoc
    exact mapError_eq_failure (heq.symm.trans h)
  · rw [ofFile_of_tooManyDigits hdigits] at h
    cases h
  · rw [hf] at h
    cases h
    exact hkind

theorem ofFile_eq_fault_iff : ofFile files file = .error (.fault fault) ↔
    (∃ digits, TooManyDigits files file digits ∧ fault = .numeralTooLong digits) ∨
      ∃ table e, TableOf files file table ∧ ofTable table = .error e ∧ e.StopsWith fault := by
  constructor
  · intro h
    rcases ofFile_cases files file with ⟨entries, hdoc⟩ | ⟨digits, hdigits⟩ | ⟨f, hf, -⟩
    · obtain ⟨name, heq⟩ := ofFile_of_document hdoc
      rw [heq, mapError_eq_fault_iff] at h
      obtain ⟨e, herror, hstops⟩ := h
      rcases ofDocument_cases entries with ⟨table, htable⟩ | hflaw
      · rw [ofDocument_eq_ofTable htable] at herror
        exact .inr ⟨table, e, ⟨entries, hdoc, htable⟩, herror, hstops⟩
      · rw [hflaw] at herror
        cases herror
        cases hstops with
        | flaw hvalue _ => cases hvalue
    · rw [ofFile_of_tooManyDigits hdigits] at h
      cases h
      exact .inl ⟨digits, hdigits, rfl⟩
    · rw [hf] at h
      cases h
  · rintro (⟨digits, hdigits, rfl⟩ | ⟨table, e, ⟨entries, hdoc, htable⟩, herror, hstops⟩)
    · exact ofFile_of_tooManyDigits hdigits
    · obtain ⟨name, heq⟩ := ofFile_of_document hdoc
      rw [heq, mapError_eq_fault_iff, ofDocument_eq_ofTable htable]
      exact ⟨e, herror, hstops⟩

/-- **The settings that a run is started with**: those of the table, with the level of the
environment variable. -/
theorem load_eq_ok_iff : load files file env = .ok s ↔
    ∃ table level, TableOf files file table ∧ Accepts table { s with logLevel := level } ∧
      Overrides env level s.logLevel := by
  unfold load
  rw [bind_eq_ok_iff]
  constructor
  · rintro ⟨base, hbase, h⟩
    rw [mapError_eq_ok_iff, withLevel_eq_ok_iff] at h
    obtain ⟨l, hlevel, rfl⟩ := h
    obtain ⟨table, htable, haccepts⟩ := ofFile_eq_ok_iff.mp hbase
    exact ⟨table, base.logLevel, htable, haccepts, hlevel⟩
  · rintro ⟨table, level, htable, haccepts, hlevel⟩
    refine ⟨_, ofFile_eq_ok_iff.mpr ⟨table, htable, haccepts⟩, ?_⟩
    rw [mapError_eq_ok_iff, withLevel_eq_ok_iff]
    exact ⟨s.logLevel, hlevel, rfl⟩

theorem load_eq_failure (h : load files file env = .error (.failure f)) : f.kind = .settings := by
  unfold load at h
  rw [bind_eq_error_iff] at h
  rcases h with h | ⟨base, -, h⟩
  · exact ofFile_eq_failure h
  · exact mapError_eq_failure h

/-- **The faults**: an integer of the document with too many digits, and those of its table. -/
theorem load_eq_fault_iff : load files file env = .error (.fault fault) ↔
    (∃ digits, TooManyDigits files file digits ∧ fault = .numeralTooLong digits) ∨
      ∃ table e, TableOf files file table ∧ ofTable table = .error e ∧ e.StopsWith fault := by
  unfold load
  rw [bind_eq_error_iff, ofFile_eq_fault_iff]
  refine or_iff_left ?_
  rintro ⟨base, -, h⟩
  obtain ⟨e, herror, hstops⟩ := mapError_eq_fault_iff.mp h
  exact withLevel_not_stopsWith herror hstops

end

theorem zero_lt_defaultTolerance : zero.lt (ofRatio 1 1000000000000) = true :=
  zero_lt_ofRatio Int.one_pos (by decide) (Nat.le_trans (by decide) pow_le_unitsPerOne)

/-- A tolerance is above zero, unless the document says that it is no number. -/
theorem IsSetting.tolerance {table : Toml.Entries} {key : String} {x : Binary64}
    (h : IsSetting table key (ofRatio 1 1000000000000) IsTolerance x) :
    zero.lt x = true ∨ x = .nan ∧ table.lookup key = some (.real .nan) := by
  rcases h with ⟨-, hdefault⟩ | ⟨v, hv, hmeans⟩
  · rw [hdefault]
    exact .inl zero_lt_defaultTolerance
  · cases hmeans with
    | integer hpos _ => exact .inl (zero_lt_ofRatio hpos Nat.one_pos unitsPerOne_pos)
    | real hlt => exact .inl hlt
    | notANumber => exact .inr ⟨rfl, hv⟩

/-- **Settings are valid or rejected**, or else there is a fault: for an integer of the document with too
many digits to be read, for one in a refused value, with too many to be shown, or for a tolerance beyond
the numbers. -/
theorem load_valid (files : String → Option String) (file env : Option String) :
    (∃ s table level, load files file env = .ok s ∧ TableOf files file table ∧
      Accepts table { s with logLevel := level } ∧ Overrides env level s.logLevel ∧
      (zero.lt s.integerEpsilon = true ∨
        s.integerEpsilon = .nan ∧ table.lookup "integer_epsilon" = some (.real .nan))) ∨
    (∃ f, load files file env = .error (.failure f) ∧ f.kind = .settings) ∨
    (∃ digits, load files file env = .error (.fault (.numeralTooLong digits)) ∧
      TooManyDigits files file digits ∧ 4300 < digits) ∨
    (load files file env = .error (.fault .integerTooLong) ∧
      ∃ table v, TableOf files file table ∧ Refuses table v ∧ v.HasLongInteger) ∨
    load files file env = .error (.fault .integerTooLarge) ∧
      ∃ table n, TableOf files file table ∧
        table.lookup "integer_epsilon" = some (.integer n) ∧ 2 ^ 1024 - 2 ^ 970 ≤ n := by
  cases hload : load files file env with
  | ok s =>
    obtain ⟨table, level, htable, haccepts, hlevel⟩ := load_eq_ok_iff.mp hload
    exact .inl ⟨s, table, level, rfl, htable, haccepts, hlevel, haccepts.integerEpsilon.tolerance⟩
  | error e =>
    cases e with
    | failure f => exact .inr (.inl ⟨f, rfl, load_eq_failure hload⟩)
    | fault fault =>
      rcases load_eq_fault_iff.mp hload with ⟨digits, hdigits, rfl⟩ | ⟨table, e, htable, herror, hstops⟩
      · exact .inr (.inr (.inl ⟨digits, rfl, hdigits, hdigits.lt⟩))
      · cases hstops with
        | flaw hvalue hlong =>
          exact .inr (.inr (.inr (.inl ⟨rfl, table, _, htable, ofTable_flaw herror hvalue, hlong⟩)))
        | tooLarge =>
          obtain ⟨-, n, hn, hpos, hfinite⟩ := ofTable_eq_tooLarge_iff.mp herror
          refine .inr (.inr (.inr (.inr ⟨rfl, table, n, htable, hn, ?_⟩)))
          rwa [isFinite_ofInt_iff, abs_of_pos hpos, not_lt] at hfinite

/-- But a tolerance that is no number is accepted. -/
theorem load_notANumber :
    (load (fun _ => some "[formula]\ninteger_epsilon = nan\n") (some "custom.toml") none).toOption.map
      integerEpsilon = some .nan := by
  decide +kernel

end Settings
end BrickFormula
