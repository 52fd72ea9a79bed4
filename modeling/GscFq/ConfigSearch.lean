import GscFq.Sanitize
import GscFq.ValidateTwice

/-!
Which file a process is configured from: the one named on the command line, or else the first of the usual
files that exists and loads. The command line, the file system and the TOML parser are arguments; `none` is
the panic of the sanitizer.
-/

namespace GscFq.ConfigLoader

open Text

inductive ReadError where
  | notFound
  | other (text : String)
  deriving DecidableEq, Repr

/-- The two `ConfigError`s only the reading of a file gives, and all others. -/
inductive LoadError where
  | configFileNotFound (text : String)
  | readFailed (text : String)
  | app (e : AppError)
  deriving DecidableEq

structure Environment where
  args : List String
  isThere : String → Bool
  readToString : String → Except ReadError String
  debugPath : String → String

/-- From the second argument on. -/
def configFlag : List String → Option String
  | arg :: path :: rest => if arg = "-c" ∨ arg = "--config" then some path else configFlag (path :: rest)
  | _ => none

def getCliConfigPath (env : Environment) : Option String := configFlag env.args.tail

def getConfigSearchPaths : List String := ["default.toml", "config.toml", "gsc-fq.toml"]

variable (fromToml : String → Except TomlError ConfigFile)

def loadFromFile (env : Environment) (path : String) : Option (Except LoadError ConfigFile) :=
  match env.readToString path with
  | .error .notFound => some (.error (.configFileNotFound path))
  | .error (.other text) => some (.error (.readFailed ("Failed to read config file '" ++ path ++ "': " ++ text)))
  | .ok content => (loadFromStr fromToml content).map (·.mapError .app)

def searchFrom (env : Environment) : List String → Option (Except LoadError (ConfigFile × String))
  | [] => some (.error (.configFileNotFound ("No configuration file found. Searched: [" ++
      String.intercalate ", " (getConfigSearchPaths.map env.debugPath) ++ "]")))
  | path :: rest =>
    if env.isThere path then
      match loadFromFile fromToml env path with
      | none => none
      | some (.ok config) => some (.ok (config, path))
      | some (.error _) => searchFrom env rest
    else searchFrom env rest

def loadWithSearch (env : Environment) : Option (Except LoadError (ConfigFile × String)) :=
  match getCliConfigPath env with
  | some path =>
    if env.isThere path then (loadFromFile fromToml env path).map (·.map (·, path))
    else some (.error (.configFileNotFound ("CLI specified config file not found: " ++ env.debugPath path)))
  | none => searchFrom fromToml env getConfigSearchPaths

variable {fromToml}

/-- The file is there, and its text sanitized, parsed and validated is the configuration. -/
def Loads (fromToml : String → Except TomlError ConfigFile) (env : Environment) (path : String)
    (config : ConfigFile) : Prop :=
  env.isThere path = true ∧
    ∃ content, env.readToString path = .ok content ∧ loadFromStr fromToml content = some (.ok config)

def Skipped (fromToml : String → Except TomlError ConfigFile) (env : Environment) (path : String) : Prop :=
  env.isThere path = false ∨ ∃ e, loadFromFile fromToml env path = some (.error e)

theorem loadFromFile_ok_iff {env : Environment} {path : String} {config : ConfigFile} :
    loadFromFile fromToml env path = some (.ok config) ↔
      ∃ content, env.readToString path = .ok content ∧ loadFromStr fromToml content = some (.ok config) := by
  unfold loadFromFile
  cases hr : env.readToString path with
  | error e => cases e <;> simp
  | ok content =>
    cases hl : loadFromStr fromToml content with
    | none => simp [hl]
    | some result => cases result <;> simp [hl, Except.mapError]

theorem Loads.not_skipped {env : Environment} {path : String} {config : ConfigFile} (h : Loads fromToml env path config) :
    ¬ Skipped fromToml env path := by
  rintro (hno | ⟨e, he⟩)
  · rw [h.1] at hno
    cases hno
  · rw [loadFromFile_ok_iff.mpr h.2] at he
    cases he

theorem first_cons_iff {S : String → Prop} {q path : String} {rest : List String} :
    (∃ before after, q :: rest = before ++ path :: after ∧ ∀ p ∈ before, S p) ↔
      q = path ∨ S q ∧ ∃ before after, rest = before ++ path :: after ∧ ∀ p ∈ before, S p := by
  constructor
  · rintro ⟨before, after, hsplit, hall⟩
    cases before with
    | nil => exact Or.inl (List.cons.inj hsplit).1
    | cons p before =>
      obtain ⟨rfl, hrest⟩ := List.cons.inj hsplit
      obtain ⟨hp, hbefore⟩ := List.forall_mem_cons.mp hall
      exact Or.inr ⟨hp, before, after, hrest, hbefore⟩
  · rintro (rfl | ⟨hq, before, after, rfl, hall⟩)
    · exact ⟨[], rest, rfl, by simp⟩
    · exact ⟨q :: before, after, rfl, List.forall_mem_cons.mpr ⟨hq, hall⟩⟩

theorem searchFrom_ok_iff {env : Environment} {paths : List String} {config : ConfigFile} {path : String} :
    searchFrom fromToml env paths = some (.ok (config, path)) ↔ Loads fromToml env path config ∧
      ∃ before after, paths = before ++ path :: after ∧ ∀ q ∈ before, Skipped fromToml env q := by
  induction paths with
  | nil => simp [searchFrom]
  | cons q rest ih =>
    have hskip (hq : Skipped fromToml env q) : searchFrom fromToml env rest = some (.ok (config, path)) ↔
        Loads fromToml env path config ∧ (q = path ∨ Skipped fromToml env q ∧
          ∃ before after, rest = before ++ path :: after ∧ ∀ p ∈ before, Skipped fromToml env p) := by
      rw [ih]
      apply and_congr_right
      intro hload
      have hne : q ≠ path := fun heq => hload.not_skipped (heq ▸ hq)
      simp [hne, hq]
    rw [first_cons_iff, searchFrom]
    split
    · rename_i hthere
      cases hl : loadFromFile fromToml env q with
      | none =>
        have hno : ¬ Skipped fromToml env q := by simp [Skipped, hthere, hl]
        have hnot (hload : Loads fromToml env path config) : q ≠ path := by
          rintro rfl
          rw [loadFromFile_ok_iff.mpr hload.2] at hl
          cases hl
        simpa [hno] using hnot
      | some result =>
        cases result with
        | error e => exact hskip (Or.inr ⟨e, hl⟩)
        | ok found =>
          have hfound : Loads fromToml env q found := ⟨hthere, loadFromFile_ok_iff.mp hl⟩
          simp only [hfound.not_skipped, false_and, or_false, Option.some.injEq, Except.ok.injEq, Prod.mk.injEq]
          constructor
          · rintro ⟨rfl, rfl⟩
            exact ⟨hfound, rfl⟩
          · rintro ⟨hload, rfl⟩
            have hsame := (loadFromFile_ok_iff.mpr hload.2).symm.trans hl
            exact ⟨(Except.ok.inj (Option.some.inj hsame)).symm, rfl⟩
    · rename_i hthere
      exact hskip (Or.inl (by simpa using hthere))

theorem loadFromStr_valid {content : String} {config : ConfigFile} (h : loadFromStr fromToml content = some (.ok config)) :
    config.WellFormed ∧ config.Settled := by
  obtain ⟨result, hr, hc⟩ := Option.map_eq_some_iff.mp h
  cases result with
  | error e => cases hc
  | ok loaded =>
    obtain ⟨accepted, warnings⟩ := loaded
    obtain rfl := Except.ok.inj hc
    obtain ⟨⟨sanitized, before⟩, -, hr⟩ := Option.map_eq_some_iff.mp hr
    dsimp only at hr
    split at hr
    · cases hr
    · rename_i parsed hparsed
      split at hr
      · cases hr
      · rename_i validated more hv
        obtain ⟨rfl, -⟩ := Prod.mk.inj (Except.ok.inj hr)
        exact validate_wellFormed hv

/-- The two ways to choose a file. -/
def Chosen (fromToml : String → Except TomlError ConfigFile) (env : Environment) (path : String) : Prop :=
  match getCliConfigPath env with
  | some cli => path = cli
  | none => ∃ before after, getConfigSearchPaths = before ++ path :: after ∧
      ∀ q ∈ before, Skipped fromToml env q

theorem loadWithSearch_ok_iff {env : Environment} {config : ConfigFile} {path : String} :
    loadWithSearch fromToml env = some (.ok (config, path)) ↔
      Loads fromToml env path config ∧ Chosen fromToml env path := by
  unfold loadWithSearch Chosen
  cases getCliConfigPath env with
  | none => exact searchFrom_ok_iff
  | some cli =>
    dsimp only
    split
    · rename_i hthere
      constructor
      · intro h
        obtain ⟨result, hr, hok⟩ := Option.map_eq_some_iff.mp h
        cases result with
        | error e => cases hok
        | ok found =>
          obtain ⟨rfl, rfl⟩ := Prod.mk.inj (Except.ok.inj hok)
          exact ⟨⟨hthere, loadFromFile_ok_iff.mp hr⟩, rfl⟩
      · rintro ⟨hload, rfl⟩
        rw [loadFromFile_ok_iff.mpr hload.2]
        rfl
    · rename_i hthere
      simp only [Option.some.injEq, reduceCtorEq, false_iff]
      rintro ⟨hload, rfl⟩
      exact hthere hload.1

/-- What a process runs on: exactly a file that loads and is chosen, always a configuration that a second
validation accepts as it is, and with a path on the command line nothing but that path. -/
theorem configuration_found (fromToml : String → Except TomlError ConfigFile) (env : Environment) :
    (∀ config path, loadWithSearch fromToml env = some (.ok (config, path)) ↔
      Loads fromToml env path config ∧ Chosen fromToml env path) ∧
    (∀ config path, loadWithSearch fromToml env = some (.ok (config, path)) →
      config.WellFormed ∧ ∃ warnings, config.validate = (config, .ok warnings)) ∧
    ∀ cli, getCliConfigPath env = some cli → ∀ isThere readToString, isThere cli = env.isThere cli →
      readToString cli = env.readToString cli →
      loadWithSearch fromToml { env with isThere := isThere, readToString := readToString } =
        loadWithSearch fromToml env := by
  refine ⟨fun _ _ => loadWithSearch_ok_iff, ?_, ?_⟩
  · intro config path h
    obtain ⟨⟨-, content, -, hload⟩, -⟩ := loadWithSearch_ok_iff.mp h
    obtain ⟨hwell, hsettled⟩ := loadFromStr_valid hload
    exact ⟨hwell, _, validate_ok_iff.mpr ⟨hwell, (validateReport_of_settled hsettled).symm, rfl⟩⟩
  · intro cli hcli isThere readToString hthere hread
    have hsame : getCliConfigPath { env with isThere := isThere, readToString := readToString } = some cli := hcli
    simp only [loadWithSearch, hcli, hsame, hthere, loadFromFile, hread]

end GscFq.ConfigLoader
