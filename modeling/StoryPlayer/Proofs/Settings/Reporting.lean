import StoryPlayer.Program
import StoryPlayer.Proofs.Number.Overflow

/-!
# Settings that are reported

A variable that does not make sense is reported to the user, who reads its name, and the program
ends. The one exception is a duration beyond all doubles: it is a whole number in range, and the
error of turning it into seconds leaves the program without a report.
-/

namespace StoryPlayer

theorem secondsOf_eq_error_iff {milliseconds : Nat} {error : SettingsError} :
    secondsOf milliseconds = .error error ↔
      error = .tooLong ∧ overflowPoint * 1000 ≤ milliseconds := by
  rw [← nearestDouble?_eq_none_iff (by decide)]
  unfold secondsOf
  cases nearestDouble? milliseconds 1000 with
  | none => simp [eq_comm]
  | some seconds => simp

namespace DurationSetting

variable {setting : DurationSetting} {env : Environment}

/-- The ways in which a duration is read. -/
inductive Reads (setting : DurationSetting) (env : Environment) :
    Except SettingsError Float → Prop where
  | unset (hunset : ∀ raw ∈ env.find? setting.name, raw.all isBlank) :
      Reads setting env (secondsOf setting.default)
  | notANumber {raw : Text} (hraw : env.find? setting.name = some raw)
      (hset : raw.all isBlank = false) (hvalue : readInteger? raw = none) :
      Reads setting env (.error (.notANumber setting.name raw))
  | outOfRange {raw : Text} {value : Int} (hraw : env.find? setting.name = some raw)
      (hset : raw.all isBlank = false) (hvalue : readInteger? raw = some value)
      (hrange : value ≤ 0) :
      Reads setting env (.error (.outOfRange setting.name setting.zeroAllowed value))
  | given {raw : Text} {value : Nat} (hraw : env.find? setting.name = some raw)
      (hset : raw.all isBlank = false) (hvalue : readInteger? raw = some (value : Int)) :
      Reads setting env (secondsOf value)

theorem reads_read (setting : DurationSetting) (env : Environment) :
    setting.Reads env (setting.read env) := by
  unfold read
  cases hraw : env.find? setting.name with
  | none =>
    apply Reads.unset
    simp [hraw]
  | some raw =>
    dsimp only
    by_cases hset : raw.all isBlank
    · rw [if_pos hset]
      apply Reads.unset
      intro raw' hraw'
      rw [hraw] at hraw'
      cases hraw'
      exact hset
    · rw [if_neg hset]
      rw [Bool.not_eq_true] at hset
      cases hvalue : readInteger? raw with
      | none => exact .notANumber hraw hset hvalue
      | some value =>
        dsimp only
        by_cases hrange : value < 0 ∨ (value = 0 ∧ setting.zeroAllowed = false)
        · rw [if_pos hrange]
          exact .outOfRange hraw hset hvalue (by omega)
        · rw [if_neg hrange]
          apply Reads.given hraw hset
          rw [hvalue, Int.toNat_of_nonneg (by omega)]

/-- A variable that sets a duration to more milliseconds than doubles have seconds for. -/
def Overflows (setting : DurationSetting) (env : Environment) : Prop :=
  ∃ raw value, env.find? setting.name = some raw ∧ raw.all isBlank = false ∧
    readInteger? raw = some value ∧ (overflowPoint * 1000 : Nat) ≤ value

private theorem Reads.eq_tooLong_iff {result : Except SettingsError Float}
    (h : setting.Reads env result) (hdefault : setting.default < overflowPoint * 1000) :
    result = .error .tooLong ↔ setting.Overflows env := by
  unfold Overflows
  cases h with
  | unset hunset =>
    rw [secondsOf_eq_error_iff]
    constructor
    · rintro ⟨-, hle⟩
      omega
    · rintro ⟨raw, value, hraw, hset, -⟩
      rw [hunset raw hraw] at hset
      cases hset
  | notANumber hraw hset hvalue =>
    constructor
    · intro h
      cases h
    · rintro ⟨raw, value, hraw', -, hvalue', -⟩
      obtain rfl := Option.some.inj (hraw.symm.trans hraw')
      rw [hvalue] at hvalue'
      cases hvalue'
  | outOfRange hraw hset hvalue hrange =>
    constructor
    · intro h
      cases h
    · rintro ⟨raw, value, hraw', -, hvalue', hle⟩
      obtain rfl := Option.some.inj (hraw.symm.trans hraw')
      obtain rfl := Option.some.inj (hvalue.symm.trans hvalue')
      omega
  | given hraw hset hvalue =>
    rw [secondsOf_eq_error_iff]
    constructor
    · rintro ⟨-, hle⟩
      exact ⟨_, _, hraw, hset, hvalue, Int.ofNat_le.mpr hle⟩
    · rintro ⟨raw, value, hraw', -, hvalue', hle⟩
      obtain rfl := Option.some.inj (hraw.symm.trans hraw')
      obtain rfl := Option.some.inj (hvalue.symm.trans hvalue')
      exact ⟨rfl, Int.ofNat_le.mp hle⟩

private theorem Reads.name_prefix_message {result : Except SettingsError Float}
    {error : SettingsError}
    (h : setting.Reads env result) (herror : result = .error error) (hne : error ≠ .tooLong) :
    setting.name <+: error.message := by
  cases h with
  | unset => exact absurd (secondsOf_eq_error_iff.mp herror).1 hne
  | notANumber =>
    cases herror
    exact (List.prefix_append _ _).trans (List.prefix_append _ _)
  | outOfRange =>
    cases herror
    exact (List.prefix_append _ _).trans (List.prefix_append _ _)
  | given => exact absurd (secondsOf_eq_error_iff.mp herror).1 hne

end DurationSetting

/-- An environment in which the first duration that cannot be read is beyond all doubles. -/
def Environment.Overlong (env : Environment) : Prop :=
  charSetting.Overflows env ∨
    (∃ seconds, charSetting.read env = .ok seconds) ∧ tickSetting.Overflows env

private theorem readLogLevel_eq_error {env : Environment} {error : SettingsError}
    (h : readLogLevel env = .error error) : ∃ raw, error = .unknownLevel logLevelVariable raw := by
  unfold readLogLevel at h
  dsimp only at h
  split at h
  · cases h
  · cases h
    exact ⟨_, rfl⟩

/-- The first variable that cannot be read is the error. -/
theorem ofEnvironment_eq_error_iff {env : Environment} {error : SettingsError} :
    Settings.ofEnvironment env = .error error ↔
      charSetting.read env = .error error ∨
        (∃ seconds, charSetting.read env = .ok seconds) ∧
          (tickSetting.read env = .error error ∨
            (∃ seconds, tickSetting.read env = .ok seconds) ∧ readLogLevel env = .error error) := by
  unfold Settings.ofEnvironment
  cases charSetting.read env with
  | error e => simp [bind, Except.bind]
  | ok pace =>
    cases tickSetting.read env with
    | error e => simp [bind, Except.bind]
    | ok interval => cases readLogLevel env <;> simp [bind, Except.bind, pure, Except.pure]

theorem ofEnvironment_eq_tooLong_iff (env : Environment) :
    Settings.ofEnvironment env = .error .tooLong ↔ env.Overlong := by
  have hpoint : 30 < overflowPoint * 1000 := by decide +kernel
  have hchar := (charSetting.reads_read env).eq_tooLong_iff hpoint
  have htick := (tickSetting.reads_read env).eq_tooLong_iff
    (show 16 < overflowPoint * 1000 by omega)
  have hlevel : readLogLevel env ≠ .error .tooLong := by
    intro h
    obtain ⟨raw, hraw⟩ := readLogLevel_eq_error h
    cases hraw
  rw [ofEnvironment_eq_error_iff, hchar, htick, Environment.Overlong]
  simp [hlevel]

/-- An error in the settings names the variable, if it is one to report. -/
private theorem exists_name_prefix_message {env : Environment} {error : SettingsError}
    (h : Settings.ofEnvironment env = .error error) (hne : error ≠ .tooLong) :
    ∃ name ∈ [charSetting.name, tickSetting.name, logLevelVariable], name <+: error.message := by
  rcases ofEnvironment_eq_error_iff.mp h with hchar | ⟨-, htick | ⟨-, hlevel⟩⟩
  · exact ⟨_, by simp, (charSetting.reads_read env).name_prefix_message hchar hne⟩
  · exact ⟨_, by simp, (tickSetting.reads_read env).name_prefix_message htick hne⟩
  · obtain ⟨raw, rfl⟩ := readLogLevel_eq_error hlevel
    exact ⟨logLevelVariable, by simp, (List.prefix_append _ _).trans (List.prefix_append _ _)⟩

namespace Program

def fileWarnings (startup : Startup) : List Text :=
  (malformedLines (startup.envFile.statements startup.env)).map malformedWarning

private theorem run_of_settings_error {startup : Startup} {loaded : Loaded} {error : SettingsError}
    (hload : startup.env.load (startup.envFile.statements startup.env) = .ok loaded)
    (h : Settings.ofEnvironment loaded.env = .error error) (hne : error ≠ .tooLong) (limit : Nat) :
    run limit startup =
      ⟨⟨fileWarnings startup ++ [complaint error.message], .none⟩, .exit 1, none,
        startup.stage⟩ := by
  unfold run configure
  dsimp only
  rw [hload]
  dsimp only
  rw [h]
  cases error with
  | tooLong => exact absurd rfl hne
  | notANumber => rfl
  | outOfRange => rfl
  | unknownLevel => rfl

private theorem run_of_tooLong {startup : Startup} {loaded : Loaded}
    (hload : startup.env.load (startup.envFile.statements startup.env) = .ok loaded)
    (h : Settings.ofEnvironment loaded.env = .error .tooLong) (limit : Nat) :
    run limit startup =
      ⟨⟨fileWarnings startup, .none⟩, .escape (.settings .tooLong), none, startup.stage⟩ := by
  unfold run configure
  dsimp only
  rw [hload]
  dsimp only
  rw [h]
  rfl

end Program

/-- The settings can be read, or their error is reported and the program ends; but a duration beyond
all doubles, if no variable before it is in error, leaves the program without a report. -/
theorem settings_read_or_reported (env : Environment) :
    (¬ env.Overlong →
        (∃ settings, Settings.ofEnvironment env = .ok settings) ∨
          ∃ error, Settings.ofEnvironment env = .error error ∧ error ≠ .tooLong ∧
            (∃ name ∈ [charSetting.name, tickSetting.name, logLevelVariable],
              name <+: error.message) ∧
            ∀ (limit : Nat) (startup : Startup) (loaded : Loaded),
              startup.env.load (startup.envFile.statements startup.env) = .ok loaded →
              loaded.env = env →
              Program.run limit startup =
                ⟨⟨Program.fileWarnings startup ++ [Program.complaint error.message], .none⟩,
                  .exit 1, none, startup.stage⟩) ∧
      (env.Overlong →
        Settings.ofEnvironment env = .error .tooLong ∧
          ∀ (limit : Nat) (startup : Startup) (loaded : Loaded),
            startup.env.load (startup.envFile.statements startup.env) = .ok loaded →
            loaded.env = env →
            Program.run limit startup =
              ⟨⟨Program.fileWarnings startup, .none⟩, .escape (.settings .tooLong), none,
                startup.stage⟩) := by
  constructor
  · intro hfits
    cases h : Settings.ofEnvironment env with
    | ok settings => exact .inl ⟨settings, rfl⟩
    | error error =>
      have hne : error ≠ .tooLong := by
        rintro rfl
        exact hfits ((ofEnvironment_eq_tooLong_iff env).mp h)
      refine .inr ⟨error, rfl, hne, exists_name_prefix_message h hne, ?_⟩
      rintro limit startup loaded hload rfl
      exact Program.run_of_settings_error hload h hne limit
  · intro hlong
    have h := (ofEnvironment_eq_tooLong_iff env).mpr hlong
    refine ⟨h, ?_⟩
    rintro limit startup loaded hload rfl
    exact Program.run_of_tooLong hload h limit

def Environment.single (name value : Text) : Environment := ⟨[(name, value)]⟩

private theorem find?_single (name value : Text) :
    (Environment.single name value).find? name = some value := by
  simp [Environment.single, OrderedMap.find?]

/-- A number of milliseconds with more digits than the largest double. -/
def hugeDuration : Text := '1' :: List.replicate 312 '0'

private theorem overflows_hugeDuration :
    charSetting.Overflows (.single charSetting.name hugeDuration) := by
  have hvalue : readInteger? hugeDuration = some (Nat.pow 10 312 : Nat) := by decide +kernel
  have hle : overflowPoint * 1000 ≤ Nat.pow 10 312 := by decide +kernel
  exact ⟨hugeDuration, _, find?_single _ _, rfl, hvalue, Int.ofNat_le.mpr hle⟩

/-- A start with one variable, no environment file and an empty story. -/
def Startup.single (name value : Text) : Startup :=
  ⟨.single name value, .absent, .written [], {}⟩

theorem settings_read_or_reported_of_durations :
    ¬ (Environment.single charSetting.name "soon".toList).Overlong ∧
      Program.run 0 (.single charSetting.name "soon".toList) =
        ⟨⟨[Program.complaint (SettingsError.notANumber charSetting.name "soon".toList).message],
          .none⟩, .exit 1, none, {}⟩ ∧
      (Environment.single charSetting.name hugeDuration).Overlong ∧
      Program.run 0 (.single charSetting.name hugeDuration) =
        ⟨⟨[], .none⟩, .escape (.settings .tooLong), none, {}⟩ := by
  have hsoon : Settings.ofEnvironment (.single charSetting.name "soon".toList) =
      .error (.notANumber charSetting.name "soon".toList) :=
    ofEnvironment_eq_error_iff.mpr (.inl rfl)
  have hfits : ¬ (Environment.single charSetting.name "soon".toList).Overlong := by
    rw [← ofEnvironment_eq_tooLong_iff, hsoon]
    simp
  have hlong : (Environment.single charSetting.name hugeDuration).Overlong :=
    .inl overflows_hugeDuration
  refine ⟨hfits, ?_, hlong, ?_⟩
  · rcases (settings_read_or_reported _).1 hfits with ⟨settings, h⟩ | ⟨error, h, -, -, hrun⟩
    · rw [hsoon] at h
      cases h
    · rw [hsoon] at h
      cases h
      exact hrun 0 (.single charSetting.name "soon".toList) ⟨false, _⟩ rfl rfl
  · exact ((settings_read_or_reported _).2 hlong).2 0 (.single charSetting.name hugeDuration)
      ⟨false, _⟩ rfl rfl

/-- Not every error in the settings is one to report. -/
theorem not_forall_settings_reported :
    ¬ ∀ env : Environment, (∃ settings, Settings.ofEnvironment env = .ok settings) ∨
      ∃ error, Settings.ofEnvironment env = .error error ∧ error ≠ .tooLong := by
  intro h
  have hlong := (ofEnvironment_eq_tooLong_iff _).mpr (.inl overflows_hugeDuration)
  rcases h _ with ⟨settings, hsettings⟩ | ⟨error, herror, hne⟩
  · rw [hlong] at hsettings
    cases hsettings
  · rw [hlong] at herror
    cases herror
    exact hne rfl

end StoryPlayer
