import Notary.Lifecycle.Process
import Notary.Proofs.CommandLine.Admission
import Notary.Proofs.Settings.Layers

namespace Notary

/-!
# Settings that a call overrules

The settings of a call are those of its file, or the defaults, with up to four members
overruled. They are checked before and after. None of the members that a check looks at can be
overruled, so the second check finds what the first one found: nothing.
-/

open CommandLine (Values settingsOf overrule readCall serverCommand)

/-- Settings that the gateway cannot run with. -/
def Settings.Unusable (s : Settings) : Prop :=
  s.listener.requestTimeout = 0 ∨ s.listener.bodyLimit = 0 ∨
    s.contextPath ≠ "" ∧ s.contextPath.toList.head? ≠ some '/'

theorem Settings.problem?_isSome_iff (s : Settings) :
    s.problem?.isSome = true ↔ s.Unusable := by
  unfold Settings.problem? Settings.Unusable
  split
  · next noTimeout => simp [noTimeout]
  · next timeout =>
      split
      · next noBody => simp [noBody]
      · next body =>
          split
          · next relative => simp [relative]
          · next absolute => simp [timeout, body, absolute]

theorem Settings.checked_of_not_unusable
    {s : Settings}
    (usable : ¬ s.Unusable) :
    s.checked = .ok s := by
  have fine : s.problem? = none := by
    rwa [← s.problem?_isSome_iff, Option.not_isSome_iff_eq_none] at usable
  rw [Settings.checked, fine]

theorem Settings.checked_of_unusable
    {s : Settings}
    (unusable : s.Unusable) :
    ∃ fault, s.checked = .error fault := by
  obtain ⟨problem, found⟩ := Option.isSome_iff_exists.mp (s.problem?_isSome_iff.mpr unusable)
  exact ⟨.invalid problem, by rw [Settings.checked, found]⟩

/-- Settings that pass the check come out unchanged, and they are usable. -/
theorem Settings.eq_of_checked
    {s checked : Settings}
    (passed : s.checked = .ok checked) :
    checked = s ∧ ¬ s.Unusable := by
  by_cases unusable : s.Unusable
  · obtain ⟨fault, failed⟩ := Settings.checked_of_unusable unusable
    rw [failed] at passed
    cases passed
  · rw [Settings.checked_of_not_unusable unusable] at passed
    cases passed
    exact ⟨rfl, unusable⟩

/-- A call overrules nothing that makes settings unusable. -/
@[simp] theorem Settings.unusable_overrule (v : Values) (s : Settings) :
    (overrule v s).Unusable ↔ s.Unusable :=
  Iff.rfl

/-- The members that a call overrules. -/
structure Overrides where
  configPath : Option String := none
  secretsEnforced : Option Bool := none
  bindAddress : Option String := none
  logLevel : Option String := none

/-- The values of a call that overrules members. -/
structure Overrides.GivenBy (o : Overrides) (v : Values) : Prop where
  configPath : v.get? "conf" = o.configPath
  secretsEnforced : v.get? "secret-enabled" = o.secretsEnforced.map toString
  bindAddress : v.get? "bind" = o.bindAddress
  logLevel : v.get? "log-level" = o.logLevel

/-- The layer that the file of a call tells; a call that names no file has an empty one. -/
inductive Settings.Layer.OfFile (files : String → Config.File) (v : Values) : Layer → Prop
  | unnamed (unnamed : v.get? "settings" = none) : OfFile files v {}
  | named {path : String} {text : List Char} {table : Toml.Table} {l : Layer}
      (named : v.get? "settings" = some path)
      (readable : (files path).read = .ok text)
      (wellFormed : Toml.readDocument text = .ok table)
      (told : l.ToldBy table) : OfFile files v l

/-- Settings each of whose members is overruled, or else told by a file, or else the default. -/
def Settings.ofLayers (o : Overrides) (file : Settings.Layer) : Settings where
  configPath := (o.configPath.or file.configPath).getD Settings.default.configPath
  secretsEnforced :=
    (o.secretsEnforced.or file.secretsEnforced).getD Settings.default.secretsEnforced
  contextPath := file.contextPath.getD Settings.default.contextPath
  listener :=
    { bindAddress := (o.bindAddress.or file.listener.bindAddress).getD Listener.default.bindAddress
      requestTimeout := file.listener.requestTimeout.getD Listener.default.requestTimeout
      bodyLimit := file.listener.bodyLimit.getD Listener.default.bodyLimit }
  observability :=
    { logLevel := (o.logLevel.or file.observability.logLevel).getD Observability.default.logLevel
      logFormat := file.observability.logFormat.getD Observability.default.logFormat
      metricsEnabled := file.observability.metricsEnabled.getD Observability.default.metricsEnabled
      metricsAddress :=
        file.observability.metricsAddress.getD Observability.default.metricsAddress }

/--
The variables of the process laid over the layer of the file are the layers in their order, with
the defaults at the bottom.
-/
theorem Overrides.GivenBy.overrule_eq
    {o : Overrides}
    {v : Values}
    (given : o.GivenBy v)
    (file : Settings.Layer) :
    overrule v (file.on .default) = .ofLayers o file := by
  have readsBack (flag : Bool) : (toString flag == "true") = flag := by
    cases flag <;> decide
  have secrets :
      (v.get? "secret-enabled").map (· == "true") = o.secretsEnforced := by
    rw [given.secretsEnforced, Option.map_map]
    simp [Function.comp_def, readsBack]
  simp only [overrule, secrets, given.configPath, given.bindAddress, given.logLevel,
    Settings.Layer.on, Listener.Layer.on, Observability.Layer.on, Settings.ofLayers,
    Option.getD_or, Settings.default]

section Calls

variable
    {files : String → Config.File}
    {v : Values}
    {s : Settings}

/-- The only texts that the option for secrets takes are those of truth values. -/
theorem CommandLine.exists_flag_of_admits
    {value : String}
    (admitted : serverCommand.Admits ("secret-enabled", value)) :
    ∃ flag : Bool, value = toString flag := by
  obtain ⟨o, known, named, admits⟩ := admitted
  simp only [serverCommand, CommandLine.serverOption, List.mem_cons, List.not_mem_nil,
    or_false] at known
  rcases known with rfl | rfl | rfl | rfl | rfl
  · simp at named
  · simp at named
  · simp at named
  · have listed : value = "true" ∨ value = "false" := by
      simpa [CommandLine.Accepts.admits] using admits
    rcases listed with rfl | rfl
    · exact ⟨true, rfl⟩
    · exact ⟨false, rfl⟩
  · simp at named

/-- Whatever an accepted call gives, it overrules some members. -/
theorem Overrides.exists_givenBy
    {e : CommandLine.Environment}
    {arguments : List String}
    {positional : Option String}
    (accepted : readCall serverCommand e .start arguments = .accepted v positional) :
    ∃ o : Overrides, o.GivenBy v := by
  have fallbacks :
      ∀ o ∈ serverCommand.options, ∀ value ∈ o.fallback, o.accepts.admits value = true := by
    simp [serverCommand, CommandLine.serverOption]
  have admitted := CommandLine.admits_of_accepted fallbacks
    (CommandLine.Reading.start_admitted serverCommand) accepted
  obtain ⟨flag?, isFlag⟩ :
      ∃ flag? : Option Bool, v.get? "secret-enabled" = flag?.map toString := by
    cases got : v.get? "secret-enabled" with
    | none =>
        exact ⟨none, rfl⟩
    | some value =>
        obtain ⟨flag, rfl⟩ :=
          CommandLine.exists_flag_of_admits (CommandLine.admits_of_get? admitted got)
        exact ⟨some flag, rfl⟩
  exact ⟨⟨v.get? "conf", flag?, v.get? "bind", v.get? "log-level"⟩, rfl, isFlag, rfl, rfl⟩

/-- The settings of a call are those of its file, with what the call overrules, if the gateway
can run with those of the file. -/
theorem Settings.Layer.OfFile.settingsOf_eq
    {file : Settings.Layer}
    (ofFile : file.OfFile files v) :
    settingsOf files v =
      (file.on .default).checked.bind fun base => (overrule v base).checked := by
  cases ofFile with
  | unnamed unnamed =>
      have fine : Settings.default.checked = .ok .default := by decide
      change _ = Settings.default.checked.bind _
      rw [settingsOf, unnamed, fine]
      rfl
  | @named path _ _ _ named readable wellFormed told =>
      have loaded : Settings.load (files path) = (file.on .default).checked := by
        rw [Settings.load, readable]
        change (Settings.ofText _).bind _ = _
        rw [Settings.ofText, wellFormed]
        dsimp only
        rw [told.read]
        rfl
      rw [settingsOf, named]
      change (Settings.load _ >>= _) = _
      rw [loaded]
      rfl

/-- What a call does not refuse, the gateway can run with. -/
theorem CommandLine.not_unusable_of_settingsOf
    (settled : settingsOf files v = .ok s) :
    ¬ s.Unusable := by
  obtain ⟨base, passed⟩ : ∃ base, (overrule v base).checked = .ok s := by
    unfold settingsOf at settled
    cases named : v.get? "settings" with
    | none =>
        rw [named] at settled
        exact ⟨.default, settled⟩
    | some path =>
        rw [named] at settled
        dsimp only at settled
        cases loaded : Settings.load (files path) with
        | error fault =>
            rw [loaded] at settled
            cases settled
        | ok base =>
            rw [loaded] at settled
            exact ⟨base, settled⟩
  obtain ⟨rfl, usable⟩ := Settings.eq_of_checked passed
  exact usable

/-- How a call comes to the gateway: with usable settings, or not at all. -/
theorem Lifecycle.launch_or_ended
    (around : Lifecycle.Surroundings)
    (e : CommandLine.Environment)
    (arguments : List String) :
    (∃ s : Settings, ¬ s.Unusable ∧
        Lifecycle.begin around e arguments = Lifecycle.launch around e s) ∨
      ∃ status output errors,
        Lifecycle.begin around e arguments = .ended status output errors .pretty [] := by
  unfold Lifecycle.begin
  split
  · exact .inr ⟨_, _, _, rfl⟩
  · exact .inr ⟨_, _, _, rfl⟩
  · exact .inr ⟨_, _, _, rfl⟩
  · exact .inr ⟨_, _, _, rfl⟩
  · exact .inr ⟨_, _, _, rfl⟩
  · split
    · exact .inr ⟨_, _, _, rfl⟩
    · next settled =>
        exact .inl ⟨_, CommandLine.not_unusable_of_settingsOf settled, rfl⟩

end Calls

/-- The settings of calls whose file and options have certain layers. -/
structure Settings.Layered
    (files : String → Config.File)
    (v : Values)
    (file : Settings.Layer)
    (o : Overrides) : Prop where
  fails_iff :
    (∃ fault, settingsOf files v = .error fault) ↔
      file.listener.requestTimeout.getD Listener.default.requestTimeout = 0 ∨
        file.listener.bodyLimit.getD Listener.default.bodyLimit = 0 ∨
        file.contextPath.getD Settings.default.contextPath ≠ "" ∧
          (file.contextPath.getD Settings.default.contextPath).toList.head? ≠ some '/'
  members : ∀ s, settingsOf files v = .ok s → s = .ofLayers o file
  /-- The second check refuses nothing that the first one passes. -/
  rechecked : ∀ (values : Values) (s : Settings), s.checked = .ok s →
    (overrule values s).checked = .ok (overrule values s)
  /-- No file and no call make settings that are unusable. -/
  received : ∀ files values s, settingsOf files values = .ok s → ¬ s.Unusable
  /-- So a process starts with usable settings, or ends before anything is logged. -/
  launched : ∀ around e arguments,
    (∃ s : Settings, ¬ s.Unusable ∧
        Lifecycle.begin around e arguments = Lifecycle.launch around e s) ∨
      ∃ status output errors,
        Lifecycle.begin around e arguments = .ended status output errors .pretty []
  /-- Calls that are accepted have options of the kind that is told of here. -/
  overruled : ∀ e arguments values positional,
    readCall serverCommand e .start arguments = .accepted values positional →
      ∃ o : Overrides, o.GivenBy values

/--
Whatever a file and the options of a call have, the settings are refused exactly if the file and
the defaults make them unusable, and otherwise every member is as the topmost layer has it.
-/
theorem Settings.layered
    {files : String → Config.File}
    {v : Values}
    {file : Settings.Layer}
    {o : Overrides}
    (ofFile : file.OfFile files v)
    (given : o.GivenBy v) :
    Settings.Layered files v file o where
  fails_iff := by
    change _ ↔ (file.on .default).Unusable
    rw [ofFile.settingsOf_eq]
    constructor
    · rintro ⟨fault, failed⟩
      by_contra usable
      rw [checked_of_not_unusable usable] at failed
      have passed : (overrule v (file.on .default)).checked = .ok _ :=
        checked_of_not_unusable (mt (unusable_overrule v _).mp usable)
      change (overrule v (file.on .default)).checked = _ at failed
      rw [passed] at failed
      cases failed
    · intro unusable
      obtain ⟨fault, failed⟩ := checked_of_unusable unusable
      exact ⟨fault, by rw [failed]; rfl⟩
  members := by
    intro s settled
    rw [ofFile.settingsOf_eq] at settled
    cases first : (file.on .default).checked with
    | error fault =>
        rw [first] at settled
        cases settled
    | ok base =>
        rw [first] at settled
        obtain ⟨rfl, -⟩ := eq_of_checked first
        obtain ⟨rfl, -⟩ := eq_of_checked settled
        exact given.overrule_eq file
  rechecked := by
    intro v s passed
    obtain ⟨-, usable⟩ := eq_of_checked passed
    exact checked_of_not_unusable (mt (unusable_overrule v s).mp usable)
  received := fun _ _ _ => CommandLine.not_unusable_of_settingsOf
  launched := Lifecycle.launch_or_ended
  overruled := fun _ _ _ _ => Overrides.exists_givenBy

/-- A file with some members at the root and in both tables, and with one that is unknown. -/
def Settings.partialText : List Char :=
  ("context_path = \"/gateway\"\nowners = [1, 2]\n" ++
    "[listener]\nmax_body_size = 5\n" ++
    "[observability]\nlog_format = \"json\"\nlog_level = \"warn\"\n").toList

/-- What the file has. -/
def Settings.partialLayer : Settings.Layer where
  contextPath := some "/gateway"
  listener := { bodyLimit := some 5 }
  observability := { logLevel := some "warn", logFormat := some .json }

/-- The file under every path. -/
def Settings.partialFiles (_ : String) : Config.File :=
  .bytes (Text.encodeUtf8 partialText)

/-- A call that names the file and overrules one member that it has and one that it lacks. -/
def Settings.partialCall : Values :=
  [("settings", "gateway.toml"), ("secret-enabled", "false"), ("log-level", "debug")]

theorem Settings.partialLayer_ofFile :
    partialLayer.OfFile partialFiles partialCall := by
  have told :
      (match Toml.readDocument partialText with
        | .ok table => decide (partialLayer.ToldBy table)
        | .error _ => false) = true := by
    decide +kernel
  have readable : (partialFiles "gateway.toml").read = .ok partialText := by
    decide +kernel
  cases wellFormed : Toml.readDocument partialText with
  | error stop =>
      rw [wellFormed] at told
      cases told
  | ok table =>
      rw [wellFormed] at told
      exact .named (by decide) readable wellFormed (of_decide_eq_true told)

/-- With overruled and told members, the others are as by default. -/
theorem Settings.layered_partial :
    settingsOf partialFiles partialCall =
      .ok
        { configPath := "conf/gateway-conf.json"
          secretsEnforced := false
          contextPath := "/gateway"
          listener := { Listener.default with bodyLimit := 5 }
          observability :=
            { Observability.default with logLevel := "debug", logFormat := .json } } := by
  have given :
      Overrides.GivenBy { secretsEnforced := some false, logLevel := some "debug" }
        partialCall := by
    constructor <;> decide
  have layered := Settings.layered partialLayer_ofFile given
  cases settled : settingsOf partialFiles partialCall with
  | error fault =>
      exact absurd (layered.fails_iff.mp ⟨fault, settled⟩) (by decide)
  | ok s =>
      rw [layered.members s settled]
      rfl

end Notary
