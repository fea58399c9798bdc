import Restock.Scalar.Machine
import Restock.Settings

/-!
# Overridden settings

`Settings.value` is the setting of a variable and `Settings.override` changes it. To obey a variable
is to override its setting with what its text says, or to leave it alone when there is no text that
can be read (`Settings.obey`). The settings that a deployment gets from its texts are the standard
ones after all variables were obeyed, one after the other and in any order, and the smoothing
constant was checked (`Settings.ofEnvironment_eq_foldl`). What a deployment can rely on is
`Settings.dependable_ofEnvironment`.
-/

namespace Restock

namespace Environment

/-- What was read from a text is not changed by reading the text again. -/
theorem read_read {β : Type} (env : Environment) (v : Variable) (reader : String → Option β)
    (default : β) :
    env.read v reader (env.read v reader default) = env.read v reader default := by
  unfold read
  cases (env.text? v).bind reader <;> rfl

theorem text?_eq_some_iff {env : Environment} {v : Variable} {text : String} :
    env.text? v = some text ↔ env.lookup v.name = some text ∧ text ≠ "" := by
  simp [text?, Option.filter_eq_some_iff]

theorem read_eq_of_text {β : Type} {env : Environment} {v : Variable} {reader : String → Option β}
    {default x : β} {text : String} (ht : env.text? v = some text) (hx : reader text = some x) :
    env.read v reader default = x := by
  rw [read, ht, Option.bind_some, hx]
  rfl

theorem read_eq_default {β : Type} {env : Environment} {v : Variable} {reader : String → Option β}
    {default : β} (h : ∀ text, env.text? v = some text → reader text = none) :
    env.read v reader default = default := by
  unfold read
  cases ht : env.text? v with
  | none => rfl
  | some text =>
      rw [Option.bind_some, h text ht]
      rfl

end Environment

variable {α : Type}

/-! ## Variables -/

namespace Variable

/-- What the setting of a variable is. -/
def Value (α : Type) : Variable → Type
  | databaseUrl => String
  | poolSize | maxOverflow | historyDays => Int
  | poolTimeout | smoothingAlpha => α
  | workers => Option Int
  | forecastBaseline => BaselineMethod
  | probabilityMode => ProbabilityMode

variable [Scalar α]

/-- What a text says for the setting of a variable, if it can be read. -/
def read? : (v : Variable) → String → Option (v.Value α)
  | databaseUrl => some
  | poolSize | maxOverflow | historyDays => Numeral.integerOfSetting?
  | poolTimeout | smoothingAlpha => fun s =>
      (Numeral.ofSetting? s).bind (Scalar.ofNumeral? (α := α))
  | workers => fun s => (Numeral.integerOfSetting? s).map some
  | forecastBaseline => fun s => BaselineMethod.ofName? s.toLower
  | probabilityMode => fun s => ProbabilityMode.ofName? s.toLower

/-- What becomes of a value that was read: only the smoothing constant is checked, and the standard
one takes its place when it is out of range. -/
def usable : (v : Variable) → v.Value α → v.Value α
  | smoothingAlpha => fun x => usableAlpha (α := α) x ({} : ForecastPolicy α).smoothingAlpha
  | databaseUrl | poolSize | maxOverflow | poolTimeout | workers | historyDays | forecastBaseline
  | probabilityMode => id

end Variable

variable [Scalar α]

/-! ## Settings by variable -/

namespace Settings

/-- The setting of a variable. -/
def value (s : Settings α) : (v : Variable) → v.Value α
  | .databaseUrl => s.databaseUrl
  | .poolSize => s.poolSize
  | .maxOverflow => s.maxOverflow
  | .poolTimeout => s.poolTimeoutSeconds
  | .workers => s.workers
  | .smoothingAlpha => s.forecast.smoothingAlpha
  | .historyDays => s.optimizer.historyDays
  | .forecastBaseline => s.forecast.baselineMethod
  | .probabilityMode => s.risk.probabilityMode

/-- Changes the setting of a variable. -/
def override (s : Settings α) : (v : Variable) → v.Value α → Settings α
  | .databaseUrl, x => { s with databaseUrl := x }
  | .poolSize, x => { s with poolSize := x }
  | .maxOverflow, x => { s with maxOverflow := x }
  | .poolTimeout, x => { s with poolTimeoutSeconds := x }
  | .workers, x => { s with workers := x }
  | .smoothingAlpha, x => { s with forecast := { s.forecast with smoothingAlpha := x } }
  | .historyDays, x => { s with optimizer := { s.optimizer with historyDays := x } }
  | .forecastBaseline, x => { s with forecast := { s.forecast with baselineMethod := x } }
  | .probabilityMode, x => { s with risk := { s.risk with probabilityMode := x } }

@[simp] theorem value_override_self (s : Settings α) (v : Variable) (x : v.Value α) :
    (s.override v x).value v = x := by
  cases v <;> rfl

/-- Changing one setting leaves the others alone, those of the same policy included. -/
theorem value_override_of_ne (s : Settings α) {v w : Variable} (h : w ≠ v) (x : v.Value α) :
    (s.override v x).value w = s.value w := by
  cases v <;> cases w <;> first | rfl | exact absurd rfl h

/-- Changes the settings of all variables. -/
def fill (s : Settings α) (values : (v : Variable) → v.Value α) : Settings α :=
  { s with
    databaseUrl := values .databaseUrl
    poolSize := values .poolSize
    maxOverflow := values .maxOverflow
    poolTimeoutSeconds := values .poolTimeout
    workers := values .workers
    forecast := { s.forecast with
      smoothingAlpha := values .smoothingAlpha
      baselineMethod := values .forecastBaseline }
    optimizer := { s.optimizer with historyDays := values .historyDays }
    risk := { s.risk with probabilityMode := values .probabilityMode } }

/-- What one variable changes is changed again when all are. -/
theorem fill_override (s : Settings α) (v : Variable) (x : v.Value α)
    (values : (v : Variable) → v.Value α) : (s.override v x).fill values = s.fill values := by
  cases v <;> rfl

/-! ## One variable after the other -/

/-- Overrides the setting of a variable with what its text says, if it says anything. -/
def obey (env : Environment) (s : Settings α) (v : Variable) : Settings α :=
  match (env.text? v).bind v.read? with
  | some x => s.override v x
  | none => s

/-- Puts the standard smoothing constant in the place of one that is out of range. -/
def checkAlpha (s : Settings α) : Settings α :=
  s.override .smoothingAlpha (Variable.usable (α := α) .smoothingAlpha (s.value .smoothingAlpha))

variable {env : Environment}

theorem value_obey_self (s : Settings α) (v : Variable) :
    (s.obey env v).value v = env.read v v.read? (s.value v) := by
  unfold obey Environment.read
  cases (env.text? v).bind (v.read? (α := α)) <;> simp

theorem value_obey_of_ne (s : Settings α) {v w : Variable} (h : w ≠ v) :
    (s.obey env v).value w = s.value w := by
  unfold obey
  split
  · exact s.value_override_of_ne h _
  · rfl

theorem fill_obey (s : Settings α) (v : Variable) (values : (v : Variable) → v.Value α) :
    (s.obey env v).fill values = s.fill values := by
  unfold obey
  split
  · exact s.fill_override v _ values
  · rfl

/-- After some variables were obeyed, each of them has the setting that its text says, however often
it was obeyed, and the others are as before. -/
theorem value_foldl_obey (s : Settings α) (order : List Variable) (v : Variable) :
    (order.foldl (obey env) s).value v =
      if v ∈ order then env.read v v.read? (s.value v) else s.value v := by
  induction order generalizing s with
  | nil => simp
  | cons w order ih =>
      rw [List.foldl_cons, ih]
      by_cases h : v = w
      · subst h
        simp [value_obey_self, Environment.read_read]
      · simp [value_obey_of_ne s h, h]

theorem fill_foldl_obey (s : Settings α) (order : List Variable)
    (values : (v : Variable) → v.Value α) :
    (order.foldl (obey env) s).fill values = s.fill values := by
  induction order generalizing s with
  | nil => rfl
  | cons w order ih => rw [List.foldl_cons, ih, fill_obey]

theorem checkAlpha_eq_fill (s : Settings α) :
    s.checkAlpha = s.fill fun v => v.usable (s.value v) := rfl

theorem ofEnvironment_eq_fill (env : Environment) :
    (ofEnvironment env : Settings α) = ({} : Settings α).fill fun v =>
      v.usable (env.read v v.read? (({} : Settings α).value v)) := rfl

/-- The settings are the standard ones after all variables were obeyed, in whatever order, and the
smoothing constant was checked. -/
theorem ofEnvironment_eq_foldl {order : List Variable} (h : ∀ v, v ∈ order) :
    (ofEnvironment env : Settings α) = (order.foldl (obey env) {}).checkAlpha := by
  rw [ofEnvironment_eq_fill, checkAlpha_eq_fill, fill_foldl_obey]
  simp only [value_foldl_obey, h, if_true]

theorem value_ofEnvironment (env : Environment) (v : Variable) :
    (ofEnvironment env : Settings α).value v
      = v.usable (env.read v v.read? (({} : Settings α).value v)) := by
  cases v <;> rfl

/-! ## What can be relied on -/

/-- The standard settings, of a deployment without any texts. -/
def standard : Settings Float := {}

theorem standard_smoothingAlpha :
    0 < standard.forecast.smoothingAlpha ∧ standard.forecast.smoothingAlpha ≤ 1 := by decide

/-- The standard constant stays when it is checked. -/
theorem usableAlpha_self (x : α) : usableAlpha x x = x := ite_self x

theorem usable_standard (v : Variable) : v.usable (standard.value v) = standard.value v := by
  cases v with
  | smoothingAlpha => exact usableAlpha_self standard.forecast.smoothingAlpha
  | _ => rfl

/-- A checked smoothing constant is in range, also when what was read is not even a number. -/
theorem usableAlpha_in_range (x : Float) :
    0 < usableAlpha x standard.forecast.smoothingAlpha
      ∧ usableAlpha x standard.forecast.smoothingAlpha ≤ 1 := by
  unfold usableAlpha
  split
  · assumption
  · exact standard_smoothingAlpha

/-- What can be relied on in the settings that come of named texts. -/
structure Dependable (env : Environment) (s : Settings Float) : Prop where
  /-- The forecasts get a smoothing constant in range. -/
  smoothingAlpha : 0 < s.forecast.smoothingAlpha ∧ s.forecast.smoothingAlpha ≤ 1
  /-- There is somebody to work on the products. -/
  workerCount : 1 ≤ s.workerCount
  /-- Texts that have the same under the name of a variable give it the same setting. -/
  own : ∀ v env', env'.lookup v.name = env.lookup v.name →
    (ofEnvironment env').value v = s.value v
  /-- A text that can be read is followed. -/
  followed : ∀ v text x, env.lookup v.name = some text → text ≠ "" → v.read? text = some x →
    s.value v = v.usable x
  /-- A variable with no text, or an empty one, or one that cannot be read has its default. -/
  default : ∀ v, (∀ text, env.lookup v.name = some text → text ≠ "" →
    v.read? (α := Float) text = none) → s.value v = standard.value v
  /-- What has no variable is as standard. -/
  others : s.fill standard.value = standard
  /-- The variables can be obeyed in any order. -/
  inAnyOrder : ∀ order : List Variable, (∀ v, v ∈ order) →
    s = (order.foldl (obey env) standard).checkAlpha

/-- **Any texts give settings that can be relied on.** -/
theorem dependable_ofEnvironment (env : Environment) : Dependable env (ofEnvironment env) := by
  constructor
  case smoothingAlpha => exact usableAlpha_in_range _
  case workerCount => exact Int.le_max_left _ _
  case own =>
    intro v env' h
    rw [value_ofEnvironment, value_ofEnvironment, Environment.read, Environment.read,
      Environment.text?, Environment.text?, h]
  case followed =>
    intro v text x ht hne hx
    rw [value_ofEnvironment,
      Environment.read_eq_of_text (Environment.text?_eq_some_iff.2 ⟨ht, hne⟩) hx]
  case default =>
    intro v h
    have hread (text : String) (ht : env.text? v = some text) :
        v.read? (α := Float) text = none := by
      obtain ⟨ht, hne⟩ := Environment.text?_eq_some_iff.1 ht
      exact h text ht hne
    rw [value_ofEnvironment, Environment.read_eq_default hread]
    exact usable_standard v
  case others => rfl
  case inAnyOrder => exact fun _ => ofEnvironment_eq_foldl

/-- Neither a negative count nor what is not a number gets through. -/
example :
    let s : Settings Float :=
      ofEnvironment [(Variable.workers.name, "-3"), (Variable.smoothingAlpha.name, "nan")]
    s.workers = some (-3) ∧ s.workerCount = 1 ∧ s.forecast.smoothingAlpha = 0.3 := by
  decide

end Settings

end Restock
