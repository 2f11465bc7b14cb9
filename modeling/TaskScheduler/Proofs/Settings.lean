import TaskScheduler.Config.Summary

/-
  Settings and the variables that they are taken from.

  `Environment.value?` is the text of a variable, if it is set, is UTF-8 and can be read.
  `Settings.load_text`: what is shown for a variable depends on that alone, so a variable that
  cannot be read leaves its setting at the default (`Settings.load_unset`) and the others alone.
  `Settings.Loaded`: the settings that can be loaded, with the range of each.
  `Settings.load_loaded`: there are no others. `Settings.load_assign`: each of them is loaded again
  when what is shown of it is put back into the variables.
-/
namespace TaskScheduler

open Text

/-- The variables that settings are taken from. -/
inductive Variable where
  | corePoolSize
  | keepAliveSecs
  | threadStackSize
  | pumpIdleMs
  | transferRetries
  | transferBackoffMs
  | runDelayedOnShutdown
  | shutdownTimeout
  | logFormat
  | logLevel
deriving DecidableEq, Repr

namespace Variable

def name : Variable → String
  | corePoolSize => "GG_SCHED_CORE_POOL_SIZE"
  | keepAliveSecs => "GG_SCHED_KEEP_ALIVE_SECS"
  | threadStackSize => "GG_SCHED_THREAD_STACK_SIZE"
  | pumpIdleMs => "GG_SCHED_PUMP_IDLE_MS"
  | transferRetries => "GG_SCHED_TRANSFER_RETRIES"
  | transferBackoffMs => "GG_SCHED_TRANSFER_BACKOFF_MS"
  | runDelayedOnShutdown => "GG_SCHED_RUN_DELAYED_ON_SHUTDOWN"
  | shutdownTimeout => "GG_SCHED_SHUTDOWN_TIMEOUT"
  | logFormat => "GG_SCHED_LOG_FORMAT"
  | logLevel => "GG_SCHED_LOG_LEVEL"

def all : List Variable :=
  [corePoolSize, keepAliveSecs, threadStackSize, pumpIdleMs, transferRetries, transferBackoffMs,
    runDelayedOnShutdown, shutdownTimeout, logFormat, logLevel]

/-- The variable can be read from this text: as a number that fits, a truth value, the name of a
format, or anything that is not blank. -/
def reads (v : Variable) (text : String) : Bool :=
  match v with
  | transferRetries => (Numeral.parseBelow? UInt32.size (trim text)).isSome
  | runDelayedOnShutdown => (Environment.truth? (toLowerAscii (trim text))).isSome
  | logFormat => (LogFormat.parse text).toOption.isSome
  | logLevel => trim text ≠ ""
  | _ => (Numeral.parseBelow? wordBound (trim text)).isSome

theorem find?_name (v : Variable) : all.find? (·.name = v.name) = some v := by
  cases v <;> decide

end Variable

/-- What a summary shows for a variable. -/
def ConfigSummary.text (c : ConfigSummary) : Variable → String
  | .corePoolSize => Numeral.ofNat c.corePoolSize
  | .keepAliveSecs => Numeral.ofNat c.keepAliveSecs
  | .threadStackSize => Numeral.ofNat c.threadStackSize
  | .pumpIdleMs => Numeral.ofNat c.pumpIdleMs
  | .transferRetries => Numeral.ofNat c.transferRetryLimit
  | .transferBackoffMs => Numeral.ofNat c.transferRetryBackoffMs
  | .runDelayedOnShutdown => if c.runDelayedOnShutdown then "true" else "false"
  | .shutdownTimeout => Numeral.ofNat c.shutdownTimeoutSecs
  | .logFormat => c.logFormat
  | .logLevel => c.logLevel

namespace Environment

variable {env env' : Environment} {c : ConfigSummary} {v : Variable}

/-- The text of a variable, if it is set, is UTF-8 and can be read. -/
def value? (env : Environment) (v : Variable) : Option String := (env.text? v.name).filter v.reads

/-- An environment in which nothing is set. -/
def unset : Environment := fun _ => none

/-- Sets every variable to what a summary shows for it. -/
def assign (env : Environment) (c : ConfigSummary) : Environment := fun name =>
  match Variable.all.find? (·.name = name) with
  | some v => some (c.text v).toUTF8
  | none => env name

theorem fromUTF8?_toUTF8 (text : String) : String.fromUTF8? text.toUTF8 = some text :=
  dif_pos text.isValidUTF8

theorem text?_assign (env : Environment) (c : ConfigSummary) (v : Variable) :
    (env.assign c).text? v.name = some (c.text v) := by
  rw [text?, assign, v.find?_name]
  exact fromUTF8?_toUTF8 (c.text v)

/-- Nothing can be read of a variable that is not set, or holds what is not UTF-8 or cannot be
read. -/
inductive Unreadable (env : Environment) (v : Variable) : Prop where
  | missing : env v.name = none → Unreadable env v
  | notText {bytes : ByteArray} : env v.name = some bytes → String.fromUTF8? bytes = none →
      Unreadable env v
  | malformed {text : String} : env v.name = some text.toUTF8 → v.reads text = false →
      Unreadable env v

theorem Unreadable.value? (h : Unreadable env v) : env.value? v = none := by
  rw [Environment.value?, text?]
  cases h with
  | missing hnone => rw [hnone, Option.bind_none, Option.filter_none]
  | notText hbytes hnone => rw [hbytes, Option.bind_some, hnone, Option.filter_none]
  | malformed htext hnot =>
    rw [htext, Option.bind_some, fromUTF8?_toUTF8, Option.filter_some, hnot]
    rfl

/-- A text that cannot be read is as good as none. -/
theorem bind_value? {β : Type} {f : String → Option β} (h : ∀ t, v.reads t = (f t).isSome)
    (env : Environment) : (env.value? v).bind f = (env.text? v.name).bind f := by
  rw [value?]
  cases env.text? v.name with
  | none => rfl
  | some t =>
    rw [Option.filter_some, h t]
    cases hf : f t <;> simp [hf]

/-! ## Numbers and truth values -/

/-- A number depends on what can be read of its variable. -/
theorem number_congr {bound default : Nat} (hsame : env.value? v = env'.value? v)
    (hreads : ∀ t, v.reads t = (Numeral.parseBelow? bound (trim t)).isSome) :
    env.number bound v.name default = env'.number bound v.name default := by
  rw [number, number, ← bind_value? hreads, hsame, bind_value? hreads]

theorem flag_congr {default : Bool} (hsame : env.value? v = env'.value? v)
    (hreads : ∀ t, v.reads t = (truth? (toLowerAscii (trim t))).isSome) :
    env.flag v.name default = env'.flag v.name default := by
  rw [flag, flag, ← bind_value? hreads, hsame, bind_value? hreads]

theorem trim_ofNat (n : Nat) : trim (Numeral.ofNat n) = Numeral.ofNat n :=
  trim_ofList fun _ hc => isBlank_of_isDigit (Numeral.isDigit_of_mem_digits hc)

/-- A number that was written is read again. -/
theorem number_assign {bound default n : Nat} (htext : c.text v = Numeral.ofNat n)
    (hn : n < bound) : (env.assign c).number bound v.name default = n := by
  rw [number, text?_assign, htext, Option.bind_some, trim_ofNat, Numeral.parseBelow?_ofNat hn]
  rfl

theorem flag_assign {default flag : Bool} (htext : c.text v = if flag then "true" else "false") :
    (env.assign c).flag v.name default = flag := by
  have hread : truth? (toLowerAscii (trim (c.text v))) = some flag := by
    rw [htext]
    cases flag <;> decide
  rw [Environment.flag, text?_assign, Option.bind_some, hread, Option.getD_some]

/-- A number that is read fits. -/
theorem number_lt {bound default : Nat} {name : String} (hdefault : default < bound) :
    env.number bound name default < bound := by
  unfold number
  cases hread : (env.text? name).bind fun t => Numeral.parseBelow? bound (trim t) with
  | none => exact hdefault
  | some n =>
    obtain ⟨t, -, hparse⟩ := Option.bind_eq_some_iff.mp hread
    exact of_decide_eq_true (Option.filter_eq_some_iff.mp hparse).2

end Environment

theorem le_clamp {low high n : Nat} : low ≤ clamp low high n := Nat.le_max_left ..

theorem clamp_le {low high n : Nat} (h : low ≤ high) : clamp low high n ≤ high :=
  Nat.max_le.mpr ⟨h, Nat.min_le_left ..⟩

theorem clamp_eq_self {low high n : Nat} (hlow : low ≤ n) (hhigh : n ≤ high) :
    clamp low high n = n := by
  rw [clamp, Nat.min_eq_right hhigh, Nat.max_eq_right hlow]

theorem LogFormat.parse_tag (f : LogFormat) : (LogFormat.parse f.tag).toOption = some f := by
  cases f <;> decide

namespace Settings

variable {processors : Nat} {env env' : Environment} {s : Settings} {v : Variable}

/-- The settings that can be loaded. -/
structure Loaded (s : Settings) : Prop where
  coreSize : 1 ≤ s.service.pool.coreSize ∧ s.service.pool.coreSize ≤ 4096
  keepAlive : .ofSeconds 1 ≤ s.service.pool.keepAlive
  keepAlive_whole : s.service.pool.keepAlive.subsecNanos = 0
  nameStem : s.service.pool.nameStem = "gg-sched-worker"
  stackSize : s.service.pool.stackSize = 0 ∨ 65536 ≤ s.service.pool.stackSize
  stackSize_lt : s.service.pool.stackSize < wordBound
  idleTimeout : .ofMillis 10 ≤ s.service.dispatcher.idleTimeout
  idleTimeout_whole : s.service.dispatcher.idleTimeout.nanos % nanosPerMilli = 0
  idleTimeout_lt : s.service.dispatcher.idleTimeout.millis < wordBound
  retryLimit : 1 ≤ s.service.dispatcher.retryLimit ∧ s.service.dispatcher.retryLimit ≤ 100
  retryBackoff : .ofMillis 1 ≤ s.service.dispatcher.retryBackoff ∧
    s.service.dispatcher.retryBackoff ≤ .ofMillis 1000
  retryBackoff_whole : s.service.dispatcher.retryBackoff.nanos % nanosPerMilli = 0
  shutdownTimeout : .ofSeconds 1 ≤ s.shutdownTimeout
  shutdownTimeout_whole : s.shutdownTimeout.subsecNanos = 0
  level : trim s.log.level ≠ ""
  file : s.log.file = none

/-! ## What is loaded -/

theorem ofSeconds_floor {n : Nat} (h : n < wordBound) :
    .ofSeconds 1 ≤ Duration.ofSeconds (max 1 n) ∧
      (Duration.ofSeconds (max 1 n)).subsecNanos = 0 := by
  have hmax : max 1 n < wordBound := Nat.max_lt.mpr ⟨by decide, h⟩
  constructor
  · rw [← Duration.le_seconds_iff (by decide), Duration.seconds_ofSeconds hmax]
    exact Nat.le_max_left ..
  · rw [Duration.subsecNanos, Duration.nanos_ofSeconds hmax, Nat.mul_mod_left]

theorem ofMillis_whole {n : Nat} (h : n < wordBound) :
    (Duration.ofMillis n).nanos % nanosPerMilli = 0 := by
  rw [Duration.nanos_ofMillis h, Nat.mul_mod_left]

theorem ofMillis_le {n m : Nat} (hn : n < wordBound) (hm : m < wordBound) (h : n ≤ m) :
    Duration.ofMillis n ≤ .ofMillis m := by
  rw [← Duration.le_millis_iff hn, Duration.millis_ofMillis hm]
  exact h

theorem stackSizeFor_loaded {n : Nat} (h : n < wordBound) :
    (stackSizeFor n = 0 ∨ 65536 ≤ stackSizeFor n) ∧ stackSizeFor n < wordBound := by
  unfold stackSizeFor wordBound at *
  split <;> omega

theorem retryLimit_loaded (n : Nat) :
    1 ≤ UInt32.ofNat (clamp 1 100 n) ∧ UInt32.ofNat (clamp 1 100 n) ≤ 100 := by
  have hlow : 1 ≤ clamp 1 100 n := le_clamp
  have hhigh : clamp 1 100 n ≤ 100 := clamp_le (by decide)
  have hsame : (UInt32.ofNat (clamp 1 100 n)).toNat = clamp 1 100 n :=
    UInt32.toNat_ofNat_of_lt' (Nat.lt_of_le_of_lt hhigh (by decide))
  rw [UInt32.le_iff_toNat_le, UInt32.le_iff_toNat_le, hsame]
  exact ⟨hlow, hhigh⟩

theorem loadLog_level (env : Environment) : trim (loadLog env).level ≠ "" := by
  have hdefault : trim LogConfig.standard.level ≠ "" := by decide
  show trim (((env.text? "GG_SCHED_LOG_LEVEL").filter (trim · ≠ "")).getD _) ≠ ""
  cases hread : (env.text? "GG_SCHED_LOG_LEVEL").filter (trim · ≠ "") with
  | none => exact hdefault
  | some level => exact of_decide_eq_true (Option.filter_eq_some_iff.mp hread).2

/-- Whatever the environment holds, what is loaded from it is in its range. -/
theorem load_loaded (processors : Nat) (env : Environment) : Loaded (load processors env) := by
  have hstack := stackSizeFor_loaded (n := env.number wordBound "GG_SCHED_THREAD_STACK_SIZE" 0)
    (Environment.number_lt (by decide))
  have hdefault : DispatcherConfig.standard.idleTimeout.millis < wordBound := by decide
  have hidle {name : String} : max 10 (env.number wordBound name _) < wordBound :=
    Nat.max_lt.mpr ⟨by decide, Environment.number_lt hdefault⟩
  have hbackoff : ∀ n, clamp 1 1000 n < wordBound :=
    fun n => Nat.lt_of_le_of_lt (clamp_le (by decide)) (by decide)
  exact {
    coreSize := ⟨le_clamp, clamp_le (by decide)⟩
    keepAlive := (ofSeconds_floor (Environment.number_lt (Duration.seconds_lt _))).1
    keepAlive_whole := (ofSeconds_floor (Environment.number_lt (Duration.seconds_lt _))).2
    nameStem := rfl
    stackSize := hstack.1
    stackSize_lt := hstack.2
    idleTimeout := ofMillis_le (by decide) hidle (Nat.le_max_left ..)
    idleTimeout_whole := ofMillis_whole hidle
    idleTimeout_lt := Nat.lt_of_le_of_lt (Nat.le_of_eq (Duration.millis_ofMillis hidle)) hidle
    retryLimit := retryLimit_loaded _
    retryBackoff := ⟨ofMillis_le (by decide) (hbackoff _) le_clamp,
      ofMillis_le (hbackoff _) (by decide) (clamp_le (by decide))⟩
    retryBackoff_whole := ofMillis_whole (hbackoff _)
    shutdownTimeout := (ofSeconds_floor (Environment.number_lt (by decide))).1
    shutdownTimeout_whole := (ofSeconds_floor (Environment.number_lt (by decide))).2
    level := loadLog_level env
    file := rfl }

/-- What is shown for a variable depends on what can be read of it. -/
theorem load_text (processors : Nat) (hsame : env.value? v = env'.value? v) :
    (load processors env).summary.text v = (load processors env').summary.text v := by
  have hnumber {bound default : Nat}
      (hreads : ∀ t, v.reads t = (Numeral.parseBelow? bound (trim t)).isSome) :
      env.number bound v.name default = env'.number bound v.name default :=
    Environment.number_congr hsame hreads
  cases v with
  | corePoolSize =>
    exact congrArg (fun n => Numeral.ofNat (clamp 1 4096 n)) (hnumber fun _ => rfl)
  | keepAliveSecs =>
    exact congrArg (fun n => Numeral.ofNat (Duration.ofSeconds (max 1 n)).seconds)
      (hnumber fun _ => rfl)
  | threadStackSize =>
    exact congrArg (fun n => Numeral.ofNat (stackSizeFor n)) (hnumber fun _ => rfl)
  | pumpIdleMs =>
    exact congrArg (fun n => Numeral.ofNat ((Duration.ofMillis (max 10 n)).millis % wordBound))
      (hnumber fun _ => rfl)
  | transferRetries =>
    exact congrArg (fun n => Numeral.ofNat (UInt32.ofNat (clamp 1 100 n)).toNat)
      (hnumber fun _ => rfl)
  | transferBackoffMs =>
    exact congrArg
      (fun n => Numeral.ofNat ((Duration.ofMillis (clamp 1 1000 n)).millis % wordBound))
      (hnumber fun _ => rfl)
  | runDelayedOnShutdown =>
    exact congrArg (fun b : Bool => if b then "true" else "false")
      (Environment.flag_congr hsame fun _ => rfl)
  | shutdownTimeout =>
    exact congrArg (fun n => Numeral.ofNat (Duration.ofSeconds (max 1 n)).seconds)
      (hnumber fun _ => rfl)
  | logFormat =>
    have hreads : ∀ t, Variable.reads .logFormat t = (LogFormat.parse t).toOption.isSome :=
      fun _ => rfl
    have hformat := Environment.bind_value? hreads env
    rw [hsame, Environment.bind_value? hreads env'] at hformat
    exact congrArg (fun o => (Option.getD o LogFormat.json).tag) hformat.symm
  | logLevel =>
    have hlevel (env : Environment) : (load processors env).summary.text .logLevel =
        (env.value? .logLevel).getD LogConfig.standard.level := rfl
    rw [hlevel, hlevel, hsame]

/-- The settings of a machine on which no variable is set: the standard ones, of which the core size
is moved into its range. -/
def fallback (processors : Nat) : Settings :=
  { standard processors with
    service.pool.coreSize := clamp 1 4096 (PoolConfig.defaultCoreSize processors) }

theorem load_unset (processors : Nat) : load processors .unset = fallback processors := by
  have hpool : loadPool processors .unset = (fallback processors).service.pool := by
    have hkeepAlive :
        Duration.ofSeconds (max 1 (Duration.ofSeconds 60).seconds) = .ofSeconds 60 := by decide
    exact congrArg (fun keepAlive => { (fallback processors).service.pool with keepAlive })
      hkeepAlive
  have hdispatcher : loadDispatcher .unset = .standard := by decide
  have hlog : loadLog .unset = .standard := by decide
  rw [load, hpool, hdispatcher, hlog]
  rfl

/-! ## What is put back -/

theorem loadPool_assign (h : Loaded s) (processors : Nat) (env : Environment) :
    loadPool processors (env.assign s.summary) = s.service.pool := by
  obtain ⟨hlow, hhigh⟩ := h.coreSize
  have hcore (default : Nat) : clamp 1 4096 ((env.assign s.summary).number wordBound
      (Variable.name .corePoolSize) default) = s.service.pool.coreSize := by
    rw [Environment.number_assign rfl (Nat.lt_of_le_of_lt hhigh (by decide))]
    exact clamp_eq_self hlow hhigh
  have hkeepAlive (default : Nat) : Duration.ofSeconds (max 1 ((env.assign s.summary).number
      wordBound (Variable.name .keepAliveSecs) default)) = s.service.pool.keepAlive := by
    rw [Environment.number_assign rfl (Duration.seconds_lt _),
      Nat.max_eq_right ((Duration.le_seconds_iff (by decide)).mpr h.keepAlive)]
    exact Duration.ofSeconds_seconds h.keepAlive_whole
  have hstack (default : Nat) : stackSizeFor ((env.assign s.summary).number wordBound
      (Variable.name .threadStackSize) default) = s.service.pool.stackSize := by
    rw [Environment.number_assign rfl h.stackSize_lt, stackSizeFor]
    have hstackSize := h.stackSize
    split <;> omega
  exact (PoolConfig.mk.injEq ..).mpr ⟨hcore _, hkeepAlive _, h.nameStem.symm, hstack _⟩

theorem ofMillis_shown {low : Nat} {d : Duration} (hlow : low < wordBound)
    (hfloor : .ofMillis low ≤ d) (hlt : d.millis < wordBound)
    (hwhole : d.nanos % nanosPerMilli = 0) :
    d.millis % wordBound = d.millis ∧ low ≤ d.millis ∧ .ofMillis d.millis = d :=
  ⟨Nat.mod_eq_of_lt hlt, (Duration.le_millis_iff hlow).mpr hfloor,
    Duration.ofMillis_millis hlt hwhole⟩

theorem loadDispatcher_assign (h : Loaded s) (env : Environment) :
    loadDispatcher (env.assign s.summary) = s.service.dispatcher := by
  have hidle (default : Nat) : Duration.ofMillis (max 10 ((env.assign s.summary).number wordBound
      (Variable.name .pumpIdleMs) default)) = s.service.dispatcher.idleTimeout := by
    obtain ⟨hshown, hfloor, hback⟩ :=
      ofMillis_shown (by decide) h.idleTimeout h.idleTimeout_lt h.idleTimeout_whole
    rw [Environment.number_assign rfl (Nat.mod_lt _ (by decide)), hshown, Nat.max_eq_right hfloor]
    exact hback
  have hlimit (default : Nat) : UInt32.ofNat (clamp 1 100 ((env.assign s.summary).number UInt32.size
      (Variable.name .transferRetries) default)) = s.service.dispatcher.retryLimit := by
    have hlow : 1 ≤ s.service.dispatcher.retryLimit.toNat :=
      UInt32.le_iff_toNat_le.mp h.retryLimit.1
    have hhigh : s.service.dispatcher.retryLimit.toNat ≤ 100 :=
      UInt32.le_iff_toNat_le.mp h.retryLimit.2
    rw [Environment.number_assign rfl (UInt32.toNat_lt_size _), clamp_eq_self hlow hhigh]
    exact UInt32.ofNat_toNat
  have hbackoff (default : Nat) : Duration.ofMillis (clamp 1 1000
      ((env.assign s.summary).number wordBound (Variable.name .transferBackoffMs) default)) =
        s.service.dispatcher.retryBackoff := by
    obtain ⟨hlow, hhigh⟩ := h.retryBackoff
    have hmillis : s.service.dispatcher.retryBackoff.millis ≤ 1000 :=
      Duration.millis_le (by decide) hhigh
    obtain ⟨hshown, hfloor, hback⟩ := ofMillis_shown (by decide) hlow
      (Nat.lt_of_le_of_lt hmillis (by decide)) h.retryBackoff_whole
    rw [Environment.number_assign rfl (Nat.mod_lt _ (by decide)), hshown,
      clamp_eq_self hfloor hmillis]
    exact hback
  have hflag (default : Bool) :
      (env.assign s.summary).flag (Variable.name .runDelayedOnShutdown) default =
        s.service.dispatcher.runDelayedOnShutdown := Environment.flag_assign rfl
  exact (DispatcherConfig.mk.injEq ..).mpr ⟨hidle _, hlimit _, hbackoff _, hflag _⟩

theorem loadLog_assign (h : Loaded s) (env : Environment) :
    loadLog (env.assign s.summary) = s.log := by
  have hformat : (((env.assign s.summary).text? (Variable.name .logFormat)).bind
      (LogFormat.parse · |>.toOption)).getD .json = s.log.format := by
    rw [Environment.text?_assign, Option.bind_some]
    exact congrArg (Option.getD · _) s.log.format.parse_tag
  have hlevel : (((env.assign s.summary).text? (Variable.name .logLevel)).filter
      (trim · ≠ "")).getD LogConfig.standard.level = s.log.level := by
    have hkept : decide (trim (s.summary.text .logLevel) ≠ "") = true := decide_eq_true h.level
    rw [Environment.text?_assign, Option.filter_some, if_pos hkept]
    rfl
  exact (LogConfig.mk.injEq ..).mpr ⟨hformat, hlevel, h.file.symm⟩

/-- Settings that can be loaded are loaded again when what is shown of them is put back. -/
theorem load_assign (h : Loaded s) (processors : Nat) (env : Environment) :
    load processors (env.assign s.summary) = s := by
  have hshutdown : Duration.ofSeconds (max 1 ((env.assign s.summary).number wordBound
      (Variable.name .shutdownTimeout) 30)) = s.shutdownTimeout := by
    rw [Environment.number_assign rfl (Duration.seconds_lt _),
      Nat.max_eq_right ((Duration.le_seconds_iff (by decide)).mpr h.shutdownTimeout)]
    exact Duration.ofSeconds_seconds h.shutdownTimeout_whole
  rw [load, loadPool_assign h, loadDispatcher_assign h, loadLog_assign h]
  exact (Settings.mk.injEq ..).mpr ⟨rfl, hshutdown, rfl⟩

/-- Whatever the environment holds, all that is loaded from it is in its range. What is shown for a
variable depends on what can be read of that variable alone, and one that cannot be read has its
default. Putting what is shown back into the variables and loading again changes nothing, and that
is so for all settings in their ranges. -/
theorem settings_are_bounded_and_stable (processors : Nat) (env : Environment) :
    Loaded (load processors env) ∧
      (∀ (v : Variable) (env' : Environment), env.value? v = env'.value? v →
        (load processors env).summary.text v = (load processors env').summary.text v) ∧
      (∀ v : Variable, env.Unreadable v →
        (load processors env).summary.text v = (fallback processors).summary.text v) ∧
      (∀ env' : Environment,
        load processors (env'.assign (load processors env).summary) = load processors env) ∧
      (∀ (s : Settings) (env' : Environment), Loaded s →
        load processors (env'.assign s.summary) = s) := by
  refine ⟨load_loaded processors env, fun v env' => load_text processors, fun v hunread => ?_,
    load_assign (load_loaded processors env) processors,
    fun s env' h => load_assign h processors env'⟩
  rw [← load_unset]
  exact load_text processors hunread.value?

/-- An environment with a core size and a format that cannot be read, and a backoff that is too
long. -/
def muddled : Environment := fun name =>
  if name = Variable.name .corePoolSize then some "lots".toUTF8
  else if name = Variable.name .logFormat then some "xml".toUTF8
  else if name = Variable.name .transferBackoffMs then some " 60000 ".toUTF8
  else none

theorem muddled_settings :
    let s := load 1 muddled
    muddled.Unreadable .corePoolSize ∧ s.summary.text .corePoolSize = Numeral.ofNat 16 ∧
      s.summary.text .logFormat = "json" ∧ s.service.dispatcher.retryBackoff ≤ .ofMillis 1000 ∧
      load 1 (muddled.assign s.summary) = s := by
  intro s
  have hcore : muddled.Unreadable .corePoolSize := .malformed rfl (by decide)
  obtain ⟨hloaded, -, hdefault, hstable, -⟩ := settings_are_bounded_and_stable 1 muddled
  exact ⟨hcore, (hdefault _ hcore).trans rfl,
    (hdefault .logFormat (.malformed rfl (by decide))).trans (by decide),
    hloaded.retryBackoff.2, hstable muddled⟩

end Settings

end TaskScheduler
