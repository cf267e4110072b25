import MotorDrive.Library.Text
import MotorDrive.Library.Validate
import MotorDrive.Dds.Protocol

/-!
# The service configuration

`load_service_config` of `config.cpp`: the lines of the file one by one, each of which sets a field, and the checks of
the fields at the end.
-/

namespace MotorDrive.Dds.Configuration

open Text Validate

/-- `ControlMode`. -/
inductive ControlMode
  | pv | mit
  deriving DecidableEq, Repr

/-- `ServiceConfig` with the fields of `YunyiRuntimeConfig` and `ThreadPolicy` that the file sets, and the
defaults. -/
@[ext]
structure ServiceConfig where
  robotId : Bytes := "yunyi-001".toList
  domainId : ℕ := 0
  networkInterfaces : List Bytes := ["eth0".toList]
  leftCanInterface : Bytes := "can-left".toList
  rightCanInterface : Bytes := "can-right".toList
  initialControlMode : ControlMode := .mit
  realtime : Bool := true
  lockMemory : Bool := true
  controlCpu : ℤ := -1
  canTxCpu : ℤ := -1
  canRxCpu : ℤ := -1
  controlPriority : ℤ := 80
  canTxPriority : ℤ := 75
  canRxPriority : ℤ := 75
  motorDiscoveryTimeout : ℤ := 25
  motorDiscoveryRetries : ℕ := 8
  deriving DecidableEq, Repr

/-- The keys, in the order of the comparisons. -/
inductive Key
  | robotId | domainId | ddsInterfaces | leftCanInterface | rightCanInterface | withGrippers | initialControlMode
  | realtime | lockMemory | controlCpu | canTxCpu | canRxCpu | controlPriority | canTxPriority | canRxPriority
  | motorDiscoveryTimeoutMs | motorDiscoveryRetries
  deriving DecidableEq, Repr

def Key.name : Key → Bytes
  | .robotId => "robot_id".toList
  | .domainId => "domain_id".toList
  | .ddsInterfaces => "dds_interfaces".toList
  | .leftCanInterface => "left_can_interface".toList
  | .rightCanInterface => "right_can_interface".toList
  | .withGrippers => "with_grippers".toList
  | .initialControlMode => "initial_control_mode".toList
  | .realtime => "realtime".toList
  | .lockMemory => "lock_memory".toList
  | .controlCpu => "control_cpu".toList
  | .canTxCpu => "can_tx_cpu".toList
  | .canRxCpu => "can_rx_cpu".toList
  | .controlPriority => "control_priority".toList
  | .canTxPriority => "can_tx_priority".toList
  | .canRxPriority => "can_rx_priority".toList
  | .motorDiscoveryTimeoutMs => "motor_discovery_timeout_ms".toList
  | .motorDiscoveryRetries => "motor_discovery_retries".toList

def Key.all : List Key :=
  [.robotId, .domainId, .ddsInterfaces, .leftCanInterface, .rightCanInterface, .withGrippers, .initialControlMode,
    .realtime, .lockMemory, .controlCpu, .canTxCpu, .canRxCpu, .controlPriority, .canTxPriority, .canRxPriority,
    .motorDiscoveryTimeoutMs, .motorDiscoveryRetries]

/-- The first key whose name a text is. -/
def Key.find (text : Bytes) : Option Key := Key.all.find? fun key => key.name = text

/-- `split`. -/
def split (text : Bytes) : List Bytes :=
  ((getlines ',' text).map trim).filter (· ≠ [])

/-- `boolean`. -/
def boolean (value : Bytes) : Except Text.Exception Bool :=
  if value = "true".toList ∨ value = "yes".toList ∨ value = "1".toList then .ok true
  else if value = "false".toList ∨ value = "no".toList ∨ value = "0".toList then .ok false
  else .error (.invalidArgument ("invalid boolean: ".toList ++ value))

/-- `valid_interface`. -/
def validInterface (value : Bytes) : Bool :=
  value ≠ [] && value.length ≤ 15 &&
    value.all fun ch => ch.isAlphanum || ch = '-' || ch = '_' || ch = '.' || ch = ':'

def controlMode (value : Bytes) : Except Text.Exception ControlMode :=
  if value = "pv".toList then .ok .pv
  else if value = "mit".toList then .ok .mit
  else .error (.invalidArgument "initial_control_mode must be pv or mit".toList)

/-- An `unsigned long` as `std::chrono::milliseconds`, whose count is a signed 64-bit integer. -/
def millisecondsOf (count : ℕ) : ℤ := if count < 2 ^ 63 then count else (count : ℤ) - 2 ^ 64

def discoveryRetries (value : Bytes) : Except Text.Exception ℕ := do
  let retries ← stoul value
  reject (10 < retries) (.invalidArgument "motor_discovery_retries must be within 0..=10".toList)
  return retries

/-- What the comparisons with the keys do for the value of a line. -/
def assign (config : ServiceConfig) (key : Key) (value : Bytes) : Except Text.Exception ServiceConfig :=
  match key with
  | .robotId => .ok { config with robotId := value }
  | .domainId => (stoul value).map fun number => { config with domainId := number % 2 ^ 32 }
  | .ddsInterfaces => .ok { config with networkInterfaces := split value }
  | .leftCanInterface => .ok { config with leftCanInterface := value }
  | .rightCanInterface => .ok { config with rightCanInterface := value }
  | .withGrippers => (boolean value).map fun _ => config
  | .initialControlMode => (controlMode value).map fun mode => { config with initialControlMode := mode }
  | .realtime => (boolean value).map fun flag => { config with realtime := flag }
  | .lockMemory => (boolean value).map fun flag => { config with lockMemory := flag }
  | .controlCpu => (stoi value).map fun number => { config with controlCpu := number }
  | .canTxCpu => (stoi value).map fun number => { config with canTxCpu := number }
  | .canRxCpu => (stoi value).map fun number => { config with canRxCpu := number }
  | .controlPriority => (stoi value).map fun number => { config with controlPriority := number }
  | .canTxPriority => (stoi value).map fun number => { config with canTxPriority := number }
  | .canRxPriority => (stoi value).map fun number => { config with canRxPriority := number }
  | .motorDiscoveryTimeoutMs =>
    (stoul value).map fun number => { config with motorDiscoveryTimeout := millisecondsOf number }
  | .motorDiscoveryRetries =>
    (discoveryRetries value).map fun number => { config with motorDiscoveryRetries := number }

/-- A line that is blank or a comment, once it is trimmed. -/
def Skipped (line : Bytes) : Prop := line = [] ∨ line.head? = some '#'

instance (line : Bytes) : Decidable (Skipped line) := inferInstanceAs (Decidable (_ ∨ _))

/-- One turn of the loop over the lines. -/
def readLine (config : ServiceConfig) (numbered : Bytes × ℕ) : Except Text.Exception ServiceConfig :=
  let line := trim numbered.1
  if Skipped line then .ok config
  else if '=' ∉ line then
    .error (.invalidArgument ("missing '=' on line ".toList ++ (toString numbered.2).toList))
  else
    let key := trim (line.takeWhile (· ≠ '='))
    let value := trim ((line.dropWhile (· ≠ '=')).drop 1)
    match Key.find key with
    | some key => assign config key value
    | none => .error (.invalidArgument ("unknown configuration key: ".toList ++ key))

/-- The checks after the loop. -/
def checkConfig (config : ServiceConfig) : Except Text.Exception Unit := do
  reject (config.robotId = [] ∨ 63 < config.robotId.length)
    (.invalidArgument "robot_id must contain 1..63 bytes".toList)
  reject (config.networkInterfaces = []) (.invalidArgument "at least one DDS interface is required".toList)
  config.networkInterfaces.forM fun interface =>
    reject (¬validInterface interface) (.invalidArgument ("invalid DDS interface name: ".toList ++ interface))
  reject (¬validInterface config.leftCanInterface ∨ ¬validInterface config.rightCanInterface)
    (.invalidArgument "invalid CAN interface name".toList)
  reject (config.motorDiscoveryTimeout ≤ 0) (.invalidArgument "motor_discovery_timeout_ms must be positive".toList)

/-- The body of the `try` block, for the file at a path, if it can be opened. -/
def readServiceConfig (path : Bytes) (file : Option Bytes) : Except Text.Exception ServiceConfig := do
  let some content := file | .error (.other ("cannot open configuration: ".toList ++ path))
  let result ← ((getlines '\n' content).zipIdx 1).foldlM readLine {}
  checkConfig result
  return result

/-- `load_service_config`. -/
def loadServiceConfig (path : Bytes) (file : Option Bytes) : Except Failure ServiceConfig :=
  match readServiceConfig path file with
  | .ok config => .ok config
  | .error (.invalidArgument what) => .error ⟨.invalidArgument, String.ofList what⟩
  | .error (.other what) => .error ⟨.internalError, String.ofList what⟩

/-! ## What a file says -/

/-- How the values of the numeric keys are read. -/
structure Reading where
  domainId : Bytes → Option ℕ
  integer : Bytes → Option ℤ
  timeout : Bytes → Option ℤ
  retries : Bytes → Option ℕ

/-- Complete decimal numerals that fit the fields. -/
def Reading.complete : Reading where
  domainId value := (natural value).filter (· < 2 ^ 32)
  integer value := (Text.integer value).filter fun number => -2 ^ 31 ≤ number ∧ number < 2 ^ 31
  timeout value := ((natural value).filter (· < 2 ^ 63)).map fun (number : ℕ) => (number : ℤ)
  retries value := (natural value).filter (· < 2 ^ 32)

/-- What `std::stoul` and `std::stoi` read, as the fields store it. -/
def Reading.library : Reading where
  domainId value := (stoul value).toOption.map (· % 2 ^ 32)
  integer value := (stoi value).toOption
  timeout value := (stoul value).toOption.map millisecondsOf
  retries value := (discoveryRetries value).toOption

/-- The lines that are not blank and not comments, trimmed. -/
def significant (lines : List Bytes) : List Bytes := (lines.map trim).filter fun line => ¬Skipped line

/-- The line has the form `key = value`. -/
def HasForm (line : Bytes) (entry : Key × Bytes) : Prop :=
  ∃ left right, line = left ++ '=' :: right ∧ '=' ∉ left ∧ trim left = entry.1.name ∧ trim right = entry.2

/-- The value is one of those that its key takes. -/
def Decodes (read : Reading) (entry : Key × Bytes) : Prop :=
  match entry.1 with
  | .robotId | .ddsInterfaces | .leftCanInterface | .rightCanInterface => True
  | .withGrippers | .realtime | .lockMemory => (boolean entry.2).toOption.isSome
  | .initialControlMode => (controlMode entry.2).toOption.isSome
  | .domainId => (read.domainId entry.2).isSome
  | .controlCpu | .canTxCpu | .canRxCpu | .controlPriority | .canTxPriority | .canRxPriority =>
    (read.integer entry.2).isSome
  | .motorDiscoveryTimeoutMs => (read.timeout entry.2).isSome
  | .motorDiscoveryRetries => (read.retries entry.2).isSome

/-- The value of the last line with a key. -/
def lastValue (key : Key) (entries : List (Key × Bytes)) : Option Bytes :=
  ((entries.filter fun entry => entry.1 = key).getLast?).map Prod.snd

/-- The setting of a key: by the last line that sets it, or the default. -/
def lastOf {α : Type} (key : Key) (decode : Bytes → Option α) (entries : List (Key × Bytes)) (default : α) : α :=
  ((lastValue key entries).bind decode).getD default

/-- Every field as the last line that sets it says, or its default. -/
def settings (read : Reading) (entries : List (Key × Bytes)) : ServiceConfig :=
  let default : ServiceConfig := {}
  { robotId := lastOf .robotId some entries default.robotId
    domainId := lastOf .domainId read.domainId entries default.domainId
    networkInterfaces := lastOf .ddsInterfaces (fun value => some (split value)) entries default.networkInterfaces
    leftCanInterface := lastOf .leftCanInterface some entries default.leftCanInterface
    rightCanInterface := lastOf .rightCanInterface some entries default.rightCanInterface
    initialControlMode :=
      lastOf .initialControlMode (fun value => (controlMode value).toOption) entries default.initialControlMode
    realtime := lastOf .realtime (fun value => (boolean value).toOption) entries default.realtime
    lockMemory := lastOf .lockMemory (fun value => (boolean value).toOption) entries default.lockMemory
    controlCpu := lastOf .controlCpu read.integer entries default.controlCpu
    canTxCpu := lastOf .canTxCpu read.integer entries default.canTxCpu
    canRxCpu := lastOf .canRxCpu read.integer entries default.canRxCpu
    controlPriority := lastOf .controlPriority read.integer entries default.controlPriority
    canTxPriority := lastOf .canTxPriority read.integer entries default.canTxPriority
    canRxPriority := lastOf .canRxPriority read.integer entries default.canRxPriority
    motorDiscoveryTimeout :=
      lastOf .motorDiscoveryTimeoutMs read.timeout entries default.motorDiscoveryTimeout
    motorDiscoveryRetries := lastOf .motorDiscoveryRetries read.retries entries default.motorDiscoveryRetries }

/-- The checks of the final values. -/
structure Checks (config : ServiceConfig) : Prop where
  robotId : config.robotId ≠ [] ∧ config.robotId.length ≤ 63
  nonempty : config.networkInterfaces ≠ []
  interfaces : ∀ interface ∈ config.networkInterfaces, validInterface interface
  left : validInterface config.leftCanInterface
  right : validInterface config.rightCanInterface
  timeout : 0 < config.motorDiscoveryTimeout
  retries : config.motorDiscoveryRetries ≤ 10

/-- A file with these entries is well formed, by a reading of the numeric values. -/
structure WellFormed (read : Reading) (content : Bytes) (entries : List (Key × Bytes)) : Prop where
  form : List.Forall₂ HasForm (significant (getlines '\n' content)) entries
  values : ∀ entry ∈ entries, Decodes read entry
  checks : Checks (settings read entries)

/-! ## Lines -/

theorem Key.find_name (key : Key) : Key.find key.name = some key := by
  cases key <;> decide

theorem Key.find_eq_some {text : Bytes} {key : Key} (found : Key.find text = some key) : key.name = text := by
  have test := List.find?_some found
  exact of_decide_eq_true test

section Lines

variable {line left right : Bytes} {entry : Key × Bytes}

theorem ne_of_free (free : '=' ∉ left) : ∀ c ∈ left, decide (c ≠ '=') = true :=
  fun _ member => decide_eq_true fun equal => free (equal ▸ member)

theorem takeWhile_form (free : '=' ∉ left) : (left ++ '=' :: right).takeWhile (· ≠ '=') = left := by
  rw [List.takeWhile_append_of_pos (ne_of_free free)]
  simp

theorem dropWhile_form (free : '=' ∉ left) : ((left ++ '=' :: right).dropWhile (· ≠ '=')).drop 1 = right := by
  rw [List.dropWhile_append_of_pos (ne_of_free free)]
  simp

/-- A line of the form `key = value` gives the key and the value of the code. -/
theorem hasForm_iff : HasForm line entry ↔ '=' ∈ line ∧
    Key.find (trim (line.takeWhile (· ≠ '='))) = some entry.1 ∧
      trim ((line.dropWhile (· ≠ '=')).drop 1) = entry.2 := by
  constructor
  · rintro ⟨left, right, rfl, free, key, value⟩
    rw [takeWhile_form free, dropWhile_form free, key, Key.find_name]
    exact ⟨List.mem_append_right _ List.mem_cons_self, rfl, value⟩
  · rintro ⟨member, key, value⟩
    obtain ⟨left, right, rfl, free⟩ := List.eq_append_cons_of_mem member
    rw [takeWhile_form free] at key
    rw [dropWhile_form free] at value
    exact ⟨left, right, rfl, free, (Key.find_eq_some key).symm, value⟩

/-- A line has one form. -/
theorem HasForm.unique {other : Key × Bytes} (form : HasForm line entry) (form' : HasForm line other) :
    entry = other := by
  obtain ⟨-, key, value⟩ := hasForm_iff.mp form
  obtain ⟨-, key', value'⟩ := hasForm_iff.mp form'
  exact Prod.ext (Option.some.inj (key.symm.trans key')) (value.symm.trans value')

/-- A turn of the loop skips a line, or assigns the entry that the line has. -/
theorem readLine_eq_ok {config config' : ServiceConfig} {numbered : Bytes × ℕ} :
    readLine config numbered = .ok config' ↔
      (Skipped (trim numbered.1) ∧ config' = config) ∨
        (¬Skipped (trim numbered.1) ∧ ∃ entry, HasForm (trim numbered.1) entry ∧
          assign config entry.1 entry.2 = .ok config') := by
  unfold readLine
  simp only
  split_ifs with skipped present
  · simp only [skipped, true_and, not_true_eq_false, false_and, or_false, Except.ok.injEq]
    exact eq_comm
  · simp only [skipped, false_and, not_false_eq_true, true_and, false_or]
    cases found : Key.find (trim ((trim numbered.1).takeWhile (· ≠ '='))) with
    | none =>
      refine ⟨nofun, ?_⟩
      rintro ⟨entry, form, -⟩
      rw [(hasForm_iff.mp form).2.1] at found
      cases found
    | some key =>
      constructor
      · intro assigned
        exact ⟨(key, _), hasForm_iff.mpr ⟨present, found, rfl⟩, assigned⟩
      · rintro ⟨entry, form, assigned⟩
        obtain ⟨-, key', value⟩ := hasForm_iff.mp form
        rw [found] at key'
        rwa [Option.some.inj key', value]
  · simp only [skipped, false_and, not_false_eq_true, true_and, false_or]
    refine ⟨nofun, ?_⟩
    rintro ⟨entry, form, -⟩
    exact absurd (hasForm_iff.mp form).1 present

theorem significant_cons_of_skipped {lines : List Bytes} (skipped : Skipped (trim line)) :
    significant (line :: lines) = significant lines :=
  List.filter_cons_of_neg (by simpa using skipped)

theorem significant_cons_of_not {lines : List Bytes} (kept : ¬Skipped (trim line)) :
    significant (line :: lines) = trim line :: significant lines :=
  List.filter_cons_of_pos (decide_eq_true kept)

/-- The loop over the lines assigns the entries of the lines that are not skipped, in their order. -/
theorem foldlM_readLine_eq_ok {lines : List Bytes} {start : ℕ} {config config' : ServiceConfig} :
    (lines.zipIdx start).foldlM readLine config = .ok config' ↔
      ∃ entries, List.Forall₂ HasForm (significant lines) entries ∧
        entries.foldlM (fun config entry => assign config entry.1 entry.2) config = .ok config' := by
  induction lines generalizing start config with
  | nil =>
    constructor
    · intro same
      exact ⟨[], .nil, same⟩
    · rintro ⟨entries, form, assigned⟩
      cases form
      exact assigned
  | cons line rest ih =>
    rw [List.zipIdx_cons, List.foldlM_cons]
    constructor
    · intro ok
      obtain ⟨next, first, later⟩ := bind_eq_ok ok
      obtain ⟨entries, forms, assigned⟩ := ih.mp later
      rcases readLine_eq_ok.mp first with ⟨skipped, rfl⟩ | ⟨kept, entry, form, head⟩
      · exact ⟨entries, by rwa [significant_cons_of_skipped skipped], assigned⟩
      · refine ⟨entry :: entries, ?_, ?_⟩
        · rw [significant_cons_of_not kept]
          exact .cons form forms
        · rw [List.foldlM_cons, head]
          exact assigned
    · rintro ⟨entries, forms, assigned⟩
      by_cases skipped : Skipped (trim line)
      · rw [significant_cons_of_skipped skipped] at forms
        rw [readLine_eq_ok.mpr (.inl ⟨skipped, rfl⟩)]
        exact ih.mpr ⟨entries, forms, assigned⟩
      · rw [significant_cons_of_not skipped] at forms
        cases forms with
        | cons form forms =>
          obtain ⟨next, head, later⟩ := bind_eq_ok assigned
          rw [readLine_eq_ok.mpr (.inr ⟨skipped, _, form, head⟩)]
          exact ih.mpr ⟨_, forms, later⟩

end Lines

/-! ## Settings -/

theorem lastValue_append (entries : List (Key × Bytes)) (key key' : Key) (value : Bytes) :
    lastValue key' (entries ++ [(key, value)]) = if key = key' then some value else lastValue key' entries := by
  unfold lastValue
  rw [List.filter_append]
  by_cases same : key = key'
  · simp [same]
  · simp [same]

/-- The setting of a key after one more line. -/
theorem lastOf_append {α : Type} {decode : Bytes → Option α} (entries : List (Key × Bytes)) (key key' : Key)
    (value : Bytes) (default : α) : lastOf key' decode (entries ++ [(key, value)]) default =
      if key = key' then (decode value).getD default else lastOf key' decode entries default := by
  unfold lastOf
  rw [lastValue_append]
  split_ifs <;> rfl

/-- Assigning a value of a key's kind to the settings gives the settings of one more line, and other values are
rejected. -/
theorem assign_settings {entries : List (Key × Bytes)} {key : Key} {value : Bytes} {config : ServiceConfig} :
    assign (settings .library entries) key value = .ok config ↔
      Decodes .library (key, value) ∧ config = settings .library (entries ++ [(key, value)]) := by
  cases key with
  | robotId | ddsInterfaces | leftCanInterface | rightCanInterface =>
    simp [assign, Decodes, settings, lastOf_append, eq_comm]
  | withGrippers | realtime | lockMemory =>
    cases found : boolean value <;>
      simp [assign, found, Decodes, settings, lastOf_append, Except.map, Except.toOption, eq_comm]
  | initialControlMode =>
    cases found : controlMode value <;>
      simp [assign, found, Decodes, settings, lastOf_append, Except.map, Except.toOption, eq_comm]
  | domainId | motorDiscoveryTimeoutMs =>
    cases found : stoul value <;>
      simp [assign, found, Decodes, settings, lastOf_append, Reading.library, Except.map, Except.toOption, eq_comm]
  | controlCpu | canTxCpu | canRxCpu | controlPriority | canTxPriority | canRxPriority =>
    cases found : stoi value <;>
      simp [assign, found, Decodes, settings, lastOf_append, Reading.library, Except.map, Except.toOption, eq_comm]
  | motorDiscoveryRetries =>
    cases found : discoveryRetries value <;>
      simp [assign, found, Decodes, settings, lastOf_append, Reading.library, Except.map, Except.toOption, eq_comm]

/-- The settings of the entries are what assigning them in order gives, if every value is of its key's kind. -/
theorem foldlM_assign_eq_ok {entries : List (Key × Bytes)} {config : ServiceConfig} :
    entries.foldlM (fun config entry => assign config entry.1 entry.2) {} = .ok config ↔
      (∀ entry ∈ entries, Decodes .library entry) ∧ config = settings .library entries := by
  induction entries using List.reverseRecOn generalizing config with
  | nil =>
    have defaults : settings .library [] = {} := rfl
    rw [List.foldlM_nil, defaults, pure_eq_ok, Except.ok.injEq]
    exact ⟨fun same => ⟨fun _ member => absurd member List.not_mem_nil, same.symm⟩, fun same => same.2.symm⟩
  | append_singleton entries entry ih =>
    rw [List.foldlM_append]
    constructor
    · intro ok
      obtain ⟨before, earlier, last⟩ := bind_eq_ok ok
      obtain ⟨decodes, rfl⟩ := ih.mp earlier
      simp only [List.foldlM_cons, List.foldlM_nil, bind_pure] at last
      obtain ⟨decodes', same⟩ := assign_settings.mp last
      refine ⟨fun other member => ?_, same⟩
      rcases List.mem_append.mp member with member | member
      · exact decodes other member
      · rwa [List.mem_singleton.mp member]
    · rintro ⟨decodes, same⟩
      rw [ih.mpr ⟨fun other member => decodes other (List.mem_append_left _ member), rfl⟩]
      simp only [ok_bind, List.foldlM_cons, List.foldlM_nil, bind_pure]
      exact assign_settings.mpr ⟨decodes entry (List.mem_append_right _ List.mem_cons_self), same⟩

/-! ## The checks -/

theorem checkConfig_eq_ok {config : ServiceConfig} (retries : config.motorDiscoveryRetries ≤ 10) :
    checkConfig config = .ok () ↔ Checks config := by
  unfold checkConfig
  constructor
  · intro ok
    obtain ⟨id, ok⟩ := reject_bind_eq_ok ok
    obtain ⟨nonempty, ok⟩ := reject_bind_eq_ok ok
    obtain ⟨_, interfaces, ok⟩ := bind_eq_ok ok
    obtain ⟨names, ok⟩ := reject_bind_eq_ok ok
    have timeout := reject_eq_ok.mp ok
    rw [not_or, not_lt] at id
    rw [not_or, not_not, not_not] at names
    refine ⟨id, nonempty, fun interface member => ?_, names.1, names.2, by omega, retries⟩
    exact not_not.mp (reject_eq_ok.mp (forM_eq_ok interfaces interface member))
  · intro checks
    have names : config.networkInterfaces.forM (fun interface => reject (¬validInterface interface)
        (Text.Exception.invalidArgument ("invalid DDS interface name: ".toList ++ interface))) = .ok () :=
      forM_ok fun interface member => reject_eq_ok.mpr (not_not.mpr (checks.interfaces interface member))
    rw [reject_bind_of_not (not_or.mpr ⟨checks.robotId.1, not_lt.mpr checks.robotId.2⟩),
      reject_bind_of_not checks.nonempty, names, ok_bind,
      reject_bind_of_not (not_or.mpr ⟨not_not.mpr checks.left, not_not.mpr checks.right⟩)]
    exact reject_eq_ok.mpr (Int.not_le.mpr checks.timeout)

theorem discoveryRetries_eq_ok {value : Bytes} {n : ℕ} :
    discoveryRetries value = .ok n ↔ stoul value = .ok n ∧ n ≤ 10 := by
  unfold discoveryRetries
  constructor
  · intro ok
    obtain ⟨retries, read, ok⟩ := bind_eq_ok ok
    obtain ⟨small, same⟩ := reject_bind_eq_ok ok
    cases Except.ok.inj same
    exact ⟨read, not_lt.mp small⟩
  · rintro ⟨read, small⟩
    rw [read, ok_bind, reject_bind_of_not (not_lt.mpr small)]
    rfl

theorem toOption_eq_some {ε α : Type} {read : Except ε α} {a : α} : read.toOption = some a ↔ read = .ok a := by
  cases read <;> simp [Except.toOption]

/-- The retries that the library reads are at most ten. -/
theorem settings_retries_le (entries : List (Key × Bytes)) :
    (settings .library entries).motorDiscoveryRetries ≤ 10 := by
  change ((lastValue .motorDiscoveryRetries entries).bind Reading.library.retries).getD 8 ≤ 10
  cases found : (lastValue .motorDiscoveryRetries entries).bind Reading.library.retries with
  | none => decide
  | some n =>
    obtain ⟨value, -, read⟩ := Option.bind_eq_some_iff.mp found
    exact (discoveryRetries_eq_ok.mp (toOption_eq_some.mp read)).2

/-- The file is accepted if it is well formed by the library's reading, with the settings of its entries. -/
theorem loadServiceConfig_eq_ok {path content : Bytes} {config : ServiceConfig} :
    loadServiceConfig path (some content) = .ok config ↔
      ∃ entries, WellFormed .library content entries ∧ config = settings .library entries := by
  have body : loadServiceConfig path (some content) = .ok config ↔
      readServiceConfig path (some content) = .ok config := by
    unfold loadServiceConfig
    split <;> simp_all
  rw [body]
  constructor
  · intro ok
    obtain ⟨result, read, ok⟩ := bind_eq_ok ok
    obtain ⟨_, checked, same⟩ := bind_eq_ok ok
    cases Except.ok.inj same
    obtain ⟨entries, form, assigned⟩ := foldlM_readLine_eq_ok.mp read
    obtain ⟨decodes, rfl⟩ := foldlM_assign_eq_ok.mp assigned
    exact ⟨entries, ⟨form, decodes, (checkConfig_eq_ok (settings_retries_le entries)).mp checked⟩, rfl⟩
  · rintro ⟨entries, wellFormed, rfl⟩
    have read : ((getlines '\n' content).zipIdx 1).foldlM readLine {} = .ok (settings .library entries) :=
      foldlM_readLine_eq_ok.mpr ⟨entries, wellFormed.form, foldlM_assign_eq_ok.mpr ⟨wellFormed.values, rfl⟩⟩
    unfold readServiceConfig
    simp only
    rw [read, ok_bind, (checkConfig_eq_ok (settings_retries_le entries)).mpr wellFormed.checks]
    rfl

/-! ## Complete numerals -/

section Complete

variable {entries entries' : List (Key × Bytes)} {content : Bytes} {value : Bytes}

/-- A file has one list of entries. -/
theorem forms_unique {lines : List Bytes} (forms : List.Forall₂ HasForm lines entries)
    (forms' : List.Forall₂ HasForm lines entries') : entries = entries' := by
  induction forms generalizing entries' with
  | nil =>
    cases forms'
    rfl
  | cons form _ ih =>
    cases forms' with
    | cons form' forms' => rw [form.unique form', ih forms']

theorem millisecondsOf_of_lt {n : ℕ} (fits : n < 2 ^ 63) : millisecondsOf n = n := if_pos fits

/-- The library reads complete numerals as the values that they stand for. -/
theorem library_of_complete (value : Bytes) :
    (∀ n, Reading.complete.domainId value = some n → Reading.library.domainId value = some n) ∧
      (∀ n, Reading.complete.integer value = some n → Reading.library.integer value = some n) ∧
        (∀ n, Reading.complete.timeout value = some n → Reading.library.timeout value = some n) ∧
          ∀ n, Reading.complete.retries value = some n → n ≤ 10 → Reading.library.retries value = some n := by
  refine ⟨fun n read => ?_, fun n read => ?_, fun n read => ?_, fun n read small => ?_⟩
  · obtain ⟨numeral, fits⟩ := Option.filter_eq_some_iff.mp read
    have fits := of_decide_eq_true fits
    have read := toOption_eq_some.mpr (stoul_of_natural numeral (by omega))
    exact Option.map_eq_some_iff.mpr ⟨n, read, Nat.mod_eq_of_lt fits⟩
  · obtain ⟨numeral, fits⟩ := Option.filter_eq_some_iff.mp read
    have fits := of_decide_eq_true fits
    exact toOption_eq_some.mpr (stoi_of_integer numeral fits.1 fits.2)
  · obtain ⟨m, numeral, rfl⟩ := Option.map_eq_some_iff.mp read
    obtain ⟨numeral, fits⟩ := Option.filter_eq_some_iff.mp numeral
    have fits := of_decide_eq_true fits
    have read := toOption_eq_some.mpr (stoul_of_natural numeral (by omega))
    exact Option.map_eq_some_iff.mpr ⟨m, read, millisecondsOf_of_lt fits⟩
  · obtain ⟨numeral, fits⟩ := Option.filter_eq_some_iff.mp read
    exact toOption_eq_some.mpr (discoveryRetries_eq_ok.mpr ⟨stoul_of_natural numeral (by omega), small⟩)

/-- Every value of the retries that is a complete numeral is at most ten. -/
def RetriesInRange (entries : List (Key × Bytes)) : Prop :=
  ∀ value n, (Key.motorDiscoveryRetries, value) ∈ entries → natural value = some n → n ≤ 10

/-- Values of the retries that are complete numerals and that the library reads are in range. -/
theorem retriesInRange (complete : ∀ entry ∈ entries, Decodes .complete entry)
    (library : ∀ entry ∈ entries, Decodes .library entry) : RetriesInRange entries := by
  intro value n member numeral
  obtain ⟨m, decoded⟩ := Option.isSome_iff_exists.mp (complete _ member)
  obtain ⟨numeral', fits⟩ := Option.filter_eq_some_iff.mp decoded
  obtain ⟨k, read⟩ := Option.isSome_iff_exists.mp (library _ member)
  obtain ⟨read, small⟩ := discoveryRetries_eq_ok.mp (toOption_eq_some.mp read)
  have fits := of_decide_eq_true fits
  cases Option.some.inj (numeral.symm.trans numeral')
  cases Except.ok.inj (read.symm.trans (stoul_of_natural numeral (by omega)))
  exact small

theorem lastValue_mem {key : Key} (last : lastValue key entries = some value) : (key, value) ∈ entries := by
  obtain ⟨⟨key', value'⟩, found, rfl⟩ := Option.map_eq_some_iff.mp last
  obtain ⟨member, same⟩ := List.mem_filter.mp (List.mem_of_getLast? found)
  cases of_decide_eq_true same
  exact member

/-- Two readings that agree on the values of a key give it one setting. -/
theorem lastOf_congr {α : Type} {key : Key} {decode decode' : Bytes → Option α} {default : α}
    (agree : ∀ value, (key, value) ∈ entries → decode value = decode' value) :
    lastOf key decode entries default = lastOf key decode' entries default := by
  unfold lastOf
  cases last : lastValue key entries with
  | none => rfl
  | some value => rw [Option.bind_some, Option.bind_some, agree value (lastValue_mem last)]

/-- Entries with complete numerals, and retries in range, are of the kinds that the library reads. -/
theorem decodes_library {entry : Key × Bytes} (complete : Decodes .complete entry) (member : entry ∈ entries)
    (range : RetriesInRange entries) : Decodes .library entry := by
  obtain ⟨key, value⟩ := entry
  obtain ⟨domainId, integer, timeout, retries⟩ := library_of_complete value
  cases key with
  | robotId | ddsInterfaces | leftCanInterface | rightCanInterface | withGrippers | realtime | lockMemory
  | initialControlMode => exact complete
  | domainId =>
    obtain ⟨n, read⟩ := Option.isSome_iff_exists.mp complete
    exact Option.isSome_iff_exists.mpr ⟨n, domainId n read⟩
  | controlCpu | canTxCpu | canRxCpu | controlPriority | canTxPriority | canRxPriority =>
    obtain ⟨n, read⟩ := Option.isSome_iff_exists.mp complete
    exact Option.isSome_iff_exists.mpr ⟨n, integer n read⟩
  | motorDiscoveryTimeoutMs =>
    obtain ⟨n, read⟩ := Option.isSome_iff_exists.mp complete
    exact Option.isSome_iff_exists.mpr ⟨n, timeout n read⟩
  | motorDiscoveryRetries =>
    obtain ⟨n, read⟩ := Option.isSome_iff_exists.mp complete
    have small := range value n member (Option.filter_eq_some_iff.mp read).1
    exact Option.isSome_iff_exists.mpr ⟨n, retries n read small⟩

/-- With complete numerals, and retries in range, the two readings give one configuration. -/
theorem settings_library (complete : ∀ entry ∈ entries, Decodes .complete entry) (range : RetriesInRange entries) :
    settings .library entries = settings .complete entries := by
  have agree {α : Type} {key : Key} {decode decode' : Bytes → Option α}
      (decoded : ∀ value, Decodes .complete (key, value) → (decode' value).isSome)
      (same : ∀ value n, (key, value) ∈ entries → decode' value = some n → decode value = some n) (value : Bytes)
      (member : (key, value) ∈ entries) : decode value = decode' value := by
    obtain ⟨n, read⟩ := Option.isSome_iff_exists.mp (decoded value (complete _ member))
    rw [read, same value n member read]
  have integer {key : Key} {default : ℤ} (decoded : ∀ value, Decodes .complete (key, value) →
      (Reading.complete.integer value).isSome) :
      lastOf key Reading.library.integer entries default = lastOf key Reading.complete.integer entries default :=
    lastOf_congr (agree decoded fun value n _ => (library_of_complete value).2.1 n)
  have timeout {default : ℤ} : lastOf .motorDiscoveryTimeoutMs Reading.library.timeout entries default =
      lastOf .motorDiscoveryTimeoutMs Reading.complete.timeout entries default :=
    lastOf_congr (agree (fun _ => id) fun value n _ => (library_of_complete value).2.2.1 n)
  have domainId {default : ℕ} : lastOf .domainId Reading.library.domainId entries default =
      lastOf .domainId Reading.complete.domainId entries default :=
    lastOf_congr (agree (fun _ => id) fun value n _ => (library_of_complete value).1 n)
  have retries {default : ℕ} : lastOf .motorDiscoveryRetries Reading.library.retries entries default =
      lastOf .motorDiscoveryRetries Reading.complete.retries entries default :=
    lastOf_congr (agree (fun _ => id) fun value n member read =>
      (library_of_complete value).2.2.2 n read (range value n member (Option.filter_eq_some_iff.mp read).1))
  unfold settings
  simp only [domainId, timeout, retries]
  rw [integer fun _ => id, integer fun _ => id, integer fun _ => id, integer fun _ => id, integer fun _ => id,
    integer fun _ => id]

/-- The specification: a file is accepted if it is well formed with complete numerals that fit their fields, and every
field is then as the last line that sets it says. -/
def MeetsSpecification (path content : Bytes) : Prop :=
  ((∃ config, loadServiceConfig path (some content) = .ok config) ↔
    ∃ entries, WellFormed .complete content entries) ∧
    ∀ config, loadServiceConfig path (some content) = .ok config →
      ∃ entries, List.Forall₂ HasForm (significant (getlines '\n' content)) entries ∧
        config = settings .complete entries

/-- A file that passes by what the library reads has a numeric value that is no complete numeral that fits. -/
def Misread (content : Bytes) (entries : List (Key × Bytes)) : Prop :=
  WellFormed .library content entries ∧ ∃ entry ∈ entries, ¬Decodes .complete entry

/-- A file that is well formed has a line with more than ten retries, before the last one. -/
def Overruled (content : Bytes) (entries : List (Key × Bytes)) : Prop :=
  WellFormed .complete content entries ∧ ¬RetriesInRange entries

/-- Exactly the files with a misread value or with overruled retries are not treated as specified. -/
theorem meetsSpecification_iff (path content : Bytes) : MeetsSpecification path content ↔
    ∀ entries, ¬Misread content entries ∧ ¬Overruled content entries := by
  constructor
  · rintro ⟨accepts, -⟩ entries
    refine ⟨?_, ?_⟩
    · rintro ⟨wellFormed, entry, member, wrong⟩
      obtain ⟨entries', complete⟩ := accepts.mp ⟨_, loadServiceConfig_eq_ok.mpr ⟨entries, wellFormed, rfl⟩⟩
      rw [← forms_unique wellFormed.form complete.form] at complete
      exact wrong (complete.values entry member)
    · rintro ⟨wellFormed, overruled⟩
      obtain ⟨config, loaded⟩ := accepts.mpr ⟨entries, wellFormed⟩
      obtain ⟨entries', library, -⟩ := loadServiceConfig_eq_ok.mp loaded
      rw [← forms_unique wellFormed.form library.form] at library
      exact overruled (retriesInRange wellFormed.values library.values)
  · intro neither
    have wellFormed_complete {entries : List (Key × Bytes)} (library : WellFormed .library content entries) :
        WellFormed .complete content entries ∧ settings .library entries = settings .complete entries := by
      have complete (entry : Key × Bytes) (member : entry ∈ entries) : Decodes .complete entry := by
        by_contra wrong
        exact (neither entries).1 ⟨library, entry, member, wrong⟩
      have range := retriesInRange complete library.values
      have same := settings_library complete range
      exact ⟨⟨library.form, complete, same ▸ library.checks⟩, same⟩
    refine ⟨⟨?_, ?_⟩, ?_⟩
    · rintro ⟨config, loaded⟩
      obtain ⟨entries, library, -⟩ := loadServiceConfig_eq_ok.mp loaded
      exact ⟨entries, (wellFormed_complete library).1⟩
    · rintro ⟨entries, complete⟩
      have range : RetriesInRange entries := by
        by_contra overruled
        exact (neither entries).2 ⟨complete, overruled⟩
      have same := settings_library complete.values range
      refine ⟨_, loadServiceConfig_eq_ok.mpr ⟨entries, ⟨complete.form, ?_, same ▸ complete.checks⟩, rfl⟩⟩
      exact fun entry member => decodes_library (complete.values entry member) member range
    · intro config loaded
      obtain ⟨entries, library, rfl⟩ := loadServiceConfig_eq_ok.mp loaded
      exact ⟨entries, library.form, (wellFormed_complete library).2⟩

end Complete

/-! ## A negative domain -/

/-- The only entry of the file. -/
theorem form_negative_domain {entries : List (Key × Bytes)}
    (forms : List.Forall₂ HasForm ["domain_id=-1".toList] entries) : (Key.domainId, "-1".toList) ∈ entries := by
  cases forms with
  | cons form rest =>
    obtain ⟨-, key, value⟩ := hasForm_iff.mp form
    refine List.mem_cons.mpr (.inl (Prod.ext (Option.some.inj ?_) value))
    exact key

/-- The service runs in the domain of the largest 32-bit number. -/
theorem negative_domain_accepted :
    ¬MeetsSpecification "runtime-service.conf".toList "domain_id=-1".toList := by
  rintro ⟨accepts, -⟩
  have loaded : loadServiceConfig "runtime-service.conf".toList (some "domain_id=-1".toList) =
      .ok { domainId := 4294967295 } := rfl
  obtain ⟨entries, complete⟩ := accepts.mp ⟨_, loaded⟩
  have decodes : (Reading.complete.domainId "-1".toList).isSome :=
    complete.values _ (form_negative_domain complete.form)
  exact absurd decodes (by decide)

end MotorDrive.Dds.Configuration
