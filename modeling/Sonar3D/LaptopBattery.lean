/-
The battery of the laptop on the robot.

`laptop_battery.py` reads two files of the kernel, each in a thread of its own, and a
third thread publishes what they say. The threads share their fields under a mutex, so
a run is the sections that hold it, in any order and at any times; a thread that cannot
read its file holds it for nothing.

Numbers are exact rationals and times are seconds. What `float` makes of a text is a
parameter, and so is `round`, what the double arithmetic makes of the quotient and the
product of the percentage: it is truncated, so one bit less is one per cent less. The
files are what `yaml` has made of them; what is published twice, in the message and in
the diagnostics, is in the message only.
-/
import Sonar3D.Hold
import Sonar3D.TurtlebotDriver
import Sonar3D.Units

set_option autoImplicit false

namespace Sonar3D.LaptopBattery

open Sonar3D.Hold Sonar3D.Units

/-! ## Values with units -/

def chargeUnits : Table :=
  [("mAh".toList, 1000), ("Ah".toList, 1), ("mWh".toList, 1000), ("Wh".toList, 1)]

def voltageUnits : Table := [("mV".toList, 1000), ("V".toList, 1)]

def currentUnits : Table :=
  [("mA".toList, 1000), ("A".toList, 1), ("mW".toList, 1000), ("W".toList, 1)]

variable (float : List Char → Option ℚ)

/-- `_strip_Ah`; `none` is an error. -/
def strip_Ah (raw_val : List Char) : Option ℚ := Units.read float chargeUnits raw_val

/-- `_strip_V`. -/
def strip_V (raw_val : List Char) : Option ℚ := Units.read float voltageUnits raw_val

/-- `_strip_A`. -/
def strip_A (raw_val : List Char) : Option ℚ := Units.read float currentUnits raw_val

theorem chargeUnits_ordered : chargeUnits.Ordered := by
  constructor <;> simp [chargeUnits, ScanFloat.isSpace]

theorem voltageUnits_ordered : voltageUnits.Ordered := by
  constructor <;> simp [voltageUnits, ScanFloat.isSpace]

theorem currentUnits_ordered : currentUnits.Ordered := by
  constructor <;> simp [currentUnits, ScanFloat.isSpace]

/-- **Units.** Whatever comes before it, so long as it has no letter of a unit, each of
the three reads a value in each of its units as what `float` makes of the text before
the unit, over the scale of the unit. -/
theorem strip_reads (reader : List Char → Option ℚ) (units : Table)
    (hreader : (reader, units) ∈ [(strip_Ah float, chargeUnits), (strip_V float, voltageUnits),
      (strip_A float, currentUnits)])
    (u : List Char × ℚ) (hu : u ∈ units) (text blanks : List Char) (htext : Free units text)
    (hblanks : ∀ c ∈ blanks, ScanFloat.isSpace c = true) :
    reader (text ++ blanks ++ u.1) = (float (strip text)).map (fun value => value / u.2) := by
  simp only [List.mem_cons, List.not_mem_nil, or_false, Prod.mk.injEq] at hreader
  rcases hreader with ⟨rfl, rfl⟩ | ⟨rfl, rfl⟩ | ⟨rfl, rfl⟩
  · exact read_unit float _ chargeUnits_ordered u hu text blanks htext hblanks
  · exact read_unit float _ voltageUnits_ordered u hu text blanks htext hblanks
  · exact read_unit float _ currentUnits_ordered u hu text blanks htext hblanks

/-- `float`, of one text. -/
def float4400 (text : List Char) : Option ℚ := if text = "4400".toList then some 4400 else none

theorem strip_reads_mWh : strip_Ah float4400 "4400 mWh".toList = some (22 / 5) :=
  (strip_reads float4400 (strip_Ah float4400) chargeUnits List.mem_cons_self ("mWh".toList, 1000)
    (by simp [chargeUnits]) "4400".toList [' '] (by simp [Free, chargeUnits])
    (by simp [ScanFloat.isSpace])).trans (by decide +kernel)

/-! ## The two files -/

/-- `/proc/acpi/battery/BAT0/info`, the entries that are looked up. -/
structure AcpiInfo where
  design_capacity : Option (List Char)
  last_full_capacity : Option (List Char)

/-- `_check_battery_info`. -/
def check_battery_info (info : AcpiInfo) : Option (ℚ × ℚ) := do
  let design_capacity ← strip_Ah float (info.design_capacity.getD "0 mAh".toList)
  let last_full_capacity ← strip_Ah float (info.last_full_capacity.getD "0 mAh".toList)
  some (design_capacity, last_full_capacity)

/-- `/proc/acpi/battery/BAT0/state`. -/
structure AcpiState where
  charging_state : Option (List Char)
  present_rate : Option (List Char)
  remaining_capacity : Option (List Char)
  present_voltage : Option (List Char)
  present : Option Bool

inductive ChargeState where
  | discharging
  | charging
  | charged
deriving DecidableEq

/-- `turtlebot_node/LaptopChargeStatus`, without the header. -/
structure LaptopChargeStatus where
  voltage : ℚ
  rate : ℚ
  charge : ℚ
  capacity : ℚ
  design_capacity : ℚ
  percentage : ℤ
  charge_state : ChargeState
  present : Bool
deriving DecidableEq

def LaptopChargeStatus.initial : LaptopChargeStatus := ⟨0, 0, 0, 0, 0, 0, .discharging, false⟩

/-- `state_to_val.get(state, 0)`. -/
def state_to_val (state : List Char) : ChargeState :=
  if state = "charged".toList then .charged
  else if state = "charging".toList then .charging
  else .discharging

/-- `_check_battery_state`. -/
def check_battery_state (state : AcpiState) : Option LaptopChargeStatus := do
  let charge_state := state_to_val (state.charging_state.getD "discharging".toList)
  let rate ← strip_A float (state.present_rate.getD "-1 mA".toList)
  -- "Need to set discharging rate to negative"
  let rate := if charge_state = .discharging then -|rate| else rate
  let charge ← strip_Ah float (state.remaining_capacity.getD "-1 mAh".toList)
  let voltage ← strip_V float (state.present_voltage.getD "-1 mV".toList)
  some { LaptopChargeStatus.initial with
    voltage, rate, charge, charge_state, present := state.present.getD false }

/-! ## The monitor -/

inductive Level where
  | ok
  | error
deriving DecidableEq

structure DiagnosticStatus where
  level : Level
  message : String
deriving DecidableEq

/-- `_laptop_charge_to_diag`, without the values. -/
def laptop_charge_to_diag (msg : LaptopChargeStatus) : DiagnosticStatus :=
  if msg.present then ⟨.ok, "OK"⟩ else ⟨.error, "Laptop battery missing"⟩

def stale : DiagnosticStatus := ⟨.error, "Laptop battery data stale"⟩

structure LaptopBatteryMonitor where
  last_info_update : ℚ
  last_state_update : ℚ
  msg : LaptopChargeStatus
  batt_design_capacity : ℚ
  batt_last_full_capacity : ℚ
  published : List (DiagnosticStatus × LaptopChargeStatus)

def LaptopBatteryMonitor.initial : LaptopBatteryMonitor := ⟨0, 0, .initial, 0, 0, []⟩

def batt_info_rate : ℚ := 1 / 60

def batt_state_rate : ℚ := 1 / 5

/-- `int(charge / capacity * 100.0)`. -/
def percentage (round : ℚ → ℚ) (charge capacity : ℚ) : ℤ :=
  Turtlebot.int (round (round (charge / capacity) * 100))

/-- `update`, at the time `now`. -/
def LaptopBatteryMonitor.update (round : ℚ → ℚ) (m : LaptopBatteryMonitor) (now : ℚ) :
    LaptopBatteryMonitor :=
  let info_update_ok : Bool := now - m.last_info_update < 5 / batt_info_rate
  let state_update_ok : Bool := now - m.last_state_update < 5 / batt_state_rate
  let msg : LaptopChargeStatus :=
    if info_update_ok then
      { m.msg with
        design_capacity := m.batt_design_capacity, capacity := m.batt_last_full_capacity }
    else { m.msg with design_capacity := 0, capacity := 0 }
  let msg :=
    if info_update_ok ∧ state_update_ok ∧ msg.capacity ≠ 0 then
      { msg with percentage := percentage round msg.charge msg.capacity }
    else msg
  let diag_stat := if ¬ info_update_ok ∨ ¬ state_update_ok then stale else laptop_charge_to_diag msg
  { m with msg, published := m.published ++ [(diag_stat, msg)] }

/-- What one of the threads does with its file, read at the time `now`, or with what
there is to publish. -/
inductive Section where
  | check_batt_info (file : Option AcpiInfo) (now : ℚ)
  | check_batt_state (file : Option AcpiState) (now : ℚ)
  | update (now : ℚ)

/-- What a section has read of the `info`: when, the design capacity and the last full one. -/
def Section.info? : Section → Option (ℚ × ℚ × ℚ)
  | .check_batt_info file now => do
      let info ← file
      let capacities ← check_battery_info float info
      some (now, capacities)
  | _ => none

/-- What it has read of the `state`, and when. -/
def Section.state? : Section → Option (ℚ × LaptopChargeStatus)
  | .check_batt_state file now => do
      let state ← file
      let msg ← check_battery_state float state
      some (now, msg)
  | _ => none

def LaptopBatteryMonitor.step (round : ℚ → ℚ) (m : LaptopBatteryMonitor) :
    Section → LaptopBatteryMonitor
  | .check_batt_info file now =>
      match (Section.check_batt_info file now).info? float with
      | some (time, design_cap, last_full_cap) =>
          { m with
            batt_last_full_capacity := last_full_cap
            batt_design_capacity := design_cap
            last_info_update := time }
      | none => m
  | .check_batt_state file now =>
      match (Section.check_batt_state file now).state? float with
      | some (time, msg) => { m with msg, last_state_update := time }
      | none => m
  | .update now => m.update round now

variable (round : ℚ → ℚ)

def run (sections : List Section) : LaptopBatteryMonitor :=
  sections.foldl (LaptopBatteryMonitor.step float round) .initial

/-! ## What is published -/

/-- The entries of a message that come from the `state`. -/
def LaptopChargeStatus.reading (msg : LaptopChargeStatus) : LaptopChargeStatus :=
  { msg with capacity := 0, design_capacity := 0, percentage := 0 }

theorem check_battery_state_reading (state : AcpiState) (msg : LaptopChargeStatus)
    (h : check_battery_state float state = some msg) : msg.reading = msg := by
  unfold check_battery_state at h
  simp only [Option.bind_eq_bind, Option.bind_eq_some_iff, Option.some.injEq] at h
  obtain ⟨rate, -, charge, -, voltage, -, rfl⟩ := h
  rfl

theorem update_fields (m : LaptopBatteryMonitor) (now : ℚ) :
    (m.update round now).last_info_update = m.last_info_update
      ∧ (m.update round now).last_state_update = m.last_state_update
      ∧ (m.update round now).msg.reading = m.msg.reading
      ∧ (m.update round now).batt_design_capacity = m.batt_design_capacity
      ∧ (m.update round now).batt_last_full_capacity = m.batt_last_full_capacity := by
  refine ⟨rfl, rfl, ?_, rfl, rfl⟩
  unfold LaptopBatteryMonitor.update LaptopChargeStatus.reading
  dsimp only
  split <;> split <;> rfl

/-- The last `info` that was read. -/
def lastInfo (sections : List Section) : ℚ × ℚ × ℚ := held (Section.info? float) (0, 0, 0) sections

/-- The last `state` that was read. -/
def lastState (sections : List Section) : ℚ × LaptopChargeStatus :=
  held (Section.state? float) (0, .initial) sections

theorem run_info (sections : List Section) :
    ((run float round sections).last_info_update, (run float round sections).batt_design_capacity,
        (run float round sections).batt_last_full_capacity) = lastInfo float sections := by
  apply foldl_component (LaptopBatteryMonitor.step float round)
    (fun m => (m.last_info_update, m.batt_design_capacity, m.batt_last_full_capacity))
    (Section.info? float)
  intro m sec
  cases sec with
  | update now => rfl
  | check_batt_info file now =>
      unfold LaptopBatteryMonitor.step
      dsimp only
      cases (Section.check_batt_info file now).info? float <;> rfl
  | check_batt_state file now =>
      unfold LaptopBatteryMonitor.step
      dsimp only
      cases (Section.check_batt_state file now).state? float <;> rfl

theorem state?_reading (sec : Section) (time : ℚ) (msg : LaptopChargeStatus)
    (h : sec.state? float = some (time, msg)) : msg.reading = msg := by
  cases sec with
  | update now => exact absurd h (by simp [Section.state?])
  | check_batt_info file now => exact absurd h (by simp [Section.state?])
  | check_batt_state file now =>
      unfold Section.state? at h
      simp only [Option.bind_eq_bind, Option.bind_eq_some_iff, Option.some.injEq, Prod.mk.injEq] at h
      obtain ⟨state, -, msg', hmsg, -, rfl⟩ := h
      exact check_battery_state_reading float state msg' hmsg

theorem run_state (sections : List Section) :
    ((run float round sections).last_state_update, (run float round sections).msg.reading)
      = lastState float sections := by
  apply foldl_component (LaptopBatteryMonitor.step float round)
    (fun m => (m.last_state_update, m.msg.reading)) (Section.state? float)
  intro m sec
  cases sec with
  | update now =>
      obtain ⟨-, htime, hreading, -, -⟩ := update_fields round m now
      show ((m.update round now).last_state_update, (m.update round now).msg.reading) = _
      rw [htime, hreading]
      rfl
  | check_batt_info file now =>
      unfold LaptopBatteryMonitor.step
      dsimp only
      cases (Section.check_batt_info file now).info? float <;> rfl
  | check_batt_state file now =>
      unfold LaptopBatteryMonitor.step
      dsimp only
      cases hstate : (Section.check_batt_state file now).state? float with
      | none => rfl
      | some read =>
          obtain ⟨time, msg⟩ := read
          show (time, msg.reading) = (time, msg)
          rw [state?_reading float _ time msg hstate]

/-- The percentage is zero, or how much the charge in the same message is of a capacity
that was read. -/
def Owned (sections : List Section) (msg : LaptopChargeStatus) : Prop :=
  msg.percentage = 0 ∨ ∃ sec ∈ sections, ∃ time design full,
    sec.info? float = some (time, design, full)
      ∧ full ≠ 0 ∧ msg.percentage = percentage round msg.charge full

theorem Owned.append_right {sections : List Section} {msg : LaptopChargeStatus}
    (h : Owned float round sections msg) (sections' : List Section) :
    Owned float round (sections ++ sections') msg := by
  rcases h with hzero | ⟨sec, hsec, hread⟩
  · exact Or.inl hzero
  · exact Or.inr ⟨sec, List.mem_append_left _ hsec, hread⟩

/-- A capacity that is not zero was read. -/
theorem exists_info (sections : List Section) (h : (lastInfo float sections).2.2 ≠ 0) :
    ∃ sec ∈ sections, ∃ time design,
      sec.info? float = some (time, design, (lastInfo float sections).2.2) := by
  rcases held_eq_or_exists (Section.info? float) (0, 0, 0) sections with hnone | ⟨sec, hsec, hread⟩
  · have hheld : lastInfo float sections = (0, 0, 0) := held_of_none _ _ _ hnone
    rw [hheld] at h
    exact absurd rfl h
  · exact ⟨sec, hsec, _, _, hread⟩

theorem owned_update (sections : List Section) (m : LaptopBatteryMonitor) (now : ℚ)
    (hinfo : m.batt_last_full_capacity = (lastInfo float sections).2.2)
    (h : Owned float round sections m.msg) :
    Owned float round sections (m.update round now).msg := by
  unfold LaptopBatteryMonitor.update
  dsimp only
  by_cases hinfo_ok : now - m.last_info_update < 5 / batt_info_rate
  · simp only [hinfo_ok, decide_true, if_true, true_and]
    by_cases hset : decide (now - m.last_state_update < 5 / batt_state_rate) = true
        ∧ m.batt_last_full_capacity ≠ 0
    · -- the charge is that of the message, and the capacity was read
      rw [if_pos hset]
      have hne := hset.2
      rw [hinfo] at hne ⊢
      obtain ⟨sec, hsec, time, design, hread⟩ := exists_info float sections hne
      exact Or.inr ⟨sec, hsec, time, design, _, hread, hne, rfl⟩
    · rw [if_neg hset]
      exact h
  · simp only [hinfo_ok, decide_false, Bool.false_eq_true, if_false, false_and]
    exact h

theorem owned_run (sections : List Section) :
    Owned float round sections (run float round sections).msg := by
  induction sections using List.reverseRecOn with
  | nil => exact Or.inl rfl
  | append_singleton sections sec ih =>
      have hrun : run float round (sections ++ [sec])
          = (run float round sections).step float round sec := by
        unfold run
        rw [List.foldl_append, List.foldl_cons, List.foldl_nil]
      rw [hrun]
      cases sec with
      | update now =>
          have hinfo := congrArg (fun info => info.2.2) (run_info float round sections)
          exact (owned_update float round sections _ now hinfo ih).append_right float round _
      | check_batt_info file now =>
          have hmsg : ((run float round sections).step float round (.check_batt_info file now)).msg
              = (run float round sections).msg := by
            unfold LaptopBatteryMonitor.step
            dsimp only
            cases (Section.check_batt_info file now).info? float <;> rfl
          rw [hmsg]
          exact ih.append_right float round _
      | check_batt_state file now =>
          unfold LaptopBatteryMonitor.step
          dsimp only
          cases hstate : (Section.check_batt_state file now).state? float with
          | none => exact ih.append_right float round _
          | some read =>
              -- a new message has no percentage yet
              have hreading := state?_reading float _ read.1 read.2 hstate
              exact Or.inl (congrArg LaptopChargeStatus.percentage hreading).symm

theorem update_capacities (m : LaptopBatteryMonitor) (now : ℚ) :
    ((m.update round now).msg.design_capacity, (m.update round now).msg.capacity)
      = if now - m.last_info_update < 300 then (m.batt_design_capacity, m.batt_last_full_capacity)
        else (0, 0) := by
  have hperiod : 5 / batt_info_rate = 300 := by decide +kernel
  unfold LaptopBatteryMonitor.update
  dsimp only
  rw [hperiod]
  by_cases hinfo_ok : now - m.last_info_update < 300
  · simp only [hinfo_ok, decide_true, if_true]
    split <;> rfl
  · simp only [hinfo_ok, decide_false, Bool.false_eq_true, if_false, false_and]

theorem update_published (m : LaptopBatteryMonitor) (now : ℚ) :
    (m.update round now).published = m.published
      ++ [(if now - m.last_info_update < 300 ∧ now - m.last_state_update < 25 then
            laptop_charge_to_diag (m.update round now).msg else stale, (m.update round now).msg)] := by
  have hinfo : 5 / batt_info_rate = 300 := by decide +kernel
  have hstate : 5 / batt_state_rate = 25 := by decide +kernel
  unfold LaptopBatteryMonitor.update
  dsimp only
  rw [hinfo, hstate]
  congr 3
  by_cases hok : now - m.last_info_update < 300 ∧ now - m.last_state_update < 25
  · rw [if_pos hok, if_neg (by simp [hok.1, hok.2])]
  · rw [if_neg hok, if_pos (by simpa [not_and_or] using not_and_or.mp hok)]

/-- **Across the threads.** In every run, in whatever order and at whatever times the
threads get the mutex and whichever of their readings fail, an update publishes the last
`state` that was read, beside the capacities that were read last if they are not older
than five minutes, and zeros if they are. Its diagnostics are stale exactly if they are
or the `state` is older than 25 seconds; and its percentage is that of its own charge. -/
theorem update_publishes (sections : List Section) (now : ℚ) :
    let info := lastInfo float sections
    let state := lastState float sections
    ∃ diag msg, (run float round (sections ++ [.update now])).published
        = (run float round sections).published ++ [(diag, msg)]
      ∧ msg.reading = state.2
      ∧ (msg.design_capacity, msg.capacity) = (if now - info.1 < 300 then info.2 else (0, 0))
      ∧ diag = (if now - info.1 < 300 ∧ now - state.1 < 25 then laptop_charge_to_diag msg else stale)
      ∧ Owned float round sections msg := by
  dsimp only
  have hrun : run float round (sections ++ [.update now])
      = (run float round sections).update round now := by
    unfold run
    rw [List.foldl_append, List.foldl_cons, List.foldl_nil]
    rfl
  have hinfo := run_info float round sections
  have hstate := run_state float round sections
  obtain ⟨-, -, hreading, -, -⟩ := update_fields round (run float round sections) now
  have howned := owned_update float round sections (run float round sections) now
    (congrArg (fun info => info.2.2) hinfo) (owned_run float round sections)
  rw [hrun, ← hinfo, ← hstate]
  exact ⟨_, ((run float round sections).update round now).msg, update_published round _ now,
    hreading, update_capacities round _ now, rfl, howned⟩

end Sonar3D.LaptopBattery
