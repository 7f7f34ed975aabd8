import Mathlib.Data.List.Dedup
import RpaPlatform.TelemetryMetrics
import RpaPlatform.Transition

namespace RpaPlatform.Metrics

open Transition

/-!
# Hourly rows and the retention of minute rows

A cleanup makes hourly rows of the minute rows that are more than a day old,
with `INSERT OR REPLACE`, and then deletes the minute rows of more than seven
days and the hourly rows of more than ninety.  The cutoff of the minute rows
can fall inside an hour; the next cleanup then computes the hourly row again,
of the minutes that are left.

`stored` are the minute rows that have been stored, whether or not a cleanup
has deleted them since.
-/

/-- A row of `metrics_hourly`. -/
structure HourlyRow where
  ts : Nat
  agentId : String
  sessionId : Int
  pid : Int
  exe : String
  cpuAvg : ℚ
  cpuMax : ℚ
  memWsAvg : ℚ
  memPbAvg : ℚ
  handlesAvg : ℚ
  ioReadBpsAvg : ℚ
  ioWriteBpsAvg : ℚ
deriving DecidableEq

def HourlyRow.key (row : HourlyRow) : MetricsKey :=
  (row.ts, row.agentId, row.pid)

def day : Nat :=
  86400

def metricsRetention : Nat :=
  7 * day

def hourlyRetention : Nat :=
  90 * day

/-- `(ts / 3600) * 3600`. -/
def hourOf (ts : Nat) : Nat :=
  ts / 3600 * 3600

def MetricsRow.hourKey (row : MetricsRow) : MetricsKey :=
  (hourOf row.ts, row.agentId, row.pid)

/-- The first row with the greatest `cpu_max`, which SQLite takes the columns
outside the aggregates from. -/
def busiest (first : MetricsRow) (rest : List MetricsRow) : MetricsRow :=
  rest.foldl
    (fun best row => if best.cpuMax < row.cpuMax then row else best) first

/-- The aggregate of the rows of a group. -/
def rollup? (key : MetricsKey) : List MetricsRow → Option HourlyRow
  | [] => none
  | first :: rest =>
    some
      { ts := key.1
        agentId := key.2.1
        sessionId := (busiest first rest).sessionId
        pid := key.2.2
        exe := (busiest first rest).exe
        cpuAvg := mean ((first :: rest).map (·.cpuAvg))
        cpuMax := (busiest first rest).cpuMax
        memWsAvg := mean ((first :: rest).map fun row => (row.memWs : ℚ))
        memPbAvg := mean ((first :: rest).map fun row => (row.memPb : ℚ))
        handlesAvg :=
          mean ((first :: rest).map fun row => (row.handles : ℚ))
        ioReadBpsAvg := mean ((first :: rest).map (·.ioReadBps))
        ioWriteBpsAvg := mean ((first :: rest).map (·.ioWriteBps)) }

def minutesOf (rows : List MetricsRow) (key : MetricsKey) :
    List MetricsRow :=
  rows.filter fun row => decide (row.hourKey = key)

/-- `SELECT … GROUP BY`. -/
def hourlyRows (rows : List MetricsRow) : List HourlyRow :=
  (rows.map MetricsRow.hourKey).dedup.filterMap fun key =>
    rollup? key (minutesOf rows key)

/-- The minute rows and the hourly rows. -/
structure RollupDB where
  metrics : KeyedTable MetricsRow MetricsRow.key := .empty
  hourly : KeyedTable HourlyRow HourlyRow.key := .empty
  stored : KeyedTable MetricsRow MetricsRow.key := .empty
  clock : Nat := 0
  /-- The time of the last cleanup. -/
  cleaned : Nat := 0

/-- What happens to the rows. -/
inductive RollupAction where
  /-- `_flush_to_db`, one row of it. -/
  | store (now : Nat) (row : MetricsRow)
  /-- `_cleanup_old`. -/
  | cleanup (now : Nat)

namespace RollupDB

def store (db : RollupDB) (now : Nat) (row : MetricsRow) : RollupDB :=
  { db with
    metrics := db.metrics.replace row
    stored := db.stored.replace row
    clock := now }

def cleanupOld (db : RollupDB) (now : Nat) : RollupDB :=
  { db with
    hourly :=
      (db.hourly.replaceAll
        (hourlyRows
          (db.metrics.rows.filter fun row =>
            decide (row.ts + day < now)))).deleteWhere
        fun row => decide (row.ts + hourlyRetention < now)
    metrics :=
      db.metrics.deleteWhere fun row =>
        decide (row.ts + metricsRetention < now)
    clock := now
    cleaned := now }

/-- One step; a flush stores rows under its own minute, and the clock does not
go back. -/
def step? (db : RollupDB) : RollupAction → Option RollupDB
  | .store now row =>
    if db.clock ≤ now ∧ row.ts = minuteOf now then
      some (db.store now row)
    else
      none
  | .cleanup now =>
    if db.clock ≤ now then
      some (db.cleanupOld now)
    else
      none

/-- All minutes of an hour were more than a day old at the last cleanup. -/
def Settled (db : RollupDB) (key : MetricsKey) : Prop :=
  key.1 + 3540 + day < db.cleaned

/-- The hourly row of a group is the aggregate of its rows, until the
retention removes it. -/
def RollsUp (db : RollupDB) (key : MetricsKey) (rows : List MetricsRow) :
    Prop :=
  db.hourly.find? key =
    if key.1 + hourlyRetention < db.cleaned then none else rollup? key rows

/--
A cleanup finds no hour of which earlier cleanups have deleted minutes and
left others, unless these have the same aggregate, or the cleanup deletes the
hourly row as well.
-/
def FindsWholeHours (db : RollupDB) : RollupAction → Prop
  | .store _ _ => True
  | .cleanup now =>
    ∀ row ∈ db.metrics.rows,
      row.hourKey.1 + hourlyRetention < now ∨
        rollup? row.hourKey (minutesOf db.metrics.rows row.hourKey) =
          rollup? row.hourKey (minutesOf db.stored.rows row.hourKey)

instance (db : RollupDB) (key : MetricsKey) : Decidable (db.Settled key) :=
  inferInstanceAs (Decidable (_ < _))

instance
    (db : RollupDB)
    (key : MetricsKey)
    (rows : List MetricsRow) : Decidable (db.RollsUp key rows) :=
  inferInstanceAs (Decidable (_ = _))

instance (db : RollupDB) :
    (action : RollupAction) → Decidable (db.FindsWholeHours action)
  | .store _ _ => inferInstanceAs (Decidable True)
  | .cleanup _ => inferInstanceAs (Decidable (∀ row ∈ _, _))

end RollupDB

/-! ### Flushes -/

def TelemetryDB.columns (db : TelemetryDB) :
    KeyedTable MetricsRow MetricsRow.key :=
  db.metrics.map FlushedRow.columns fun _ => rfl

theorem run_of_rows
    {now : Nat}
    {rows : List FlushedRow}
    (isMinute : ∀ row ∈ rows, row.ts = minuteOf now)
    {db : RollupDB}
    (inOrder : db.clock ≤ now) :
    ∃ after,
      Run (Fires RollupDB.step?) db
          (rows.map fun row => .store now row.columns) after ∧
        after.metrics = db.metrics.replaceAll (rows.map FlushedRow.columns) ∧
        after.clock ≤ now := by
  induction rows generalizing db with
  | nil =>
    exact ⟨db, .nil db, rfl, inOrder⟩
  | cons row rest inductionHypothesis =>
    have stored :
        db.step? (.store now row.columns) = some (db.store now row.columns) :=
      if_pos ⟨inOrder, isMinute row List.mem_cons_self⟩
    obtain ⟨after, run, isMetrics, isClock⟩ :=
      inductionHypothesis
        (fun other member =>
          isMinute other (List.mem_cons_of_mem row member))
        (le_refl (db.store now row.columns).clock)
    exact ⟨after, .cons stored run, isMetrics, isClock⟩

theorem run_of_flush
    (telemetry : TelemetryDB)
    {now : Nat}
    {db : RollupDB}
    (same : db.metrics = telemetry.columns)
    (inOrder : db.clock ≤ now) :
    ∃ after,
      Run (Fires RollupDB.step?) db
          ((telemetry.ring.rows now).map fun row =>
            .store now row.columns) after ∧
        after.metrics = (telemetry.flushToDb now).columns ∧
        after.clock ≤ now := by
  obtain ⟨after, run, isMetrics, isClock⟩ :=
    run_of_rows (fun _ member => (mem_rows.mp member).2) inOrder
  refine ⟨after, run, ?_, isClock⟩
  rw [isMetrics, same]
  exact (KeyedTable.map_replaceAll _ _ _ _).symm

/--
What the ring buffer stores of any history of pushes and flushes is what a run
of the minute rows stores.
-/
theorem run_of_history
    {actions : List TelemetryAction}
    (inOrder : InOrder actions) :
    ∃ stores final,
      Run (Fires RollupDB.step?) {} stores final ∧
        final.metrics = (TelemetryDB.after actions).columns := by
  have follows :
      ∀ (telemetry : TelemetryDB) (db : RollupDB),
        db.metrics = telemetry.columns →
        (∀ action ∈ actions, db.clock ≤ action.time) →
        ∃ stores final,
          Run (Fires RollupDB.step?) db stores final ∧
            final.metrics =
              (actions.foldl TelemetryDB.act telemetry).columns := by
    induction actions with
    | nil =>
      exact fun telemetry db same _ => ⟨[], db, .nil db, same⟩
    | cons action rest inductionHypothesis =>
      intro telemetry db same isLater
      rw [InOrder, List.pairwise_cons] at inOrder
      have flushes :
          ∀ now, action.time = now →
          ∃ stores final,
            Run (Fires RollupDB.step?) db stores final ∧
              final.metrics =
                (rest.foldl TelemetryDB.act
                  (telemetry.flushToDb now)).columns := by
        rintro now rfl
        obtain ⟨after, run, isMetrics, isClock⟩ :=
          run_of_flush telemetry same (isLater action List.mem_cons_self)
        obtain ⟨stores, final, further, reached⟩ :=
          inductionHypothesis inOrder.2 _ after isMetrics
            fun other member => isClock.trans (inOrder.1 other member)
        exact ⟨_, final, run.append further, reached⟩
      cases action with
      | push reading now =>
        exact
          inductionHypothesis inOrder.2 _ db same fun other member =>
            isLater other (List.mem_cons_of_mem _ member)
      | flush now | stop now =>
        exact flushes now rfl
  exact follows {} {} rfl fun _ _ => Nat.zero_le _

theorem stoppedEarly_stored :
    ∃ stores final,
      Run (Fires RollupDB.step?) {} stores final ∧
        final.metrics = (TelemetryDB.after stoppedEarly).columns :=
  run_of_history (by decide)

/-! ### Groups -/

section Groups

variable {rows : List MetricsRow} {key : MetricsKey}

theorem rollup?_eq_none_iff : rollup? key rows = none ↔ rows = [] := by
  cases rows with
  | nil =>
    exact iff_of_true rfl rfl
  | cons first rest =>
    exact iff_of_false nofun nofun

theorem key_of_rollup?
    {row : HourlyRow}
    (isRow : rollup? key rows = some row) :
    row.key = key := by
  cases rows with
  | nil =>
    cases isRow
  | cons first rest =>
    cases isRow
    rfl

theorem nodup_hourlyRows (rows : List MetricsRow) :
    ((hourlyRows rows).map HourlyRow.key).Nodup := by
  refine List.pairwise_map.mpr ?_
  refine List.Pairwise.filterMap _ ?_ (List.nodup_dedup _)
  intro first second differ row isRow other isOther sameKey
  rw [key_of_rollup? isRow, key_of_rollup? isOther] at sameKey
  exact differ sameKey

theorem find?_hourlyRows (rows : List MetricsRow) (key : MetricsKey) :
    (hourlyRows rows).find? (fun row => decide (row.key = key)) =
      rollup? key (minutesOf rows key) := by
  let groups : KeyedTable HourlyRow HourlyRow.key :=
    ⟨hourlyRows rows, nodup_hourlyRows rows⟩
  change groups.find? key = _
  apply Option.ext
  intro row
  rw [groups.find?_eq_some_iff]
  constructor
  · rintro ⟨member, named⟩
    obtain ⟨group, _, isRow⟩ := List.mem_filterMap.mp member
    rw [← named, key_of_rollup? isRow]
    exact isRow
  · intro isRow
    refine ⟨List.mem_filterMap.mpr ⟨key, ?_, isRow⟩, key_of_rollup? isRow⟩
    have nonempty : minutesOf rows key ≠ [] := by
      intro isEmpty
      rw [isEmpty] at isRow
      cases isRow
    obtain ⟨minute, member⟩ := List.exists_mem_of_ne_nil _ nonempty
    obtain ⟨isStored, named⟩ := List.mem_filter.mp member
    rw [List.mem_dedup]
    exact List.mem_map.mpr ⟨minute, isStored, of_decide_eq_true named⟩

theorem le_of_mem_minutesOf
    {row : MetricsRow}
    (member : row ∈ minutesOf rows key) :
    row ∈ rows ∧ key.1 % 60 = 0 ∧ key.1 ≤ row.ts ∧ row.ts < key.1 + 3600 := by
  obtain ⟨isStored, named⟩ := List.mem_filter.mp member
  obtain rfl := of_decide_eq_true named
  refine ⟨isStored, ?_⟩
  unfold MetricsRow.hourKey hourOf
  dsimp only
  omega

end Groups

/-! ### What cleanups keep -/

/-- What holds in every reachable state. -/
structure Retains (db : RollupDB) : Prop where
  cleanedBefore : db.cleaned ≤ db.clock
  isMinute : ∀ row ∈ db.stored.rows, row.ts % 60 = 0
  kept :
    db.metrics.rows =
      db.stored.rows.filter fun row =>
        decide (db.cleaned ≤ row.ts + metricsRetention)

/-- Every hour that is settled has its row. -/
def RollsUpSettled (db : RollupDB) : Prop :=
  ∀ key,
    db.Settled key →
    minutesOf db.stored.rows key ≠ [] →
    db.RollsUp key (minutesOf db.stored.rows key)

section Steps

variable {before after : RollupDB} {action : RollupAction}

theorem eq_store_of_step
    {now : Nat}
    {row : MetricsRow}
    (stepped : Fires RollupDB.step? before (.store now row) after) :
    before.clock ≤ now ∧ row.ts = minuteOf now ∧
      after = before.store now row := by
  obtain ⟨⟨inOrder, isMinute⟩, stored⟩ :=
    Option.ite_none_right_eq_some.mp stepped
  exact ⟨inOrder, isMinute, (Option.some.inj stored).symm⟩

theorem eq_cleanupOld_of_step
    {now : Nat}
    (stepped : Fires RollupDB.step? before (.cleanup now) after) :
    before.clock ≤ now ∧ after = before.cleanupOld now := by
  obtain ⟨inOrder, cleaned⟩ := Option.ite_none_right_eq_some.mp stepped
  exact ⟨inOrder, (Option.some.inj cleaned).symm⟩

theorem Retains.step
    (retains : Retains before)
    (stepped : Fires RollupDB.step? before action after) :
    Retains after := by
  cases action with
  | store now row =>
    obtain ⟨inOrder, isMinute, rfl⟩ := eq_store_of_step stepped
    have isKept :
        [row].filter (fun row =>
          decide (before.cleaned ≤ row.ts + metricsRetention)) = [row] := by
      have cleaned := retains.cleanedBefore
      refine List.filter_cons_of_pos (decide_eq_true ?_)
      rw [isMinute]
      unfold minuteOf metricsRetention day
      omega
    constructor
    · exact retains.cleanedBefore.trans inOrder
    · intro stored member
      rcases List.mem_append.mp member with old | isNew
      · exact retains.isMinute _ (List.mem_filter.mp old).1
      · obtain rfl := List.mem_singleton.mp isNew
        rw [isMinute]
        exact Nat.mul_mod_left _ _
    · simp only [RollupDB.store, KeyedTable.replace, KeyedTable.delete,
        List.filter_append, isKept, retains.kept]
      rw [List.filter_comm]
  | cleanup now =>
    obtain ⟨inOrder, rfl⟩ := eq_cleanupOld_of_step stepped
    constructor
    · exact le_rfl
    · exact retains.isMinute
    · have cleaned := retains.cleanedBefore
      simp only [RollupDB.cleanupOld, KeyedTable.deleteWhere,
        retains.kept, List.filter_filter]
      refine List.filter_congr fun row _ => ?_
      rw [← decide_not, ← Bool.decide_and]
      refine decide_eq_decide.mpr ?_
      omega

variable {key : MetricsKey}

theorem minutesOf_replace
    (table : KeyedTable MetricsRow MetricsRow.key)
    {row : MetricsRow}
    (other : row.hourKey ≠ key) :
    minutesOf (table.replace row).rows key = minutesOf table.rows key := by
  unfold minutesOf KeyedTable.replace KeyedTable.delete
  rw [List.filter_append, List.filter_filter,
    List.filter_cons_of_neg (by simpa using other), List.filter_nil,
    List.append_nil]
  refine List.filter_congr fun stored _ => ?_
  by_cases named : stored.hourKey = key
  · have different : stored.key ≠ row.key := by
      intro same
      obtain ⟨sameTs, sameProcess⟩ := Prod.mk.inj same
      refine other (.trans ?_ named)
      unfold MetricsRow.hourKey
      rw [sameTs, sameProcess]
    rw [decide_eq_true named, decide_eq_true different]
    rfl
  · rw [decide_eq_false named]
    rfl

theorem minutesOf_step
    (retains : Retains before)
    (settled : before.Settled key)
    (stepped : Fires RollupDB.step? before action after) :
    minutesOf after.stored.rows key = minutesOf before.stored.rows key ∧
      after.Settled key := by
  have cleaned := retains.cleanedBefore
  unfold RollupDB.Settled at settled
  cases action with
  | store now row =>
    obtain ⟨inOrder, isMinute, rfl⟩ := eq_store_of_step stepped
    refine ⟨?_, settled⟩
    have isLater : row.hourKey ≠ key := by
      rintro rfl
      unfold MetricsRow.hourKey hourOf at settled
      rw [isMinute] at settled
      unfold minuteOf day at settled
      dsimp only at settled
      omega
    exact minutesOf_replace before.stored isLater
  | cleanup now =>
    obtain ⟨inOrder, rfl⟩ := eq_cleanupOld_of_step stepped
    refine ⟨rfl, ?_⟩
    exact settled.trans_le (cleaned.trans inOrder)

theorem filter_retention
    {found : Option HourlyRow}
    (named : ∀ row ∈ found, row.key = key)
    (now : Nat) :
    found.filter (fun row => !decide (row.ts + hourlyRetention < now)) =
      if key.1 + hourlyRetention < now then none else found := by
  cases found with
  | none =>
    simp
  | some row =>
    have sameTs : row.ts = key.1 :=
      congrArg Prod.fst (named row rfl)
    rw [Option.filter_some, sameTs]
    by_cases expired : key.1 + hourlyRetention < now
    · simp [expired]
    · simp [expired]

theorem find?_hourly_cleanupOld
    (db : RollupDB)
    (now : Nat)
    (key : MetricsKey) :
    (db.cleanupOld now).hourly.find? key = if key.1 + hourlyRetention < now then
        none
      else
        (rollup? key
          (minutesOf
            (db.metrics.rows.filter fun row =>
              decide (row.ts + day < now)) key)).or
          (db.hourly.find? key) := by
  unfold RollupDB.cleanupOld
  dsimp only
  rw [KeyedTable.find?_deleteWhere,
    KeyedTable.find?_replaceAll _ (nodup_hourlyRows _), find?_hourlyRows]
  refine filter_retention ?_ now
  intro row isRow
  rcases Option.or_eq_some_iff.mp isRow with isNew | ⟨_, isOld⟩
  · exact key_of_rollup? isNew
  · exact KeyedTable.key_of_find? isOld

/-- A cleanup leaves every settled hour with its row. -/
theorem rollsUpSettled_cleanupOld
    {now : Nat}
    (retains : Retains before)
    (rollsUp : RollsUpSettled before)
    (inOrder : before.clock ≤ now)
    (whole : before.FindsWholeHours (.cleanup now)) :
    RollsUpSettled (before.cleanupOld now) := by
  intro key settled nonempty
  have cleaned := retains.cleanedBefore
  change key.1 + 3540 + day < now at settled
  change minutesOf before.stored.rows key ≠ [] at nonempty
  unfold RollupDB.RollsUp
  rw [find?_hourly_cleanupOld]
  change _ =
    if key.1 + hourlyRetention < now then none
    else rollup? key (minutesOf before.stored.rows key)
  split
  · rfl
  rename_i notExpired
  have allOld :
      minutesOf
          (before.metrics.rows.filter fun row =>
            decide (row.ts + day < now)) key =
        minutesOf before.metrics.rows key := by
    unfold minutesOf
    rw [List.filter_comm]
    refine List.filter_eq_self.mpr fun row member => decide_eq_true ?_
    obtain ⟨isHeld, isHour, _, beforeEnd⟩ := le_of_mem_minutesOf member
    rw [retains.kept] at isHeld
    have isMinute := retains.isMinute row (List.mem_filter.mp isHeld).1
    omega
  rw [allOld]
  cases left : minutesOf before.metrics.rows key with
  | nil =>
    -- The minutes were deleted by an earlier cleanup, which found them all.
    obtain ⟨row, member⟩ := List.exists_mem_of_ne_nil _ nonempty
    obtain ⟨isStored, _, afterStart, _⟩ := le_of_mem_minutesOf member
    have wasSettled : before.Settled key := by
      unfold RollupDB.Settled
      by_contra unsettled
      have isLeft : row ∈ minutesOf before.metrics.rows key := by
        refine List.mem_filter.mpr ⟨?_, (List.mem_filter.mp member).2⟩
        rw [retains.kept]
        refine List.mem_filter.mpr ⟨isStored, decide_eq_true ?_⟩
        unfold metricsRetention day
        unfold day at unsettled
        omega
      rw [left] at isLeft
      cases isLeft
    have wasRolledUp := rollsUp key wasSettled nonempty
    unfold RollupDB.RollsUp at wasRolledUp
    rw [if_neg (by omega)] at wasRolledUp
    exact wasRolledUp
  | cons row rest =>
    have member : row ∈ minutesOf before.metrics.rows key := by
      rw [left]
      exact List.mem_cons_self
    obtain ⟨isHeld, named⟩ := List.mem_filter.mp member
    obtain rfl := of_decide_eq_true named
    rcases whole row isHeld with expired | same
    · exact (notExpired expired).elim
    · rw [← left, same]
      cases rolled :
          rollup? row.hourKey (minutesOf before.stored.rows row.hourKey) with
      | none =>
        exact (nonempty (rollup?_eq_none_iff.mp rolled)).elim
      | some hourly =>
        rfl

theorem rollsUpSettled_step
    (retains : Retains before)
    (rollsUp : RollsUpSettled before)
    (stepped :
      Guarded (Fires RollupDB.step?) RollupDB.FindsWholeHours
        before action after) :
    RollsUpSettled after := by
  obtain ⟨fired, whole⟩ := stepped
  cases action with
  | store now row =>
    intro key settled nonempty
    have isSame : after.hourly = before.hourly ∧
        after.cleaned = before.cleaned := by
      obtain ⟨_, _, rfl⟩ := eq_store_of_step fired
      exact ⟨rfl, rfl⟩
    obtain ⟨sameHourly, sameCleaned⟩ := isSame
    unfold RollupDB.Settled at settled
    rw [sameCleaned] at settled
    have complete := (minutesOf_step retains settled fired).1
    rw [complete] at nonempty ⊢
    unfold RollupDB.RollsUp
    rw [sameHourly, sameCleaned]
    exact rollsUp key settled nonempty
  | cleanup now =>
    obtain ⟨inOrder, rfl⟩ := eq_cleanupOld_of_step fired
    exact rollsUpSettled_cleanupOld retains rollsUp inOrder whole

end Steps

/-- The system, restricted to cleanups that find whole hours. -/
abbrev WholeHourStep : RollupDB → RollupAction → RollupDB → Prop :=
  Guarded (Fires RollupDB.step?) RollupDB.FindsWholeHours

/-- The hourly row of an hour that is settled stays the aggregate of all its
minutes, in every run. -/
def RollupsStable : Prop :=
  ∀ actions db more later,
    Run (Fires RollupDB.step?) {} actions db →
    Run (Fires RollupDB.step?) db more later →
    ∀ key,
      db.Settled key →
      minutesOf db.stored.rows key ≠ [] →
      later.RollsUp key (minutesOf db.stored.rows key)

/--
Where every cleanup finds whole hours, the hourly row of an hour that is
settled stays the aggregate of all its minutes.
-/
theorem rollsUp_of_wholeHours
    {db later : RollupDB}
    {actions more : List RollupAction}
    (leading : Run WholeHourStep {} actions db)
    (trailing : Run WholeHourStep db more later)
    {key : MetricsKey}
    (settled : db.Settled key)
    (nonempty : minutesOf db.stored.rows key ≠ []) :
    later.RollsUp key (minutesOf db.stored.rows key) := by
  have stepPreserves :
      ∀ before action after,
        WholeHourStep before action after →
        Retains before ∧ RollsUpSettled before →
        Retains after ∧ RollsUpSettled after :=
    fun _ _ _ stepped invariant =>
      ⟨invariant.1.step stepped.1,
        rollsUpSettled_step invariant.1 invariant.2 stepped⟩
  have start : Retains {} ∧ RollsUpSettled {} := by
    refine ⟨⟨le_rfl, fun _ stored => ?_, rfl⟩, ?_⟩
    · exact (List.not_mem_nil stored).elim
    intro key _ isStored
    exact (isStored rfl).elim
  have held := leading.preserves stepPreserves start
  have stepKeeps :
      ∀ before action after,
        WholeHourStep before action after →
        minutesOf before.stored.rows key = minutesOf db.stored.rows key ∧
          before.Settled key ∧ Retains before ∧ RollsUpSettled before →
        minutesOf after.stored.rows key = minutesOf db.stored.rows key ∧
          after.Settled key ∧ Retains after ∧ RollsUpSettled after := by
    rintro before action after stepped ⟨same, isSettled, invariant⟩
    have step := minutesOf_step invariant.1 isSettled stepped.1
    exact
      ⟨step.1.trans same, step.2,
        stepPreserves before action after stepped invariant⟩
  obtain ⟨same, isSettled, _, rollsUp⟩ :=
    trailing.preserves stepKeeps ⟨rfl, settled, held⟩
  rw [← same] at nonempty ⊢
  exact rollsUp key isSettled nonempty

/-- A minute of a process. -/
def minuteRow (ts : Nat) (cpu : ℚ) : MetricsRow where
  ts := ts
  agentId := "agent-1"
  sessionId := 1
  pid := 4711
  exe := "robot.exe"
  cpuAvg := cpu
  cpuMax := cpu
  memWs := 0
  memPb := 0
  handles := 0
  ioReadBps := 0
  ioWriteBps := 0

def firstHour : MetricsKey :=
  (0, "agent-1", 4711)

def settledHour : List RollupAction :=
  [.store 0 (minuteRow 0 1), .store 3540 (minuteRow 3540 3), .cleanup 89941]

def holdsFirstHour (db : RollupDB) : Bool :=
  decide (db.Settled firstHour) &&
    decide (minutesOf db.stored.rows firstHour ≠ [])

/-- The hour keeps its row through a cleanup that deletes its minutes. -/
theorem settledHour_rollsUp :
    ∃ db later,
      Run WholeHourStep {} settledHour db ∧
        Run WholeHourStep db [.cleanup 700000] later ∧
        later.RollsUp firstHour (minutesOf db.stored.rows firstHour) := by
  obtain ⟨db, later, leading, trailing, holds, _⟩ :=
    exists_runs_of_execute
      (show
        (execute (checked RollupDB.step? RollupDB.FindsWholeHours) {}
            settledHour).any holdsFirstHour =
          true by decide +kernel)
      (show
        (execute (checked RollupDB.step? RollupDB.FindsWholeHours) {}
            (settledHour ++ [.cleanup 700000])).any (fun _ => true) =
          true by decide +kernel)
  obtain ⟨isSettled, nonempty⟩ := Bool.and_eq_true_iff.mp holds
  have whole := leading.guarded_of_checked
  have alsoWhole := trailing.guarded_of_checked
  exact
    ⟨db, later, whole, alsoWhole,
      rollsUp_of_wholeHours whole alsoWhole (of_decide_eq_true isSettled)
        (of_decide_eq_true nonempty)⟩

/-- A cleanup that deletes the first minute, and one a minute later. -/
def laterCleanups : List RollupAction :=
  [.cleanup 605000, .cleanup 605060]

/-- The row of the hour is computed again, of the second minute. -/
theorem not_rollupsStable : ¬ RollupsStable := by
  intro claimed
  obtain ⟨db, leading, holds⟩ :=
    exists_run_of_execute
      (show (execute RollupDB.step? {} settledHour).any
          (fun db =>
            holdsFirstHour db &&
              (execute RollupDB.step? db laterCleanups).any fun later =>
                !decide
                  (later.RollsUp firstHour
                    (minutesOf db.stored.rows firstHour))) =
          true by decide +kernel)
  obtain ⟨isHeld, recomputed⟩ := Bool.and_eq_true_iff.mp holds
  obtain ⟨isSettled, nonempty⟩ := Bool.and_eq_true_iff.mp isHeld
  obtain ⟨later, trailing, differs⟩ := exists_run_of_execute recomputed
  have rollsUp :=
    claimed settledHour db laterCleanups later leading trailing firstHour
      (of_decide_eq_true isSettled) (of_decide_eq_true nonempty)
  rw [decide_eq_true rollsUp] at differs
  cases differs

end RpaPlatform.Metrics
