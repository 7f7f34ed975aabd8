import Mathlib.Data.List.Sort
import RpaPlatform.TelemetryRollup

namespace RpaPlatform.Metrics

open Transition

/-!
# Queries for metrics

A query for more than a day reads the hourly rows, any other one the minute
rows.  A cleanup makes hourly rows of minutes that are more than a day old
only, and an hourly row has the time at which its hour begins; both tables
lose their oldest rows.
-/

/-! ### Querying -/

/-- A row of a result, whichever table it is from. -/
structure MetricsPoint where
  ts : Nat
  agentId : String
  sessionId : Int
  pid : Int
  exe : String
  cpuAvg : ℚ
  cpuMax : ℚ
  memWs : ℚ
  memPb : ℚ
  handles : ℚ
  ioReadBps : ℚ
  ioWriteBps : ℚ

def MetricsPoint.key (point : MetricsPoint) : MetricsKey :=
  (point.ts, point.agentId, point.pid)

/-- The columns that are selected of a minute row. -/
def MetricsRow.point (row : MetricsRow) : MetricsPoint where
  ts := row.ts
  agentId := row.agentId
  sessionId := row.sessionId
  pid := row.pid
  exe := row.exe
  cpuAvg := row.cpuAvg
  cpuMax := row.cpuMax
  memWs := row.memWs
  memPb := row.memPb
  handles := row.handles
  ioReadBps := row.ioReadBps
  ioWriteBps := row.ioWriteBps

/-- The columns that are selected of an hourly row. -/
def HourlyRow.point (row : HourlyRow) : MetricsPoint where
  ts := row.ts
  agentId := row.agentId
  sessionId := row.sessionId
  pid := row.pid
  exe := row.exe
  cpuAvg := row.cpuAvg
  cpuMax := row.cpuMax
  memWs := row.memWsAvg
  memPb := row.memPbAvg
  handles := row.handlesAvg
  ioReadBps := row.ioReadBpsAvg
  ioWriteBps := row.ioWriteBpsAvg

/-- The arguments of `get_metrics`, and the time at which it is called. -/
structure MetricsQuery where
  agentId : String
  pid : Option Int := none
  fromTs : Option Int := none
  toTs : Option Int := none
  limit : Int := 1000
  now : Nat

namespace MetricsQuery

variable (query : MetricsQuery)

/-- `from_ts or (now - 3600)`. -/
def start : Int :=
  (query.fromTs.filter (· ≠ 0)).getD (query.now - 3600)

/-- `to_ts or now`. -/
def stop : Int :=
  (query.toTs.filter (· ≠ 0)).getD query.now

def useHourly : Bool :=
  day < query.stop - query.start

def concerns (key : MetricsKey) : Bool :=
  key.2.1 = query.agentId &&
    (query.pid.filter (· ≠ 0)).all fun pid => key.2.2 = pid

/-- `WHERE`. -/
def selects (key : MetricsKey) : Bool :=
  query.concerns key && query.start ≤ key.1 && key.1 ≤ query.stop

/-- `LIMIT ?`; a negative limit is none. -/
def limited {Row : Type*} (rows : List Row) : List Row :=
  if query.limit < 0 then rows else rows.take query.limit.toNat

/-- The key of the row that stands for a minute in the table of the query. -/
def keyFor (row : MetricsRow) : MetricsKey :=
  if query.useHourly then row.hourKey else row.key

end MetricsQuery

namespace RollupDB

/-- The rows of the table that a query reads. -/
def points (db : RollupDB) (query : MetricsQuery) : List MetricsPoint :=
  if query.useHourly then
    db.hourly.rows.map HourlyRow.point
  else
    db.metrics.rows.map MetricsRow.point

def getMetrics (db : RollupDB) (query : MetricsQuery) :
    List MetricsPoint :=
  query.limited
    (((db.points query).filter fun point =>
        query.selects point.key).insertionSort
      fun first second => first.ts ≤ second.ts)

/-- Every minute that was stored in the range of a query is represented in
the result. -/
def Covers (db : RollupDB) (query : MetricsQuery) : Prop :=
  ∀ row ∈ db.stored.rows,
    query.selects row.key = true →
    ∃ point ∈ db.getMetrics query, point.key = query.keyFor row

/-- An hour of which a minute was more than a day old at the last cleanup. -/
def Rolled (db : RollupDB) (key : MetricsKey) : Prop :=
  ∃ row ∈ db.stored.rows, row.hourKey = key ∧ row.ts + day < db.cleaned

/--
The minutes that were stored in the range of a query are kept in its table.
In the table of hours, the hours also begin in the range and are rolled up.
-/
def Reaches (db : RollupDB) (query : MetricsQuery) : Prop :=
  ∀ row ∈ db.stored.rows, query.selects row.key = true → if query.useHourly then
      query.start ≤ hourOf row.ts ∧
        db.cleaned ≤ hourOf row.ts + hourlyRetention ∧ db.Rolled row.hourKey
    else
      db.cleaned ≤ row.ts + metricsRetention

instance (db : RollupDB) (key : MetricsKey) : Decidable (db.Rolled key) :=
  inferInstanceAs (Decidable (∃ row ∈ _, _))

instance (db : RollupDB) (query : MetricsQuery) :
    Decidable (db.Reaches query) :=
  inferInstanceAs (Decidable (∀ row ∈ _, _))

/-! ### Hourly rows -/

/-- An hour has a row once it is rolled up, until the retention removes it. -/
def RowsOfHours (db : RollupDB) : Prop :=
  ∀ key,
    (db.hourly.find? key).isSome = true ↔
      db.cleaned ≤ key.1 + hourlyRetention ∧ db.Rolled key

end RollupDB

section Steps

variable {before after : RollupDB} {action : RollupAction}

theorem rolled_store
    {now : Nat}
    {row : MetricsRow}
    (retains : Retains before)
    (inOrder : before.clock ≤ now)
    (isMinute : row.ts = minuteOf now)
    (key : MetricsKey) :
    (before.store now row).Rolled key ↔ before.Rolled key := by
  have cleaned := retains.cleanedBefore
  have isRecent : ¬ row.ts + day < before.cleaned := by
    rw [isMinute]
    unfold minuteOf day
    omega
  have members :
      ∀ stored : MetricsRow,
        stored ∈ (before.store now row).stored.rows ↔
          stored ∈ before.stored.rows ∧ stored.key ≠ row.key ∨
            stored = row := by
    intro stored
    simp [RollupDB.store, KeyedTable.replace, KeyedTable.delete]
  constructor
  · rintro ⟨stored, member, named, isOld⟩
    rcases (members stored).mp member with ⟨wasStored, _⟩ | rfl
    · exact ⟨stored, wasStored, named, isOld⟩
    · exact absurd isOld isRecent
  · rintro ⟨stored, member, named, isOld⟩
    refine ⟨stored, (members stored).mpr (.inl ⟨member, ?_⟩), named, isOld⟩
    intro sameKey
    have sameTs : stored.ts = row.ts := congrArg Prod.fst sameKey
    rw [sameTs] at isOld
    exact isRecent isOld

/-- A cleanup rolls up every hour with a minute that is a day old. -/
theorem rowsOfHours_cleanupOld
    {now : Nat}
    (retains : Retains before)
    (rows : before.RowsOfHours)
    (inOrder : before.clock ≤ now) :
    (before.cleanupOld now).RowsOfHours := by
  intro key
  have cleaned := retains.cleanedBefore
  have rolled :
      (before.cleanupOld now).Rolled key ↔
        ∃ row ∈ before.stored.rows, row.hourKey = key ∧ row.ts + day < now :=
    Iff.rfl
  have kept := retains.kept
  rw [find?_hourly_cleanupOld, rolled]
  change _ ↔ now ≤ key.1 + hourlyRetention ∧ _
  by_cases expired : key.1 + hourlyRetention < now
  · rw [if_pos expired]
    exact iff_of_false nofun fun held => absurd held.1 (by omega)
  rw [if_neg expired, Option.isSome_or, Bool.or_eq_true, rows key]
  constructor
  · rintro (isNew | ⟨_, row, member, named, isOld⟩)
    · obtain ⟨hourly, isRow⟩ := Option.isSome_iff_exists.mp isNew
      obtain ⟨row, member⟩ :
          ∃ row, row ∈ minutesOf
            (before.metrics.rows.filter fun row =>
              decide (row.ts + day < now)) key := by
        refine List.exists_mem_of_ne_nil _ fun isEmpty => ?_
        rw [isEmpty] at isRow
        cases isRow
      obtain ⟨isOld, named⟩ := List.mem_filter.mp member
      obtain ⟨isHeld, isOld⟩ := List.mem_filter.mp isOld
      rw [kept] at isHeld
      exact
        ⟨by omega, row, (List.mem_filter.mp isHeld).1,
          of_decide_eq_true named, of_decide_eq_true isOld⟩
    · exact ⟨by omega, row, member, named, by omega⟩
  · rintro ⟨_, row, member, named, isOld⟩
    by_cases isKept : before.cleaned ≤ row.ts + metricsRetention
    · -- The minute is still there, and is rolled up now.
      refine .inl ?_
      have isHeld : row ∈ before.metrics.rows := by
        rw [kept]
        exact List.mem_filter.mpr ⟨member, decide_eq_true isKept⟩
      have isMinute :
          row ∈ minutesOf
            (before.metrics.rows.filter fun row =>
              decide (row.ts + day < now)) key :=
        List.mem_filter.mpr
          ⟨List.mem_filter.mpr ⟨isHeld, decide_eq_true isOld⟩,
            decide_eq_true named⟩
      rw [Option.isSome_iff_ne_none]
      intro isNone
      rw [rollup?_eq_none_iff.mp isNone] at isMinute
      cases isMinute
    · -- An earlier cleanup has deleted the minute, and rolled it up.
      unfold metricsRetention day at isKept
      exact .inr
          ⟨by omega, row, member, named, by
            unfold day
            omega⟩

theorem rowsOfHours_step
    (retains : Retains before)
    (rows : before.RowsOfHours)
    (stepped : Fires RollupDB.step? before action after) :
    after.RowsOfHours := by
  cases action with
  | store now row =>
    obtain ⟨inOrder, isMinute, rfl⟩ := eq_store_of_step stepped
    intro key
    rw [rolled_store retains inOrder isMinute key]
    exact rows key
  | cleanup now =>
    obtain ⟨inOrder, rfl⟩ := eq_cleanupOld_of_step stepped
    exact rowsOfHours_cleanupOld retains rows inOrder

end Steps

theorem retains_of_run
    {db : RollupDB}
    {actions : List RollupAction}
    (run : Run (Fires RollupDB.step?) {} actions db) :
    Retains db ∧ db.RowsOfHours := by
  have stepPreserves :
      ∀ before action after,
        Fires RollupDB.step? before action after →
        Retains before ∧ before.RowsOfHours →
        Retains after ∧ after.RowsOfHours :=
    fun _ _ _ stepped held =>
      ⟨held.1.step stepped, rowsOfHours_step held.1 held.2 stepped⟩
  refine run.preserves stepPreserves ⟨⟨le_rfl, fun _ stored => ?_, rfl⟩, ?_⟩
  · exact (List.not_mem_nil stored).elim
  · intro key
    refine iff_of_false nofun ?_
    rintro ⟨-, row, isStored, -⟩
    cases isStored

/-! ### Results -/

section Results

variable {db : RollupDB} {query : MetricsQuery}

theorem mem_getMetrics
    (belowLimit : (db.getMetrics query).length < query.limit)
    {point : MetricsPoint} :
    point ∈ db.getMetrics query ↔
      point ∈ db.points query ∧ query.selects point.key = true := by
  unfold RollupDB.getMetrics MetricsQuery.limited at belowLimit ⊢
  have noNegative : ¬ query.limit < 0 := by omega
  rw [if_neg noNegative] at belowLimit ⊢
  rw [List.length_take] at belowLimit
  rw [List.take_of_length_le (by omega), List.mem_insertionSort,
    List.mem_filter]

theorem exists_point_iff {key : MetricsKey} :
    (∃ point ∈ db.points query, point.key = key) ↔ if query.useHourly then
        (db.hourly.find? key).isSome = true
      else
        ∃ row ∈ db.metrics.rows, row.key = key := by
  unfold RollupDB.points
  split
  · rw [Option.isSome_iff_exists]
    constructor
    · rintro ⟨point, isPoint, named⟩
      obtain ⟨hourly, member, rfl⟩ := List.mem_map.mp isPoint
      exact ⟨hourly, db.hourly.find?_eq_some_iff.mpr ⟨member, named⟩⟩
    · rintro ⟨hourly, found⟩
      obtain ⟨member, named⟩ := db.hourly.find?_eq_some_iff.mp found
      exact ⟨hourly.point, List.mem_map_of_mem member, named⟩
  · constructor
    · rintro ⟨point, isPoint, named⟩
      obtain ⟨row, member, rfl⟩ := List.mem_map.mp isPoint
      exact ⟨row, member, named⟩
    · rintro ⟨row, member, named⟩
      exact ⟨row.point, List.mem_map_of_mem member, named⟩

/-- The hour of a minute in the range of a query is in the range if it begins
there. -/
theorem selects_hourKey
    {row : MetricsRow}
    (selected : query.selects row.key = true) :
    query.selects row.hourKey = true ↔ query.start ≤ hourOf row.ts := by
  unfold MetricsQuery.selects at selected ⊢
  rw [Bool.and_eq_true, Bool.and_eq_true, decide_eq_true_iff,
    decide_eq_true_iff] at selected ⊢
  obtain ⟨⟨concerned, _⟩, beforeStop⟩ := selected
  have isEarlier : hourOf row.ts ≤ row.ts := Nat.div_mul_le_self _ _
  have inRange : (hourOf row.ts : Int) ≤ query.stop := by
    refine le_trans ?_ beforeStop
    exact_mod_cast isEarlier
  exact ⟨fun held => held.1.2, fun begins => ⟨⟨concerned, begins⟩, inRange⟩⟩

theorem represented_iff
    (retains : Retains db)
    (rows : db.RowsOfHours)
    (belowLimit : (db.getMetrics query).length < query.limit)
    {row : MetricsRow}
    (stored : row ∈ db.stored.rows)
    (selected : query.selects row.key = true) :
    (∃ point ∈ db.getMetrics query, point.key = query.keyFor row) ↔
      if query.useHourly then
        query.start ≤ hourOf row.ts ∧
          db.cleaned ≤ hourOf row.ts + hourlyRetention ∧ db.Rolled row.hourKey
      else
        db.cleaned ≤ row.ts + metricsRetention := by
  have found :
      (∃ point ∈ db.getMetrics query, point.key = query.keyFor row) ↔
        (∃ point ∈ db.points query, point.key = query.keyFor row) ∧
          query.selects (query.keyFor row) = true := by
    constructor
    · rintro ⟨point, member, named⟩
      obtain ⟨isPoint, isSelected⟩ := (mem_getMetrics belowLimit).mp member
      exact ⟨⟨point, isPoint, named⟩, named ▸ isSelected⟩
    · rintro ⟨⟨point, isPoint, named⟩, isSelected⟩
      exact
        ⟨point,
          (mem_getMetrics belowLimit).mpr ⟨isPoint, named ▸ isSelected⟩,
          named⟩
  rw [found, exists_point_iff]
  unfold MetricsQuery.keyFor
  by_cases hourly : query.useHourly = true
  · rw [if_pos hourly, if_pos hourly, if_pos hourly, rows,
      selects_hourKey selected, and_comm]
    exact Iff.rfl
  · rw [if_neg hourly, if_neg hourly, if_neg hourly]
    constructor
    · rintro ⟨⟨other, isHeld, sameKey⟩, -⟩
      rw [retains.kept] at isHeld
      obtain ⟨_, isKept⟩ := List.mem_filter.mp isHeld
      have sameTs : other.ts = row.ts := congrArg Prod.fst sameKey
      rw [← sameTs]
      exact of_decide_eq_true isKept
    · intro isKept
      refine ⟨⟨row, ?_, rfl⟩, selected⟩
      rw [retains.kept]
      exact List.mem_filter.mpr ⟨stored, decide_eq_true isKept⟩

end Results

/-- A query covers what was stored exactly where the rows are in its table. -/
theorem covers_iff_reaches
    {db : RollupDB}
    {actions : List RollupAction}
    (run : Run (Fires RollupDB.step?) {} actions db)
    (query : MetricsQuery)
    (belowLimit : (db.getMetrics query).length < query.limit) :
    db.Covers query ↔ db.Reaches query := by
  obtain ⟨retains, rows⟩ := retains_of_run run
  constructor
  · intro covers row stored selected
    exact
      (represented_iff retains rows belowLimit stored selected).mp
        (covers row stored selected)
  · intro reaches row stored selected
    exact
      (represented_iff retains rows belowLimit stored selected).mpr
        (reaches row stored selected)

/-- A query for the first hour and the next day. -/
def firstDays : MetricsQuery where
  agentId := "agent-1"
  fromTs := some (-3600)
  toTs := some 90000
  now := 90000

/-- A query that reaches what it looks for, with a result below the limit. -/
def findsAll (query : MetricsQuery) (db : RollupDB) : Bool :=
  decide ((db.getMetrics query).length < query.limit) &&
    decide (db.Reaches query)

/-- The first hour is found after it has been rolled up. -/
theorem firstDays_covers :
    ∃ db,
      Run (Fires RollupDB.step?) {} settledHour db ∧ db.Covers firstDays := by
  obtain ⟨db, run, holds⟩ :=
    exists_run_of_execute
      (show
        (execute RollupDB.step? {} settledHour).any (findsAll firstDays) =
          true by decide +kernel)
  obtain ⟨belowLimit, reaches⟩ := Bool.and_eq_true_iff.mp holds
  exact
    ⟨db, run,
      (covers_iff_reaches run firstDays (of_decide_eq_true belowLimit)).mpr
        (of_decide_eq_true reaches)⟩

/-- Every query inside the retention of both tables covers what was stored,
in every run. -/
def QueriesCover : Prop :=
  ∀ actions db,
    Run (Fires RollupDB.step?) {} actions db →
    ∀ query : MetricsQuery,
      db.clock ≤ query.now →
      query.now ≤ query.start + metricsRetention →
      query.stop ≤ query.now →
      (db.getMetrics query).length < query.limit →
      db.Covers query

/-- A query for the last twenty-five hours. -/
def lastDay : MetricsQuery where
  agentId := "agent-1"
  fromTs := some 10000
  toTs := some 100020
  now := 100020

/-- What was stored a minute ago has no hourly row yet. -/
theorem not_queriesCover : ¬ QueriesCover := by
  intro claimed
  obtain ⟨db, run, holds⟩ :=
    exists_run_of_execute
      (show
        (execute RollupDB.step? {}
            [.store 100000 (minuteRow 99960 1)]).any
          (fun db =>
            decide (db.clock = 100000) &&
              (decide ((db.getMetrics lastDay).length < 1000) &&
                !decide (db.Reaches lastDay))) =
          true by decide +kernel)
  obtain ⟨isClock, others⟩ := Bool.and_eq_true_iff.mp holds
  obtain ⟨isShort, missed⟩ := Bool.and_eq_true_iff.mp others
  have belowLimit : ((db.getMetrics lastDay).length : Int) < lastDay.limit := by
    have short := of_decide_eq_true isShort
    change ((db.getMetrics lastDay).length : Int) < 1000
    exact_mod_cast short
  have covers : db.Covers lastDay := by
    refine claimed _ db run lastDay ?_ (by decide) (by decide) belowLimit
    rw [of_decide_eq_true isClock]
    decide
  have reaches : db.Reaches lastDay := by
    obtain ⟨retains, rows⟩ := retains_of_run run
    intro row stored selected
    exact
      (represented_iff retains rows belowLimit stored selected).mp
        (covers row stored selected)
  rw [decide_eq_true reaches] at missed
  cases missed

end RpaPlatform.Metrics
