import Mathlib.Algebra.Order.Field.Rat
import RpaPlatform.Dictionary
import RpaPlatform.KeyedTable

namespace RpaPlatform.Metrics

/-!
# Telemetry samples and their rows

The ring buffer collects what heartbeats report, by agent and process.  A
flush takes the buffer, makes one row of the samples of each process, under
the minute of the flush, and stores the rows with `INSERT OR REPLACE`.

Samples are numbered as they are pushed, and the rows that are stored remember
their samples: the columns of a row are computed of them.
-/

/-- What `push` is given of a process; what is missing counts as zero. -/
structure Reading where
  agentId : String
  sessionId : Int
  pid : Int
  exe : String
  cpu : Option ℚ := none
  memWs : Option Int := none
  memPb : Option Int := none
  handles : Option Int := none
  ioReadBps : Option ℚ := none
  ioWriteBps : Option ℚ := none

/-- A sample in the ring buffer. -/
structure Sample where
  ts : Nat
  cpu : ℚ
  memWs : Int
  memPb : Int
  handles : Int
  ioReadBps : ℚ
  ioWriteBps : ℚ
  exe : String
  sessionId : Int

/-- A sample with its number. -/
structure NumberedSample extends Sample where
  number : Nat

/-- The sample of a reading. -/
def Reading.sample (reading : Reading) (now : Nat) : Sample where
  ts := now
  cpu := reading.cpu.getD 0
  memWs := reading.memWs.getD 0
  memPb := reading.memPb.getD 0
  handles := reading.handles.getD 0
  ioReadBps := reading.ioReadBps.getD 0
  ioWriteBps := reading.ioWriteBps.getD 0
  exe := reading.exe
  sessionId := reading.sessionId

/-- A row of `metrics`. -/
structure MetricsRow where
  ts : Nat
  agentId : String
  sessionId : Int
  pid : Int
  exe : String
  cpuAvg : ℚ
  cpuMax : ℚ
  memWs : Int
  memPb : Int
  handles : Int
  ioReadBps : ℚ
  ioWriteBps : ℚ
deriving DecidableEq

/-- `PRIMARY KEY (ts, agent_id, pid)`. -/
abbrev MetricsKey :=
  Nat × String × Int

def MetricsRow.key (row : MetricsRow) : MetricsKey :=
  (row.ts, row.agentId, row.pid)

def mean (values : List ℚ) : ℚ :=
  values.sum / values.length

def minuteOf (now : Nat) : Nat :=
  now / 60 * 60

/-- The row that a flush makes of the samples of a process. -/
structure FlushedRow where
  ts : Nat
  agentId : String
  pid : Int
  samples : List NumberedSample
  nonempty : samples ≠ []

namespace FlushedRow

variable (row : FlushedRow)

def last : NumberedSample :=
  row.samples.getLast row.nonempty

/-- The columns of the row. -/
def columns : MetricsRow where
  ts := row.ts
  agentId := row.agentId
  sessionId := row.last.sessionId
  pid := row.pid
  exe := row.last.exe
  cpuAvg := mean (row.samples.map (·.cpu))
  cpuMax := (row.samples.map (·.cpu)).max?.getD 0
  memWs := row.last.memWs
  memPb := row.last.memPb
  handles := row.last.handles
  ioReadBps := mean (row.samples.map (·.ioReadBps))
  ioWriteBps := mean (row.samples.map (·.ioWriteBps))

def key : MetricsKey :=
  row.columns.key

def numbers : List Nat :=
  row.samples.map (·.number)

end FlushedRow

structure RingBuffer where
  samples : List ((String × Int) × List NumberedSample) := []
  distinct : (samples.map Prod.fst).Nodup := by
    exact List.nodup_nil

def RingBuffer.push
    (ring : RingBuffer)
    (agentId : String)
    (pid : Int)
    (sample : NumberedSample) : RingBuffer where
  samples :=
    Dictionary.set (agentId, pid)
      ((ring.samples.lookup (agentId, pid)).getD [] ++ [sample])
      ring.samples
  distinct := Dictionary.nodup_keys_set _ _ ring.distinct

/-- The row that is made of an entry; there may be no samples. -/
def rowOf?
    (now : Nat)
    (entry : (String × Int) × List NumberedSample) : Option FlushedRow :=
  if nonempty : entry.2 ≠ [] then
    some
      { ts := minuteOf now
        agentId := entry.1.1
        pid := entry.1.2
        samples := entry.2
        nonempty }
  else
    none

/-- The rows of `flush`. -/
def RingBuffer.rows (ring : RingBuffer) (now : Nat) : List FlushedRow :=
  ring.samples.filterMap (rowOf? now)

/-- The telemetry database, with the samples that have been pushed. -/
structure TelemetryDB where
  ring : RingBuffer := {}
  metrics : KeyedTable FlushedRow FlushedRow.key := .empty
  pushed : Nat := 0

/-- What happens to it. -/
inductive TelemetryAction where
  | push (reading : Reading) (now : Nat)
  /-- `_flush_to_db`, by the loop. -/
  | flush (now : Nat)
  /-- `stop`, with the final flush. -/
  | stop (now : Nat)

/-- When it happens. -/
def TelemetryAction.time : TelemetryAction → Nat
  | push _ now => now
  | flush now => now
  | stop now => now

namespace TelemetryDB

variable (db : TelemetryDB)

def push (reading : Reading) (now : Nat) : TelemetryDB :=
  { db with
    ring :=
      db.ring.push reading.agentId reading.pid
        { toSample := reading.sample now, number := db.pushed }
    pushed := db.pushed + 1 }

/-- `_flush_to_db`; the buffer is swapped. -/
def flushToDb (now : Nat) : TelemetryDB :=
  { db with
    ring := {}
    metrics := db.metrics.replaceAll (db.ring.rows now) }

/-- What an action does. -/
def act (db : TelemetryDB) : TelemetryAction → TelemetryDB
  | .push reading now => db.push reading now
  | .flush now => db.flushToDb now
  | .stop now => db.flushToDb now

def after (actions : List TelemetryAction) : TelemetryDB :=
  actions.foldl act {}

def CountsEverySample : Prop :=
  ∀ number < db.pushed, ∃! row, row ∈ db.metrics.rows ∧ number ∈ row.numbers

/--
A flush finds no row of its own minute for a process that it has samples of.
-/
def FlushesFreshMinute : TelemetryAction → Prop
  | .push _ _ => True
  | .flush now =>
    ∀ row ∈ db.ring.rows now, ∀ stored ∈ db.metrics.rows, stored.key ≠ row.key
  | .stop now =>
    ∀ row ∈ db.ring.rows now, ∀ stored ∈ db.metrics.rows, stored.key ≠ row.key

end TelemetryDB

def InOrder (actions : List TelemetryAction) : Prop :=
  actions.Pairwise fun earlier later => earlier.time ≤ later.time

instance (actions : List TelemetryAction) : Decidable (InOrder actions) :=
  inferInstanceAs (Decidable (List.Pairwise _ actions))

/-! ### Where a sample is -/

section Flushes

variable {db : TelemetryDB} {now : Nat} {row : FlushedRow}

theorem mem_rows
    {ring : RingBuffer} :
    row ∈ ring.rows now ↔
      ((row.agentId, row.pid), row.samples) ∈ ring.samples ∧
        row.ts = minuteOf now := by
  unfold RingBuffer.rows
  rw [List.mem_filterMap]
  constructor
  · rintro ⟨entry, member, made⟩
    unfold rowOf? at made
    split at made
    · cases made
      exact ⟨member, rfl⟩
    · cases made
  · rintro ⟨member, isMinute⟩
    obtain ⟨ts, agentId, pid, samples, nonempty⟩ := row
    refine ⟨_, member, ?_⟩
    unfold rowOf?
    rw [dif_pos nonempty, ← isMinute]

theorem nodup_rows (ring : RingBuffer) (now : Nat) :
    ((ring.rows now).map FlushedRow.key).Nodup := by
  have different : (ring.rows now).Pairwise (·.key ≠ ·.key) := by
    refine List.Pairwise.filterMap (rowOf? now) ?_
      (List.pairwise_map.mp ring.distinct)
    intro first second differ made isMade other isOther sameKey
    unfold rowOf? at isMade isOther
    split at isMade
    · split at isOther
      · cases isMade
        cases isOther
        exact differ (congrArg Prod.snd sameKey)
      · cases isOther
    · cases isMade
  exact List.pairwise_map.mpr different

theorem mem_flushToDb :
    row ∈ (db.flushToDb now).metrics.rows ↔
      row ∈ db.ring.rows now ∨
        row ∈ db.metrics.rows ∧
          row.key ∉ (db.ring.rows now).map FlushedRow.key :=
  KeyedTable.mem_replaceAll db.metrics (nodup_rows db.ring now)

end Flushes

/-- Where a sample is: in an entry of the buffer, or in a row. -/
inductive TelemetryDB.At (db : TelemetryDB) (number : Nat) :
    (String × Int) ⊕ MetricsKey → Prop where
  | buffered
      {key : String × Int}
      {samples : List NumberedSample}
      (member : (key, samples) ∈ db.ring.samples)
      (holds : number ∈ samples.map (·.number)) :
      db.At number (.inl key)
  | stored
      {row : FlushedRow}
      (member : row ∈ db.metrics.rows)
      (holds : number ∈ row.numbers) :
      db.At number (.inr row.key)

/-- Every sample that is somewhere has been pushed, and is in one place. -/
structure Traceable (db : TelemetryDB) : Prop where
  pushed : ∀ {number place}, db.At number place → number < db.pushed
  onePlace :
    ∀ {number place other},
      db.At number place → db.At number other → place = other

def Present (db : TelemetryDB) : Prop :=
  ∀ number < db.pushed, ∃ place, db.At number place

section Places

variable
    {db : TelemetryDB}
    {reading : Reading}
    {now number : Nat}
    {place : (String × Int) ⊕ MetricsKey}

/-- A push adds one sample. -/
theorem at_push_iff :
    (db.push reading now).At number place ↔
      db.At number place ∨
        number = db.pushed ∧ place = .inl (reading.agentId, reading.pid) := by
  let key := (reading.agentId, reading.pid)
  let added : NumberedSample :=
    { toSample := reading.sample now, number := db.pushed }
  let old := (db.ring.samples.lookup key).getD []
  have isRing :
      (db.push reading now).ring.samples =
        Dictionary.set key (old ++ [added]) db.ring.samples :=
    rfl
  constructor
  · rintro (⟨member, holds⟩ | ⟨member, holds⟩)
    · rw [isRing] at member
      rcases Dictionary.mem_set member with same | before
      · obtain ⟨rfl, rfl⟩ := Prod.mk.inj same
        rw [List.map_append, List.mem_append] at holds
        rcases holds with before | isAdded
        · cases found : db.ring.samples.lookup key with
          | none =>
            rw [show old = [] by simp [old, found]] at before
            cases before
          | some samples =>
            rw [show old = samples by simp [old, found]] at before
            exact .inl (.buffered (Dictionary.mem_of_lookup found) before)
        · exact .inr ⟨List.mem_singleton.mp isAdded, rfl⟩
      · exact .inl (.buffered before holds)
    · exact .inl (.stored member holds)
  · have isSet :
        (key, old ++ [added]) ∈
          Dictionary.set key (old ++ [added]) db.ring.samples :=
      Dictionary.mem_of_lookup (Dictionary.lookup_set_self _ _ _)
    rintro ((⟨member, holds⟩ | ⟨member, holds⟩) | ⟨rfl, rfl⟩)
    · rename_i other samples
      by_cases same : other = key
      · subst same
        have isOld : old = samples := by
          simp [old, Dictionary.lookup_of_mem db.ring.distinct member]
        refine .buffered isSet ?_
        rw [List.map_append, isOld]
        exact List.mem_append_left _ holds
      · have found :=
          (Dictionary.lookup_set_other same (old ++ [added])
            db.ring.samples).trans
            (Dictionary.lookup_of_mem db.ring.distinct member)
        exact .buffered (Dictionary.mem_of_lookup found) holds
    · exact .stored member holds
    · refine .buffered isSet ?_
      rw [List.map_append]
      exact List.mem_append_right _ (List.mem_singleton_self _)

theorem at_flushToDb
    (isAt : (db.flushToDb now).At number place) :
    (∃ row ∈ db.ring.rows now,
        place = .inr row.key ∧ db.At number (.inl (row.agentId, row.pid))) ∨
      db.At number place ∧
        ∃ row ∈ db.metrics.rows,
          place = .inr row.key ∧
            row.key ∉ (db.ring.rows now).map FlushedRow.key := by
  cases isAt with
  | buffered member =>
    cases member
  | @stored row member holds =>
    rcases mem_flushToDb.mp member with isNew | ⟨isOld, kept⟩
    · exact .inl ⟨row, isNew, rfl, .buffered (mem_rows.mp isNew).1 holds⟩
    · exact .inr ⟨.stored isOld holds, row, isOld, rfl, kept⟩

theorem Traceable.flushToDb
    (traceable : Traceable db)
    (now : Nat) :
    Traceable (db.flushToDb now) := by
  constructor
  · intro number place isAt
    rcases at_flushToDb isAt with ⟨_, _, _, before⟩ | ⟨before, _⟩
    · exact traceable.pushed before
    · exact traceable.pushed before
  · intro number place other isAt isOther
    rcases at_flushToDb isAt with
      ⟨row, isRow, rfl, inRing⟩ | ⟨before, row, _, rfl, _⟩
    · rcases at_flushToDb isOther with
        ⟨second, isSecond, rfl, alsoInRing⟩ | ⟨stored, second, _, rfl, _⟩
      · have sameProcess :=
          Sum.inl.inj (traceable.onePlace inRing alsoInRing)
        have sameMinute :=
          (mem_rows.mp isRow).2.trans (mem_rows.mp isSecond).2.symm
        exact congrArg Sum.inr (Prod.ext sameMinute sameProcess)
      · cases traceable.onePlace inRing stored
    · rcases at_flushToDb isOther with
        ⟨second, isSecond, rfl, inRing⟩ | ⟨stored, _⟩
      · cases traceable.onePlace inRing before
      · exact traceable.onePlace before stored

theorem Traceable.push
    (traceable : Traceable db)
    (reading : Reading)
    (now : Nat) :
    Traceable (db.push reading now) := by
  constructor
  · intro number place isAt
    rcases at_push_iff.mp isAt with before | ⟨rfl, _⟩
    · exact (traceable.pushed before).trans (Nat.lt_succ_self _)
    · exact Nat.lt_succ_self _
  · intro number place other isAt isOther
    rcases at_push_iff.mp isAt with before | ⟨rfl, rfl⟩
    · rcases at_push_iff.mp isOther with alsoBefore | ⟨rfl, _⟩
      · exact traceable.onePlace before alsoBefore
      · exact ((traceable.pushed before).false).elim
    · rcases at_push_iff.mp isOther with before | ⟨_, rfl⟩
      · exact ((traceable.pushed before).false).elim
      · rfl

theorem Traceable.act
    (traceable : Traceable db)
    (action : TelemetryAction) :
    Traceable (db.act action) := by
  cases action with
  | push reading now =>
    exact traceable.push reading now
  | flush now =>
    exact traceable.flushToDb now
  | stop now =>
    exact traceable.flushToDb now

theorem Traceable.foldl
    {db : TelemetryDB}
    (traceable : Traceable db)
    (actions : List TelemetryAction) :
    Traceable (actions.foldl TelemetryDB.act db) := by
  induction actions generalizing db with
  | nil =>
    exact traceable
  | cons action rest inductionHypothesis =>
    exact inductionHypothesis (traceable.act action)

theorem present_push : Present (db.push reading now) ↔ Present db := by
  constructor
  · intro present number isPushed
    obtain ⟨place, isAt⟩ := present number (Nat.lt_succ_of_lt isPushed)
    rcases at_push_iff.mp isAt with before | ⟨isLast, _⟩
    · exact ⟨place, before⟩
    · omega
  · intro present number isPushed
    rcases Nat.lt_succ_iff_lt_or_eq.mp isPushed with before | rfl
    · obtain ⟨place, isAt⟩ := present number before
      exact ⟨place, at_push_iff.mpr (.inl isAt)⟩
    · exact ⟨_, at_push_iff.mpr (.inr ⟨rfl, rfl⟩)⟩

theorem present_flushToDb (traceable : Traceable db) :
    Present (db.flushToDb now) ↔
      Present db ∧
        ∀ row ∈ db.ring.rows now,
          ∀ stored ∈ db.metrics.rows, stored.key ≠ row.key := by
  constructor
  · intro present
    constructor
    · intro number isPushed
      obtain ⟨place, isAt⟩ := present number isPushed
      rcases at_flushToDb isAt with ⟨_, _, _, before⟩ | ⟨before, _⟩
      · exact ⟨_, before⟩
      · exact ⟨_, before⟩
    · -- A sample of a row that is replaced would be nowhere.
      intro row isRow stored isStored sameKey
      obtain ⟨sample, isSample⟩ :=
        List.exists_mem_of_ne_nil stored.samples stored.nonempty
      have wasAt : db.At sample.number (.inr stored.key) :=
        .stored isStored (List.mem_map.mpr ⟨sample, isSample, rfl⟩)
      obtain ⟨place, isAt⟩ :=
        present sample.number (traceable.pushed wasAt)
      rcases at_flushToDb isAt with
        ⟨_, _, _, inRing⟩ | ⟨before, other, _, rfl, kept⟩
      · cases traceable.onePlace inRing wasAt
      · have same := Sum.inr.inj (traceable.onePlace before wasAt)
        refine kept (List.mem_map.mpr ⟨row, isRow, ?_⟩)
        exact sameKey.symm.trans same.symm
  · rintro ⟨present, fresh⟩ number isPushed
    obtain ⟨place, isAt⟩ := present number isPushed
    cases isAt with
    | @buffered key samples member holds =>
      have nonempty : samples ≠ [] := by
        rintro rfl
        cases holds
      have isRow :
          (⟨minuteOf now, key.1, key.2, samples, nonempty⟩ :
            FlushedRow) ∈ db.ring.rows now :=
        mem_rows.mpr ⟨member, rfl⟩
      exact ⟨_, .stored (mem_flushToDb.mpr (.inl isRow)) holds⟩
    | @stored row member holds =>
      refine ⟨_, .stored (mem_flushToDb.mpr (.inr ⟨member, ?_⟩)) holds⟩
      intro replaced
      obtain ⟨other, isRow, sameKey⟩ := List.mem_map.mp replaced
      exact fresh other isRow row member sameKey.symm

theorem present_act
    (traceable : Traceable db)
    (action : TelemetryAction) :
    Present (db.act action) ↔ Present db ∧ db.FlushesFreshMinute action := by
  cases action with
  | push reading now =>
    exact present_push.trans (and_iff_left trivial).symm
  | flush | stop =>
    exact present_flushToDb traceable

end Places

theorem present_foldl
    {db : TelemetryDB}
    (traceable : Traceable db)
    (actions : List TelemetryAction) :
    Present (actions.foldl TelemetryDB.act db) ↔
      Present db ∧
        ∀ earlier action later,
          actions = earlier ++ action :: later →
          (earlier.foldl TelemetryDB.act db).FlushesFreshMinute action := by
  induction actions generalizing db with
  | nil =>
    refine (and_iff_left ?_).symm
    intro earlier action later isEmpty
    simp at isEmpty
  | cons first rest inductionHypothesis =>
    rw [List.foldl_cons, inductionHypothesis (traceable.act first),
      present_act traceable, and_assoc]
    refine and_congr_right fun _ => ?_
    constructor
    · rintro ⟨fresh, freshLater⟩ earlier action later isSplit
      cases earlier with
      | nil =>
        obtain ⟨rfl, _⟩ := List.cons.inj isSplit
        exact fresh
      | cons head earlier =>
        obtain ⟨rfl, isRest⟩ := List.cons.inj isSplit
        exact freshLater earlier action later isRest
    · intro fresh
      refine ⟨fresh [] first rest rfl, ?_⟩
      rintro earlier action later rfl
      exact fresh (first :: earlier) action later rfl

theorem countsEverySample_iff
    {db : TelemetryDB}
    (traceable : Traceable db)
    (isFlushed : db.ring.samples = []) :
    db.CountsEverySample ↔ Present db := by
  constructor
  · intro counts number isPushed
    obtain ⟨row, ⟨member, holds⟩, _⟩ := counts number isPushed
    exact ⟨_, .stored member holds⟩
  · intro present number isPushed
    obtain ⟨place, isAt⟩ := present number isPushed
    cases isAt with
    | buffered member =>
      rw [isFlushed] at member
      cases member
    | @stored row member holds =>
      refine ⟨row, ⟨member, holds⟩, ?_⟩
      rintro other ⟨isOther, alsoHolds⟩
      have sameKey :=
        Sum.inr.inj
          (traceable.onePlace (.stored isOther alsoHolds)
            (.stored member holds))
      exact db.metrics.eq_of_key isOther member sameKey

/-- No sample is lost or counted twice, once the database has stopped. -/
def NoSampleLost : Prop :=
  ∀ actions now,
    InOrder (actions ++ [.stop now]) →
    (TelemetryDB.after (actions ++ [.stop now])).CountsEverySample

/--
Every sample contributes to exactly one row after `stop` if and only if no
flush, that of `stop` included, finds a row of its own minute for a process
that it has samples of.
-/
theorem countsEverySample_iff_freshMinutes
    (actions : List TelemetryAction)
    (now : Nat) :
    (TelemetryDB.after (actions ++ [.stop now])).CountsEverySample ↔
      ∀ earlier action later,
        actions ++ [.stop now] = earlier ++ action :: later →
        (TelemetryDB.after earlier).FlushesFreshMinute action := by
  have start : Traceable {} := by
    constructor
    · rintro number place (⟨member, _⟩ | ⟨member, _⟩)
      · cases member
      · cases member
    · rintro number place other (⟨member, _⟩ | ⟨member, _⟩)
      · cases member
      · cases member
  have nonePushed : Present {} := fun _ isPushed =>
    (Nat.not_lt_zero _ isPushed).elim
  have isFlushed :
      (TelemetryDB.after (actions ++ [.stop now])).ring.samples = [] := by
    unfold TelemetryDB.after
    rw [List.foldl_append]
    rfl
  have traceable : Traceable (TelemetryDB.after (actions ++ [.stop now])) :=
    start.foldl _
  rw [countsEverySample_iff traceable isFlushed]
  exact (present_foldl start _).trans (and_iff_right nonePushed)

/-- A reading of a process of an agent. -/
def cpuReading (cpu : ℚ) : Reading where
  agentId := "agent-1"
  sessionId := 1
  pid := 4711
  exe := "robot.exe"
  cpu := some cpu

def stoppedEarly : List TelemetryAction :=
  [.push (cpuReading 10) 65, .flush 70, .push (cpuReading 30) 75]

/-- The row of the earlier flush is replaced, and its sample is lost. -/
theorem not_noSampleLost : ¬ NoSampleLost := by
  intro claimed
  obtain ⟨row, ⟨member, holds⟩, _⟩ :=
    claimed stoppedEarly 80 (by decide) 0 (by decide)
  have lost :
      ∀ row ∈
          (TelemetryDB.after (stoppedEarly ++ [.stop 80])).metrics.rows,
        0 ∉ row.numbers := by
    decide
  exact lost row member holds

end RpaPlatform.Metrics
