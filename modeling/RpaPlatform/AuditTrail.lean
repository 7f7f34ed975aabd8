import RpaPlatform.DeferredTransactions

namespace RpaPlatform

/-!
# Operations with an audit trail

An operation executes its statements, commits, and then records in the audit
log what it has done; the record is committed by whichever operation commits
next.  `Harmless` says when a stop of the process leaves no durable change
without its record.
-/

/-- Rows, the operations that have changed them, and their records. -/
structure Tracked (Database Record : Type*) where
  rows : Database
  changed : List Nat := []
  records : List (Nat × Record) := []

namespace Tracked

variable {Database Record : Type*} (tracked : Tracked Database Record)

def recorded : List Nat :=
  tracked.records.map Prod.fst

def Covered : Prop :=
  ∀ number ∈ tracked.changed, number ∈ tracked.recorded

end Tracked

/-- Statements, and the record of what they do. -/
structure AuditedOperation (Statement Record : Type*) where
  statements : List Statement
  record : Record

/-- The tables of a database with an audit log. -/
structure AuditedTables (Database Statement Record : Type*) where
  /-- Execute a statement; it may raise. -/
  apply : Database → Statement → Option Database
  /-- Whether a statement that is executed changes a row. -/
  changes : Database → Statement → Bool
  /-- Insert a record. -/
  insertRecord : Database → Record → Database

/-- What an operation writes. -/
inductive AuditedWrite (Statement Record : Type*) where
  | change (statement : Statement)
  | record (record : Record)

/-- How an operation ends, as far as its statements go. -/
structure OperationOutcome where
  commits : Bool
  changes : Bool

namespace AuditedTables

variable
    {Database Statement Record : Type*}
    (tables : AuditedTables Database Statement Record)

/-- The rows after a statement of the operation with a number. -/
def afterChange
    (number : Nat)
    (tracked : Tracked Database Record)
    (statement : Statement)
    (after : Database) : Tracked Database Record :=
  { tracked with
    rows := after
    changed :=
      if tables.changes tracked.rows statement then
        tracked.changed ++ [number]
      else
        tracked.changed }

/-- A write of the operation with a number. -/
def write
    (number : Nat)
    (tracked : Tracked Database Record) :
    AuditedWrite Statement Record → Option (Tracked Database Record)
  | .change statement =>
    (tables.apply tracked.rows statement).map
      (tables.afterChange number tracked statement)
  | .record record =>
    some
      { tracked with
        rows := tables.insertRecord tracked.rows record
        records := tracked.records ++ [(number, record)] }

theorem write_change
    {tables : AuditedTables Database Statement Record}
    {tracked : Tracked Database Record}
    {statement : Statement}
    {after : Database}
    (applied : tables.apply tracked.rows statement = some after)
    (number : Nat) :
    tables.write number tracked (.change statement) =
      some (tables.afterChange number tracked statement after) := by
  rw [write, applied]
  rfl

theorem write_raise
    {tables : AuditedTables Database Statement Record}
    {tracked : Tracked Database Record}
    {statement : Statement}
    (raises : tables.apply tracked.rows statement = none)
    (number : Nat) :
    tables.write number tracked (.change statement) = none := by
  rw [write, raises]
  rfl

/-- What an operation awaits. -/
def calls
    (operation : AuditedOperation Statement Record) :
    List (DatabaseCall (AuditedWrite Statement Record)) :=
  (operation.statements.map AuditedWrite.change).map .write ++
    [.commit, .write (.record operation.record)]

/-- Perform operations one after the other, and number them. -/
def performAll :
    Nat →
    Connection (Tracked Database Record) →
    List (AuditedOperation Statement Record) →
    Connection (Tracked Database Record)
  | _, connection, [] =>
    connection
  | number, connection, operation :: rest =>
    performAll (number + 1)
      (connection.perform (tables.write number) (calls operation)).1
      rest

/-- How the statements of an operation end. -/
def outcomeOf : Database → List Statement → OperationOutcome
  | _, [] =>
    { commits := true, changes := false }
  | rows, statement :: rest =>
    match tables.apply rows statement with
    | none => { commits := false, changes := false }
    | some after =>
      let later := outcomeOf after rest
      { later with
        changes := tables.changes rows statement || later.changes }

/-- How the operations end, the latest first. -/
def outcomes :
    Nat →
    Connection (Tracked Database Record) →
    List (AuditedOperation Statement Record) →
    List OperationOutcome →
    List OperationOutcome
  | _, _, [], earlier =>
    earlier
  | number, connection, operation :: rest, earlier =>
    outcomes (number + 1)
      (connection.perform (tables.write number) (calls operation)).1
      rest
      (tables.outcomeOf connection.current.rows operation.statements :: earlier)

end AuditedTables

/--
The operation that has committed last has changed no row, and no operation
before it has raised after changing one.
-/
def Harmless : List OperationOutcome → Prop
  | [] =>
    True
  | outcome :: earlier =>
    if outcome.commits then
      outcome.changes = false ∧
        ∀ other ∈ earlier, other.commits = true ∨ other.changes = false
    else
      Harmless earlier

theorem harmless_committed
    {outcome : OperationOutcome}
    (commits : outcome.commits = true)
    (earlier : List OperationOutcome) :
    Harmless (outcome :: earlier) ↔
      outcome.changes = false ∧
        ∀ other ∈ earlier, other.commits = true ∨ other.changes = false := by
  rw [Harmless, if_pos commits]

theorem harmless_raised
    {outcome : OperationOutcome}
    (raises : outcome.commits = false)
    (earlier : List OperationOutcome) :
    Harmless (outcome :: earlier) ↔ Harmless earlier := by
  rw [Harmless, raises]
  exact Iff.rfl

namespace AuditedTables

section Trail

variable
    {Database Statement Record : Type*}
    {tables : AuditedTables Database Statement Record}
    {number : Nat}
    {connection : Connection (Tracked Database Record)}
    {earlier : List OperationOutcome}

theorem perform_statements
    (tables : AuditedTables Database Statement Record)
    (number : Nat)
    (connection : Connection (Tracked Database Record))
    (statements : List Statement) :
    let performed :=
      connection.perform (tables.write number)
        ((statements.map AuditedWrite.change).map .write)
    let outcome := tables.outcomeOf connection.current.rows statements
    performed.2 = outcome.commits ∧
      performed.1.current.recorded = connection.current.recorded ∧
        ∀ other,
          other ∈ performed.1.current.changed ↔
            other ∈ connection.current.changed ∨
              other = number ∧ outcome.changes = true := by
  induction statements generalizing connection with
  | nil =>
    simp [Connection.perform, outcomeOf]
  | cons statement rest inductionHypothesis =>
    cases applied : tables.apply connection.current.rows statement with
    | none =>
      simp [Connection.perform, outcomeOf, write, applied]
    | some after =>
      let tracked :=
        tables.afterChange number connection.current statement after
      obtain ⟨ends, recorded, changed⟩ :=
        inductionHypothesis (connection.write tracked)
      simp only [Connection.perform, outcomeOf, write, applied,
        Option.map_some, List.map_cons]
      refine ⟨ends, recorded, fun other => (changed other).trans ?_⟩
      rw [Bool.or_eq_true, and_or_left, ← or_assoc]
      apply or_congr_left
      change other ∈ tracked.changed ↔ _
      unfold tracked afterChange
      split
      · rename_i changes
        simp [changes]
      · rename_i keeps
        simp [keeps]

/-- What is known when no operation is in progress. -/
structure Tracks
    (next : Nat)
    (connection : Connection (Tracked Database Record))
    (earlier : List OperationOutcome) : Prop where
  changedBefore : ∀ number ∈ connection.current.changed, number < next
  recordedBefore : ∀ number ∈ connection.current.recorded, number < next
  current :
    connection.current.Covered ↔
      ∀ outcome ∈ earlier, outcome.commits = true ∨ outcome.changes = false
  durable : connection.durable.Covered ↔ Harmless earlier

theorem Tracks.covered_statements
    (tracks : Tracks number connection earlier)
    (tables : AuditedTables Database Statement Record)
    (statements : List Statement) :
    (connection.perform (tables.write number)
        ((statements.map AuditedWrite.change).map .write)).1.current.Covered ↔
      (tables.outcomeOf connection.current.rows statements).changes =
          false ∧
        ∀ outcome ∈ earlier,
          outcome.commits = true ∨ outcome.changes = false := by
  obtain ⟨_, recorded, changed⟩ :=
    perform_statements tables number connection statements
  rw [← tracks.current]
  constructor
  · intro covered
    constructor
    · cases changes :
          (tables.outcomeOf connection.current.rows statements).changes with
      | false =>
        rfl
      | true =>
        have isRecorded :=
          covered number ((changed number).mpr (.inr ⟨rfl, changes⟩))
        rw [recorded] at isRecorded
        exact absurd (tracks.recordedBefore _ isRecorded) (Nat.lt_irrefl _)
    · intro other isChanged
      rw [← recorded]
      exact covered other ((changed other).mpr (.inl isChanged))
  · rintro ⟨keeps, covered⟩ other isChanged
    rw [recorded]
    rcases (changed other).mp isChanged with old | ⟨_, changes⟩
    · exact covered other old
    · rw [keeps] at changes
      cases changes

/-- An operation that is performed is known by its outcome. -/
theorem Tracks.perform
    (tracks : Tracks number connection earlier)
    (operation : AuditedOperation Statement Record) :
    Tracks (number + 1)
      (connection.perform (tables.write number) (calls operation)).1
      (tables.outcomeOf connection.current.rows operation.statements ::
        earlier) := by
  obtain ⟨ends, recorded, changed⟩ :=
    perform_statements tables number connection operation.statements
  have covered := tracks.covered_statements tables operation.statements
  have durable :=
    connection.durable_perform_writes (tables.write number)
      (operation.statements.map AuditedWrite.change)
  unfold calls
  rw [Connection.perform_append, ends]
  generalize connection.perform (tables.write number)
    ((operation.statements.map AuditedWrite.change).map .write) = performed at *
  generalize tables.outcomeOf connection.current.rows
    operation.statements = outcome at *
  have changedBefore :
      ∀ other ∈ performed.1.current.changed, other < number + 1 := by
    intro other isChanged
    rcases (changed other).mp isChanged with old | ⟨rfl, _⟩
    · exact Nat.lt_succ_of_lt (tracks.changedBefore other old)
    · exact Nat.lt_succ_self _
  have recordedBefore :
      ∀ other ∈ performed.1.current.recorded, other < number + 1 := by
    intro other isRecorded
    rw [recorded] at isRecorded
    exact Nat.lt_succ_of_lt (tracks.recordedBefore other isRecorded)
  cases commits : outcome.commits with
  | false =>
    exact
      { changedBefore
        recordedBefore
        current := by
          rw [List.forall_mem_cons, commits]
          simpa using covered
        durable := by
          rw [harmless_raised commits]
          exact durable ▸ tracks.durable }
  | true =>
    have records :
        (performed.1.perform (tables.write number)
            [.commit, .write (.record operation.record)]).1.current.recorded =
          performed.1.current.recorded ++ [number] :=
      List.map_append
    rw [if_pos rfl]
    exact
      { changedBefore
        recordedBefore := by
          intro other isRecorded
          rw [records] at isRecorded
          rcases List.mem_append.mp isRecorded with old | isNew
          · exact recordedBefore other old
          · rw [List.mem_singleton.mp isNew]
            exact Nat.lt_succ_self _
        current := by
          rw [List.forall_mem_cons, ← tracks.current]
          refine Iff.trans ?_ (and_iff_right (.inl commits)).symm
          unfold Tracked.Covered
          rw [records]
          constructor
          · intro isCovered other isChanged
            rcases List.mem_append.mp
                (isCovered other ((changed other).mpr (.inl isChanged)))
              with old | isNew
            · exact recorded ▸ old
            · have before := tracks.changedBefore other isChanged
              rw [List.mem_singleton.mp isNew] at before
              exact absurd before (Nat.lt_irrefl _)
          · intro wasCovered other isChanged
            rcases (changed other).mp isChanged with old | ⟨rfl, _⟩
            · exact List.mem_append_left _ (recorded ▸ wasCovered other old)
            · exact List.mem_append_right _ (List.mem_singleton_self _)
        durable := by
          rw [harmless_committed commits]
          exact covered }

theorem Tracks.performAll
    (tracks : Tracks number connection earlier)
    (operations : List (AuditedOperation Statement Record)) :
    Tracks (number + operations.length)
      (tables.performAll number connection operations)
      (tables.outcomes number connection operations earlier) := by
  induction operations generalizing number connection earlier with
  | nil =>
    exact tracks
  | cons operation rest inductionHypothesis =>
    rw [List.length_cons, Nat.add_comm rest.length, ← Nat.add_assoc]
    exact inductionHypothesis (tracks.perform operation)

/-- What is durable in the middle of an operation. -/
theorem Tracks.covered_within
    (tracks : Tracks number connection earlier)
    (operation : AuditedOperation Statement Record)
    (awaited : Nat) :
    (connection.perform (tables.write number)
        ((calls operation).take awaited)).1.durable.Covered ↔
      Harmless (if operation.statements.length < awaited then
          tables.outcomeOf connection.current.rows operation.statements ::
            earlier
        else
          earlier) := by
  have covered := tracks.covered_statements tables operation.statements
  obtain ⟨ends, _, _⟩ :=
    perform_statements tables number connection operation.statements
  have durable :=
    connection.durable_perform_writes (tables.write number)
      (operation.statements.map AuditedWrite.change)
  have length :
      ((operation.statements.map AuditedWrite.change).map .write :
          List (DatabaseCall (AuditedWrite Statement Record))).length =
        operation.statements.length := by
    rw [List.length_map, List.length_map]
  unfold calls
  rw [List.take_append, length]
  split
  · rename_i later
    obtain ⟨more, rfl⟩ := Nat.exists_eq_add_of_lt later
    rw [List.take_of_length_le (by omega),
      show operation.statements.length + more + 1 -
          operation.statements.length = more + 1 by omega,
      Connection.perform_append, ends, List.take_succ_cons]
    cases commits :
        (tables.outcomeOf connection.current.rows
          operation.statements).commits with
    | false =>
      rw [harmless_raised commits]
      exact durable ▸ tracks.durable
    | true =>
      rw [harmless_committed commits, ← covered]
      cases more with
      | zero =>
        exact Iff.rfl
      | succ more =>
        rw [List.take_succ_cons, List.take_nil]
        exact Iff.rfl
  · rename_i notLater
    rw [show awaited - operation.statements.length = 0 by omega,
      List.take_zero, List.append_nil, ← List.map_take, ← List.map_take,
      Connection.durable_perform_writes]
    exact tracks.durable

/-! ### The log -/

section Log

/-- The durable log lacks the latest record at most. -/
def Lags
    (log : Database → List Record)
    (connection : Connection (Tracked Database Record)) : Prop :=
  log connection.current.rows = log connection.durable.rows ∨
    ∃ record,
      log connection.current.rows =
        log connection.durable.rows ++ [record]

variable
    {log : Database → List Record}
    (keeps :
      ∀ {rows after : Database} {statement : Statement},
        tables.apply rows statement = some after →
        log after = log rows)

include keeps

theorem log_statements
    (connection : Connection (Tracked Database Record))
    (statements : List Statement) :
    log (connection.perform (tables.write number)
        ((statements.map AuditedWrite.change).map .write)).1.current.rows =
      log connection.current.rows := by
  induction statements generalizing connection with
  | nil =>
    rfl
  | cons statement rest inductionHypothesis =>
    rw [List.map_cons, List.map_cons]
    cases applied : tables.apply connection.current.rows statement with
    | none =>
      rw [Connection.perform_raise (write_raise applied number)]
      rfl
    | some after =>
      rw [Connection.perform_write (write_change applied number),
        inductionHypothesis]
      exact keeps applied

/-- A stop in the middle of an operation leaves the log of before it. -/
theorem log_within
    (operation : AuditedOperation Statement Record)
    (awaited : Nat) :
    let stopped :=
      (connection.perform (tables.write number)
        ((calls operation).take awaited)).1.durable
    log stopped.rows = log connection.durable.rows ∨
      log stopped.rows = log connection.current.rows := by
  have durable :=
    connection.durable_perform_writes (tables.write number)
      ((operation.statements.take awaited).map AuditedWrite.change)
  unfold calls
  rw [List.take_append, ← List.map_take, ← List.map_take,
    Connection.perform_append]
  split
  · generalize awaited - List.length _ = more
    rcases more with _ | _ | more
    · exact .inl (congrArg (log ·.rows) durable)
    · exact .inr (log_statements keeps connection _)
    · rw [List.take_succ_cons, List.take_succ_cons, List.take_nil]
      exact .inr (log_statements keeps connection _)
  · exact .inl (congrArg (log ·.rows) durable)

theorem Lags.performAll
    (appends :
      ∀ rows record,
        log (tables.insertRecord rows record) = log rows ++ [record])
    (lags : Lags log connection)
    (operations : List (AuditedOperation Statement Record)) :
    Lags log (tables.performAll number connection operations) := by
  induction operations generalizing number connection with
  | nil =>
    exact lags
  | cons operation rest inductionHypothesis =>
    refine inductionHypothesis ?_
    unfold calls
    rw [Connection.perform_append]
    split
    · exact .inr ⟨operation.record, appends _ _⟩
    · unfold Lags
      rw [log_statements keeps, Connection.durable_perform_writes]
      exact lags

end Log

end Trail

end AuditedTables

end RpaPlatform
