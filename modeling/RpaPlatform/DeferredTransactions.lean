import Mathlib.Data.List.Basic

namespace RpaPlatform

/-!
# A connection with deferred transactions

The first statement that writes opens a transaction, which stays open until a
commit; what it has written is seen on the connection at once, and is lost if
the connection is closed or the process stops before the commit.
-/

/-- A database as it is on the disk, and an open transaction on it. -/
structure Connection (Database : Type*) where
  durable : Database
  transaction : Option Database := none

/-- What an operation awaits of a connection. -/
inductive DatabaseCall (Statement : Type*) where
  | write (statement : Statement)
  | commit

namespace Connection

variable {Database Statement : Type*}

def current (connection : Connection Database) : Database :=
  connection.transaction.getD connection.durable

def commit (connection : Connection Database) : Connection Database where
  durable := connection.current

/-- What is left when the connection is closed, or the process stops. -/
def close (connection : Connection Database) : Connection Database where
  durable := connection.durable

/-- Write on the connection. -/
def write
    (connection : Connection Database)
    (after : Database) : Connection Database :=
  { connection with transaction := some after }

/--
Await calls one after the other, up to the first statement that raises; the
flag says whether none has.
-/
def perform
    (apply : Database → Statement → Option Database) :
    Connection Database →
    List (DatabaseCall Statement) →
    Connection Database × Bool
  | connection, [] =>
    (connection, true)
  | connection, .commit :: rest =>
    connection.commit.perform apply rest
  | connection, .write statement :: rest =>
    match apply connection.current statement with
    | none => (connection.write connection.current, false)
    | some after => (connection.write after).perform apply rest

@[simp]
theorem current_write
    (connection : Connection Database)
    (after : Database) :
    (connection.write after).current = after :=
  rfl

@[simp]
theorem current_commit (connection : Connection Database) :
    connection.commit.current = connection.current :=
  rfl

section Calls

variable
    (apply : Database → Statement → Option Database)
    (connection : Connection Database)

section Writes

variable {apply connection}

theorem perform_write
    {statement : Statement}
    {after : Database}
    (applied : apply connection.current statement = some after)
    (rest : List (DatabaseCall Statement)) :
    connection.perform apply (.write statement :: rest) =
      (connection.write after).perform apply rest := by
  rw [perform, applied]

theorem perform_raise
    {statement : Statement}
    (raises : apply connection.current statement = none)
    (rest : List (DatabaseCall Statement)) :
    connection.perform apply (.write statement :: rest) =
      (connection.write connection.current, false) := by
  rw [perform, raises]

end Writes

theorem perform_append (first second : List (DatabaseCall Statement)) :
    connection.perform apply (first ++ second) =
      if (connection.perform apply first).2 then
        (connection.perform apply first).1.perform apply second
      else
        connection.perform apply first := by
  induction first generalizing connection with
  | nil =>
    rfl
  | cons call rest inductionHypothesis =>
    cases call with
    | commit =>
      exact inductionHypothesis connection.commit
    | write statement =>
      rw [List.cons_append, perform, perform]
      split
      · rfl
      · exact inductionHypothesis _

theorem durable_perform_writes (statements : List Statement) :
    (connection.perform apply
        (statements.map DatabaseCall.write)).1.durable =
      connection.durable := by
  induction statements generalizing connection with
  | nil =>
    rfl
  | cons statement rest inductionHypothesis =>
    rw [List.map_cons, perform]
    split
    · rfl
    · exact inductionHypothesis _

end Calls

end Connection

end RpaPlatform
