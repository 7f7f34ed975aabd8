import Mathlib.Data.List.Basic

namespace RpaPlatform

/-!
# Statements under foreign keys

A database declares foreign keys, which it checks at the end of each
statement.  A statement that breaks a key fails and changes nothing; so does
one that finds its primary key taken.  A program executes statements one after
the other, each of them committed by itself, and ends with the first failure.
-/

/-- A column that may refer to a row, and the keys that it may name. -/
structure ForeignKey (Database Key : Type*) where
  references : Database → List Key
  keys : Database → List Key

namespace ForeignKey

variable
    {Database Key : Type*}
    {foreignKey : ForeignKey Database Key}
    {before after : Database}

def Holds (foreignKey : ForeignKey Database Key) (database : Database) :
    Prop :=
  ∀ key ∈ foreignKey.references database, key ∈ foreignKey.keys database

instance
    [DecidableEq Key]
    (foreignKey : ForeignKey Database Key)
    (database : Database) : Decidable (foreignKey.Holds database) :=
  inferInstanceAs
    (Decidable
      (∀ key ∈ foreignKey.references database, key ∈ foreignKey.keys database))

theorem Holds.grow
    (holds : foreignKey.Holds before)
    (kept : ∀ key ∈ foreignKey.keys before, key ∈ foreignKey.keys after)
    (met :
      ∀ key ∈ foreignKey.references after,
        key ∈ foreignKey.references before ∨ key ∈ foreignKey.keys after) :
    foreignKey.Holds after := by
  intro key refers
  rcases met key refers with earlier | isMet
  · exact kept key (holds key earlier)
  · exact isMet

end ForeignKey

/-- Every declared foreign key holds. -/
def Consistent
    {Database Key : Type*}
    (declared : List (ForeignKey Database Key))
    (database : Database) : Prop :=
  ∀ foreignKey ∈ declared, foreignKey.Holds database

instance
    {Database Key : Type*}
    [DecidableEq Key]
    (declared : List (ForeignKey Database Key))
    (database : Database) : Decidable (Consistent declared database) :=
  inferInstanceAs
    (Decidable (∀ foreignKey ∈ declared, foreignKey.Holds database))

theorem Consistent.grow
    {Database Key : Type*}
    {declared : List (ForeignKey Database Key)}
    {before after : Database}
    (consistent : Consistent declared before)
    (grows :
      ∀ foreignKey ∈ declared,
        (∀ key ∈ foreignKey.keys before, key ∈ foreignKey.keys after) ∧
          ∀ key ∈ foreignKey.references after,
            key ∈ foreignKey.references before ∨ key ∈ foreignKey.keys after) :
    Consistent declared after := by
  intro foreignKey isDeclared
  obtain ⟨kept, met⟩ := grows foreignKey isDeclared
  exact (consistent foreignKey isDeclared).grow kept met

/-- How a program fails. -/
inductive SqlFailure where
  | primaryKey
  | foreignKey
  | raised (text : String)
deriving DecidableEq

/-- A program that reads and writes a database. -/
abbrev SqlProgram (Database : Type) :=
  ExceptT SqlFailure (StateM Database)

namespace SqlProgram

variable {Database Key Result Next : Type}

def query (view : Database → Result) : SqlProgram Database Result :=
  fun database => (.ok (view database), database)

def raise (text : String) : SqlProgram Database Result :=
  fun database => (.error (.raised text), database)

/-- Execute a statement; `none` stands for a primary key that is taken. -/
def statement
    [DecidableEq Key]
    (declared : List (ForeignKey Database Key))
    (change : Database → Option Database) : SqlProgram Database Unit :=
  fun database =>
    match change database with
    | none => (.error .primaryKey, database)
    | some after =>
      if Consistent declared after then (.ok (), after)
      else (.error .foreignKey, database)

/-- No statement of a program breaks a foreign key. -/
def KeepsForeignKeys
    (program : SqlProgram Database Result)
    (database : Database) : Prop :=
  (program database).1 ≠ .error .foreignKey

instance
    (program : SqlProgram Database Result)
    (database : Database) : Decidable (program.KeepsForeignKeys database) :=
  match ended : (program database).1 with
  | .ok _ => .isTrue fun broken => nomatch ended.symm.trans broken
  | .error .foreignKey => .isFalse fun keeps => keeps ended
  | .error .primaryKey => .isTrue fun broken => nomatch ended.symm.trans broken
  | .error (.raised _) =>
    .isTrue fun broken => nomatch ended.symm.trans broken

/--
A program keeps an invariant of the database, and breaks no foreign key where
it holds.
-/
def Respects
    (invariant : Database → Prop)
    (program : SqlProgram Database Result) : Prop :=
  ∀ database,
    invariant database →
    program.KeepsForeignKeys database ∧ invariant (program database).2

section Rules

variable
    {program : SqlProgram Database Result}
    {rest : Result → SqlProgram Database Next}
    {database after : Database}
    {invariant : Database → Prop}

theorem bind_apply :
    (program >>= rest) database =
      ExceptT.bindCont rest (program database).1 (program database).2 :=
  rfl

theorem bind_ok
    {result : Result}
    (ends : program database = (.ok result, after)) :
    (program >>= rest) database = rest result after := by
  rw [bind_apply, ends]
  rfl

theorem bind_error
    {failure : SqlFailure}
    (fails : program database = (.error failure, after)) :
    (program >>= rest) database = (.error failure, after) := by
  rw [bind_apply, fails]
  rfl

theorem exists_of_bind_ok
    {next : Next}
    (ends : (program >>= rest) database = (.ok next, after)) :
    ∃ result middle,
      program database = (.ok result, middle) ∧
        rest result middle = (.ok next, after) := by
  rw [bind_apply] at ends
  cases first : (program database).1 with
  | ok result =>
    rw [first] at ends
    exact ⟨result, (program database).2, Prod.ext first rfl, ends⟩
  | error failure =>
    rw [first] at ends
    cases ends

theorem respects_query (view : Database → Result) :
    Respects invariant (query view) :=
  fun _ holds => ⟨nofun, holds⟩

theorem respects_raise (text : String) :
    Respects invariant (raise text : SqlProgram Database Result) :=
  fun _ holds => ⟨nofun, holds⟩

theorem respects_pure (result : Result) :
    Respects invariant (pure result : SqlProgram Database Result) :=
  fun _ holds => ⟨nofun, holds⟩

theorem Respects.bind
    (respects : Respects invariant program)
    (continues : ∀ result, Respects invariant (rest result)) :
    Respects invariant (program >>= rest) := by
  intro database holds
  obtain ⟨keeps, stays⟩ := respects database holds
  unfold KeepsForeignKeys
  rw [bind_apply]
  cases ends : (program database).1 with
  | ok result =>
    exact continues result _ stays
  | error failure =>
    unfold KeepsForeignKeys at keeps
    rw [ends] at keeps
    exact ⟨fun broken => keeps (by cases broken; rfl), stays⟩

variable
    [DecidableEq Key]
    {declared : List (ForeignKey Database Key)}
    {change : Database → Option Database}

theorem statement_ok
    (changes : change database = some after)
    (consistent : Consistent declared after) :
    statement declared change database = (.ok (), after) := by
  unfold statement
  rw [changes]
  exact if_pos consistent

theorem statement_foreignKey
    (changes : change database = some after)
    (broken : ¬ Consistent declared after) :
    statement declared change database = (.error .foreignKey, database) := by
  unfold statement
  rw [changes]
  exact if_neg broken

theorem statement_primaryKey
    (taken : change database = none) :
    statement declared change database = (.error .primaryKey, database) := by
  unfold statement
  rw [taken]

theorem respects_statement
    (kept :
      ∀ database after,
        invariant database →
        change database = some after →
        Consistent declared after ∧ invariant after) :
    Respects invariant (statement declared change) := by
  intro database holds
  unfold KeepsForeignKeys
  cases changes : change database with
  | none =>
    rw [statement_primaryKey changes]
    exact ⟨nofun, holds⟩
  | some after =>
    obtain ⟨consistent, stays⟩ := kept database after holds changes
    rw [statement_ok changes consistent]
    exact ⟨nofun, stays⟩

end Rules

end SqlProgram

end RpaPlatform
