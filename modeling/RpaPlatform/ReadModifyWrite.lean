import RpaPlatform.Transition

namespace RpaPlatform.Transition

/-!
# Writers that read, merge and write back

Any number of writers share a store.  Each of them reads it, waits, and writes
back what it has read with its own change merged in.  A writer that has read
before another one wrote may write the other change away.  Where everything
that is written back was read from the current store, every change that has
been written stays.
-/

/-- Where a writer is. -/
inductive WriterStage (Read : Type*) where
  | reading
  | writing (read : Read)
  | committing
  | finished

instance {Read : Type*} (stage : WriterStage Read) :
    Decidable (stage = .finished) :=
  match stage with
  | .reading => isFalse nofun
  | .writing _ => isFalse nofun
  | .committing => isFalse nofun
  | .finished => isTrue rfl

/-- A writer, and the change that it makes. -/
structure Writer (Read Change : Type*) where
  change : Change
  stage : WriterStage Read := .reading

/-- A store and its writers. -/
structure SharedStore (Store Read Change : Type*) where
  store : Store
  writers : List (Writer Read Change)

section Writers

variable {Store Read Change : Type*}

namespace Writer

/-- Whether the change of a writer has been written. -/
def hasWritten (writer : Writer Read Change) : Bool :=
  match writer.stage with
  | .reading => false
  | .writing _ => false
  | .committing => true
  | .finished => true

end Writer

namespace SharedStore

variable
    (read : Store → Read)
    (write : Change → Read → Store → Store)
    (sys : SharedStore Store Read Change)

/-- A writer goes on to another stage. -/
def goTo
    (position : Nat)
    (writer : Writer Read Change)
    (stage : WriterStage Read) : SharedStore Store Read Change :=
  { sys with writers := sys.writers.set position { writer with stage } }

/-- The next step of the writer at a position. -/
def step? (position : Nat) : Option (SharedStore Store Read Change) :=
  sys.writers[position]?.bind fun writer =>
    match writer.stage with
    | .reading =>
      some (sys.goTo position writer (.writing (read sys.store)))
    | .writing earlier =>
      some
        ({ sys with store := write writer.change earlier sys.store }.goTo
          position writer .committing)
    | .committing =>
      some (sys.goTo position writer .finished)
    | .finished =>
      none

/-- Writers that have not begun. -/
def started
    (store : Store)
    (changes : List Change) : SharedStore Store Read Change where
  store := store
  writers := changes.map fun change => { change }

def Finished : Prop :=
  ∀ writer ∈ sys.writers, writer.stage = .finished

instance : Decidable sys.Finished :=
  inferInstanceAs (Decidable (∀ writer ∈ sys.writers, writer.stage = .finished))

end SharedStore

/-- What a writer writes back agrees with what is stored. -/
def WritesBackCurrent
    (read : Store → Read)
    (agrees : Read → Read → Prop)
    (sys : SharedStore Store Read Change)
    (position : Nat) : Prop :=
  ∀ writer ∈ sys.writers[position]?,
    ∀ earlier, writer.stage = .writing earlier → agrees earlier (read sys.store)

/-- What a store is to keep of the changes that are written to it. -/
structure KeepsChanges
    (read : Store → Read)
    (write : Change → Read → Store → Store)
    (agrees : Read → Read → Prop)
    (compatible : Change → Change → Prop)
    (contains : Read → Change → Prop) : Prop where
  /-- A change that is written is contained in what is stored. -/
  own :
    ∀ change earlier store, contains (read (write change earlier store)) change
  /-- It leaves a compatible one, if that was read from the store. -/
  others :
    ∀ {change other : Change} {earlier : Read} {store : Store},
      compatible other change →
      agrees earlier (read store) →
      contains (read store) other →
      contains (read (write change earlier store)) other

namespace SharedStore

variable
    {read : Store → Read}
    {write : Change → Read → Store → Store}
    {agrees : Read → Read → Prop}
    {compatible : Change → Change → Prop}
    {contains : Read → Change → Prop}
    {before after : SharedStore Store Read Change}

/-- The changes that have been written are there, and any two agree. -/
structure WrittenKept
    (read : Store → Read)
    (compatible : Change → Change → Prop)
    (contains : Read → Change → Prop)
    (sys : SharedStore Store Read Change) : Prop where
  written :
    ∀ writer ∈ sys.writers,
      writer.hasWritten = true →
      contains (read sys.store) writer.change
  apart :
    ∀ {first second : Nat} {one other : Writer Read Change},
      first ≠ second →
      sys.writers[first]? = some one →
      sys.writers[second]? = some other →
      compatible one.change other.change

variable {position : Nat}

theorem WrittenKept.move
    (kept : WrittenKept read compatible contains before)
    {writer : Writer Read Change}
    (isWriter : before.writers[position]? = some writer)
    {stage : WriterStage Read}
    {store : Store}
    (own :
      ({ writer with stage } : Writer Read Change).hasWritten = true →
        contains (read store) writer.change)
    (others :
      ∀ {index : Nat} {other : Writer Read Change},
        index ≠ position →
        before.writers[index]? = some other →
        other.hasWritten = true →
        contains (read store) other.change) :
    WrittenKept read compatible contains
      ({ before with store }.goTo position writer stage) := by
  constructor
  · intro other member
    obtain ⟨index, isOther⟩ := List.mem_iff_getElem?.mp member
    rcases getElem?_set_cases isOther with
      ⟨rfl, rfl⟩ | ⟨elsewhere, unchanged⟩
    · exact own
    · exact others elsewhere unchanged
  · intro first second one other different isFirst isSecond
    have unchanged :
        ∀ {index : Nat} {found : Writer Read Change},
          (before.writers.set position { writer with stage })[index]? =
              some found →
            ∃ earlier : Writer Read Change,
              before.writers[index]? = some earlier ∧
                earlier.change = found.change := by
      intro index found isFound
      rcases getElem?_set_cases isFound with
        ⟨rfl, rfl⟩ | ⟨_, same⟩
      · exact ⟨writer, isWriter, rfl⟩
      · exact ⟨found, same, rfl⟩
    obtain ⟨_, isOne, oneSame⟩ := unchanged isFirst
    obtain ⟨_, isOther, otherSame⟩ := unchanged isSecond
    rw [← oneSame, ← otherSame]
    exact kept.apart different isOne isOther

theorem WrittenKept.step
    (keeps : KeepsChanges read write agrees compatible contains)
    (kept : WrittenKept read compatible contains before)
    (current : WritesBackCurrent read agrees before position)
    (taken : before.step? read write position = some after) :
    WrittenKept read compatible contains after := by
  obtain ⟨writer, isWriter, stepped⟩ := Option.bind_eq_some_iff.mp taken
  have stored :
      ∀ {index : Nat} {other : Writer Read Change},
        before.writers[index]? = some other →
        other.hasWritten = true →
        contains (read before.store) other.change :=
    fun isOther => kept.written _ (List.mem_of_getElem? isOther)
  split at stepped
  · cases stepped
    exact kept.move isWriter nofun fun _ => stored
  · rename_i earlier isWriting
    cases stepped
    refine kept.move isWriter (fun _ => keeps.own _ _ _) ?_
    intro index other elsewhere isOther hasWritten
    exact keeps.others (kept.apart elsewhere isOther isWriter)
      (current writer isWriter earlier isWriting)
      (stored isOther hasWritten)
  · rename_i isCommitting
    cases stepped
    refine kept.move isWriter ?_ fun _ => stored
    intro _
    refine stored isWriter ?_
    rw [Writer.hasWritten, isCommitting]
  · cases stepped

theorem changes_goTo
    {writer : Writer Read Change}
    (isWriter : before.writers[position]? = some writer)
    (stage : WriterStage Read) :
    (before.goTo position writer stage).writers.map (·.change) =
      before.writers.map (·.change) := by
  apply List.ext_getElem?
  intro index
  rw [goTo, List.getElem?_map, List.getElem?_map]
  by_cases same : index = position
  · subst index
    have inside := (List.getElem?_eq_some_iff.mp isWriter).1
    rw [List.getElem?_set_self inside, isWriter]
    rfl
  · rw [List.getElem?_set_ne (Ne.symm same)]

theorem changes_step
    (taken : before.step? read write position = some after) :
    after.writers.map (·.change) = before.writers.map (·.change) := by
  obtain ⟨writer, isWriter, stepped⟩ := Option.bind_eq_some_iff.mp taken
  split at stepped
  · cases stepped
    exact changes_goTo isWriter _
  · cases stepped
    exact changes_goTo isWriter _
  · cases stepped
    exact changes_goTo isWriter _
  · cases stepped

/--
Where only what is current is written back, the store contains every change
when the writers have finished.
-/
theorem contains_of_writesBackCurrent
    (keeps : KeepsChanges read write agrees compatible contains)
    {store : Store}
    {changes : List Change}
    (apart :
      ∀ {first second : Nat} {one other : Change},
        first ≠ second →
        changes[first]? = some one →
        changes[second]? = some other →
        compatible one other)
    {final : SharedStore Store Read Change}
    {positions : List Nat}
    (run :
      Run
        (Guarded (Fires (step? read write)) (WritesBackCurrent read agrees))
        (started store changes) positions final)
    (finished : final.Finished)
    {change : Change}
    (member : change ∈ changes) :
    contains (read final.store) change := by
  have begun :
      WrittenKept read compatible contains (started store changes) := by
    constructor
    · intro writer member hasWritten
      obtain ⟨change, _, rfl⟩ := List.mem_map.mp member
      cases hasWritten
    · intro first second one other different isFirst isSecond
      unfold started at isFirst isSecond
      rw [List.getElem?_map, Option.map_eq_some_iff] at isFirst isSecond
      obtain ⟨_, isFirst, rfl⟩ := isFirst
      obtain ⟨_, isSecond, rfl⟩ := isSecond
      exact apart different isFirst isSecond
  have named :
      (started store changes : SharedStore Store Read Change).writers.map
          (·.change) =
        changes := by
    unfold started
    rw [List.map_map]
    exact List.map_id changes
  obtain ⟨kept, same⟩ :
      WrittenKept read compatible contains final ∧
        final.writers.map (·.change) = changes := by
    apply run.preserves ?_ ⟨begun, named⟩
    rintro before position after ⟨taken, current⟩ ⟨kept, same⟩
    exact ⟨kept.step keeps current taken, (changes_step taken).trans same⟩
  rw [← same] at member
  obtain ⟨writer, isWriter, rfl⟩ := List.mem_map.mp member
  refine kept.written writer isWriter ?_
  rw [Writer.hasWritten, finished writer isWriter]

end SharedStore

end Writers

end RpaPlatform.Transition
