import Mathlib.Data.List.Chain
import RpaPlatform.HeartbeatDamage

namespace RpaPlatform.Agents

open Tasks (Json)
open Transition

/-!
# The event log of the processes of a connection

Events come of comparing the processes that a merged state lists, one listing
at a time, with what was remembered of their pids.  The log of every pid
alternates, and tells whether it runs, as long as no process runs that is
remembered as stopped and no two listings of a pid are at odds.
-/

deriving instance DecidableEq for EventType

/-! ### Logs -/

/-- The events of an agent. -/
def Telemetry.eventsOf
    (telemetry : Telemetry)
    (agentId : String) : List EventRow :=
  telemetry.events.filter fun event => event.agentId = agentId

def EventRow.typeAt? (pid : Int) (event : EventRow) : Option EventType :=
  if event.pid = pid then some event.type else none

theorem EventRow.typeAt?_eq_some
    {pid : Int}
    {event : EventRow}
    {type : EventType} :
    event.typeAt? pid = some type ↔ event.pid = pid ∧ event.type = type := by
  simp [typeAt?]

theorem EventRow.typeAt?_eq_none
    {pid : Int}
    {event : EventRow} :
    event.typeAt? pid = none ↔ event.pid ≠ pid := by
  simp [typeAt?]

def typesOf (pid : Int) (events : List EventRow) : List EventType :=
  events.filterMap (EventRow.typeAt? pid)

/-- The events of an agent that have been recorded since. -/
def eventsSince
    (agentId : String)
    (opened now : Monitoring) : List EventRow :=
  (now.telemetry.eventsOf agentId).drop
    (opened.telemetry.eventsOf agentId).length

/-- Starts alternate with other events, beginning with a start. -/
structure Alternates (types : List EventType) : Prop where
  begins : ∀ type ∈ types.head?, type = .start
  alternates :
    types.IsChain fun earlier later => earlier = .start ↔ later ≠ .start

/-- A pid is listed and running. -/
def RunsIn
    (library : TextLibrary)
    (state : JsonObject)
    (pid : Int) : Prop :=
  ∃ process ∈ listed state,
    library.int process.pidText = some pid ∧ truthy process.running = true

/-- A log alternates and ends in a start exactly if the pid runs. -/
structure TellsWhether (types : List EventType) (running : Prop) : Prop where
  alternates : Alternates types
  last : types.getLast? = some .start ↔ running

theorem Alternates.nil : Alternates [] :=
  ⟨nofun, .nil⟩

theorem Alternates.append
    {types : List EventType}
    {type : EventType}
    (alternates : Alternates types)
    (differs : types.getLast? = some .start ↔ type ≠ .start) :
    Alternates (types ++ [type]) where
  begins := by
    cases types with
    | nil =>
      intro first isFirst
      obtain rfl : type = first := by
        simpa using isFirst
      by_contra ends
      cases differs.mpr ends
    | cons first rest =>
      exact alternates.begins
  alternates := by
    refine alternates.alternates.append (.singleton _) ?_
    intro earlier isLast later isNext
    obtain rfl : type = later := by
      simpa using isNext
    rw [← differs, Option.mem_def.mp isLast, Option.some.injEq]

/-! ### One event at most -/

/-- What a heartbeat adds to the log of a pid. -/
inductive Extends
    (ran runs : Prop) : List EventType → Prop where
  | unchanged : (ran ↔ runs) → Extends ran runs []
  | started : ¬ ran → runs → Extends ran runs [.start]
  | ended {type : EventType} :
      type ≠ .start →
      ran →
      ¬ runs →
      Extends ran runs [type]

theorem TellsWhether.append
    {types added : List EventType}
    {ran runs : Prop}
    (tells : TellsWhether types ran)
    (extension : Extends ran runs added) :
    TellsWhether (types ++ added) runs := by
  cases extension with
  | unchanged same =>
    rw [List.append_nil]
    exact ⟨tells.alternates, tells.last.trans same⟩
  | started stood runs =>
    refine ⟨tells.alternates.append ?_, ?_⟩
    · rw [tells.last]
      simp [stood]
    · simp [runs]
  | ended ends ran stands =>
    refine ⟨tells.alternates.append ?_, ?_⟩
    · rw [tells.last]
      simp [ends, ran]
    · simp [ends, stands]

theorem filterMap_of_pairwise
    {Item Result : Type}
    {extract : Item → Option Result}
    {items : List Item}
    (single :
      items.Pairwise fun first second =>
        extract first = none ∨ extract second = none) :
    items.filterMap extract = [] ∨
      ∃ item ∈ items,
        ∃ result,
          extract item = some result ∧ items.filterMap extract = [result] := by
  induction items with
  | nil =>
    exact .inl rfl
  | cons first rest inductionHypothesis =>
    obtain ⟨apart, singleRest⟩ := List.pairwise_cons.mp single
    cases extracted : extract first with
    | none =>
      rw [List.filterMap_cons_none extracted]
      rcases inductionHypothesis singleRest with
        nothing | ⟨item, member, found⟩
      · exact .inl nothing
      · exact .inr ⟨item, List.mem_cons_of_mem _ member, found⟩
    | some result =>
      have nothing : rest.filterMap extract = [] := by
        rw [List.filterMap_eq_nil_iff]
        intro item member
        refine (apart item member).resolve_left ?_
        rw [extracted]
        exact Option.some_ne_none result
      refine .inr ⟨first, List.mem_cons_self, result, extracted, ?_⟩
      rw [List.filterMap_cons_some extracted, nothing]

/-! ### Which listings can be tracked -/

/-- A text is remembered as that of a running process. -/
def ranAs
    (previous : List (String × ProcessState))
    (pidText : String) : Bool :=
  (previous.lookup pidText).any fun was => truthy was.running

/-- Two listings of a pid are not at odds. -/
def Compatible
    (library : TextLibrary)
    (previous : List (String × ProcessState))
    (first second : Listed) : Prop :=
  library.int first.pidText = library.int second.pidText →
    first.pidText = second.pidText ∧
        truthy first.running = ranAs previous first.pidText ∧
        truthy second.running = ranAs previous second.pidText ∨
      first.pidText ≠ second.pidText ∧
        (truthy first.running = false ∧
            ranAs previous first.pidText = false ∨
          truthy second.running = false ∧ ranAs previous second.pidText = false)

/-- What is listed can be compared with what is remembered. -/
structure Trackable
    (library : TextLibrary)
    (previous : List (String × ProcessState))
    (processes : List Listed) : Prop where
  /-- None runs under a text that is remembered as stopped. -/
  notRestarted :
    ∀ process ∈ processes,
      truthy process.running = true →
      ∀ was,
        previous.lookup process.pidText = some was →
        truthy was.running = true
  /-- None runs while its pid is remembered under another text. -/
  notRenamed :
    ∀ process ∈ processes,
      truthy process.running = true →
      ∀ entry ∈ previous,
        truthy entry.2.running = true →
        library.int entry.1 = library.int process.pidText →
        entry.1 = process.pidText
  /-- No two listings of a pid are at odds. -/
  compatible : processes.Pairwise (Compatible library previous)

/-- A pid is remembered as running. -/
def RanIn
    (library : TextLibrary)
    (previous : List (String × ProcessState))
    (pid : Int) : Prop :=
  ∃ entry ∈ previous,
    library.int entry.1 = some pid ∧ truthy entry.2.running = true

/-- Every running pid is remembered once. -/
structure RemembersOnce
    (library : TextLibrary)
    (previous : List (String × ProcessState)) : Prop where
  distinct : (previous.map Prod.fst).Nodup
  numbered : ∀ entry ∈ previous, (library.int entry.1).isSome = true
  once :
    ∀ first ∈ previous,
      truthy first.2.running = true →
      ∀ second ∈ previous,
        truthy second.2.running = true →
        library.int first.1 = library.int second.1 →
        first.1 = second.1

/-- The event of a listing, if it is one of the pid. -/
def Listed.changeAt?
    (library : TextLibrary)
    (agentId : String)
    (now : Int)
    (previous : List (String × ProcessState))
    (pid : Int)
    (process : Listed) : Option EventType :=
  (process.event? library agentId now previous).bind (EventRow.typeAt? pid)

/-- The event of what was remembered, if it is one of the pid. -/
def goneAt?
    (library : TextLibrary)
    (agentId : String)
    (now : Int)
    (current : List (String × ProcessState))
    (pid : Int)
    (entry : String × ProcessState) : Option EventType :=
  (disappearance? library agentId now current entry).bind (EventRow.typeAt? pid)

section Tracking

variable
    {library : TextLibrary}
    {agentId : String}
    {now : Int}
    {previous : List (String × ProcessState)}
    {pid : Int}

theorem Compatible.symm
    {first second : Listed}
    (compatible : Compatible library previous first second) :
    Compatible library previous second first := by
  intro same
  rcases compatible same.symm with ⟨text, earlier, later⟩ | ⟨texts, idle⟩
  · exact .inl ⟨text.symm, later, earlier⟩
  · exact .inr ⟨texts.symm, idle.symm⟩

theorem Trackable.runs
    {processes : List Listed}
    (trackable : Trackable library previous processes)
    {first second : Listed}
    (isListed : first ∈ processes)
    (isRunning : truthy first.running = true)
    (otherListed : second ∈ processes)
    (sameText : first.pidText = second.pidText) :
    truthy second.running = true := by
  by_contra stands
  have different : first ≠ second := by
    rintro rfl
    exact stands isRunning
  have symmetric : Std.Symm (Compatible library previous) :=
    ⟨fun _ _ compatible => compatible.symm⟩
  have compatible :=
    trackable.compatible.forall isListed otherListed different
  rcases compatible (congrArg library.int sameText) with
    ⟨_, earlier, later⟩ | ⟨texts, _⟩
  · rw [later, ← sameText, ← earlier] at stands
    exact stands isRunning
  · exact texts sameText

variable
    {process : Listed}
    {entry : String × ProcessState}
    {state : JsonObject}

theorem changeAt?_some
    {type : EventType}
    (numbered : (library.int process.pidText).isSome = true)
    (found : process.changeAt? library agentId now previous pid = some type) :
    library.int process.pidText = some pid ∧
      (type = .start ∧ previous.lookup process.pidText = none ∧
          truthy process.running = true ∨
        type ≠ .start ∧ ranAs previous process.pidText = true ∧
          truthy process.running = false) := by
  obtain ⟨number, isNumber⟩ := Option.isSome_iff_exists.mp numbered
  unfold Listed.changeAt? Listed.event? at found
  dsimp only at found
  rw [isNumber] at found ⊢
  cases stored : previous.lookup process.pidText with
  | none =>
    rw [stored] at found
    dsimp only at found
    split at found
    · rename_i running
      obtain ⟨same, rfl⟩ := EventRow.typeAt?_eq_some.mp found
      exact ⟨congrArg some same, .inl ⟨rfl, rfl, running⟩⟩
    · cases found
  | some was =>
    rw [stored] at found
    dsimp only at found
    split at found
    · rename_i ended
      obtain ⟨ran, stands⟩ := Bool.and_eq_true_iff.mp ended
      obtain ⟨same, rfl⟩ := EventRow.typeAt?_eq_some.mp found
      refine ⟨congrArg some same, .inr ⟨?_, ?_, by simpa using stands⟩⟩
      · dsimp only
        split
        · exact nofun
        · exact nofun
      · rw [ranAs, stored]
        exact ran
    · cases found

theorem changeAt?_none
    (isPid : library.int process.pidText = some pid)
    (nothing : process.changeAt? library agentId now previous pid = none) :
    (truthy process.running = true →
        (previous.lookup process.pidText).isSome = true) ∧
      (ranAs previous process.pidText = true →
        truthy process.running = true) := by
  unfold Listed.changeAt? Listed.event? at nothing
  dsimp only at nothing
  rw [isPid] at nothing
  unfold ranAs
  cases stored : previous.lookup process.pidText with
  | none =>
    rw [stored] at nothing
    dsimp only at nothing
    refine ⟨fun running => ?_, nofun⟩
    rw [if_pos running, Option.bind_some] at nothing
    exact absurd rfl (EventRow.typeAt?_eq_none.mp nothing)
  | some was =>
    rw [stored] at nothing
    dsimp only at nothing
    refine ⟨fun _ => rfl, fun ran => ?_⟩
    have wasRunning : truthy was.running = true := ran
    by_contra stands
    rw [wasRunning, Bool.eq_false_of_not_eq_true stands,
      if_pos (by rfl), Option.bind_some] at nothing
    exact absurd rfl (EventRow.typeAt?_eq_none.mp nothing)

theorem Trackable.single
    {processes : List Listed}
    (trackable : Trackable library previous processes)
    (numbered :
      ∀ process ∈ processes, (library.int process.pidText).isSome = true) :
    processes.Pairwise fun first second =>
      first.changeAt? library agentId now previous pid = none ∨
        second.changeAt? library agentId now previous pid = none := by
  refine trackable.compatible.imp_of_mem ?_
  intro first second isFirst isSecond compatible
  by_contra both
  obtain ⟨hasFirst, hasSecond⟩ := not_or.mp both
  obtain ⟨_, firstFound⟩ := Option.ne_none_iff_exists'.mp hasFirst
  obtain ⟨_, secondFound⟩ := Option.ne_none_iff_exists'.mp hasSecond
  obtain ⟨firstPid, firstChange⟩ :=
    changeAt?_some (numbered first isFirst) firstFound
  obtain ⟨secondPid, secondChange⟩ :=
    changeAt?_some (numbered second isSecond) secondFound
  -- Whoever has an event does not run exactly if it ran before.
  have changes :
      ∀ {process : Listed} {type : EventType},
        (type = .start ∧ previous.lookup process.pidText = none ∧
            truthy process.running = true ∨
          type ≠ .start ∧ ranAs previous process.pidText = true ∧
            truthy process.running = false) →
        truthy process.running ≠ ranAs previous process.pidText := by
    rintro process type (⟨_, fresh, running⟩ | ⟨_, ran, stands⟩)
    · rw [running, ranAs, fresh]
      exact nofun
    · rw [ran, stands]
      exact nofun
  rcases compatible (firstPid.trans secondPid.symm) with
    ⟨_, steady, _⟩ | ⟨_, ⟨stands, stood⟩ | ⟨stands, stood⟩⟩
  · exact changes firstChange steady
  · exact changes firstChange (stands.trans stood.symm)
  · exact changes secondChange (stands.trans stood.symm)

theorem ranAs_of_mem
    (distinct : (previous.map Prod.fst).Nodup)
    (member : entry ∈ previous)
    (running : truthy entry.2.running = true) :
    ranAs previous entry.1 = true := by
  rw [ranAs, Dictionary.lookup_of_mem distinct member]
  exact running

theorem exists_of_ranAs
    {pidText : String}
    (ran : ranAs previous pidText = true) :
    ∃ was, (pidText, was) ∈ previous ∧ truthy was.running = true := by
  obtain ⟨was, found, running⟩ := (Option.any_eq_true _ _).mp ran
  exact ⟨was, Dictionary.mem_of_lookup found, running⟩

theorem goneAt?_some
    {current : List (String × ProcessState)}
    {type : EventType}
    (numbered : (library.int entry.1).isSome = true)
    (found : goneAt? library agentId now current pid entry = some type) :
    type = .disappeared ∧ library.int entry.1 = some pid ∧
      current.lookup entry.1 = none ∧ truthy entry.2.running = true := by
  obtain ⟨number, isNumber⟩ := Option.isSome_iff_exists.mp numbered
  unfold goneAt? disappearance? at found
  rw [isNumber] at found ⊢
  split at found
  · rename_i disappeared
    obtain ⟨absent, running⟩ := Bool.and_eq_true_iff.mp disappeared
    obtain ⟨same, rfl⟩ := EventRow.typeAt?_eq_some.mp found
    exact
      ⟨rfl, congrArg some same, Option.isNone_iff_eq_none.mp absent, running⟩
  · cases found

theorem goneAt?_none
    {current : List (String × ProcessState)}
    (isPid : library.int entry.1 = some pid)
    (running : truthy entry.2.running = true)
    (nothing : goneAt? library agentId now current pid entry = none) :
    (current.lookup entry.1).isSome = true := by
  by_contra absent
  have isAbsent : (current.lookup entry.1).isNone = true := by
    rw [Option.not_isSome_iff_eq_none.mp absent]
    rfl
  unfold goneAt? disappearance? at nothing
  rw [isPid, if_pos (by rw [isAbsent, running]; rfl),
    Option.bind_some] at nothing
  exact absurd rfl (EventRow.typeAt?_eq_none.mp nothing)

theorem exists_listed_of_mem_snapshot
    (member : entry ∈ snapshot state) :
    ∃ process ∈ listed state, process.remembered = entry := by
  rcases Dictionary.mem_update member with before | observed
  · cases before
  · exact List.mem_map.mp observed

theorem lookup_snapshot_of_mem
    (isListed : process ∈ listed state) :
    ∃ other ∈ listed state,
      other.pidText = process.pidText ∧
        (snapshot state).lookup process.pidText = some other.remembered.2 := by
  have named :
      process.pidText ∈
        ((listed state).map Listed.remembered).map Prod.fst := by
    rw [List.map_map]
    exact List.mem_map.mpr ⟨process, isListed, rfl⟩
  obtain ⟨_, found, member⟩ := Dictionary.lookup_update_of_mem named []
  obtain ⟨other, otherListed, isOther⟩ := List.mem_map.mp member
  refine ⟨other, otherListed, congrArg Prod.fst isOther, ?_⟩
  exact found.trans (congrArg some (congrArg Prod.snd isOther).symm)

theorem remembersOnce_snapshot
    (healthy : HealthyState library state)
    (trackable : Trackable library previous (listed state)) :
    RemembersOnce library (snapshot state) where
  distinct :=
    @Dictionary.nodup_keys_update _ _ _ _ [] List.nodup_nil _
  numbered := int_snapshot healthy
  once := by
    intro first firstMember firstRuns second secondMember secondRuns same
    obtain ⟨one, oneListed, rfl⟩ :=
      exists_listed_of_mem_snapshot firstMember
    obtain ⟨other, otherListed, rfl⟩ :=
      exists_listed_of_mem_snapshot secondMember
    have oneRuns : truthy one.running = true := firstRuns
    have otherRuns : truthy other.running = true := secondRuns
    by_contra differ
    have different : one ≠ other := by
      rintro rfl
      exact differ rfl
    have symmetric : Std.Symm (Compatible library previous) :=
      ⟨fun _ _ compatible => compatible.symm⟩
    have compatible :=
      trackable.compatible.forall oneListed otherListed different
    rcases compatible same with
      ⟨text, _⟩ | ⟨_, ⟨stands, _⟩ | ⟨stands, _⟩⟩
    · exact differ text
    · rw [oneRuns] at stands
      cases stands
    · rw [otherRuns] at stands
      cases stands

theorem ranIn_snapshot_iff
    (trackable : Trackable library previous (listed state)) :
    RanIn library (snapshot state) pid ↔ RunsIn library state pid := by
  constructor
  · rintro ⟨entry, member, isPid, running⟩
    obtain ⟨process, isListed, rfl⟩ := exists_listed_of_mem_snapshot member
    exact ⟨process, isListed, isPid, running⟩
  · rintro ⟨process, isListed, isPid, running⟩
    obtain ⟨other, otherListed, sameText, found⟩ :=
      lookup_snapshot_of_mem isListed
    exact
      ⟨_, Dictionary.mem_of_lookup found, isPid,
        trackable.runs isListed running otherListed sameText.symm⟩

theorem RemembersOnce.single
    (remembers : RemembersOnce library previous)
    (current : List (String × ProcessState)) :
    previous.Pairwise fun first second =>
      goneAt? library agentId now current pid first = none ∨
        goneAt? library agentId now current pid second = none := by
  refine (List.pairwise_map.mp remembers.distinct).imp_of_mem ?_
  intro first second isFirst isSecond different
  by_contra both
  obtain ⟨hasFirst, hasSecond⟩ := not_or.mp both
  obtain ⟨_, firstFound⟩ := Option.ne_none_iff_exists'.mp hasFirst
  obtain ⟨_, secondFound⟩ := Option.ne_none_iff_exists'.mp hasSecond
  obtain ⟨_, firstPid, _, firstRan⟩ :=
    goneAt?_some (remembers.numbered _ isFirst) firstFound
  obtain ⟨_, secondPid, _, secondRan⟩ :=
    goneAt?_some (remembers.numbered _ isSecond) secondFound
  exact
    different
      (remembers.once first isFirst firstRan second isSecond secondRan
        (firstPid.trans secondPid.symm))

section Heartbeat

variable
    {state : JsonObject}
    (remembers : RemembersOnce library previous)
    (healthy : HealthyState library state)
    (trackable : Trackable library previous (listed state))

include remembers trackable

theorem ranIn_iff_of_unchanged
    (noneGone :
      ∀ entry ∈ previous,
        goneAt? library agentId now (snapshot state) pid entry = none)
    (noChange :
      ∀ process ∈ listed state,
        process.changeAt? library agentId now previous pid = none) :
    RanIn library previous pid ↔ RunsIn library state pid := by
  constructor
  · rintro ⟨entry, member, isPid, ran⟩
    have remains := goneAt?_none isPid ran (noneGone entry member)
    obtain ⟨_, found⟩ := Option.isSome_iff_exists.mp remains
    obtain ⟨process, isListed, isProcess⟩ :=
      exists_listed_of_mem_snapshot (Dictionary.mem_of_lookup found)
    have sameText : process.pidText = entry.1 :=
      congrArg Prod.fst isProcess
    have ranProcess := ranAs_of_mem remembers.distinct member ran
    rw [← sameText] at isPid ranProcess
    exact
      ⟨process, isListed, isPid,
        (changeAt?_none isPid (noChange process isListed)).2 ranProcess⟩
  · rintro ⟨process, isListed, isPid, running⟩
    have known :=
      (changeAt?_none isPid (noChange process isListed)).1 running
    obtain ⟨was, found⟩ := Option.isSome_iff_exists.mp known
    exact
      ⟨_, Dictionary.mem_of_lookup found, isPid,
        trackable.notRestarted process isListed running was found⟩

include healthy

theorem extends_changed
    {process : Listed}
    {type : EventType}
    (isListed : process ∈ listed state)
    (isType : process.changeAt? library agentId now previous pid = some type) :
    Extends (RanIn library previous pid) (RunsIn library state pid) [type] := by
  obtain ⟨isPid, ⟨rfl, fresh, running⟩ | ⟨ends, ran, stands⟩⟩ :=
    changeAt?_some (int_listed healthy process isListed) isType
  · refine .started ?_ ⟨process, isListed, isPid, running⟩
    rintro ⟨entry, member, isEntry, ranEntry⟩
    have sameText :=
      trackable.notRenamed process isListed running entry member ranEntry
        (isEntry.trans isPid.symm)
    have ran := ranAs_of_mem remembers.distinct member ranEntry
    rw [sameText, ranAs, fresh] at ran
    cases ran
  · obtain ⟨was, member, wasRunning⟩ := exists_of_ranAs ran
    refine .ended ends ⟨_, member, isPid, wasRunning⟩ ?_
    rintro ⟨other, otherListed, isOther, running⟩
    have sameText :=
      trackable.notRenamed other otherListed running _ member wasRunning
        (isPid.trans isOther.symm)
    have runs := trackable.runs otherListed running isListed sameText.symm
    rw [stands] at runs
    cases runs

theorem extends_gone
    {entry : String × ProcessState}
    {type : EventType}
    (member : entry ∈ previous)
    (isGone :
      goneAt? library agentId now (snapshot state) pid entry = some type) :
    (listed state).filterMap
          (Listed.changeAt? library agentId now previous pid) =
        [] ∧
      Extends (RanIn library previous pid) (RunsIn library state pid)
        [type] := by
  obtain ⟨rfl, isPid, absent, ran⟩ :=
    goneAt?_some (remembers.numbered _ member) isGone
  have unlisted : ∀ process ∈ listed state, entry.1 ≠ process.pidText := by
    intro process isListed sameText
    obtain ⟨_, _, _, found⟩ := lookup_snapshot_of_mem isListed
    rw [← sameText, absent] at found
    cases found
  have stands : ¬ RunsIn library state pid := by
    rintro ⟨process, isListed, isProcess, running⟩
    exact
      unlisted process isListed
        (trackable.notRenamed process isListed running entry member ran
          (isPid.trans isProcess.symm))
  refine ⟨?_, .ended nofun ⟨entry, member, isPid, ran⟩ stands⟩
  rw [List.filterMap_eq_nil_iff]
  intro process isListed
  by_contra changed
  obtain ⟨_, isType⟩ := Option.ne_none_iff_exists'.mp changed
  obtain ⟨isProcess, ⟨_, _, running⟩ | ⟨_, ranProcess, _⟩⟩ :=
    changeAt?_some (int_listed healthy process isListed) isType
  · exact stands ⟨process, isListed, isProcess, running⟩
  · obtain ⟨was, known, wasRunning⟩ := exists_of_ranAs ranProcess
    exact
      unlisted process isListed
        (remembers.once _ member ran _ known wasRunning
          (isPid.trans isProcess.symm))

theorem extends_detectedEvents :
    Extends (RanIn library previous pid) (RunsIn library state pid)
      (typesOf pid (detectedEvents library agentId now previous state)) := by
  have parts :
      typesOf pid (detectedEvents library agentId now previous state) =
        (listed state).filterMap
            (Listed.changeAt? library agentId now previous pid) ++
          previous.filterMap
            (goneAt? library agentId now (snapshot state) pid) := by
    unfold typesOf detectedEvents
    rw [List.filterMap_append, List.filterMap_filterMap,
      List.filterMap_filterMap]
    rfl
  rw [parts]
  rcases filterMap_of_pairwise (remembers.single (snapshot state)) with
    noneGone | ⟨entry, member, type, isGone, goneEvents⟩
  · rw [noneGone, List.append_nil]
    rcases filterMap_of_pairwise (trackable.single (int_listed healthy)) with
      noChange | ⟨process, isListed, type, isType, changes⟩
    · rw [noChange]
      exact
        .unchanged
          (ranIn_iff_of_unchanged remembers trackable
            (List.filterMap_eq_nil_iff.mp noneGone)
            (List.filterMap_eq_nil_iff.mp noChange))
    · rw [changes]
      exact extends_changed remembers healthy trackable isListed isType
  · obtain ⟨noChange, extension⟩ :=
      extends_gone remembers healthy trackable member isGone
    rw [noChange, goneEvents]
    exact extension

end Heartbeat

end Tracking

/-! ### Connections -/

/-- Nothing is kept of an agent's sessions when its connection begins. -/
structure Opened (runtime : AgentRuntime) (agentId : String) : Prop where
  sessions : ∀ entry ∈ runtime.stateOf agentId, isSessionKey entry.1 = false
  remembered : runtime.remembered agentId = []

/-- What the heartbeats of a connection have to meet. -/
def KeepsLog
    (library : TextLibrary)
    (agentId : String)
    (monitoring : Monitoring)
    (beat : Beat) : Prop :=
  beat.agentId = agentId →
    Mergeable library beat.payload beat.now monitoring.runtime ∧
      Trackable library (monitoring.runtime.remembered agentId)
        (listed (mergedState library beat.payload beat.now monitoring.runtime))

/-- What is remembered of an agent agrees with its state and its log. -/
structure Logged
    (library : TextLibrary)
    (agentId : String)
    (opened monitoring : Monitoring) : Prop where
  healthy : HealthyAgent library monitoring.runtime agentId
  remembers : RemembersOnce library (monitoring.runtime.remembered agentId)
  state :
    ∀ pid,
      RanIn library (monitoring.runtime.remembered agentId) pid ↔
        RunsIn library (monitoring.runtime.stateOf agentId) pid
  log :
    ∃ added,
      monitoring.telemetry.eventsOf agentId =
          opened.telemetry.eventsOf agentId ++ added ∧
        ∀ pid,
          TellsWhether (typesOf pid added)
            (RanIn library (monitoring.runtime.remembered agentId) pid)

section Connections

variable
    {library : TextLibrary}
    {agentId : String}

theorem opened_resetAgentRuntimeState
    {runtime : AgentRuntime}
    {now : Int}
    (whole : (runtime.resetAgentRuntimeState agentId now).raised = false) :
    Opened (runtime.resetAgentRuntimeState agentId now).changed agentId := by
  have forgotten :
      ((Dictionary.erase agentId runtime.prevProcessStates).lookup
          agentId).getD [] =
        [] := by
    rw [Dictionary.lookup_erase_self]
    rfl
  have preserved :
      ∀ (kept : Bool) (metrics connection : Json),
        ∀ entry ∈ ((Dictionary.set agentId (if kept then
                [("__agent_metrics", metrics),
                  ("__agent_connection", connection)]
              else
                [])
              runtime.latestStats).lookup agentId).getD [],
          isSessionKey entry.1 = false := by
    intro kept metrics connection
    rw [Dictionary.lookup_set_self]
    cases kept with
    | false =>
      exact fun _ => nofun
    | true =>
      simp [isSessionKey_connection, isSessionKey_metrics]
  unfold AgentRuntime.resetAgentRuntimeState at whole ⊢
  dsimp only at whole ⊢
  cases stored : runtime.latestStats.lookup agentId with
  | none =>
    refine ⟨?_, forgotten⟩
    simp [AgentRuntime.stateOf, stored]
  | some state =>
    rw [stored] at whole
    dsimp only at whole ⊢
    split
    · exact ⟨preserved _ _ _, forgotten⟩
    · exact ⟨preserved _ _ _, forgotten⟩
    · rename_i value notObject found
      rw [found] at whole
      cases value with
      | obj connection =>
        exact absurd rfl (notObject connection)
      | _ =>
        cases whole

theorem opened_nothing : Opened {} agentId :=
  ⟨fun _ => nofun, rfl⟩

theorem agentId_detectedEvents
    {now : Int}
    {previous : List (String × ProcessState)}
    {state : JsonObject} :
    ∀ event ∈ detectedEvents library agentId now previous state,
      event.agentId = agentId := by
  intro event member
  rcases List.mem_append.mp member with changed | gone
  · obtain ⟨process, _, isEvent⟩ := List.mem_filterMap.mp changed
    unfold Listed.event? at isEvent
    dsimp only at isEvent
    split at isEvent
    · split at isEvent
      · cases isEvent
        rfl
      · cases isEvent
    · split at isEvent
      · cases isEvent
        rfl
      · cases isEvent
  · obtain ⟨entry, _, isEvent⟩ := List.mem_filterMap.mp gone
    unfold disappearance? at isEvent
    split at isEvent
    · cases isEvent
      rfl
    · cases isEvent

theorem Opened.logged
    {monitoring : Monitoring}
    (opened : Opened monitoring.runtime agentId) :
    Logged library agentId monitoring monitoring := by
  have nothing :
      ∀ pid, ¬ RanIn library (monitoring.runtime.remembered agentId) pid := by
    rintro pid ⟨entry, member, _⟩
    rw [opened.remembered] at member
    cases member
  have unlisted :
      ∀ pid, ¬ RunsIn library (monitoring.runtime.stateOf agentId) pid := by
    rintro pid ⟨process, isListed, _⟩
    obtain ⟨entry, stored, inEntry⟩ := List.mem_flatMap.mp isListed
    have isHidden := opened.sessions entry stored
    rw [listedIn_hidden (by simp [isHidden])] at inEntry
    cases inEntry
  refine ⟨⟨?_, ?_⟩, ⟨?_, ?_, ?_⟩, ?_, [], ?_, ?_⟩
  · intro entry stored isSession
    rw [opened.sessions entry stored] at isSession
    cases isSession
  · rw [opened.remembered]
    exact fun _ => nofun
  · rw [opened.remembered]
    exact List.nodup_nil
  · rw [opened.remembered]
    exact fun _ => nofun
  · rw [opened.remembered]
    exact fun _ => nofun
  · exact fun pid => iff_of_false (nothing pid) (unlisted pid)
  · exact (List.append_nil _).symm
  · exact fun pid => ⟨.nil, by simp [typesOf, nothing pid]⟩

/-- A heartbeat of the agent extends the log. -/
theorem Logged.merge
    {opened monitoring : Monitoring}
    {beat : Beat}
    (logged : Logged library beat.agentId opened monitoring)
    (mergeable : Mergeable library beat.payload beat.now monitoring.runtime)
    (trackable :
      Trackable library (monitoring.runtime.remembered beat.agentId)
        (listed
          (mergedState library beat.payload beat.now monitoring.runtime))) :
    Logged library beat.agentId opened
      (beat.merge library monitoring).changed := by
  obtain ⟨added, isLog, tells⟩ := logged.log
  obtain ⟨_, healthyMerged⟩ :=
    mergeAgentState_merges beat.parsed logged.healthy mergeable
  have merged :
      MergedHeartbeat library beat.payload beat.now monitoring
        (beat.merge library monitoring) :=
    mergeHeartbeat_merges beat.parsed logged.healthy mergeable
  have remembered :
      (beat.merge library monitoring).changed.runtime.remembered
          beat.agentId =
        snapshot
          (mergedState library beat.payload beat.now monitoring.runtime) :=
    merged.remembered
  have state :
      (beat.merge library monitoring).changed.runtime.stateOf
          beat.agentId =
        mergedState library beat.payload beat.now monitoring.runtime :=
    merged.state
  refine ⟨merged.healthy, ?_, ?_, ?_⟩
  · rw [remembered]
    exact remembersOnce_snapshot healthyMerged trackable
  · intro pid
    rw [remembered, state]
    exact ranIn_snapshot_iff trackable
  · refine
      ⟨added ++
          detectedEvents library beat.agentId beat.now
            (monitoring.runtime.remembered beat.agentId)
            (mergedState library beat.payload beat.now
              monitoring.runtime), ?_, ?_⟩
    · have own :
          (detectedEvents library beat.agentId beat.now
              (monitoring.runtime.remembered beat.agentId)
              (mergedState library beat.payload beat.now
                monitoring.runtime)).filter
              (fun event => event.agentId = beat.agentId) =
            detectedEvents library beat.agentId beat.now
              (monitoring.runtime.remembered beat.agentId)
              (mergedState library beat.payload beat.now
                monitoring.runtime) := by
        rw [List.filter_eq_self]
        exact fun event member =>
          decide_eq_true (agentId_detectedEvents event member)
      rw [← List.append_assoc, ← isLog]
      unfold Telemetry.eventsOf
      rw [merged.events, List.filter_append]
      exact congrArg (_ ++ ·) own
    · intro pid
      rw [remembered, ranIn_snapshot_iff trackable]
      unfold typesOf
      rw [List.filterMap_append]
      exact
        (tells pid).append
          (extends_detectedEvents logged.remembers healthyMerged trackable)

theorem Logged.merge_other
    {opened monitoring : Monitoring}
    {beat : Beat}
    (logged : Logged library agentId opened monitoring)
    (other : beat.agentId ≠ agentId) :
    Logged library agentId opened (beat.merge library monitoring).changed := by
  have log :
      (beat.merge library monitoring).changed.telemetry.eventsOf agentId =
        monitoring.telemetry.eventsOf agentId :=
    (beat.merge_spareOthers library monitoring).telemetry.events (Ne.symm other)
  refine ⟨healthyAgent_merge_other other logged.healthy, ?_, ?_, ?_⟩
  · rw [remembered_merge_other other]
    exact logged.remembers
  · rw [remembered_merge_other other, stateOf_merge_other other]
    exact logged.state
  · rw [remembered_merge_other other, log]
    exact logged.log

/--
In every run of heartbeats since a connection began, those of its agent
meeting the condition, the log of every pid alternates and tells whether the
pid is listed and running.
-/
theorem processEvents_tellWhether
    {opened final : Monitoring}
    (isOpened : Opened opened.runtime agentId)
    {beats : List Beat}
    (run :
      Run
        (Guarded (Fires (heartbeatStep library)) (KeepsLog library agentId))
        opened beats final)
    (pid : Int) :
    TellsWhether (typesOf pid (eventsSince agentId opened final))
      (RunsIn library (final.runtime.stateOf agentId) pid) := by
  have stepPreserves :
      ∀ before beat after,
        Guarded (Fires (heartbeatStep library)) (KeepsLog library agentId)
          before beat after →
        Logged library agentId opened before →
        Logged library agentId opened after := by
    rintro before beat after ⟨fired, meets⟩ logged
    obtain rfl := Option.some.inj fired
    by_cases own : beat.agentId = agentId
    · obtain ⟨mergeable, trackable⟩ := meets own
      subst own
      exact logged.merge mergeable trackable
    · exact logged.merge_other own
  have logged := run.preserves stepPreserves isOpened.logged
  obtain ⟨added, isLog, tells⟩ := logged.log
  have since : eventsSince agentId opened final = added := by
    rw [eventsSince, isLog, List.drop_left]
  rw [since, ← logged.state pid]
  exact tells pid

end Connections

/-! ### A process that stops, and one that is started late -/

instance
    {library : TextLibrary}
    {state : JsonObject}
    {pid : Int} : Decidable (RunsIn library state pid) :=
  inferInstanceAs (Decidable (∃ process ∈ listed state, _ ∧ _))

def runningBeat (running : Bool) : Beat :=
  processBeat "7" [("is_running", .bool running)]
    (by simp [ParsedFields, Distinct, DistinctFields])

/-- A process that runs and stops has started and disappeared. -/
theorem stoppedProcess_logged :
    ∃ final,
      TellsWhether (typesOf 7 (eventsSince "agent-1" {} final))
          (RunsIn decimalTextLibrary (final.runtime.stateOf "agent-1") 7) ∧
        typesOf 7 (eventsSince "agent-1" {} final) =
          [.start, .disappeared] := by
  let first := (runningBeat true).merge decimalTextLibrary {}
  have wellFormed :
      ∀ running, (runningBeat running).payload.WellFormed decimalTextLibrary :=
    fun running => wellFormed_processBeat _ (by decide)
  have mergeable :=
    mergeable_of_wellFormed 0
      (@healthyAgent_nothing decimalTextLibrary "agent-1")
      (wellFormed true)
  have merged :=
    @mergeHeartbeat_merges decimalTextLibrary (runningBeat true).payload 0
      {} (runningBeat true).parsed healthyAgent_nothing mergeable
  have keepsFirst :
      KeepsLog decimalTextLibrary "agent-1" {} (runningBeat true) := by
    refine fun _ => ⟨mergeable, ⟨fun _ _ _ _ => nofun, ?_, ?_⟩⟩
    · exact fun _ _ _ _ => nofun
    · have alone :
          (listed
            (mergedState decimalTextLibrary (runningBeat true).payload 0
              {})).length = 1 := by
        decide +kernel
      obtain ⟨process, isListed⟩ := List.length_eq_one_iff.mp alone
      rw [show (runningBeat true).now = 0 from rfl, isListed]
      exact List.pairwise_singleton _ _
  have keepsSecond :
      KeepsLog decimalTextLibrary "agent-1" first.changed
        (runningBeat false) := by
    have nothing :
        listed
            (mergedState decimalTextLibrary (runningBeat false).payload 0
              first.changed.runtime) =
          [] := by
      refine List.eq_nil_of_length_eq_zero ?_
      decide +kernel
    refine fun _ =>
      ⟨mergeable_of_wellFormed 0 merged.healthy (wellFormed false), ?_⟩
    rw [show (runningBeat false).now = 0 from rfl, nothing]
    exact ⟨nofun, nofun, .nil⟩
  refine
    ⟨((runningBeat false).merge decimalTextLibrary
        first.changed).changed,
      processEvents_tellWhether opened_nothing
        (.cons ⟨rfl, keepsFirst⟩ (.single ⟨rfl, keepsSecond⟩)) 7, ?_⟩
  decide +kernel

/-- A process that is listed before it runs never starts in its log. -/
theorem not_tellWhether :
    ¬ ∀ beats final,
        Run (Fires (heartbeatStep decimalTextLibrary)) {} beats final →
        TellsWhether (typesOf 7 (eventsSince "agent-1" {} final))
          (RunsIn decimalTextLibrary (final.runtime.stateOf "agent-1") 7) := by
  intro promised
  let listedBeat := processBeat "7" [] .nil
  have tells :=
    promised [listedBeat, runningBeat true] _ (.cons rfl (.single rfl))
  have last := tells.last
  revert last
  decide +kernel

end RpaPlatform.Agents
