import RpaPlatform.IdentityLock
import RpaPlatform.ReadModifyWrite
import RpaPlatform.SettingsLeaves

namespace RpaPlatform.Settings

open Transition

/-!
# Concurrent changes of the settings

Any number of handlers of `PATCH /api/settings/server`, which wait for the
lock of the settings service and for its store.  An update is merged into the
settings once it has the lock; a document with an identity section has been
computed from the settings that were there before it waited.
-/

/-- Where the handler of a PATCH is. -/
inductive PatchStage where
  | received
  /-- It waits for the lock, with its snapshot and what it hands over. -/
  | waiting (current : ServerSettings) (write : SettingsWrite)
  /-- It has the lock, and the statement of `save` is executed. -/
  | saving (current next : ServerSettings)
  /-- It has the lock, and the statement is committed. -/
  | committing (current next : ServerSettings)
  | answered
  /-- It has returned without anything to save. -/
  | unchanged
  | refused

namespace PatchStage

/-- Whether a handler has the lock. -/
def holdsLock : PatchStage → Bool
  | saving _ _ => true
  | committing _ _ => true
  | _ => false

def isCommitting : PatchStage → Bool
  | committing _ _ => true
  | _ => false

/-- Whether a handler has ended. -/
def hasEnded : PatchStage → Bool
  | answered => true
  | unchanged => true
  | refused => true
  | _ => false

end PatchStage

/-- The handler of a PATCH. -/
structure PatchHandler where
  request : SettingsRequest
  stage : PatchStage := .received

def PatchHandler.patch (handler : PatchHandler) : ServerSettingsPatch :=
  handler.request.body.trimmed

/-- `ServerSettingsService`, its store and the handlers. -/
structure SettingsServer where
  stored : ServerSettings
  settings : ServerSettings
  handlers : List PatchHandler

namespace SettingsServer

variable (server : SettingsServer)

def locked : Bool :=
  server.handlers.any (·.stage.holdsLock)

/-- A handler goes on to another stage. -/
def goTo
    (position : Nat)
    (handler : PatchHandler)
    (stage : PatchStage) : SettingsServer :=
  { server with
    handlers := server.handlers.set position { handler with stage } }

/-- The next step of the handler at a position. -/
def step? (position : Nat) : Option SettingsServer :=
  server.handlers[position]?.bind fun handler =>
    match handler.stage with
    | .received =>
      match handler.request.plan server.settings with
      | .error _ =>
        some (server.goTo position handler .refused)
      | .ok write =>
        some (server.goTo position handler (.waiting server.settings write))
    | .waiting current write =>
      if server.locked then
        none
      else
        match write with
        | .update patch =>
          match (SettingsWrite.update patch).saved?
              server.settings with
          | none =>
            some (server.goTo position handler .unchanged)
          | some next =>
            some (server.goTo position handler (.saving server.settings next))
        | .replace next =>
          some (server.goTo position handler (.saving current next))
    | .saving current next =>
      some
        ({ server with stored := next }.goTo position handler
          (.committing current next))
    | .committing _ next =>
      some ({ server with settings := next }.goTo position handler .answered)
    | .answered =>
      none
    | .unchanged =>
      none
    | .refused =>
      none

/-- Handlers that have not begun. -/
def started
    (settings : ServerSettings)
    (requests : List SettingsRequest) : SettingsServer where
  stored := settings
  settings := settings
  handlers := requests.map fun request => { request }

def Finished : Prop :=
  ∀ handler ∈ server.handlers, handler.stage.hasEnded = true

instance : Decidable server.Finished :=
  inferInstanceAs (Decidable (∀ handler ∈ server.handlers, _))

end SettingsServer

/--
Of PATCHes that touch different leaves, the stored settings contain the
changes of each that has not been refused, when all have ended.
-/
def ChangesKept
    (step : SettingsServer → Nat → SettingsServer → Prop) : Prop :=
  ∀ {settings : ServerSettings} {requests : List SettingsRequest}
    {final : SettingsServer} {positions : List Nat},
    (requests.Pairwise fun first second =>
      first.body.trimmed.Disjoint second.body.trimmed) →
    Run step (.started settings requests) positions final →
    final.Finished →
    ∀ handler ∈ final.handlers,
      handler.stage ≠ .refused →
      final.stored.Contains handler.patch

/-- Merging the Guacamole section of a patch changes nothing. -/
def LeavesGuacamole
    (settings : ServerSettings)
    (patch : ServerSettingsPatch) : Prop :=
  patch.guacamole.elim settings.guacamole settings.guacamole.merge =
    settings.guacamole

instance (settings : ServerSettings) (patch : ServerSettingsPatch) :
    Decidable (LeavesGuacamole settings patch) :=
  inferInstanceAs (Decidable (_ = _))

/--
The condition under which no change is lost.  When a document gets the lock to
replace the settings, they are still what it was computed from, and the patch
has no other value for their Guacamole section.
-/
def ReplacesCurrent (server : SettingsServer) (position : Nat) : Prop :=
  ∀ handler ∈ server.handlers[position]?,
    ∀ current next,
      handler.stage = .waiting current (.replace next) →
      current = server.settings ∧ LeavesGuacamole current handler.patch

/-! ### The handlers as writers -/

/-- A handler as a writer of the settings. -/
def PatchStage.writerStage : PatchStage → WriterStage ServerSettings
  | received => .reading
  | waiting _ (.update _) => .reading
  | waiting current (.replace _) => .writing current
  | saving current _ => .writing current
  | committing current _ => .writing current
  | answered => .committing
  | unchanged => .reading
  | refused => .reading

/-- A handler as a writer that reads the settings and writes them back. -/
def PatchHandler.writer (handler : PatchHandler) :
    Transition.Writer ServerSettings SettingsRequest where
  change := handler.request
  stage := handler.stage.writerStage

/-- The settings in memory, as a store of the handlers. -/
def SettingsServer.shared (server : SettingsServer) :
    SharedStore ServerSettings ServerSettings SettingsRequest where
  store := server.settings
  writers := server.handlers.map PatchHandler.writer

/-- What a handler writes, given the settings it has read. -/
def writePatched
    (request : SettingsRequest)
    (earlier _ : ServerSettings) : ServerSettings :=
  earlier.patched request.body.trimmed request.now

/-- The settings contain what a request gives. -/
def ContainsRequest
    (settings : ServerSettings)
    (request : SettingsRequest) : Prop :=
  settings.Contains request.body.trimmed

def SettingsRequest.Disjoint (first second : SettingsRequest) : Prop :=
  first.body.trimmed.Disjoint second.body.trimmed

theorem keepsChanges_patched :
    KeepsChanges id writePatched Eq SettingsRequest.Disjoint
      ContainsRequest where
  own request earlier _ := contains_patched request.now
  others := by
    rintro request other earlier store disjoint rfl contains
    exact ServerSettings.Contains.patched contains disjoint request.now

/-! ### What the handlers know -/

/-- What a handler holds was computed from what it has read. -/
def PatchHandler.Accurate
    (settings stored : ServerSettings)
    (handler : PatchHandler) : Prop :=
  match handler.stage with
  | .waiting current write =>
    handler.request.plan current = .ok write
  | .saving current next =>
    current = settings ∧
      next = current.patched handler.patch handler.request.now
  | .committing current next =>
    current = settings ∧ stored = next ∧
      next = current.patched handler.patch handler.request.now
  | .unchanged =>
    handler.patch = {}
  | _ =>
    True

theorem PatchHandler.Accurate.otherSettings
    {settings stored newSettings newStored : ServerSettings}
    {handler : PatchHandler}
    (accurate : handler.Accurate settings stored)
    (noLock : handler.stage.holdsLock = false) :
    handler.Accurate newSettings newStored := by
  unfold PatchHandler.Accurate at accurate ⊢
  cases isStage : handler.stage with
  | saving | committing =>
    rw [isStage] at noLock
    cases noLock
  | waiting | unchanged =>
    rw [isStage] at accurate
    exact accurate
  | _ =>
    trivial

namespace SettingsServer

/-- The invariant: one handler has the lock, and none has lost a change. -/
structure Coherent (server : SettingsServer) : Prop where
  alone :
    ∀ {first second : Nat} {one other : PatchHandler},
      server.handlers[first]? = some one →
      server.handlers[second]? = some other →
      one.stage.holdsLock = true →
      other.stage.holdsLock = true →
      first = second
  accurate :
    ∀ handler ∈ server.handlers, handler.Accurate server.settings server.stored
  saved :
    (∀ handler ∈ server.handlers, handler.stage.isCommitting = false) →
    server.stored = server.settings
  kept :
    SharedStore.WrittenKept id SettingsRequest.Disjoint ContainsRequest
      server.shared

variable
    {server : SettingsServer}
    {position : Nat}
    {handler : PatchHandler}

theorem shared_goTo
    (settings stored : ServerSettings)
    (stage : PatchStage) :
    ({ server with settings, stored }.goTo position handler stage).shared =
      ({ server.shared with store := settings } :
          SharedStore ServerSettings ServerSettings SettingsRequest).goTo
        position handler.writer stage.writerStage := by
  unfold shared goTo SharedStore.goTo
  rw [List.map_set]
  rfl

theorem writer_shared
    (isHandler : server.handlers[position]? = some handler) :
    server.shared.writers[position]? = some handler.writer := by
  unfold shared
  rw [List.getElem?_map, isHandler]
  rfl

/-- The ways in which a handler takes a step. -/
inductive Took
    (server : SettingsServer)
    (position : Nat)
    (handler : PatchHandler) : SettingsServer → Prop where
  | refused {refusal} :
      handler.stage = .received →
      handler.request.plan server.settings = .error refusal →
      Took server position handler (server.goTo position handler .refused)
  | planned {write} :
      handler.stage = .received →
      handler.request.plan server.settings = .ok write →
      Took server position handler
        (server.goTo position handler (.waiting server.settings write))
  | unchanged {current patch} :
      handler.stage = .waiting current (.update patch) →
      server.locked = false →
      (SettingsWrite.update patch).saved? server.settings = none →
      Took server position handler (server.goTo position handler .unchanged)
  | updates {current patch next} :
      handler.stage = .waiting current (.update patch) →
      server.locked = false →
      (SettingsWrite.update patch).saved? server.settings = some next →
      Took server position handler
        (server.goTo position handler (.saving server.settings next))
  | replaces {current next} :
      handler.stage = .waiting current (.replace next) →
      server.locked = false →
      Took server position handler
        (server.goTo position handler (.saving current next))
  | saves {current next} :
      handler.stage = .saving current next →
      Took server position handler
        ({ server with stored := next }.goTo position handler
          (.committing current next))
  | commits {current next} :
      handler.stage = .committing current next →
      Took server position handler
        ({ server with settings := next }.goTo position handler .answered)

theorem step_cases
    {after : SettingsServer}
    (taken : server.step? position = some after) :
    ∃ handler,
      server.handlers[position]? = some handler ∧
        Took server position handler after := by
  obtain ⟨handler, isHandler, stepped⟩ := Option.bind_eq_some_iff.mp taken
  refine ⟨handler, isHandler, ?_⟩
  cases isStage : handler.stage with
  | received =>
    rw [isStage] at stepped
    dsimp only at stepped
    split at stepped
    all_goals
      rename_i planned
      cases stepped
      constructor <;> assumption
  | waiting current write =>
    rw [isStage] at stepped
    dsimp only at stepped
    split at stepped
    · cases stepped
    rename_i isFree
    rw [Bool.not_eq_true] at isFree
    split at stepped
    · split at stepped
      all_goals
        cases stepped
        constructor <;> assumption
    · cases stepped
      exact .replaces isStage isFree
  | saving current next | committing current next =>
    rw [isStage] at stepped
    cases stepped
    constructor
    exact isStage
  | answered | unchanged | refused =>
    rw [isStage] at stepped
    cases stepped

/-- Not two handlers have the lock. -/
def Alone (server : SettingsServer) : Prop :=
  ∀ (first second : Nat) (one other : PatchHandler),
    server.handlers[first]? = some one →
    server.handlers[second]? = some other →
    one.stage.holdsLock = true →
    other.stage.holdsLock = true →
    first = second

/-- No handler at another position is at such a stage. -/
def NoOther
    (server : SettingsServer)
    (position : Nat)
    (among : PatchStage → Bool) : Prop :=
  ∀ index other,
    index ≠ position →
    server.handlers[index]? = some other →
    among other.stage = false

/-- The settings in memory are those of the store, unless a handler commits. -/
def Saved (server : SettingsServer) : Prop :=
  (∀ handler ∈ server.handlers, handler.stage.isCommitting = false) →
  server.stored = server.settings

theorem othersWait_of_free (free : server.locked = false) :
    server.NoOther position PatchStage.holdsLock := by
  intro index other _ isOther
  have noneHolds := List.any_eq_false.mp free
  exact Bool.not_eq_true _ ▸ noneHolds other (List.mem_of_getElem? isOther)

section Locking

variable
    {stage : PatchStage}
    (alone : server.Alone)
include alone

theorem Alone.goTo
    (exclusive :
      stage.holdsLock = true →
      server.NoOther position PatchStage.holdsLock) :
    (server.goTo position handler stage).Alone := by
  intro first second one other isOne isOther oneHolds otherHolds
  rcases getElem?_set_cases isOne with
    ⟨rfl, rfl⟩ | ⟨oneElse, oneStays⟩
  · rcases getElem?_set_cases isOther with
      ⟨rfl, rfl⟩ | ⟨otherElse, otherStays⟩
    · rfl
    · rw [exclusive oneHolds second _ otherElse otherStays] at otherHolds
      cases otherHolds
  · rcases getElem?_set_cases isOther with
      ⟨rfl, rfl⟩ | ⟨otherElse, otherStays⟩
    · rw [exclusive otherHolds first _ oneElse oneStays] at oneHolds
      cases oneHolds
    · exact alone _ _ _ _ oneStays otherStays oneHolds otherHolds

theorem Alone.othersWait
    (isHandler : server.handlers[position]? = some handler)
    (holds : handler.stage.holdsLock = true) :
    server.NoOther position PatchStage.holdsLock := by
  intro index other elsewhere isOther
  by_contra takes
  exact
    elsewhere
      (alone _ _ _ _ isOther isHandler (Bool.not_eq_false _ ▸ takes) holds)

end Locking

theorem saved_goTo
    (isHandler : server.handlers[position]? = some handler)
    {settings stored : ServerSettings}
    {stage : PatchStage}
    (saved :
      stage.isCommitting = false →
      server.NoOther position PatchStage.isCommitting →
      stored = settings) :
    ({ server with settings, stored }.goTo position handler stage).Saved := by
  intro noneCommits
  have inside := (List.getElem?_eq_some_iff.mp isHandler).1
  have changed
      (index : Nat)
      (other : PatchHandler)
      (isOther :
        (server.handlers.set position { handler with stage })[index]? =
          some other) :
      other.stage.isCommitting = false :=
    noneCommits other (List.mem_of_getElem? isOther)
  refine saved ?_ ?_
  · exact changed position _ (List.getElem?_set_self inside)
  · intro index other elsewhere isOther
    refine changed index other ?_
    rw [List.getElem?_set_ne (Ne.symm elsewhere)]
    exact isOther

theorem saved_of_others
    (saved : server.Saved)
    (isHandler : server.handlers[position]? = some handler)
    (notCommitting : handler.stage.isCommitting = false)
    (othersSaved : server.NoOther position PatchStage.isCommitting) :
    server.stored = server.settings := by
  refine saved fun other member => ?_
  obtain ⟨index, isOther⟩ := List.mem_iff_getElem?.mp member
  by_cases same : index = position
  · subst same
    obtain rfl := Option.some.inj (isHandler.symm.trans isOther)
    exact notCommitting
  · exact othersSaved index other same isOther

section Keeping

variable
    (coherent : server.Coherent)
    (isHandler : server.handlers[position]? = some handler)
include coherent isHandler

/-- One handler goes on, and the others know what they knew. -/
theorem Coherent.advance
    {settings stored : ServerSettings}
    {stage : PatchStage}
    (own : ({ handler with stage } : PatchHandler).Accurate settings stored)
    (others :
      ∀ {index : Nat} {other : PatchHandler},
        index ≠ position →
        server.handlers[index]? = some other →
        other.Accurate settings stored)
    (exclusive :
      stage.holdsLock = true →
      server.NoOther position PatchStage.holdsLock)
    (saved :
      stage.isCommitting = false →
      server.NoOther position PatchStage.isCommitting →
      stored = settings)
    (kept :
      SharedStore.WrittenKept id SettingsRequest.Disjoint ContainsRequest
        ({ server with settings, stored }.goTo position handler stage).shared) :
    ({ server with settings, stored }.goTo position handler
      stage).Coherent where
  alone := Alone.goTo @coherent.alone exclusive _ _ _ _
  accurate := by
    intro other member
    obtain ⟨index, isOther⟩ := List.mem_iff_getElem?.mp member
    rcases getElem?_set_cases isOther with ⟨_, rfl⟩ | ⟨elsewhere, isOther⟩
    · exact own
    · exact others elsewhere isOther
  saved := saved_goTo isHandler saved
  kept := kept

theorem Coherent.goTo
    (notCommitting : handler.stage.isCommitting = false)
    {stage : PatchStage}
    (accurate :
      ({ handler with stage } : PatchHandler).Accurate server.settings
        server.stored)
    (free : stage.holdsLock = true → server.locked = false)
    (unwritten :
      ({ handler.writer with stage := stage.writerStage } :
        Transition.Writer ServerSettings SettingsRequest).hasWritten = false) :
    (server.goTo position handler stage).Coherent := by
  have moved :
      SharedStore.WrittenKept id SettingsRequest.Disjoint ContainsRequest
        (server.goTo position handler stage).shared := by
    have isWriter := writer_shared isHandler
    rw [shared_goTo server.settings server.stored stage]
    refine coherent.kept.move isWriter ?_ ?_
    · intro written
      rw [unwritten] at written
      cases written
    · intro index other _ isOther written
      exact coherent.kept.written other (List.mem_of_getElem? isOther) written
  refine coherent.advance isHandler accurate ?_ ?_ ?_ moved
  · intro index other _ isOther
    exact coherent.accurate other (List.mem_of_getElem? isOther)
  · exact fun holds => othersWait_of_free (free holds)
  · exact fun _ => saved_of_others coherent.saved isHandler notCommitting

end Keeping

variable
    {settings : ServerSettings}
    {patch : ServerSettingsPatch}

theorem deepMerge_eq_patched
    (noIdentity : patch.identity = none)
    (now : Int) :
    (settings.deepMerge patch).validated = settings.patched patch now := by
  unfold ServerSettings.deepMerge ServerSettings.patched
  rw [noIdentity]
  rfl

theorem withIdentity_eq_patched
    {requested : IdentitySettingsPatch}
    (isAsked : patch.identity = some requested)
    (leaves : LeavesGuacamole settings patch)
    (now : Int) :
    settings.withIdentity patch.deployment requested.cleaned now =
      settings.patched patch now := by
  unfold ServerSettings.withIdentity ServerSettings.patched
  rw [isAsked, show patch.guacamole.elim settings.guacamole
    settings.guacamole.merge = _ from leaves]
  rfl

theorem replacement_eq_patched
    {request : SettingsRequest}
    {current next : ServerSettings}
    (planned : request.plan current = .ok (.replace next))
    (leaves : LeavesGuacamole current request.body.trimmed) :
    next = current.patched request.body.trimmed request.now := by
  obtain ⟨_, _, kinds⟩ := request.plan_ok planned
  rcases kinds with ⟨_, isUpdate⟩ |
    ⟨requested, patch, isAsked, prepared, isReplacement⟩
  · cases isUpdate
  · obtain ⟨rfl, _⟩ := prepareIdentityPatch_ok prepared
    obtain rfl := SettingsWrite.replace.inj isReplacement
    exact withIdentity_eq_patched isAsked leaves request.now

theorem update_of_plan
    {request : SettingsRequest}
    {current : ServerSettings}
    (planned : request.plan current = .ok (.update patch)) :
    patch = request.body.trimmed ∧ patch.identity = none := by
  obtain ⟨_, _, kinds⟩ := request.plan_ok planned
  rcases kinds with ⟨noIdentity, isUpdate⟩ | ⟨_, _, _, _, isReplacement⟩
  · obtain rfl := SettingsWrite.update.inj isUpdate
    exact ⟨rfl, noIdentity⟩
  · cases isReplacement

theorem empty_of_saved?_none
    (noIdentity : patch.identity = none)
    (nothing : (SettingsWrite.update patch).saved? settings = none) :
    patch = {} := by
  obtain ⟨deployment, identity, guacamole⟩ := patch
  unfold SettingsWrite.saved? at nothing
  dsimp only at nothing noIdentity
  split at nothing
  · rename_i absent
    obtain ⟨noDeployment, noGuacamole⟩ := absent
    rw [Option.isNone_iff_eq_none] at noDeployment noGuacamole
    rw [noDeployment, noGuacamole, noIdentity]
  · cases nothing

section Stages

variable
    {current next : ServerSettings}
    (coherent : server.Coherent)
    (isHandler : server.handlers[position]? = some handler)
include coherent isHandler

theorem Coherent.others
    (holds : handler.stage.holdsLock = true)
    {index : Nat}
    {other : PatchHandler}
    (elsewhere : index ≠ position)
    (isOther : server.handlers[index]? = some other)
    (newSettings newStored : ServerSettings) :
    other.Accurate newSettings newStored :=
  (coherent.accurate other (List.mem_of_getElem? isOther)).otherSettings
    (Alone.othersWait @coherent.alone isHandler holds _ _ elsewhere isOther)

/-- A handler that saves keeps the invariant. -/
theorem Coherent.saves (isStage : handler.stage = .saving current next) :
    ({ server with stored := next }.goTo position handler
      (.committing current next)).Coherent := by
  have holds : handler.stage.holdsLock = true := by
    rw [isStage]
    rfl
  have accurate := coherent.accurate handler (List.mem_of_getElem? isHandler)
  unfold PatchHandler.Accurate at accurate
  rw [isStage] at accurate
  obtain ⟨isCurrent, isNext⟩ := accurate
  refine
    coherent.advance isHandler ⟨isCurrent, rfl, isNext⟩
      (fun elsewhere isOther =>
        coherent.others isHandler holds elsewhere isOther _ _)
      (fun _ => Alone.othersWait @coherent.alone isHandler holds) ?_ ?_
  · intro hasSaved
    cases hasSaved
  · -- As a writer, the handler has not moved.
    rw [shared_goTo server.settings next]
    have isWriter := writer_shared isHandler
    refine coherent.kept.move isWriter nofun ?_
    intro index other _ isOther written
    exact coherent.kept.written other (List.mem_of_getElem? isOther) written

/-- A handler that commits keeps the invariant. -/
theorem Coherent.commits (isStage : handler.stage = .committing current next) :
    ({ server with settings := next }.goTo position handler
      .answered).Coherent := by
  have holds : handler.stage.holdsLock = true := by
    rw [isStage]
    rfl
  have accurate := coherent.accurate handler (List.mem_of_getElem? isHandler)
  unfold PatchHandler.Accurate at accurate
  rw [isStage] at accurate
  obtain ⟨isCurrent, isStored, isNext⟩ := accurate
  refine
    coherent.advance isHandler trivial
      (fun elsewhere isOther =>
        coherent.others isHandler holds elsewhere isOther _ _)
      nofun (fun _ _ => isStored) ?_
  -- The writer writes what it has read from the settings.
  rw [shared_goTo next server.stored]
  have isWriter := writer_shared isHandler
  have isWriting : handler.writer.stage = .writing current := by
    unfold PatchHandler.writer
    rw [isStage]
    rfl
  have writesCurrent : WritesBackCurrent id Eq server.shared position := by
    intro writer found earlier writes
    obtain rfl := Option.some.inj (isWriter.symm.trans found)
    rw [isWriting] at writes
    obtain rfl := WriterStage.writing.inj writes
    exact isCurrent
  refine coherent.kept.step keepsChanges_patched writesCurrent ?_
  unfold SharedStore.step?
  rw [isWriter, Option.bind_some, isWriting]
  dsimp only
  rw [isNext]
  rfl

end Stages

/-- A step that meets the condition keeps the invariant. -/
theorem Coherent.step
    {after : SettingsServer}
    (coherent : server.Coherent)
    (replaces : ReplacesCurrent server position)
    (taken : server.step? position = some after) :
    after.Coherent := by
  obtain ⟨handler, isHandler, took⟩ := step_cases taken
  have accurate := coherent.accurate handler (List.mem_of_getElem? isHandler)
  unfold PatchHandler.Accurate at accurate
  cases took with
  | refused isStage =>
    exact
      coherent.goTo isHandler (by rw [isStage]; rfl) trivial
        Bool.noConfusion rfl
  | @planned write isStage planned =>
    refine
      coherent.goTo isHandler (by rw [isStage]; rfl) planned
        Bool.noConfusion ?_
    cases write <;> rfl
  | unchanged isStage isFree saves =>
    rw [isStage] at accurate
    obtain ⟨isPatch, noIdentity⟩ := update_of_plan accurate
    exact
      coherent.goTo isHandler (by rw [isStage]; rfl)
        (isPatch.symm.trans (empty_of_saved?_none noIdentity saves))
        Bool.noConfusion rfl
  | updates isStage isFree saves =>
    rw [isStage] at accurate
    obtain ⟨isPatch, noIdentity⟩ := update_of_plan accurate
    refine
      coherent.goTo isHandler (by rw [isStage]; rfl) ⟨rfl, ?_⟩
        (fun _ => isFree) rfl
    rw [SettingsWrite.saved?_update saves,
      deepMerge_eq_patched noIdentity handler.request.now,
      isPatch]
    rfl
  | @replaces current next isStage isFree =>
    rw [isStage] at accurate
    obtain ⟨isCurrent, leaves⟩ :=
      replaces handler isHandler current next isStage
    exact
      coherent.goTo isHandler (by rw [isStage]; rfl)
        ⟨isCurrent, replacement_eq_patched accurate leaves⟩
        (fun _ => isFree) rfl
  | saves isStage =>
    exact coherent.saves isHandler isStage
  | commits isStage =>
    exact coherent.commits isHandler isStage

theorem coherent_started
    (settings : ServerSettings)
    {requests : List SettingsRequest}
    (disjoint :
      requests.Pairwise fun first second =>
        first.body.trimmed.Disjoint second.body.trimmed) :
    (started settings requests).Coherent where
  alone := by
    intro first second one other isOne _ oneHolds _
    obtain ⟨request, _, rfl⟩ :=
      List.mem_map.mp (List.mem_of_getElem? isOne)
    cases oneHolds
  accurate := by
    intro handler member
    obtain ⟨request, _, rfl⟩ := List.mem_map.mp member
    trivial
  saved := fun _ => rfl
  kept := by
    constructor
    · intro writer member written
      obtain ⟨handler, isHandler, rfl⟩ := List.mem_map.mp member
      obtain ⟨request, _, rfl⟩ := List.mem_map.mp isHandler
      cases written
    · intro first second one other different isOne isOther
      have isRequest {index : Nat}
          {writer : Transition.Writer ServerSettings SettingsRequest}
          (isWriter :
            (started settings requests).shared.writers[index]? = some writer) :
          requests[index]? = some writer.change := by
        unfold shared started at isWriter
        rw [List.map_map, List.getElem?_map] at isWriter
        obtain ⟨request, isRequest, rfl⟩ :=
          Option.map_eq_some_iff.mp isWriter
        exact isRequest
      obtain ⟨oneInside, isFirst⟩ :=
        List.getElem?_eq_some_iff.mp (isRequest isOne)
      obtain ⟨otherInside, isSecond⟩ :=
        List.getElem?_eq_some_iff.mp (isRequest isOther)
      rw [← isFirst, ← isSecond]
      have ordered := List.pairwise_iff_getElem.mp disjoint
      rcases Nat.lt_or_gt_of_ne different with before | after
      · exact ordered first second oneInside otherInside before
      · intro leaf
        exact (ordered second first otherInside oneInside after leaf).symm

theorem Coherent.contains
    (coherent : server.Coherent)
    (finished : server.Finished)
    (member : handler ∈ server.handlers)
    (notRefused : handler.stage ≠ .refused) :
    server.stored.Contains handler.patch := by
  have isSaved : server.stored = server.settings := by
    refine coherent.saved fun other isOther => ?_
    have ended := finished other isOther
    cases isStage : other.stage with
    | committing current next =>
      rw [isStage] at ended
      cases ended
    | _ =>
      rfl
  rw [isSaved]
  have ended := finished handler member
  cases isStage : handler.stage with
  | answered =>
    refine coherent.kept.written handler.writer (List.mem_map_of_mem member) ?_
    unfold Transition.Writer.hasWritten PatchHandler.writer
    rw [isStage]
    rfl
  | unchanged =>
    have empty : handler.patch = {} := by
      have accurate := coherent.accurate handler member
      unfold PatchHandler.Accurate at accurate
      rw [isStage] at accurate
      exact accurate
    rw [empty]
    constructor
    · intro leaf value given
      cases leaf <;> cases given
    · nofun
  | refused =>
    exact absurd isStage notRefused
  | _ =>
    rw [isStage] at ended
    cases ended

/-- Where the condition is met, no change of the settings is lost. -/
theorem changesKept_of_replacesCurrent
    {settings : ServerSettings}
    {requests : List SettingsRequest}
    {positions : List Nat}
    {final : SettingsServer}
    (disjoint :
      requests.Pairwise fun first second =>
        first.body.trimmed.Disjoint second.body.trimmed)
    (run :
      Run (Guarded (Fires step?) ReplacesCurrent)
        (.started settings requests) positions final)
    (finished : final.Finished) :
    ∀ handler ∈ final.handlers,
      handler.stage ≠ .refused →
      final.stored.Contains handler.patch := by
  intro handler member notRefused
  have stepPreserves :
      ∀ (before : SettingsServer) position after,
        Guarded (Fires step?) ReplacesCurrent before position after →
        before.Coherent →
        after.Coherent := by
    rintro before position after ⟨taken, replaces⟩ coherent
    exact coherent.step replaces taken
  have coherent :=
    run.preserves stepPreserves (coherent_started settings disjoint)
  exact coherent.contains finished member notRefused

/-! ### What is in the store -/

/-- What holds of the document that a handler is to keep. -/
def Sound (stored : ServerSettings) : PatchStage → Prop
  | .waiting _ (.replace next) => next.Valid
  | .saving _ next => next.Valid
  | .committing _ next => stored = next
  | _ => True

/--
One handler at most has the lock, and what is kept are validated documents.
The store is ahead of memory only while a handler commits, by its document.
-/
structure Consistent (server : SettingsServer) : Prop where
  alone : server.Alone
  saved : server.Saved
  valid : server.settings.Valid ∧ server.stored.Valid
  sound : ∀ handler ∈ server.handlers, Sound server.stored handler.stage

theorem Consistent.step
    {after : SettingsServer}
    (consistent : server.Consistent)
    (taken : server.step? position = some after) :
    after.Consistent := by
  obtain ⟨handler, isHandler, took⟩ := step_cases taken
  have sound := consistent.sound handler (List.mem_of_getElem? isHandler)
  have soundOthers
      {stage : PatchStage}
      (own : Sound server.stored stage) :
      ∀ other ∈ server.handlers.set position { handler with stage },
        Sound server.stored other.stage := by
    intro other member
    rcases List.mem_or_eq_of_mem_set member with earlier | rfl
    · exact consistent.sound other earlier
    · exact own
  have moves
      {stage : PatchStage}
      (notCommitting : handler.stage.isCommitting = false)
      (own : Sound server.stored stage)
      (free : stage.holdsLock = true → server.locked = false) :
      (server.goTo position handler stage).Consistent :=
    { alone :=
        consistent.alone.goTo fun holds => othersWait_of_free (free holds)
      saved :=
        saved_goTo isHandler fun _ =>
          saved_of_others consistent.saved isHandler notCommitting
      valid := consistent.valid
      sound := soundOthers own }
  cases took with
  | refused isStage | unchanged isStage =>
    exact moves (by rw [isStage]; rfl) trivial Bool.noConfusion
  | planned isStage planned =>
    refine moves (by rw [isStage]; rfl) ?_ Bool.noConfusion
    obtain ⟨_, _, ⟨_, rfl⟩ | ⟨_, _, _, _, rfl⟩⟩ :=
      handler.request.plan_ok planned
    · trivial
    · exact ServerSettings.validated_validated _
  | updates isStage isFree saves =>
    refine moves (by rw [isStage]; rfl) ?_ fun _ => isFree
    rw [SettingsWrite.saved?_update saves]
    exact ServerSettings.validated_validated _
  | replaces isStage isFree =>
    rw [isStage] at sound
    exact moves (by rw [isStage]; rfl) sound fun _ => isFree
  | @saves current next isStage =>
    rw [isStage] at sound
    have waits :=
      consistent.alone.othersWait isHandler (by rw [isStage]; rfl)
    refine
      ⟨consistent.alone.goTo fun _ => waits,
        saved_goTo isHandler Bool.noConfusion,
        ⟨consistent.valid.1, sound⟩, ?_⟩
    intro other member
    obtain ⟨index, isOther⟩ := List.mem_iff_getElem?.mp member
    rcases getElem?_set_cases isOther with ⟨_, rfl⟩ | ⟨elsewhere, isOther⟩
    · exact rfl
    · -- The documents of the others do not depend on the store.
      have holds := consistent.sound other (List.mem_of_getElem? isOther)
      have isWaiting := waits index other elsewhere isOther
      cases isOther : other.stage with
      | waiting _ write =>
        rw [isOther] at holds
        cases write <;> exact holds
      | committing =>
        rw [isOther] at isWaiting
        cases isWaiting
      | _ =>
        rw [isOther] at holds
        exact holds
  | commits isStage =>
    rw [isStage] at sound
    exact
      ⟨consistent.alone.goTo Bool.noConfusion,
        saved_goTo isHandler fun _ _ => sound,
        ⟨sound ▸ consistent.valid.2, consistent.valid.2⟩,
        soundOthers trivial⟩

theorem consistent_of_run
    {settings : ServerSettings}
    {requests : List SettingsRequest}
    {positions : List Nat}
    {reached : SettingsServer}
    (valid : settings.Valid)
    (run : Run (Fires step?) (.started settings requests) positions reached) :
    reached.Consistent := by
  have started : (started settings requests).Consistent := by
    have isNew :
        ∀ handler ∈ (started settings requests).handlers,
          handler.stage = .received := by
      intro handler member
      obtain ⟨request, _, rfl⟩ := List.mem_map.mp member
      rfl
    refine ⟨?_, fun _ => rfl, ⟨valid, valid⟩, ?_⟩
    · intro first second one other isOne _ holds _
      rw [isNew one (List.mem_of_getElem? isOne)] at holds
      cases holds
    · intro handler member
      rw [isNew handler member]
      trivial
  exact run.preserves (fun _ _ _ taken kept => kept.step taken) started

/-! ### Two changes at a time -/

def shareRequest : SettingsRequest where
  body :=
    { deployment := some { artifactShareRoot := some " //share " } }

def ttlRequest : SettingsRequest where
  body := { identity := some { sessionTtlSeconds := some 3600 } }

theorem ttl_disjoint_share :
    [ttlRequest, shareRequest].Pairwise fun first second =>
      first.body.trimmed.Disjoint second.body.trimmed := by
  refine List.pairwise_pair.mpr fun leaf => ?_
  cases leaf with
  | sessionTtlSeconds => exact .inr rfl
  | _ => exact .inl rfl

instance (server : SettingsServer) (position : Nat) :
    Decidable (ReplacesCurrent server position) :=
  match found : server.handlers[position]? with
  | none =>
    isTrue fun handler isHandler => by
      rw [found] at isHandler
      cases isHandler
  | some handler =>
    match isStage : handler.stage with
    | .waiting current (.replace next) =>
      decidable_of_iff
        (current = server.settings ∧
          LeavesGuacamole current handler.patch) <| by
        unfold ReplacesCurrent
        simp [found, isStage]
    | .waiting _ (.update _) | .received | .saving _ _
    | .committing _ _ | .answered | .unchanged | .refused =>
      isTrue <| by
        unfold ReplacesCurrent
        simp [found, isStage]

/-- The update waits until the document has replaced the settings. -/
theorem ttlThenShare_kept :
    ∃ final,
      Run (Guarded (Fires step?) ReplacesCurrent)
        (.started {} [ttlRequest, shareRequest])
        [0, 0, 1, 0, 0, 1, 1, 1] final ∧
        final.Finished ∧
        ∀ handler ∈ final.handlers,
          handler.stage ≠ .refused →
          final.stored.Contains handler.patch := by
  obtain ⟨final, checkedRun, ended⟩ :=
    exists_run_of_execute
      (show (execute (checked step? ReplacesCurrent)
          (.started {} [ttlRequest, shareRequest])
          [0, 0, 1, 0, 0, 1, 1, 1]).any
          (fun server => decide server.Finished) = true by
        decide)
  have run := checkedRun.guarded_of_checked
  have finished := of_decide_eq_true ended
  exact
    ⟨final, run, finished,
      changesKept_of_replacesCurrent ttl_disjoint_share run finished⟩

/-- The document is stored, and the update waits for the lock. -/
theorem ttlBeforeShare_consistent :
    ∃ reached : SettingsServer,
      reached.Consistent ∧ reached.stored.identity.sessionTtlSeconds = 3600 ∧
        reached.settings = {} := by
  obtain ⟨reached, run, isReached⟩ :=
    exists_run_of_execute
      (show (execute step? (.started {} [ttlRequest, shareRequest])
          [0, 0, 1, 0]).any
          (fun server =>
            decide
              (server.stored.identity.sessionTtlSeconds = 3600 ∧
                server.settings = {})) = true by
        decide)
  exact
    ⟨reached, consistent_of_run valid_default run,
      of_decide_eq_true isReached⟩

/-- A document replaces an update that was made after its snapshot. -/
theorem not_changesKept : ¬ ChangesKept (Fires step?) := by
  intro claimed
  obtain ⟨final, run, reached⟩ :=
    exists_run_of_execute
      (show (execute step? (.started {} [ttlRequest, shareRequest])
          [1, 1, 0, 1, 1, 0, 0, 0]).any
          (fun server =>
            decide server.Finished &&
              decide (server.stored.deployment.artifactShareRoot = "") &&
              server.handlers.any fun handler =>
                (!handler.stage.writerStage matches .reading) &&
                  decide
                    (handler.patch.deployment.bind
                        DeploymentDefaultsPatch.artifactShareRoot =
                      some "//share")) = true by
        decide)
  rw [Bool.and_eq_true, Bool.and_eq_true, decide_eq_true_eq,
    decide_eq_true_eq] at reached
  obtain ⟨⟨finished, isLost⟩, shares⟩ := reached
  obtain ⟨handler, member, shares⟩ := List.any_eq_true.mp shares
  rw [Bool.and_eq_true, decide_eq_true_eq] at shares
  obtain ⟨hasWritten, given⟩ := shares
  have notRefused : handler.stage ≠ .refused := by
    intro isRefused
    rw [isRefused] at hasWritten
    cases hasWritten
  have contains :=
    claimed ttl_disjoint_share run finished handler member notRefused
  have isStored : final.stored.deployment.artifactShareRoot = trim "//share" :=
    contains.values .artifactShareRoot "//share" given
  rw [isLost] at isStored
  exact absurd isStored (by decide)

end SettingsServer

end RpaPlatform.Settings
