import RpaPlatform.JsonPath
import RpaPlatform.ReadModifyWrite

namespace RpaPlatform.Agents

open Tasks (Json)
open Transition

/-!
# Concurrent updates of an agent's row

`upsert_agent` reads the row, merges what it is given in memory and writes all
columns back after an await.  The calls of the handshake, the heartbeat, the
registry's router, a deployment and the clean-up may overlap.
-/

/-! ### Columns and metadata paths -/

/-- The columns that a caller of `upsert_agent` can set. -/
inductive AgentColumn where
  | hostname
  | displayName
  | status
  | connectionStatus
  | currentVersion
  | lastDeploymentId
  | lastSeenAt

/-- What a column holds. -/
def AgentColumn.Value : AgentColumn → Type
  | hostname => String
  | displayName => String
  | status => AgentStatus
  | connectionStatus => ConnectionStatus
  | currentVersion => String
  | lastDeploymentId => Option String
  | lastSeenAt => Option Int

/-- A column of a row. -/
def AgentRecord.column
    (row : AgentRecord) :
    (column : AgentColumn) → column.Value
  | .hostname => row.hostname
  | .displayName => row.displayName
  | .status => row.status
  | .connectionStatus => row.connectionStatus
  | .currentVersion => row.currentVersion
  | .lastDeploymentId => row.lastDeploymentId
  | .lastSeenAt => row.lastSeenAt

def givenText (text : String) : Option String :=
  if text ≠ "" then some text else none

/-- What `upsert_agent` is given for a column. -/
def AgentChange.column?
    (change : AgentChange) :
    (column : AgentColumn) → Option column.Value
  | .hostname => givenText change.hostname
  | .displayName => givenText change.displayName
  | .status => change.status
  | .connectionStatus => change.connectionStatus
  | .currentVersion => givenText change.currentVersion
  | .lastDeploymentId =>
    (change.lastDeploymentId.filter (· ≠ "")).map some
  | .lastSeenAt => change.lastSeenAt.map some

/-- A path to a value that has nothing below it. -/
def IsLeaf
    (fields : JsonObject)
    (path : List String)
    (value : Json) : Prop :=
  valueAt? fields path = some value ∧ ∀ entry rest, value ≠ .obj (entry :: rest)

/-- Whether a value is there; an empty object only asks for an object. -/
def Provides (stored : Option Json) : Json → Prop
  | .obj _ => ∃ fields, stored = some (.obj fields)
  | value => stored = some value

/-- What a call of `upsert_agent` is given, and the time that it has read. -/
structure RegistryUpsert where
  change : AgentChange
  time : Int
  /-- A dictionary has no key twice. -/
  parsed : ∀ metadata ∈ change.metadata, ParsedFields metadata

/-- The row contains all that a call was given. -/
structure AgentRecord.Contains
    (row : AgentRecord)
    (upsert : RegistryUpsert) : Prop where
  columns :
    ∀ column value,
      upsert.change.column? column = some value →
      row.column column = value
  metadata :
    ∀ metadata ∈ upsert.change.metadata,
      ∀ path value,
        IsLeaf metadata path value →
        Provides (valueAt? row.metadata path) value

/-- Two calls are given different columns and metadata paths. -/
structure RegistryUpsert.Disjoint
    (first second : RegistryUpsert) : Prop where
  columns :
    ∀ column,
      first.change.column? column = none ∨ second.change.column? column = none
  metadata :
    ∀ one ∈ first.change.metadata, ∀ other ∈ second.change.metadata,
      ∀ path value below found,
        IsLeaf one path value →
        IsLeaf other below found →
        ¬ path <+: below ∧ ¬ below <+: path

/-! ### What a merge does to a leaf -/

section Leaves

variable
    {incoming : JsonObject}
    {path : List String}
    {value : Json}

theorem exists_leaf_below
    (fields : JsonObject)
    (key : String)
    (value : Json)
    (found : fields.lookup key = some value) :
    ∃ below leaf, IsLeaf fields (key :: below) leaf := by
  induction size : sizeOf value using Nat.strongRecOn
    generalizing fields key value with
  | ind bound smaller =>
    cases value with
    | obj inner =>
      cases inner with
      | nil =>
        exact ⟨[], .obj [], found, by simp⟩
      | cons entry rest =>
        have isSmaller : sizeOf entry.2 < bound := by
          obtain ⟨first, inner⟩ := entry
          simp only [Json.obj.sizeOf_spec, List.cons.sizeOf_spec,
            Prod.mk.sizeOf_spec] at size ⊢
          omega
        obtain ⟨below, leaf, isFound, bottom⟩ :=
          smaller _ isSmaller (entry :: rest) entry.1 entry.2
            List.lookup_cons_self rfl
        refine ⟨entry.1 :: below, leaf, ?_, bottom⟩
        rw [valueAt?, objectAt, found]
        exact isFound
    | _ =>
      exact ⟨[], _, found, by simp⟩

theorem leaf_of_determines
    (determined : determines incoming path = true) :
    ∃ leafPath leaf,
      IsLeaf incoming leafPath leaf ∧
        (path <+: leafPath ∨ leafPath <+: path) := by
  induction path generalizing incoming with
  | nil =>
    cases determined
  | cons key rest inductionHypothesis =>
    cases rest with
    | nil =>
      obtain ⟨value, found⟩ := Option.isSome_iff_exists.mp determined
      obtain ⟨below, leaf, isLeaf⟩ :=
        exists_leaf_below incoming key value found
      exact ⟨key :: below, leaf, isLeaf,
        .inl (List.cons_prefix_cons.mpr ⟨rfl, List.nil_prefix⟩)⟩
    | cons next rest =>
      rw [determines] at determined
      split at determined
      · cases determined
      · rename_i inner found
        obtain ⟨leafPath, leaf, ⟨isFound, bottom⟩, meets⟩ :=
          inductionHypothesis determined
        refine ⟨key :: leafPath, leaf, ⟨?_, bottom⟩, ?_⟩
        · cases leafPath with
          | nil => cases isFound
          | cons first others =>
            rw [valueAt?, objectAt, found]
            exact isFound
        · refine meets.imp ?_ ?_
          · exact fun below => List.cons_prefix_cons.mpr ⟨rfl, below⟩
          · exact fun above => List.cons_prefix_cons.mpr ⟨rfl, above⟩
      · rename_i value notObject found
        refine ⟨[key], value, ⟨found, fun _ _ => notObject _⟩, .inr ?_⟩
        exact List.cons_prefix_cons.mpr ⟨rfl, List.nil_prefix⟩

theorem valueAt?_nil (path : List String) :
    valueAt? [] path = none := by
  induction path with
  | nil =>
    rfl
  | cons key rest inductionHypothesis =>
    cases rest with
    | nil =>
      rfl
    | cons next rest =>
      exact inductionHypothesis

theorem provides_mergeMetadata
    (parsed : ParsedFields incoming)
    (isLeaf : IsLeaf incoming path value)
    (existing : JsonObject) :
    Provides (valueAt? (mergeMetadata existing incoming) path) value := by
  obtain ⟨isFound, bottom⟩ := isLeaf
  induction path generalizing incoming existing with
  | nil =>
    cases isFound
  | cons key rest inductionHypothesis =>
    cases rest with
    | nil =>
      have merged := lookup_mergeMetadata parsed.1 existing key
      rw [show incoming.lookup key = some value from isFound] at merged
      rw [valueAt?, merged]
      dsimp only
      cases value with
      | obj fields =>
        unfold mergeValue
        split
        · exact ⟨_, rfl⟩
        · exact ⟨_, rfl⟩
      | _ =>
        rw [mergeValue]
        · rfl
        · simp
    | cons next rest =>
      rw [valueAt?, objectAt] at isFound
      split at isFound
      · rename_i inner found
        rw [valueAt?_mergeMetadata_inner parsed found]
        exact inductionHypothesis (parsed.lookup found) _ isFound
      · rw [valueAt?_nil] at isFound
        cases isFound

theorem Provides.isSome
    {stored : Option Json}
    (provides : Provides stored value) :
    stored.isSome = true := by
  cases value with
  | obj fields =>
    obtain ⟨_, rfl⟩ := provides
    rfl
  | _ =>
    rw [show stored = some _ from provides]
    rfl

theorem Provides.eq_of_notObject
    {stored : Option Json}
    (provides : Provides stored value)
    (notObject : ∀ fields, value ≠ .obj fields) :
    stored = some value := by
  cases value with
  | obj fields =>
    exact (notObject fields rfl).elim
  | _ =>
    exact provides

theorem Provides.eq_some
    {stored found : Json}
    (provides : Provides (some stored) found)
    (notObject : ∀ fields, stored ≠ .obj fields) :
    found = stored := by
  cases found with
  | obj fields =>
    obtain ⟨inner, same⟩ := provides
    exact (notObject inner (Option.some.inj same)).elim
  | _ =>
    exact (Option.some.inj provides).symm

/-- A merge of what is there already keeps what is there. -/
theorem valueAt?_mergeMetadata_agrees
    {existing : JsonObject}
    (parsed : ParsedFields incoming)
    (agrees :
      ∀ leafPath leaf,
        IsLeaf incoming leafPath leaf →
        Provides (valueAt? existing leafPath) leaf)
    (isFound : valueAt? existing path = some value)
    (notObject : ∀ fields, value ≠ .obj fields) :
    valueAt? (mergeMetadata existing incoming) path = some value := by
  induction path generalizing incoming existing with
  | nil =>
    cases isFound
  | cons key rest inductionHypothesis =>
    cases rest with
    | nil =>
      have stored : existing.lookup key = some value := isFound
      rw [valueAt?, lookup_mergeMetadata parsed.1, stored]
      cases comes : incoming.lookup key with
      | none =>
        rfl
      | some found =>
        dsimp only
        rw [mergeValue_of_notObject
          fun fields same => notObject fields (Option.some.inj same)]
        obtain ⟨below, leaf, isLeaf⟩ :=
          exists_leaf_below incoming key found comes
        have provides := agrees (key :: below) leaf isLeaf
        cases below with
        | nil =>
          have same : found = leaf :=
            Option.some.inj (comes.symm.trans isLeaf.1)
          rw [valueAt?, stored] at provides
          rw [same, provides.eq_some notObject]
        | cons next others =>
          -- Nothing is below a value that is not an object.
          have nothing : objectAt existing key = [] := by
            unfold objectAt
            rw [stored]
            split
            · rename_i fields same
              exact (notObject fields (Option.some.inj same)).elim
            · rfl
          have there := provides.isSome
          rw [valueAt?, nothing, valueAt?_nil] at there
          cases there
    | cons next rest =>
      cases comes : incoming.lookup key with
      | none =>
        rw [valueAt?, objectAt_mergeMetadata_absent comes]
        exact isFound
      | some found =>
        cases found with
        | obj inner =>
          rw [valueAt?_mergeMetadata_inner parsed comes]
          refine inductionHypothesis (parsed.lookup comes) ?_ isFound
          rintro leafPath leaf ⟨isInner, bottom⟩
          cases leafPath with
          | nil => cases isInner
          | cons first others =>
            refine agrees (key :: first :: others) leaf ⟨?_, bottom⟩
            rw [valueAt?, objectAt, comes]
            exact isInner
        | _ =>
          have provides :=
            agrees [key] _ ⟨comes, by simp⟩
          rw [valueAt?, objectAt,
            show existing.lookup key = some _ from provides]
            at isFound
          rw [valueAt?_nil] at isFound
          cases isFound

end Leaves

/-! ### What `upsert_agent` writes -/

namespace RegistryUpsert

/-- The row that a call writes, given the row that it has read. -/
def merged
    (agentId : String)
    (upsert : RegistryUpsert)
    (existing : Option AgentRecord) : AgentRecord :=
  mergeAgent agentId existing upsert.change upsert.time

/-- The statement of a call. -/
def write
    (agentId : String)
    (upsert : RegistryUpsert)
    (existing : Option AgentRecord)
    (registry : AgentRegistry) : AgentRegistry :=
  registry.writeAgent (upsert.merged agentId existing)

end RegistryUpsert

def AgentRecord.contents (row : AgentRecord) : AgentRecord :=
  { row with updatedAt := 0 }

section Writes

variable
    {agentId : String}
    {upsert other : RegistryUpsert}
    {existing : Option AgentRecord}

theorem orText_eq (text stored : String) :
    orText text stored = (givenText text).getD stored := by
  unfold orText givenText
  split
  · rfl
  · rfl

theorem column_merged (column : AgentColumn) :
    (upsert.merged agentId existing).column column =
      (upsert.change.column? column).getD
        ((existing.getD
            { id := agentId, createdAt := upsert.time
              updatedAt := upsert.time }).column column) := by
  cases column with
  | hostname | displayName | currentVersion =>
    exact orText_eq _ _
  | status | connectionStatus =>
    rfl
  | lastDeploymentId =>
    unfold RegistryUpsert.merged mergeAgent AgentRecord.column
      AgentChange.column?
    cases upsert.change.lastDeploymentId.filter (· ≠ "") with
    | none => rfl
    | some deploymentId => rfl
  | lastSeenAt =>
    unfold RegistryUpsert.merged mergeAgent AgentRecord.column
      AgentChange.column?
    cases upsert.change.lastSeenAt with
    | none => rfl
    | some time => rfl

theorem contains_merged :
    (upsert.merged agentId existing).Contains upsert := by
  constructor
  · intro column value given
    rw [column_merged, given]
    rfl
  · intro metadata given path value isLeaf
    unfold RegistryUpsert.merged mergeAgent
    rw [Option.mem_def.mp given]
    exact provides_mergeMetadata (upsert.parsed metadata given) isLeaf _

theorem contains_merged_other
    {row : AgentRecord}
    (disjoint : other.Disjoint upsert)
    (contains : row.Contains other) :
    (upsert.merged agentId (some row)).Contains other := by
  constructor
  · intro column value given
    have unset : upsert.change.column? column = none := by
      refine (disjoint.columns column).resolve_left ?_
      rw [given]
      exact nofun
    rw [column_merged, unset]
    exact contains.columns column value given
  · intro metadata given path value isLeaf
    have there := contains.metadata metadata given path value isLeaf
    unfold RegistryUpsert.merged mergeAgent
    cases incoming : upsert.change.metadata with
    | none =>
      exact there
    | some fields =>
      have undetermined : determines fields path = false := by
        rw [Bool.eq_false_iff]
        intro determined
        obtain ⟨below, leaf, isOther, meets⟩ :=
          leaf_of_determines determined
        obtain ⟨notBelow, notAbove⟩ :=
          disjoint.metadata metadata given fields incoming path value
            below leaf isLeaf isOther
        exact meets.elim notBelow notAbove
      dsimp only [Option.getD_some]
      rw [valueAt?_mergeMetadata_kept (upsert.parsed fields incoming)
        undetermined]
      exact there

theorem AgentRecord.Contains.congr
    {first second : AgentRecord}
    (contains : first.Contains upsert)
    (columns : ∀ column, second.column column = first.column column)
    (metadata : second.metadata = first.metadata) :
    second.Contains upsert := by
  constructor
  · intro column value given
    rw [columns]
    exact contains.columns column value given
  · rw [metadata]
    exact contains.metadata

theorem column_contents
    (row : AgentRecord)
    (column : AgentColumn) :
    row.contents.column column = row.column column := by
  cases column <;> rfl

/-- What is stored contains all that a call was given. -/
def StoresUpsert
    (stored : Option AgentRecord)
    (upsert : RegistryUpsert) : Prop :=
  ∃ row, stored = some row ∧ row.Contains upsert

def SameContents (earlier stored : Option AgentRecord) : Prop :=
  earlier.map AgentRecord.contents = stored.map AgentRecord.contents

theorem storesUpsert_write
    {registry : AgentRegistry}
    (contains : (upsert.merged agentId existing).Contains other) :
    StoresUpsert
      ((upsert.write agentId existing registry).getAgent agentId)
      other := by
  have written :
      (upsert.write agentId existing registry).getAgent agentId = _ :=
    registry.getAgent_writeAgent (upsert.merged agentId existing)
  refine ⟨_, written, contains.congr ?_ ?_⟩
  · intro column
    generalize registry.getAgent _ = stored
    cases stored <;> cases column <;> rfl
  · generalize registry.getAgent _ = stored
    cases stored <;> rfl

theorem keepsChanges_upserts (agentId : String) :
    KeepsChanges (AgentRegistry.getAgent · agentId)
      (RegistryUpsert.write agentId) SameContents
      RegistryUpsert.Disjoint StoresUpsert where
  own := by
    intro upsert existing registry
    exact storesUpsert_write contains_merged
  others := by
    intro upsert other existing registry disjoint same stores
    obtain ⟨row, isStored, contains⟩ := stores
    rw [isStored] at same
    obtain ⟨earlier, isEarlier, sameRow⟩ := Option.map_eq_some_iff.mp same
    subst isEarlier
    refine storesUpsert_write (contains_merged_other disjoint ?_)
    refine contains.congr ?_ ?_
    · intro column
      rw [← column_contents, sameRow, column_contents]
    · have same : earlier.contents.metadata = row.contents.metadata :=
        congrArg AgentRecord.metadata sameRow
      exact same

end Writes

/-! ### Concurrent calls -/

/-- A step of one of the calls. -/
def upsertStep?
    (agentId : String) :
    SharedStore AgentRegistry (Option AgentRecord) RegistryUpsert →
      Nat →
      Option (SharedStore AgentRegistry (Option AgentRecord) RegistryUpsert) :=
  SharedStore.step? (AgentRegistry.getAgent · agentId)
    (RegistryUpsert.write agentId)

/--
However calls overlap that are given different columns and metadata paths, the
row contains what each of them was given when they have returned.
-/
def NoLostUpdate
    (agentId : String)
    (step :
      SharedStore AgentRegistry (Option AgentRecord) RegistryUpsert →
        Nat →
        SharedStore AgentRegistry (Option AgentRecord) RegistryUpsert →
        Prop) :
    Prop :=
  ∀ {registry : AgentRegistry} {upserts : List RegistryUpsert}
    {final :
      SharedStore AgentRegistry (Option AgentRecord) RegistryUpsert}
    {positions : List Nat},
    upserts.Pairwise RegistryUpsert.Disjoint →
    Run step (.started registry upserts) positions final →
    final.Finished →
    ∀ upsert ∈ upserts, StoresUpsert (final.store.getAgent agentId) upsert

/--
The condition under which no update is lost.  The row that a call has read
still has the contents of the stored one when the call writes.
-/
def ReadsCurrent (agentId : String) :
    SharedStore AgentRegistry (Option AgentRecord) RegistryUpsert →
      Nat →
      Prop :=
  WritesBackCurrent (AgentRegistry.getAgent · agentId) SameContents

theorem RegistryUpsert.Disjoint.symm
    {first second : RegistryUpsert}
    (disjoint : first.Disjoint second) :
    second.Disjoint first where
  columns column :=
    (disjoint.columns column).symm
  metadata := by
    intro one given other alsoGiven path value below found isLeaf isOther
    exact
      (disjoint.metadata other alsoGiven one given below found path value
        isOther isLeaf).symm

/-- Where the condition is met, no update is lost. -/
theorem noLostUpdate_of_readsCurrent (agentId : String) :
    NoLostUpdate agentId
      (Guarded (Fires (upsertStep? agentId)) (ReadsCurrent agentId)) := by
  intro registry upserts final positions disjoint run finished upsert member
  refine
    SharedStore.contains_of_writesBackCurrent
      (keepsChanges_upserts agentId) ?_ run finished member
  intro first second one other different isOne isOther
  obtain ⟨firstInside, rfl⟩ := List.getElem?_eq_some_iff.mp isOne
  obtain ⟨secondInside, rfl⟩ := List.getElem?_eq_some_iff.mp isOther
  have ordered := List.pairwise_iff_getElem.mp disjoint
  rcases Nat.lt_or_gt_of_ne different with before | after
  · exact ordered first second firstInside secondInside before
  · exact (ordered second first secondInside firstInside after).symm

/-- The handshake stores that the agent is online. -/
def onlineUpsert : RegistryUpsert where
  change :=
    { status := some .registered
      connectionStatus := some .online
      lastSeenAt := some 7 }
  time := 7
  parsed := nofun

/-- The registry's router stores a name and where the machine stands. -/
def renamingUpsert : RegistryUpsert where
  change :=
    { displayName := "Front desk"
      metadata := some [("site", .str "north")] }
  time := 8
  parsed := by
    intro metadata given
    cases given
    exact ⟨List.nodup_singleton _, trivial, trivial⟩

theorem online_disjoint_renaming :
    onlineUpsert.Disjoint renamingUpsert where
  columns column := by
    cases column with
    | displayName => exact .inl rfl
    | _ => exact .inr rfl
  metadata := nofun

/-- The second call reads the row while the first one commits. -/
theorem renamedOnline_stored :
    ∃ final,
      Run (Guarded (Fires (upsertStep? "a")) (ReadsCurrent "a"))
        (.started .empty [onlineUpsert, renamingUpsert])
        [0, 0, 1, 0, 1, 1] final ∧
        final.Finished ∧
        StoresUpsert (final.store.getAgent "a") onlineUpsert ∧
        StoresUpsert (final.store.getAgent "a") renamingUpsert := by
  have run :
      ∃ final,
        Run (Guarded (Fires (upsertStep? "a")) (ReadsCurrent "a"))
          (.started .empty [onlineUpsert, renamingUpsert])
          [0, 0, 1, 0, 1, 1] final ∧
          final.Finished := by
    refine ⟨_, .cons ⟨rfl, ?_⟩ (.cons ⟨rfl, ?_⟩ (.cons ⟨rfl, ?_⟩
      (.cons ⟨rfl, ?_⟩ (.cons ⟨rfl, ?_⟩ (.cons ⟨rfl, ?_⟩ (.nil _)))))), ?_⟩
    case refine_7 =>
      decide
    -- Both writes write back what is stored.
    all_goals
      intro writer isWriter earlier isWriting
      cases isWriter
      cases isWriting
    · rfl
    · rfl
  obtain ⟨final, run, finished⟩ := run
  have stored :=
    noLostUpdate_of_readsCurrent "a"
      (List.pairwise_pair.mpr online_disjoint_renaming) run finished
  exact ⟨final, run, finished, stored _ List.mem_cons_self,
    stored _ (List.mem_cons_of_mem _ List.mem_cons_self)⟩

/--
Without the condition an update is lost: both calls read the row, and the
second one writes back that the agent is offline.
-/
theorem not_noLostUpdate :
    ¬ NoLostUpdate "a" (Fires (upsertStep? "a")) := by
  intro claimed
  obtain ⟨final, run, reached⟩ :=
    exists_run_of_execute
      (show (execute (upsertStep? "a")
          (.started .empty [onlineUpsert, renamingUpsert])
          [0, 1, 0, 0, 1, 1]).any
          (fun sys =>
            decide sys.Finished &&
              (sys.store.getAgent "a").all
                (·.connectionStatus = .offline)) = true by
        decide)
  rw [Bool.and_eq_true, decide_eq_true_eq] at reached
  have disjoint :
      [onlineUpsert, renamingUpsert].Pairwise RegistryUpsert.Disjoint :=
    List.pairwise_pair.mpr online_disjoint_renaming
  obtain ⟨row, isStored, contains⟩ :=
    claimed disjoint run reached.1 onlineUpsert List.mem_cons_self
  have isOnline : row.connectionStatus = .online :=
    contains.columns .connectionStatus .online rfl
  rw [isStored, Option.all_some, isOnline] at reached
  exact absurd reached.2 (by decide)

end RpaPlatform.Agents
