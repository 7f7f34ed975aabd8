import RpaPlatform.ProvisioningRuns

namespace RpaPlatform.Agents

open Tasks (Json)
open FindOrCreate (Inventory Item Scheme)

/-!
# What has been written is as it should be

A group or a connection that Guacamole has stored as it was sent matches the
payload that is built for it the next time, and is found under the names that
it had before.
-/

theorem strip_orText
    {first second : String}
    (firstClean : strip first = first)
    (secondClean : strip second = second) :
    strip (orText first second) = orText first second := by
  rcases orText_cases first second with isFirst | isSecond
  · rw [isFirst, firstClean]
  · rw [isSecond, secondClean]

theorem orText_orText (own name : String) :
    orText (orText own name) name = orText own name := by
  by_cases unnamed : own = ""
  · rw [unnamed, orText_empty_left]
    by_cases blank : name = ""
    · rw [blank, orText_empty_left]
    · exact orText_of_ne blank name
  · rw [orText_of_ne unnamed, orText_of_ne unnamed]

section Fields

variable {library : TextLibrary}

theorem cleanField_of_lookup
    {fields : JsonObject}
    {key text : String}
    (found : fields.lookup key = some (.str text)) :
    cleanField library fields key = strip text := by
  unfold cleanField getField fieldOr
  rw [found]
  rfl

theorem strip_cleanField (fields : JsonObject) (key : String) :
    strip (cleanField library fields key) = cleanField library fields key :=
  strip_cleanString library _

theorem cleanField_set_other
    {key other : String}
    (differs : other ≠ key)
    (value : Json)
    (fields : JsonObject) :
    cleanField library (Dictionary.set key value fields) other =
      cleanField library fields other := by
  unfold cleanField getField fieldOr
  rw [Dictionary.lookup_set_other differs]

theorem cleanField_set_self (key text : String) (fields : JsonObject) :
    cleanField library (Dictionary.set key (.str text) fields) key =
      strip text :=
  cleanField_of_lookup (Dictionary.lookup_set_self key _ fields)

end Fields

/-! ### Items that have been sent -/

namespace UpsertKind

variable
    {library : TextLibrary}
    {Body Payload : Type}
    {upsertKind : UpsertKind Body Payload}

def Sendable (name text : String) : Prop :=
  strip text = text ∧ (text = "" → name = "")

/-- An item that has been sent is as it should be. -/
structure Settles
    (library : TextLibrary)
    (upsertKind : UpsertKind Body Payload)
    (name : String) : Prop where
  matches_stored :
    ∀ text, Sendable name text → ∀ first second body,
      upsertKind.payloadMatches
          (upsertKind.payload text second
            (upsertKind.stored (upsertKind.payload text first body)))
          (upsertKind.stored (upsertKind.payload text first body)) =
        true
  name_stored :
    ∀ text, Sendable name text → ∀ identifier body,
      cleanField library
          (upsertKind.fieldsOf
            (upsertKind.stored (upsertKind.payload text identifier body)))
          "name" =
        text
  parent_stored :
    ∀ text identifier body,
      upsertKind.parentIdentifier = "" ∨
        cleanField library
            (upsertKind.fieldsOf
              (upsertKind.stored (upsertKind.payload text identifier body)))
            "parentIdentifier" =
          upsertKind.parentIdentifier

variable {name : String}

theorem sendable_nameOr
    (isClean : strip name = name)
    (body : Body) :
    Sendable name (upsertKind.nameOr library body name) := by
  refine ⟨strip_orText (strip_cleanField _ _) isClean, ?_⟩
  unfold nameOr
  generalize cleanField library (upsertKind.fieldsOf body) "name" = own
  intro unnamed
  by_cases noName : own = ""
  · rw [noName, orText_empty_left] at unnamed
    exact unnamed
  · rw [orText_of_ne noName] at unnamed
    exact absurd unnamed noName

section Names

variable
    (settles : upsertKind.Settles library name)
    (isClean : strip name = name)
include settles isClean

theorem nameOr_stored
    (identifier : String)
    (body : Body) :
    upsertKind.nameOr library
        (upsertKind.stored
          (upsertKind.payload (upsertKind.nameOr library body name)
            identifier body))
        name =
      upsertKind.nameOr library body name := by
  conv_lhs => rw [nameOr]
  rw [settles.name_stored _ (sendable_nameOr isClean body)]
  exact orText_orText _ name

theorem nameOr_created
    (identifier : String)
    (body : Body) :
    upsertKind.nameOr library
        (upsertKind.stored (upsertKind.payload name identifier body))
        name =
      name := by
  conv_lhs => rw [nameOr]
  rw [settles.name_stored name ⟨isClean, id⟩]
  rcases orText_cases name name with same | same
  · exact same
  · exact same

/-- What has been sent is found again, and is not sent again. -/
theorem Settles.lawful :
    (upsertKind.scheme library name).Lawful where
  settled_rewrite item := by
    have sameName :=
      nameOr_stored settles isClean item.identifier.val item.body
    have isPayload :
        upsertKind.payloadFor library name
            ((upsertKind.scheme library name).rewrite item) =
          upsertKind.payload (upsertKind.nameOr library item.body name)
            item.identifier.val
            (upsertKind.stored (upsertKind.payloadFor library name item)) :=
      congrArg
        (fun text =>
          upsertKind.payload text item.identifier.val
            (upsertKind.stored (upsertKind.payloadFor library name item)))
        sameName
    refine (congrArg (fun payload => upsertKind.payloadMatches payload _)
      isPayload).trans ?_
    exact settles.matches_stored _ (sendable_nameOr isClean item.body) _ _ _
  settled_created identifier := by
    have sameName := nameOr_created settles isClean "" upsertKind.blank
    have isPayload :
        upsertKind.payloadFor library name
            ⟨identifier, (upsertKind.scheme library name).created⟩ =
          upsertKind.payload name identifier.val
            (upsertKind.scheme library name).created :=
      congrArg
        (fun text =>
          upsertKind.payload text identifier.val
            (upsertKind.scheme library name).created)
        sameName
    refine (congrArg (fun payload => upsertKind.payloadMatches payload _)
      isPayload).trans ?_
    exact settles.matches_stored name ⟨isClean, id⟩ _ _ _
  names_rewrite item := by
    intro candidate isName
    have isOld : candidate ∈ upsertKind.namesOf library item := isName
    have inside :
        upsertKind.inParent library
            ((upsertKind.scheme library name).rewrite item) =
          true := by
      rcases
          settles.parent_stored (upsertKind.nameOr library item.body name)
            item.identifier.val item.body with
        noParent | sameParent
      · simp [inParent, noParent]
      · exact Bool.or_eq_true_iff.mpr (.inr (decide_eq_true sameParent))
    have sameName :
        upsertKind.nameOf library
            ((upsertKind.scheme library name).rewrite item) =
          upsertKind.nameOr library item.body name :=
      settles.name_stored _ (sendable_nameOr isClean item.body) _ _
    have isNew :
        candidate ∈
          upsertKind.namesOf library
            ((upsertKind.scheme library name).rewrite item) := by
      unfold namesOf at isOld ⊢
      rw [if_pos inside, sameName]
      by_cases wasInside : upsertKind.inParent library item = true
      · rw [if_pos wasInside] at isOld
        rcases List.mem_cons.mp isOld with isIdentifier | isOwn
        · rw [isIdentifier]
          exact List.mem_cons_self
        · by_cases unnamed : upsertKind.nameOf library item = ""
          · rw [if_pos unnamed] at isOwn
            cases isOwn
          · rw [if_neg unnamed] at isOwn
            have kept :
                upsertKind.nameOr library item.body name =
                  upsertKind.nameOf library item :=
              orText_of_ne unnamed name
            rw [kept, if_neg unnamed]
            exact List.mem_cons_of_mem _ isOwn
      · rw [if_neg wasInside] at isOld
        cases isOld
    exact isNew

end Names

end UpsertKind

/-! ### Groups -/

section Groups

variable
    {library : TextLibrary}
    {config : ProvisioningConfig}
    {mapping : JsonObject}

theorem groupKind_stored :
    (groupKind library config mapping).stored = GroupPayload.toFields :=
  rfl

theorem groupKind_payloadMatches :
    (groupKind library config mapping).payloadMatches =
      groupPayloadMatches library :=
  rfl

theorem groupPayload_eq (name identifier : String) (existing : JsonObject) :
    (groupKind library config mapping).payload name identifier existing =
      { name := strip name
        type := "ORGANIZATIONAL"
        parentIdentifier :=
          orText (cleanField library existing "parentIdentifier")
            config.groupParentIdentifier
        attributes :=
          normalizeStringDict library
            (mappingFields (getField existing "attributes")) } := by
  have isName :
      cleanField library
          (Dictionary.set "group_identifier" (.str identifier)
            (Dictionary.set "group_name" (.str name) mapping))
          "group_name" =
        strip name := by
    rw [cleanField_set_other (by decide), cleanField_set_self]
  unfold groupKind buildGroupPayload
  dsimp only
  rw [isName]

theorem orText_parent
    {own : String}
    (ownClean : strip own = own)
    (parent : String) :
    strip (orText (strip (orText own parent)) parent) =
      strip (orText own parent) := by
  by_cases unset : own = ""
  · rw [unset, orText_empty_left]
    by_cases blank : strip parent = ""
    · rw [blank, orText_empty_left, blank]
    · rw [orText_of_ne blank, strip_strip]
  · rw [orText_of_ne unset, ownClean, orText_of_ne unset, ownClean]

theorem sameDict_normalizeStringDict
    {library : TextLibrary}
    {written wanted : List (String × String)}
    (same :
      ∀ key,
        wanted.lookup key =
          (normalizeStringDict library (textFields written)).lookup key)
    (wantedTidy : Tidy wanted) :
    sameDict (normalizeStringDict library (textFields written))
        (normalizeStringDict library (textFields wanted)) =
      true := by
  refine
    sameDict_of_lookup (tidy_normalizeStringDict library _).distinct
      (tidy_normalizeStringDict library _).distinct fun key => ?_
  rw [lookup_normalizeStringDict_of_tidy library wantedTidy, same]

/-- A group that is stored as it was sent is as it should be. -/
theorem groupPayloadMatches_stored
    (name first second : String)
    (existing : JsonObject) :
    (groupKind library config mapping).payloadMatches
        ((groupKind library config mapping).payload name second
          ((groupKind library config mapping).stored
            ((groupKind library config mapping).payload name first
              existing)))
        ((groupKind library config mapping).stored
          ((groupKind library config mapping).payload name first
            existing)) =
      true := by
  rw [groupKind_payloadMatches, groupKind_stored]
  rw [groupPayload_eq, groupPayload_eq]
  have ownClean := @strip_cleanField library existing "parentIdentifier"
  generalize cleanField library existing "parentIdentifier" = own at ownClean
  generalize
    normalizeStringDict library
        (mappingFields (getField existing "attributes")) =
      attributes
  have parents := orText_parent ownClean config.groupParentIdentifier
  generalize orText own config.groupParentIdentifier = parent at parents
  generalize strip name = clean
  have fields :
      ∀ key text,
        (GroupPayload.toFields
              { name := clean, type := "ORGANIZATIONAL",
                parentIdentifier := parent, attributes }).lookup key =
            some (.str text) →
          cleanField library
              (GroupPayload.toFields
                { name := clean, type := "ORGANIZATIONAL",
                  parentIdentifier := parent, attributes }) key =
            strip text :=
    fun _ _ found => cleanField_of_lookup found
  have ownAttributes :
      getField
          (GroupPayload.toFields
            { name := clean, type := "ORGANIZATIONAL",
              parentIdentifier := parent, attributes }) "attributes" =
        .obj (textFields attributes) :=
    rfl
  unfold groupPayloadMatches
  dsimp only
  rw [fields "name" _ rfl, fields "type" _ rfl,
    fields "parentIdentifier" _ rfl, ownAttributes, parents]
  simp only [decide_true, Bool.true_and]
  exact
    sameDict_normalizeStringDict (fun _ => rfl)
      (tidy_normalizeStringDict library _)

theorem cleanField_name_toFields (payload : GroupPayload) :
    cleanField library payload.toFields "name" = strip payload.name :=
  cleanField_of_lookup rfl

theorem groupKind_settles (name : String) :
    (groupKind library config mapping).Settles library name where
  matches_stored text _ :=
    groupPayloadMatches_stored text
  name_stored text sendable identifier existing := by
    have isName :=
      @cleanField_name_toFields library
        ((groupKind library config mapping).payload text identifier existing)
    refine Eq.trans isName ?_
    rw [groupPayload_eq]
    exact (strip_strip text).trans sendable.1
  parent_stored _ _ _ :=
    .inl rfl

end Groups

/-! ### Connections -/

/-- Parameters with clean keys are answered with clean values. -/
theorem requestParameters_textFields
    {entries : List (String × String)}
    (cleanKeys : CleanKeys entries)
    (library : TextLibrary) :
    requestParameters library (textFields entries) =
      entries.map fun entry => (entry.1, strip entry.2) := by
  have answeredAfter :
      ∀ result : List (String × String),
        (∀ entry ∈ entries, entry.1 ∉ result.map Prod.fst) →
        (textFields entries).foldl
            (fun parameters field =>
              let key := strip field.1
              if key ≠ "" then
                Dictionary.set key (cleanString library field.2) parameters
              else
                parameters)
            result =
          result ++ entries.map fun entry => (entry.1, strip entry.2) := by
    induction entries with
    | nil =>
      intro result _
      exact (List.append_nil result).symm
    | cons entry rest inductionHypothesis =>
      intro result absent
      obtain ⟨notLater, distinct⟩ := List.nodup_cons.mp cleanKeys.distinct
      have ⟨nonempty, isClean⟩ :=
        cleanKeys.clean entry List.mem_cons_self
      have isSet :
          Dictionary.set entry.1 (strip entry.2) result =
            result ++ [(entry.1, strip entry.2)] :=
        Dictionary.set_of_absent _ (absent entry List.mem_cons_self)
      have restAbsent :
          ∀ other ∈ rest,
            other.1 ∉ (result ++ [(entry.1, strip entry.2)]).map Prod.fst := by
        intro other member
        rw [List.map_append, List.mem_append]
        rintro (earlier | isEntry)
        · exact absent other (List.mem_cons_of_mem _ member) earlier
        · refine notLater ?_
          rw [← List.mem_singleton.mp isEntry]
          exact List.mem_map_of_mem member
      have later :=
        inductionHypothesis
          ⟨distinct, fun other member =>
            cleanKeys.clean other (List.mem_cons_of_mem _ member)⟩
          _ restAbsent
      refine Eq.trans ?_ (later.trans (List.append_assoc ..))
      unfold textFields
      rw [List.map_cons, List.foldl_cons]
      dsimp only [cleanString]
      rw [isClean, if_pos nonempty, isSet]
  exact answeredAfter [] fun _ _ => List.not_mem_nil

theorem lookup_requestParameters
    {entries : List (String × String)}
    (cleanKeys : CleanKeys entries)
    (library : TextLibrary)
    (key : String) :
    (normalizeStringDict library
        (textFields
          (requestParameters library (textFields entries)))).lookup key =
      (entries.lookup key).bind keptText := by
  rw [requestParameters_textFields cleanKeys library]
  have answeredKeys :
      CleanKeys (entries.map fun entry => (entry.1, strip entry.2)) := by
    refine ⟨?_, ?_⟩
    · rw [List.map_map]
      exact cleanKeys.distinct
    · intro entry member
      obtain ⟨sent, isSent, rfl⟩ := List.mem_map.mp member
      exact cleanKeys.clean sent isSent
  rw [lookup_normalizeStringDict library answeredKeys]
  have answered :
      (entries.map fun entry => (entry.1, strip entry.2)).lookup key =
        (entries.lookup key).map strip := by
    clear cleanKeys answeredKeys
    induction entries with
    | nil =>
      rfl
    | cons entry rest inductionHypothesis =>
      rw [List.map_cons, List.lookup_cons, List.lookup_cons,
        inductionHypothesis]
      cases key == entry.1 <;> rfl
  rw [answered]
  cases entries.lookup key with
  | none =>
    rfl
  | some value =>
    rw [Option.map_some, Option.bind_some, Option.bind_some, keptText_strip]

section Connections

variable
    {library : TextLibrary}
    {config : ProvisioningConfig}
    {agentId : String}
    {mapping : JsonObject}
    {hostname : String}
    {secrets : TemplateSecrets}
    {timestamp : String}

theorem buildTemplateValues_set_identifier
    (identifier : String) :
    buildTemplateValues library config agentId
        (Dictionary.set "connection_identifier" (.str identifier) mapping)
        hostname secrets timestamp =
      buildTemplateValues library config agentId mapping hostname secrets
        timestamp := by
  unfold buildTemplateValues
  dsimp only
  rw [cleanField_set_other (by decide), cleanField_set_other (by decide),
    cleanField_set_other (by decide), cleanField_set_other (by decide),
    cleanField_set_other (by decide)]

theorem plainParameters_set
    {key : String}
    (other : key ∉ ["access", "domain", "target_host", "username"])
    (value : Json)
    (values : List (String × String))
    (existing : ExistingConnection) :
    plainParameters library config (Dictionary.set key value mapping)
        hostname values existing =
      plainParameters library config mapping hostname values existing := by
  have ⟨notAccess, notDomain, notHost, notUsername⟩ :
      "access" ≠ key ∧ "domain" ≠ key ∧ "target_host" ≠ key ∧
        "username" ≠ key := by
    refine ⟨?_, ?_, ?_, ?_⟩ <;> rintro rfl <;> simp at other
  have sameCredentials :
      splitGuacamoleCredentials library
          (Dictionary.set key value mapping) =
        splitGuacamoleCredentials library mapping := by
    unfold splitGuacamoleCredentials
    rw [cleanField_set_other notDomain, cleanField_set_other notUsername]
  have samePolicy :
      mappingPolicy library (Dictionary.set key value mapping) =
        mappingPolicy library mapping := by
    unfold mappingPolicy getField fieldOr
    rw [Dictionary.lookup_set_other notAccess]
  unfold plainParameters connectionParameters
  rw [sameCredentials, samePolicy, cleanField_set_other notHost]

/-- The values of templates for a connection with a name. -/
def valuesFor
    (library : TextLibrary)
    (config : ProvisioningConfig)
    (agentId : String)
    (mapping : JsonObject)
    (hostname : String)
    (secrets : TemplateSecrets)
    (timestamp name : String) : List (String × String) :=
  buildTemplateValues library config agentId
    (Dictionary.set "connection_name" (.str name) mapping) hostname secrets
    timestamp

theorem connectionPayload_eq
    (name identifier : String)
    (existing : StoredConnection) :
    (connectionKind library config agentId mapping hostname secrets none
          timestamp).payload name identifier existing =
      { name := orText (strip name) (strip hostname)
        parentIdentifier :=
          orText (cleanField library mapping "group_identifier")
            config.groupParentIdentifier
        protocol := config.protocol
        parameters :=
          plainParameters library config mapping hostname
            (valuesFor library config agentId mapping hostname secrets
              timestamp name)
            (existing.answered library)
        attributes :=
          Dictionary.update
            (normalizeStringDict library
              (mappingFields (getField existing.fields "attributes")))
            (renderedDict library config
              (valuesFor library config agentId mapping hostname secrets
                timestamp name)
              config.attributeTemplate) } := by
  have parameters :=
    (@plainParameters_set library config
        (Dictionary.set "connection_name" (.str name) mapping) hostname
        "connection_identifier" (by decide) (.str identifier)
        (valuesFor library config agentId mapping hostname secrets
          timestamp name)
        (existing.answered library)).trans
      (plainParameters_set (by decide) _ _ _)
  unfold connectionKind buildConnectionPayload
  dsimp only
  rw [buildTemplateValues_set_identifier,
    cleanField_set_other (by decide), cleanField_set_self,
    cleanField_set_other (by decide), cleanField_set_other (by decide),
    ← parameters]
  rfl

theorem sameDict_attributes
    (existing : JsonObject)
    (values : List (String × String))
    (template : JsonObject) :
    let rendered := renderedDict library config values template
    let written :=
      Dictionary.update (normalizeStringDict library existing) rendered
    sameDict (normalizeStringDict library (textFields written))
        (normalizeStringDict library
          (textFields
            (Dictionary.update
              (normalizeStringDict library (textFields written))
              rendered))) =
      true := by
  dsimp only
  have tidyTemplate : Tidy (renderedDict library config values template) :=
    tidy_normalizeStringDict library _
  generalize
    renderedDict library config values template = rendered at tidyTemplate
  have tidyWritten :=
    (tidy_normalizeStringDict library existing).update tidyTemplate
  generalize normalizeStringDict library existing = kept at tidyWritten
  refine
    sameDict_normalizeStringDict (fun key => ?_)
      ((tidy_normalizeStringDict library _).update tidyTemplate)
  rw [Dictionary.lookup_update_of_distinct tidyTemplate.distinct,
    lookup_normalizeStringDict_of_tidy library tidyWritten,
    Dictionary.lookup_update_of_distinct tidyTemplate.distinct]
  cases rendered.lookup key with
  | none | some =>
    rfl

theorem sameDict_parameters
    {values : List (String × String)}
    {existing written : ExistingConnection}
    (isAnswered :
      written.parameters =
        requestParameters library
          (textFields
            (plainParameters library config mapping hostname values
              existing))) :
    sameDict (normalizeStringDict library (textFields written.parameters))
        (normalizeStringDict library
          (textFields
            (plainParameters library config mapping hostname values written))) =
      true := by
  have answered :
      ∀ key,
        (normalizeStringDict library
            (textFields written.parameters)).lookup key =
          ((plainParameters library config mapping hostname values
            existing).lookup key).bind keptText := by
    intro key
    rw [isAnswered]
    exact
      lookup_requestParameters (cleanKeys_plainParameters existing) library key
  have again :
      ∀ key,
        (plainParameters library config mapping hostname values
            written).lookup key =
          (plainParameters library config mapping hostname values
            existing).lookup key :=
    lookup_plainParameters_again answered
  have cleanKeys :=
    @cleanKeys_plainParameters library config mapping hostname values written
  generalize
    plainParameters library config mapping hostname values written =
    sentAgain at again cleanKeys
  refine
    sameDict_of_lookup (tidy_normalizeStringDict library _).distinct
      (tidy_normalizeStringDict library _).distinct fun key => ?_
  rw [lookup_normalizeStringDict library cleanKeys, again, answered]

theorem connectionKind_stored :
    (connectionKind library config agentId mapping hostname secrets none
        timestamp).stored =
      ConnectionPayload.toStored :=
  rfl

theorem connectionKind_payloadMatches
    (payload : ConnectionPayload)
    (stored : StoredConnection) :
    (connectionKind library config agentId mapping hostname secrets none
        timestamp).payloadMatches payload stored =
      payloadMatches library payload (stored.answered library) :=
  rfl

theorem attributes_toStored (sent : ConnectionPayload) :
    mappingFields (getField sent.toStored.fields "attributes") =
      textFields sent.attributes :=
  rfl

theorem parameters_answered (sent : ConnectionPayload) :
    (sent.toStored.answered library).parameters =
      requestParameters library (textFields sent.parameters) :=
  rfl

theorem payloadMatches_toStored
    {sent again : ConnectionPayload}
    (sameName : sent.name = again.name)
    (sameProtocol : sent.protocol = again.protocol)
    (sameParent : sent.parentIdentifier = again.parentIdentifier)
    (attributes :
      sameDict (normalizeStringDict library (textFields sent.attributes))
          (normalizeStringDict library (textFields again.attributes)) =
        true)
    (parameters :
      sameDict
          (normalizeStringDict library
            (textFields (sent.toStored.answered library).parameters))
          (normalizeStringDict library (textFields again.parameters)) =
        true) :
    payloadMatches library again (sent.toStored.answered library) = true := by
  have name :
      cleanField library (sent.toStored.answered library).fields "name" =
        strip again.name := by
    rw [← sameName]
    exact cleanField_of_lookup rfl
  have protocol :
      cleanField library (sent.toStored.answered library).fields
          "protocol" =
        strip again.protocol := by
    rw [← sameProtocol]
    exact cleanField_of_lookup rfl
  have parent :
      cleanField library (sent.toStored.answered library).fields
          "parentIdentifier" =
        strip again.parentIdentifier := by
    rw [← sameParent]
    exact cleanField_of_lookup rfl
  have stored :
      mappingFields
          (getField (sent.toStored.answered library).fields "attributes") =
        textFields sent.attributes :=
    attributes_toStored sent
  unfold payloadMatches
  dsimp only
  rw [name, protocol, parent, stored, attributes, parameters]
  simp only [decide_true, Bool.and_true]

theorem payloadMatches_stored
    (name first second : String)
    (existing : StoredConnection) :
    (connectionKind library config agentId mapping hostname secrets none
          timestamp).payloadMatches
        ((connectionKind library config agentId mapping hostname secrets
              none timestamp).payload name second
          ((connectionKind library config agentId mapping hostname secrets
                none timestamp).stored
            ((connectionKind library config agentId mapping hostname secrets
                  none timestamp).payload name first existing)))
        ((connectionKind library config agentId mapping hostname secrets
              none timestamp).stored
          ((connectionKind library config agentId mapping hostname secrets
                none timestamp).payload name first existing)) =
      true := by
  rw [connectionKind_payloadMatches, connectionKind_stored]
  have isSent :=
    @connectionPayload_eq library config agentId mapping hostname secrets
      timestamp name first existing
  generalize
    (connectionKind library config agentId mapping hostname secrets none
        timestamp).payload name first existing = sent at isSent
  have sameAttributes := congrArg ConnectionPayload.attributes isSent
  have sameParameters := congrArg ConnectionPayload.parameters isSent
  have sameName := congrArg ConnectionPayload.name isSent
  have sameProtocol := congrArg ConnectionPayload.protocol isSent
  have sameParent := congrArg ConnectionPayload.parentIdentifier isSent
  rw [connectionPayload_eq]
  refine payloadMatches_toStored sameName sameProtocol sameParent ?_ ?_
  · dsimp only at sameAttributes ⊢
    rw [attributes_toStored, sameAttributes]
    have again :=
      @sameDict_attributes library config
        (mappingFields (getField existing.fields "attributes"))
        (valuesFor library config agentId mapping hostname secrets
          timestamp name)
        config.attributeTemplate
    exact again
  · have answered :
        (sent.toStored.answered library).parameters =
          requestParameters library
            (textFields
              (plainParameters library config mapping hostname
                (valuesFor library config agentId mapping hostname secrets
                  timestamp name)
                (existing.answered library))) := by
      rw [parameters_answered, sameParameters]
    exact sameDict_parameters answered

theorem cleanField_name_toStored (sent : ConnectionPayload) :
    cleanField library sent.toStored.fields "name" = strip sent.name :=
  cleanField_of_lookup rfl

theorem cleanField_parent_toStored (sent : ConnectionPayload) :
    cleanField library sent.toStored.fields "parentIdentifier" =
      strip sent.parentIdentifier :=
  cleanField_of_lookup rfl

theorem connectionKind_settles
    (own : String) :
    (connectionKind library config agentId mapping hostname secrets none
        timestamp).Settles library (orText own (strip hostname)) where
  matches_stored text _ :=
    payloadMatches_stored text
  name_stored text sendable identifier existing := by
    have isName :=
      @cleanField_name_toStored library
        ((connectionKind library config agentId mapping hostname secrets
          none timestamp).payload text identifier existing)
    refine Eq.trans isName ?_
    rw [connectionPayload_eq, sendable.1]
    dsimp only
    by_cases unnamed : text = ""
    · have noHost : strip hostname = "" := by
        have noName := sendable.2 unnamed
        by_cases blank : own = ""
        · rwa [blank, orText_empty_left] at noName
        · rw [orText_of_ne blank] at noName
          exact absurd noName blank
      rw [noHost, unnamed]
      rfl
    · rw [orText_of_ne unnamed]
      exact sendable.1
  parent_stored text identifier existing := by
    have isParent :=
      @cleanField_parent_toStored library
        ((connectionKind library config agentId mapping hostname secrets
          none timestamp).payload text identifier existing)
    by_cases noParent : cleanField library mapping "group_identifier" = ""
    · exact .inl noParent
    · refine .inr (Eq.trans isParent ?_)
      rw [connectionPayload_eq]
      dsimp only
      rw [orText_of_ne noParent, strip_cleanField]
      rfl

end Connections

end RpaPlatform.Agents
