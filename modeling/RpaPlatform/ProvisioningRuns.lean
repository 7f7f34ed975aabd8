import RpaPlatform.GuacamoleProvisioning
import RpaPlatform.PayloadNormalForm
import RpaPlatform.RecordingFilters

namespace RpaPlatform.Agents

open Tasks (Json)
open FindOrCreate (Action Inventory Item Scheme)

/-!
# Upserts find or create

An upsert of a group or of a connection finds an item or creates one, in the
sense of the library: the listing of Guacamole is searched for the candidates,
and no request is answered by an error as long as nobody else changes
Guacamole.
-/

def TextLibrary.FoldsNonempty (library : TextLibrary) : Prop :=
  ∀ text, library.casefold text = library.casefold "" → text = ""

namespace UpsertKind

section Schemes

variable
    (library : TextLibrary)
    {Body Payload : Type}
    (upsertKind : UpsertKind Body Payload)

def nameOf (item : Item Identifier Body) : String :=
  cleanField library (upsertKind.fieldsOf item.body) "name"

/-- Whether an item is looked up. -/
def inParent (item : Item Identifier Body) : Bool :=
  upsertKind.parentIdentifier = "" ||
    cleanField library (upsertKind.fieldsOf item.body) "parentIdentifier" =
      upsertKind.parentIdentifier

/-- The texts that an item is found under. -/
def namesOf (item : Item Identifier Body) : List String :=
  if upsertKind.inParent library item then
    library.casefold item.identifier.val ::
      (if upsertKind.nameOf library item = "" then []
        else [library.casefold (upsertKind.nameOf library item)])
  else
    []

def payloadFor (name : String) (item : Item Identifier Body) : Payload :=
  upsertKind.payload (upsertKind.nameOr library item.body name)
    item.identifier.val item.body

/-- What an upsert wants of an item, where a name is given. -/
def scheme (name : String) : Scheme Identifier String Body where
  names := upsertKind.namesOf library
  settled := fun item =>
    upsertKind.payloadMatches (upsertKind.payloadFor library name item)
      item.body
  rewritten := fun item =>
    upsertKind.stored (upsertKind.payloadFor library name item)
  created :=
    upsertKind.stored (upsertKind.payload name "" upsertKind.blank)

end Schemes

variable
    {library : TextLibrary}
    {Body Payload : Type}
    {upsertKind : UpsertKind Body Payload}
    {inventory : Inventory Identifier Body}

/-! ### Lookups -/

theorem identifier?_val (identifier : Identifier) :
    identifier? identifier.val = some identifier :=
  dif_pos identifier.property

variable
    {item : Item Identifier Body}
    {candidate : String}
    {given : Option Identifier}

theorem getItem_of_mem
    (member : item ∈ inventory.rows) :
    getItem inventory item.identifier.val = some item := by
  unfold getItem
  rw [identifier?_val, Option.bind_some]
  exact inventory.find?_eq_some_iff.mpr ⟨member, rfl⟩

/-- What a lookup reads of an item. -/
def listed
    (library : TextLibrary)
    (upsertKind : UpsertKind Body Payload)
    (item : Item Identifier Body) : ListedItem where
  values :=
    [library.casefold item.identifier.val,
      library.casefold (upsertKind.nameOf library item),
      library.casefold item.identifier.val]
  identifier := item.identifier.val
  name := upsertKind.nameOf library item

theorem listedItem?_listing (item : Item Identifier Body) :
    listedItem? library upsertKind.parentIdentifier
        (item.identifier.val,
          .obj
            (Dictionary.set "identifier" (.str item.identifier.val)
              (upsertKind.fieldsOf item.body))) =
      if upsertKind.inParent library item then
        some (upsertKind.listed library item)
      else
        none := by
  have ⟨nonempty, isClean⟩ := item.identifier.property
  have others :
      ∀ key ≠ "identifier",
        cleanField library
            (Dictionary.set "identifier" (.str item.identifier.val)
              (upsertKind.fieldsOf item.body)) key =
          cleanField library (upsertKind.fieldsOf item.body) key := by
    intro key differs
    unfold cleanField getField fieldOr
    rw [Dictionary.lookup_set_other differs]
  have own :
      cleanField library
          (Dictionary.set "identifier" (.str item.identifier.val)
            (upsertKind.fieldsOf item.body)) "identifier" =
        item.identifier.val := by
    unfold cleanField getField fieldOr
    rw [Dictionary.lookup_set_self]
    exact isClean
  unfold listed listedItem? inParent nameOf mappingFields
  dsimp only
  rw [own, others "name" (by decide), others "parentIdentifier" (by decide),
    isClean, orText_of_ne nonempty]
  by_cases noParent : upsertKind.parentIdentifier = ""
  · simp [noParent]
  · by_cases same :
        cleanField library (upsertKind.fieldsOf item.body)
            "parentIdentifier" =
          upsertKind.parentIdentifier
    · simp [same]
    · simp [noParent, same]

theorem ne_of_normalized
    (folds : library.FoldsNonempty)
    {candidates : List String}
    (isCandidate : candidate ∈ normalizedCandidates library candidates) :
    candidate ≠ library.casefold "" := by
  obtain ⟨text, member, rfl⟩ := List.mem_map.mp isCandidate
  have nonempty : strip text ≠ "" :=
    of_decide_eq_true (List.mem_filter.mp member).2
  exact fun same => nonempty (folds _ same)

theorem mem_namesOf_iff
    (isText : candidate ≠ library.casefold "")
    (item : Item Identifier Body) :
    candidate ∈ upsertKind.namesOf library item ↔
      upsertKind.inParent library item = true ∧
        candidate ∈
          [library.casefold item.identifier.val,
            library.casefold (upsertKind.nameOf library item),
            library.casefold item.identifier.val] := by
  unfold namesOf
  generalize upsertKind.nameOf library item = name
  by_cases inside : upsertKind.inParent library item = true
  · rw [if_pos inside]
    by_cases unnamed : name = ""
    · rw [if_pos unnamed, unnamed]
      simp [inside, isText]
    · rw [if_neg unnamed]
      simp only [inside, List.mem_cons, List.not_mem_nil, or_false, true_and]
      tauto
  · simp [inside]

/-- Rows are found among those that are shown. -/
theorem find?_filterMap_shown
    {Row Shown : Type*}
    {view : Row → Option Shown}
    {shown : Row → Shown}
    {inside : Row → Prop}
    [DecidablePred inside]
    {test : Shown → Bool}
    {named : Row → Bool}
    (views : ∀ row, view row = if inside row then some (shown row) else none)
    (names : ∀ row, named row = true ↔ inside row ∧ test (shown row) = true)
    (rows : List Row) :
    (rows.filterMap view).find? test = (rows.find? named).map shown := by
  have sameTest : (fun row => (view row).any test) = named := by
    funext row
    rw [views, Bool.eq_iff_iff, names]
    by_cases isInside : inside row
    · simp [isInside]
    · simp [isInside]
  rw [List.find?_filterMap, sameTest]
  cases found : rows.find? named with
  | none =>
    rfl
  | some row =>
    exact (views row).trans (if_pos ((names row).mp (List.find?_some found)).1)

/-- The item that a candidate is found under. -/
theorem find?_listing
    (isText : candidate ≠ library.casefold "")
    (name : String) :
    ((listing upsertKind.fieldsOf inventory).filterMap
        (listedItem? library upsertKind.parentIdentifier)).find?
        (fun item => decide (candidate ∈ item.values)) =
      ((upsertKind.scheme library name).named inventory.rows
          candidate).map (upsertKind.listed library) := by
  unfold listing
  rw [List.filterMap_map]
  have isNamed (item : Item Identifier Body) :
      candidate ∈ upsertKind.namesOf library item ↔ _ :=
    mem_namesOf_iff isText item
  refine find?_filterMap_shown listedItem?_listing (fun item => ?_) _
  exact decide_eq_true_iff.trans
    ((isNamed item).trans (and_congr_right' decide_eq_true_iff.symm))

theorem resolve_eq
    (folds : library.FoldsNonempty)
    (candidates : List String)
    (name : String) :
    upsertKind.resolve library inventory candidates =
      match
          (upsertKind.scheme library name).resolve inventory
            (normalizedCandidates library candidates) with
      | some item =>
        (item.identifier.val, upsertKind.nameOf library item)
      | none => ("", "") := by
  have lookups :
      ∀ normalized : List String,
        (∀ candidate ∈ normalized, candidate ≠ library.casefold "") →
        (normalized.findSome? fun candidate =>
            ((listing upsertKind.fieldsOf inventory).filterMap
              (listedItem? library upsertKind.parentIdentifier)).find?
              fun item => decide (candidate ∈ item.values)) =
          ((upsertKind.scheme library name).resolve inventory
              normalized).map (upsertKind.listed library) := by
    intro normalized areTexts
    unfold Scheme.resolve
    induction normalized with
    | nil =>
      rfl
    | cons candidate rest inductionHypothesis =>
      rw [List.findSome?_cons, List.findSome?_cons,
        find?_listing (areTexts candidate List.mem_cons_self) name,
        inductionHypothesis fun other member =>
          areTexts other (List.mem_cons_of_mem _ member)]
      cases (upsertKind.scheme library name).named inventory.rows candidate with
      | none => rfl
      | some item => rfl
  unfold resolve resolveIdentifier
  dsimp only
  rw [lookups _ fun _ => ne_of_normalized folds]
  cases (upsertKind.scheme library name).resolve inventory
      (normalizedCandidates library candidates) with
  | none => rfl
  | some item => rfl

/-! ### Runs -/

/-- The requests of an upsert. -/
def requestsOf (kind : ResourceKind) : Action → List WriteRequest
  | .reused => []
  | .updated => [.put kind]
  | .created => [.post kind]

/-- The name and the payload that are reported of an item. -/
def reportFor
    (library : TextLibrary)
    (upsertKind : UpsertKind Body Payload)
    (name : String) : Option (Item Identifier Body) → String
  | some item =>
    upsertKind.reportedName (upsertKind.nameOr library item.body name)
      (upsertKind.payloadFor library name item)
  | none =>
    upsertKind.reportedName name (upsertKind.payload name "" upsertKind.blank)

/-- An upsert, as far as it is a run of the library. -/
def runOf
    (library : TextLibrary)
    (upsertKind : UpsertKind Body Payload)
    (inventory : Inventory Identifier Body)
    (unused : Identifier)
    (given : Option Identifier)
    (name : String)
    (names : List String) : Upserted Body :=
  let scheme := upsertKind.scheme library name
  let outcome := scheme.run inventory given names unused
  { inventory := outcome.inventory
    requests := requestsOf upsertKind.kind outcome.action
    result :=
      some (outcome.action,
          { identifier := outcome.item.identifier.val
            name :=
              reportFor library upsertKind name
                (scheme.find inventory given names) }) }

theorem send_of_mem
    (member : item ∈ inventory.rows)
    (unused : Identifier)
    (candidates : List String)
    {name text : String}
    (isName : upsertKind.nameOr library item.body name = text)
    {names : List String}
    (found :
      (upsertKind.scheme library name).find inventory given names = some item) :
    upsertKind.send library inventory unused candidates
        item.identifier.val text item.body =
      runOf library upsertKind inventory unused given name names := by
  obtain rfl := isName
  have nonempty := item.identifier.property.1
  have payload :
      upsertKind.payload (upsertKind.nameOr library item.body name)
          item.identifier.val item.body =
        upsertKind.payloadFor library name item :=
    rfl
  unfold send runOf Scheme.run
  dsimp only
  rw [found, if_neg nonempty, payload]
  by_cases settled :
      upsertKind.payloadMatches (upsertKind.payloadFor library name item)
          item.body =
        true
  · have isSettled : (upsertKind.scheme library name).settled item = true :=
      settled
    rw [if_pos settled]
    dsimp only
    rw [if_pos isSettled]
    rfl
  · have isUnsettled : ¬ (upsertKind.scheme library name).settled item = true :=
      settled
    have isPut :
        putItem inventory item.identifier.val
            (upsertKind.stored (upsertKind.payloadFor library name item)) =
          some ((upsertKind.scheme library name).update inventory item) := by
      unfold putItem
      rw [getItem_of_mem member]
      rfl
    rw [if_neg settled, isPut]
    dsimp only
    rw [if_neg isUnsettled]
    rfl

theorem send_of_none
    (unused : Identifier)
    (candidates : List String)
    (name : String)
    {names : List String}
    (absent :
      (upsertKind.scheme library name).find inventory given names = none) :
    upsertKind.send library inventory unused candidates "" name
        upsertKind.blank =
      runOf library upsertKind inventory unused given name names := by
  unfold send runOf Scheme.run
  dsimp only
  rw [absent, if_pos rfl]
  rfl

/-- The candidates that an upsert looks up; a name is one, where an
identifier has led nowhere. -/
def candidatesFor
    (library : TextLibrary)
    (identifier name : String)
    (candidates : List String) : List String :=
  normalizedCandidates library
    (if identifier = "" then candidates
      else uniqueStrings library ((candidates ++ [name]).map .str))

theorem nameOr_orText (item : Item Identifier Body) (name : String) :
    upsertKind.nameOr library item.body
        (orText (upsertKind.nameOf library item) name) =
      upsertKind.nameOr library item.body name := by
  unfold nameOr nameOf
  generalize cleanField library (upsertKind.fieldsOf item.body) "name" = own
  by_cases unnamed : own = ""
  · rw [unnamed, orText_empty_left, orText_empty_left]
  · rw [orText_of_ne unnamed, orText_of_ne unnamed]

theorem getItem_eq_some
    {identifier : String}
    (found : getItem inventory identifier = some item) :
    item ∈ inventory.rows ∧ item.identifier.val = identifier := by
  obtain ⟨named, isIdentifier, stored⟩ := Option.bind_eq_some_iff.mp found
  obtain ⟨member, same⟩ := inventory.find?_eq_some_iff.mp stored
  refine ⟨member, ?_⟩
  rw [same]
  unfold identifier? at isIdentifier
  split at isIdentifier
  · exact congrArg Subtype.val (Option.some.inj isIdentifier).symm
  · cases isIdentifier

/-- What is resolved is sent as `runOf` sends it. -/
theorem resolve_cases
    (folds : library.FoldsNonempty)
    (unused : Identifier)
    (sent : List String)
    (name : String)
    (noneGiven : given.bind inventory.find? = none)
    (candidates : List String) :
    let run :=
      runOf library upsertKind inventory unused given name
        (normalizedCandidates library candidates)
    let send := upsertKind.send library inventory unused sent
    (upsertKind.resolve library inventory candidates = ("", "") ∧
        send "" name upsertKind.blank = run) ∨
      ∃ item ∈ inventory.rows,
        upsertKind.resolve library inventory candidates =
            (item.identifier.val, upsertKind.nameOf library item) ∧
          send item.identifier.val
              (upsertKind.nameOr library item.body
                (orText (upsertKind.nameOf library item) name))
              item.body =
            run := by
  have finds :=
    @Scheme.find_of_none _ _ _ _ _ (upsertKind.scheme library name)
      inventory given noneGiven (normalizedCandidates library candidates)
  rw [resolve_eq folds candidates name]
  cases found :
      (upsertKind.scheme library name).resolve inventory
        (normalizedCandidates library candidates) with
  | none =>
    exact .inl ⟨rfl, send_of_none unused sent name (finds.trans found)⟩
  | some item =>
    have member := Scheme.mem_of_resolve found
    refine .inr ⟨item, member, rfl, ?_⟩
    exact
      send_of_mem member unused sent (nameOr_orText item name).symm
        (finds.trans found)

/-- An upsert finds an item or creates one. -/
theorem upsert_eq_runOf
    (folds : library.FoldsNonempty)
    (unused : Identifier)
    (identifier name : String)
    (candidates : List String) :
    upsertKind.upsert library inventory unused identifier name
        candidates =
      runOf library upsertKind inventory unused (identifier? identifier)
        name (candidatesFor library identifier name candidates) := by
  unfold upsert candidatesFor
  by_cases noIdentifier : identifier = ""
  · have noneGiven : (identifier? identifier).bind inventory.find? = none := by
      rw [noIdentifier]
      rfl
    rw [if_pos noIdentifier, if_pos noIdentifier]
    rcases
        @resolve_cases _ _ _ upsertKind inventory _ folds unused candidates
          name noneGiven candidates with
      ⟨resolved, sends⟩ | ⟨item, member, resolved, sends⟩
    · rw [resolved]
      dsimp only
      rw [if_pos rfl, orText_empty_left]
      exact sends
    · rw [resolved]
      dsimp only
      rw [if_neg item.identifier.property.1, getItem_of_mem member]
      exact sends
  · rw [if_neg noIdentifier, if_neg noIdentifier]
    dsimp only
    rw [if_neg noIdentifier]
    cases found : getItem inventory identifier with
    | none =>
      unfold resolveStale
      rcases
          @resolve_cases _ _ _ upsertKind inventory _ folds unused candidates
            name found
            (uniqueStrings library ((candidates ++ [name]).map .str)) with
        ⟨resolved, sends⟩ | ⟨item, member, resolved, sends⟩
      · rw [resolved]
        exact sends
      · rw [resolved]
        dsimp only
        rw [if_neg item.identifier.property.1, getItem_of_mem member]
        exact sends
    | some item =>
      obtain ⟨member, same⟩ := getItem_eq_some found
      have finds :
          (upsertKind.scheme library name).find inventory
              (identifier? identifier)
              (normalizedCandidates library
                (uniqueStrings library ((candidates ++ [name]).map .str))) =
            some item :=
        Option.or_eq_some_iff.mpr (.inl found)
      dsimp only
      rw [← same] at finds ⊢
      exact send_of_mem member unused candidates rfl finds

end UpsertKind

end RpaPlatform.Agents
