import RpaPlatform.KeyedTable

namespace RpaPlatform.FindOrCreate

/-!
# Find or create

An item of an inventory is looked up under an identifier, and then under a
list of names, in their order.  The item that is found is written unless it is
settled; where none is found, one is created.  Doing so twice writes once,
where what has been written is settled, keeps its names, and is found.
-/

universe u v w

variable {Id : Type u} {Name : Type v} {Body : Type w}

/-- An item of an inventory. -/
structure Item (Id : Type u) (Body : Type w) where
  identifier : Id
  body : Body

/-- The items, one for each identifier. -/
abbrev Inventory (Id : Type u) (Body : Type w) :=
  KeyedTable (Item Id Body) Item.identifier

/-- What is wanted of an item. -/
structure Scheme (Id : Type u) (Name : Type v) (Body : Type w) where
  /-- The names that an item is found under. -/
  names : Item Id Body → List Name
  settled : Item Id Body → Bool
  /-- What is written to an item that is not settled. -/
  rewritten : Item Id Body → Body
  /-- What is created where no item is found. -/
  created : Body

/-- What was done. -/
inductive Action where
  | reused
  | updated
  | created
  deriving DecidableEq, Repr

/-- The inventory afterwards, and the item that is there now. -/
structure Outcome (Id : Type u) (Body : Type w) where
  inventory : Inventory Id Body
  action : Action
  item : Item Id Body

namespace Scheme

variable (scheme : Scheme Id Name Body)

def rewrite (item : Item Id Body) : Item Id Body :=
  { item with body := scheme.rewritten item }

/-- What is written is settled, and is found under the same names. -/
structure Lawful : Prop where
  settled_rewrite : ∀ item, scheme.settled (scheme.rewrite item) = true
  settled_created :
    ∀ identifier, scheme.settled ⟨identifier, scheme.created⟩ = true
  names_rewrite : ∀ item, scheme.names item ⊆ scheme.names (scheme.rewrite item)

variable [DecidableEq Id] [DecidableEq Name]

def named (items : List (Item Id Body)) (name : Name) :
    Option (Item Id Body) :=
  items.find? fun item => decide (name ∈ scheme.names item)

/-- The first item with the first of the names that any item has. -/
def resolve (inventory : Inventory Id Body) (names : List Name) :
    Option (Item Id Body) :=
  names.findSome? (scheme.named inventory.rows)

/-- The item under an identifier, if one is given, or else under a name. -/
def find
    (inventory : Inventory Id Body)
    (given : Option Id)
    (names : List Name) : Option (Item Id Body) :=
  (given.bind inventory.find?).or (scheme.resolve inventory names)

/-- The inventory after an item has been written. -/
def update (inventory : Inventory Id Body) (item : Item Id Body) :
    Inventory Id Body :=
  inventory.modify item.identifier
    (fun stored => { stored with body := scheme.rewritten item })
    fun _ => rfl

/-- Find an item and write it, or create one. -/
def run
    (inventory : Inventory Id Body)
    (given : Option Id)
    (names : List Name)
    (unused : Id) : Outcome Id Body :=
  match scheme.find inventory given names with
  | some item =>
    if scheme.settled item then
      ⟨inventory, .reused, item⟩
    else
      ⟨scheme.update inventory item, .updated, scheme.rewrite item⟩
  | none =>
    ⟨inventory.replace ⟨unused, scheme.created⟩, .created,
      ⟨unused, scheme.created⟩⟩

end Scheme

/-! ### Finding -/

namespace Scheme

variable
    [DecidableEq Id]
    [DecidableEq Name]
    {scheme : Scheme Id Name Body}
    {inventory : Inventory Id Body}
    {item : Item Id Body}

variable
    {name : Name}
    {names : List Name}
    {given : Option Id}
    {unused : Id}

omit [DecidableEq Id] in
theorem mem_of_named
    (found : scheme.named inventory.rows name = some item) :
    item ∈ inventory.rows :=
  List.mem_of_find?_eq_some found

omit [DecidableEq Id] in
theorem mem_of_resolve
    (found : scheme.resolve inventory names = some item) :
    item ∈ inventory.rows := by
  obtain ⟨name, -, isNamed⟩ := List.exists_of_findSome?_eq_some found
  exact mem_of_named isNamed

theorem find_of_none
    {given : Option Id}
    (noneGiven : given.bind inventory.find? = none)
    (names : List Name) :
    scheme.find inventory given names = scheme.resolve inventory names := by
  unfold find
  rw [noneGiven, Option.none_or]

/-! ### Finding what has been written -/

omit [DecidableEq Name] in
theorem rows_update (member : item ∈ inventory.rows) :
    (scheme.update inventory item).rows =
      inventory.rows.map fun stored =>
        if stored.identifier = item.identifier then scheme.rewrite item
        else stored := by
  refine List.map_congr_left fun stored isStored => ?_
  by_cases same : stored.identifier = item.identifier
  · rw [if_pos same, if_pos same, inventory.eq_of_key isStored member same]
    rfl
  · rw [if_neg same, if_neg same]

theorem named_update
    (lawful : scheme.Lawful)
    (found : scheme.named inventory.rows name = some item) :
    scheme.named (scheme.update inventory item).rows name =
      some (scheme.rewrite item) := by
  have member := mem_of_named found
  unfold named at found ⊢
  obtain ⟨isNamed, earlier, later, split, others⟩ :=
    List.find?_eq_some_iff_append.mp found
  rw [rows_update member, List.find?_map]
  have stillNamed : name ∈ scheme.names (scheme.rewrite item) :=
    lawful.names_rewrite item (of_decide_eq_true isNamed)
  refine Option.map_eq_some_iff.mpr ⟨item, ?_, if_pos rfl⟩
  refine List.find?_eq_some_iff_append.mpr ⟨?_, earlier, later, split, ?_⟩
  · rw [Function.comp_apply, if_pos rfl]
    exact decide_eq_true stillNamed
  · intro other isEarlier
    have differs : other.identifier ≠ item.identifier := by
      intro same
      have isStored : other ∈ inventory.rows := by
        rw [split]
        exact List.mem_append_left _ isEarlier
      have isItem := inventory.eq_of_key isStored member same
      have notNamed := others other isEarlier
      rw [isItem, isNamed] at notNamed
      cases notNamed
    rw [Function.comp_apply, if_neg differs]
    exact others other isEarlier

theorem named_update_of_none
    (member : item ∈ inventory.rows)
    (absent : scheme.named inventory.rows name = none) :
    scheme.named (scheme.update inventory item).rows name =
        some (scheme.rewrite item) ∨
      scheme.named (scheme.update inventory item).rows name = none := by
  cases found : scheme.named (scheme.update inventory item).rows name with
  | none =>
    exact .inr rfl
  | some other =>
    left
    have isNamed := List.find?_some found
    have isStored := mem_of_named found
    rw [rows_update member] at isStored
    obtain ⟨stored, wasStored, rfl⟩ := List.mem_map.mp isStored
    by_cases same : stored.identifier = item.identifier
    · rw [if_pos same]
    · rw [if_neg same] at isNamed
      exact absurd isNamed (List.find?_eq_none.mp absent stored wasStored)

theorem resolve_update
    (lawful : scheme.Lawful)
    (found : scheme.resolve inventory names = some item) :
    scheme.resolve (scheme.update inventory item) names =
      some (scheme.rewrite item) := by
  have member := mem_of_resolve found
  unfold resolve at found ⊢
  induction names with
  | nil =>
    cases found
  | cons name rest inductionHypothesis =>
    rw [List.findSome?_cons] at found ⊢
    cases isNamed : scheme.named inventory.rows name with
    | some first =>
      rw [isNamed] at found
      cases found
      rw [named_update lawful isNamed]
    | none =>
      rw [isNamed] at found
      rcases named_update_of_none member isNamed with again | still
      · rw [again]
      · rw [still]
        exact inductionHypothesis found

theorem find_update
    (lawful : scheme.Lawful)
    (found : scheme.find inventory given names = some item) :
    scheme.find (scheme.update inventory item) given names =
      some (scheme.rewrite item) := by
  rcases Option.or_eq_some_iff.mp found with isGiven | ⟨isNone, isNamed⟩
  · obtain ⟨identifier, rfl, isStored⟩ := Option.bind_eq_some_iff.mp isGiven
    have isKey := KeyedTable.key_of_find? isStored
    refine Option.or_eq_some_iff.mpr (.inl ?_)
    rw [Option.bind_some, update, KeyedTable.find?_modify, if_pos isKey,
      isStored]
    rfl
  · refine Option.or_eq_some_iff.mpr (.inr ⟨?_, resolve_update lawful isNamed⟩)
    cases given with
    | none =>
      rfl
    | some identifier =>
      rw [Option.bind_some] at isNone ⊢
      rw [update, KeyedTable.find?_modify, isNone]
      simp

/-! ### Finding what has been created -/

theorem rows_created
    (isUnused : inventory.find? unused = none)
    (body : Body) :
    (inventory.replace ⟨unused, body⟩).rows =
      inventory.rows ++ [⟨unused, body⟩] := by
  have kept : (inventory.delete unused).rows = inventory.rows :=
    List.filter_eq_self.mpr fun stored isStored =>
      decide_eq_true (inventory.find?_eq_none_iff.mp isUnused stored isStored)
  exact congrArg (· ++ [⟨unused, body⟩]) kept

theorem resolve_created
    (isUnused : inventory.find? unused = none)
    (absent : scheme.resolve inventory names = none) :
    scheme.resolve (inventory.replace ⟨unused, scheme.created⟩) names =
      if ∃ name ∈ names, name ∈ scheme.names ⟨unused, scheme.created⟩ then
        some ⟨unused, scheme.created⟩
      else
        none := by
  unfold resolve at absent ⊢
  rw [rows_created isUnused]
  induction names with
  | nil =>
    simp
  | cons name rest inductionHypothesis =>
    rw [List.findSome?_cons] at absent ⊢
    cases isNamed : scheme.named inventory.rows name with
    | some first =>
      rw [isNamed] at absent
      cases absent
    | none =>
      rw [isNamed] at absent
      have appended :
          scheme.named
              (inventory.rows ++ [⟨unused, scheme.created⟩]) name =
            if name ∈ scheme.names ⟨unused, scheme.created⟩ then
              some ⟨unused, scheme.created⟩
            else
              none := by
        unfold named at isNamed ⊢
        rw [List.find?_append, isNamed, Option.none_or, List.find?_singleton]
        simp only [decide_eq_true_iff]
      rw [appended, inductionHypothesis absent]
      by_cases isName : name ∈ scheme.names ⟨unused, scheme.created⟩
      · simp [isName]
      · simp [isName]

theorem find_created
    (isUnused : inventory.find? unused = none)
    (absent : scheme.find inventory given names = none) :
    scheme.find (inventory.replace ⟨unused, scheme.created⟩) given names =
      if given = some unused ∨
          ∃ name ∈ names, name ∈ scheme.names ⟨unused, scheme.created⟩
      then
        some ⟨unused, scheme.created⟩
      else
        none := by
  obtain ⟨isNone, notNamed⟩ := Option.or_eq_none_iff.mp absent
  unfold find
  rw [resolve_created isUnused notNamed]
  cases given with
  | none =>
    simp
  | some identifier =>
    rw [Option.bind_some] at isNone
    rw [Option.bind_some, KeyedTable.find?_replace, isNone]
    by_cases same : unused = identifier
    · simp [same]
    · have differs : ¬ some identifier = some unused := fun equal =>
        same (Option.some.inj equal).symm
      rw [if_neg same, Option.none_or]
      simp only [differs, false_or]

/-! ### Twice -/

/-- An item that is found or created will be found again. -/
def Recognizes
    (inventory : Inventory Id Body)
    (scheme : Scheme Id Name Body)
    (given : Option Id)
    (names : List Name)
    (unused : Id) : Prop :=
  (scheme.find inventory given names).isSome = true ∨
    given = some unused ∨
      ∃ name ∈ names, name ∈ scheme.names ⟨unused, scheme.created⟩

theorem run_of_found
    (found : scheme.find inventory given names = some item)
    (unused : Id) :
    scheme.run inventory given names unused = if scheme.settled item then
        ⟨inventory, .reused, item⟩
      else
        ⟨scheme.update inventory item, .updated, scheme.rewrite item⟩ := by
  unfold run
  rw [found]

theorem run_of_absent
    (absent : scheme.find inventory given names = none)
    (unused : Id) :
    scheme.run inventory given names unused =
      ⟨inventory.replace ⟨unused, scheme.created⟩, .created,
        ⟨unused, scheme.created⟩⟩ := by
  unfold run
  rw [absent]

theorem find_run
    (lawful : scheme.Lawful)
    (isUnused : inventory.find? unused = none)
    (recognizes : Recognizes inventory scheme given names unused) :
    scheme.find (scheme.run inventory given names unused).inventory given
        names =
      some (scheme.run inventory given names unused).item := by
  cases found : scheme.find inventory given names with
  | some item =>
    rw [run_of_found found]
    by_cases settled : scheme.settled item = true
    · rw [if_pos settled]
      exact found
    · rw [if_neg settled]
      exact find_update lawful found
  | none =>
    rw [run_of_absent found, find_created isUnused found]
    rw [Recognizes, found] at recognizes
    exact if_pos (recognizes.resolve_left Bool.false_ne_true)

theorem settled_run
    (lawful : scheme.Lawful)
    (given : Option Id)
    (names : List Name)
    (unused : Id) :
    scheme.settled (scheme.run inventory given names unused).item = true := by
  cases found : scheme.find inventory given names with
  | some item =>
    rw [run_of_found found]
    by_cases settled : scheme.settled item = true
    · rw [if_pos settled]
      exact settled
    · rw [if_neg settled]
      exact lawful.settled_rewrite item
  | none =>
    rw [run_of_absent found]
    exact lawful.settled_created unused

theorem run_run
    (lawful : scheme.Lawful)
    (isUnused : inventory.find? unused = none)
    (recognizes : Recognizes inventory scheme given names unused)
    (later : Id) :
    scheme.run (scheme.run inventory given names unused).inventory given
        names later =
      { scheme.run inventory given names unused with action := .reused } := by
  rw [run_of_found (find_run lawful isUnused recognizes),
    if_pos (settled_run lawful given names unused)]

theorem action_run_run
    (isUnused : inventory.find? unused = none)
    (unrecognized : ¬ Recognizes inventory scheme given names unused)
    (later : Id) :
    (scheme.run (scheme.run inventory given names unused).inventory given
        names later).action = .created := by
  unfold Recognizes at unrecognized
  rw [not_or] at unrecognized
  have found : scheme.find inventory given names = none := by
    rw [← Option.not_isSome_iff_eq_none]
    exact unrecognized.1
  have again := find_created isUnused found
  rw [if_neg unrecognized.2] at again
  rw [run_of_absent found, run_of_absent again]

end Scheme

end RpaPlatform.FindOrCreate
