import RpaPlatform.Dictionary

namespace RpaPlatform.Telemetry

/-!
# Native paths and drive letters

Native paths begin with the name of a device.  The agent replaces the name of
the first device that a path begins with by the letter of its drive, without
looking at what follows.  That is right when the path goes on with a backslash
and no other device stands before it.
-/

/-! ### The drive map -/

/-- The drives by the names of their devices; no drive has two devices. -/
structure DriveMap where
  entries : List (String × Char)
  distinctDevices : (entries.map Prod.fst).Nodup
  distinctDrives : (entries.map Prod.snd).Nodup
  letters : ∀ entry ∈ entries, entry.2 ≠ '\\'

/-- `"ABCDEFGHIJKLMNOPQRSTUVWXYZ"`. -/
def driveLetters : List Char :=
  "ABCDEFGHIJKLMNOPQRSTUVWXYZ".toList

section Build

variable
    (lower : String → String)
    (queryDosDevice : Char → Option (List String))

/-- Ask for the device of a drive; the question may raise. -/
def addDrive
    (map : List (String × Char))
    (letter : Char) : List (String × Char) :=
  match queryDosDevice letter with
  | some (device :: _) => Dictionary.set (lower device) letter map
  | _ => map

variable {map : List (String × Char)}

theorem nodup_values_set
    (distinct : (map.map Prod.snd).Nodup)
    (key : String)
    {value : Char}
    (isNew : value ∉ map.map Prod.snd) :
    ((Dictionary.set key value map).map Prod.snd).Nodup ∧
      ∀ other ∈ (Dictionary.set key value map).map Prod.snd,
        other = value ∨ other ∈ map.map Prod.snd := by
  induction map with
  | nil =>
    simp [Dictionary.set]
  | cons first rest inductionHypothesis =>
    rw [List.map_cons, List.nodup_cons] at distinct
    rw [List.map_cons, List.mem_cons, not_or] at isNew
    obtain ⟨distinctRest, known⟩ := inductionHypothesis distinct.2 isNew.2
    rw [Dictionary.set]
    split
    · refine ⟨List.nodup_cons.mpr ⟨isNew.2, distinct.2⟩, ?_⟩
      intro other member
      rcases List.mem_cons.mp member with same | later
      · exact .inl same
      · exact .inr (List.mem_cons_of_mem _ later)
    · refine ⟨List.nodup_cons.mpr ⟨?_, distinctRest⟩, ?_⟩
      · intro member
        rcases known _ member with same | earlier
        · exact isNew.1 same.symm
        · exact distinct.1 earlier
      · intro other member
        rcases List.mem_cons.mp member with same | later
        · exact .inr (same ▸ List.mem_cons_self)
        · exact (known other later).imp_right (List.mem_cons_of_mem _)

/-- What has been built of the letters so far. -/
structure BuiltOf
    (letters : List Char)
    (map : List (String × Char)) : Prop where
  distinctDevices : (map.map Prod.fst).Nodup
  distinctDrives : (map.map Prod.snd).Nodup
  known : ∀ letter ∈ map.map Prod.snd, letter ∈ letters

theorem builtOf_addDrive
    {letters : List Char}
    (built : BuiltOf letters map)
    {letter : Char}
    (isNew : letter ∉ letters) :
    BuiltOf (letters ++ [letter])
      (addDrive lower queryDosDevice map letter) := by
  unfold addDrive
  split
  · rename_i device _ _
    obtain ⟨distinct, known⟩ :=
      nodup_values_set built.distinctDrives (lower device)
        fun member => isNew (built.known letter member)
    refine ⟨Dictionary.nodup_keys_set _ _ built.distinctDevices, distinct, ?_⟩
    intro other member
    rcases known other member with rfl | earlier
    · simp
    · exact List.mem_append_left _ (built.known other earlier)
  · refine ⟨built.distinctDevices, built.distinctDrives, ?_⟩
    exact fun other member =>
      List.mem_append_left _ (built.known other member)

theorem builtOf_foldl
    {letters rest : List Char}
    (distinct : (letters ++ rest).Nodup)
    (built : BuiltOf letters map) :
    BuiltOf (letters ++ rest)
      (rest.foldl (addDrive lower queryDosDevice) map) := by
  induction rest generalizing letters map with
  | nil =>
    simpa using built
  | cons letter rest inductionHypothesis =>
    have isNew : letter ∉ letters := fun member =>
      (List.nodup_append.mp distinct).2.2 letter member letter
        List.mem_cons_self rfl
    rw [List.append_cons] at distinct ⊢
    exact
      inductionHypothesis distinct
        (builtOf_addDrive lower queryDosDevice built isNew)

def buildDriveMap : DriveMap :=
  have built :=
    builtOf_foldl lower queryDosDevice
      (show ([] ++ driveLetters).Nodup by decide)
      ⟨by simp, by simp, by simp⟩
  { entries := driveLetters.foldl (addDrive lower queryDosDevice) []
    distinctDevices := built.distinctDevices
    distinctDrives := built.distinctDrives
    letters := fun entry member same => by
      have isLetter := built.known entry.2 (List.mem_map_of_mem member)
      rw [same] at isLetter
      revert isLetter
      decide }

end Build

/-! ### Resolving a path -/

variable (lower : String → String)

def beginsWith (path device : String) : Bool :=
  (lower device).toList.isPrefixOf (lower path).toList

def onDrive (letter : Char) (rest : List Char) : String :=
  String.ofList (letter :: ':' :: rest)

def resolveDevicePath (map : DriveMap) (path : String) : String :=
  if path = "" then
    path
  else
    match map.entries.find? fun entry => beginsWith lower path entry.1 with
    | some (device, letter) => onDrive letter (path.toList.drop device.length)
    | none => path

/-! ### Devices in paths -/

/-- A path is a device, in any case, or continues it with a backslash. -/
def Continues (path device : String) (rest : List Char) : Prop :=
  ∃ part,
    path.toList = part ++ rest ∧
      lower (String.ofList part) = lower device ∧
        (rest = [] ∨ rest.head? = some '\\')

def LowersAround : Prop :=
  ∀ before after : String,
    lower (before ++ "\\" ++ after) = lower before ++ "\\" ++ lower after

/--
A path is resolved: the device that it is or continues is replaced by a drive,
and a path of no device is unchanged.
-/
def Resolves (map : DriveMap) (path result : String) : Prop :=
  (∃ entry ∈ map.entries, ∃ rest,
      Continues lower path entry.1 rest ∧ result = onDrive entry.2 rest) ∨
    (∀ entry ∈ map.entries, ∀ rest, ¬ Continues lower path entry.1 rest) ∧
      result = path

/-- A path is resolved, whatever the order of the drive map. -/
def ResolvesInAnyOrder (map : DriveMap) (path : String) : Prop :=
  ∀ order : DriveMap, order.entries.Perm map.entries →
    Resolves lower map path (resolveDevicePath lower order path) ∧
      resolveDevicePath lower order path = resolveDevicePath lower map path

/--
A path begins with one device at most, and with that it goes on with a
backslash or ends.
-/
def SingleDevice (map : DriveMap) (path : String) : Prop :=
  ∀ entry ∈ map.entries, beginsWith lower path entry.1 = true →
    lower (String.ofList (path.toList.take entry.1.length)) =
        lower entry.1 ∧
      (path.toList.drop entry.1.length = [] ∨
        (path.toList.drop entry.1.length).head? = some '\\') ∧
      ∀ other ∈ map.entries, beginsWith lower path other.1 = true →
        other = entry

variable {lower}

theorem beginsWith_of_continues
    (lowers : LowersAround lower)
    {path device : String}
    {rest : List Char}
    (continues : Continues lower path device rest) :
    beginsWith lower path device = true := by
  obtain ⟨part, isPath, isDevice, ended⟩ := continues
  rw [beginsWith, List.isPrefixOf_iff_prefix]
  have path_eq : path = String.ofList part ++ String.ofList rest := by
    rw [← String.ofList_append, ← isPath, String.ofList_toList]
  rcases rest with _ | ⟨character, rest⟩
  · have same : path = String.ofList part := by
      rw [path_eq]
      simp
    have alike : lower path = lower device := same ▸ isDevice
    exact alike ▸ List.prefix_rfl
  · obtain rfl : character = '\\' := by
      simpa using ended
    have around : path = String.ofList part ++ "\\" ++ String.ofList rest := by
      rw [path_eq, ← String.toList_inj]
      simp
    rw [around, lowers, isDevice, String.toList_append, String.toList_append,
      List.append_assoc]
    exact List.prefix_append _ _

theorem onDrive_ne
    {map : DriveMap}
    {path : String}
    (native : path.toList.head? = some '\\')
    {entry : String × Char}
    (member : entry ∈ map.entries)
    (rest : List Char) :
    onDrive entry.2 rest ≠ path := by
  rintro rfl
  rw [onDrive, String.toList_ofList, List.head?_cons,
    Option.some.injEq] at native
  exact map.letters entry member native

theorem onDrive_inj
    {first second : Char}
    {rest others : List Char}
    (same : onDrive first rest = onDrive second others) :
    first = second ∧ rest = others := by
  have characters := String.ofList_injective same
  simp only [List.cons.injEq] at characters
  exact ⟨characters.1, characters.2.2⟩

theorem DriveMap.eq_of_drive
    (map : DriveMap)
    {first second : String × Char}
    (isFirst : first ∈ map.entries)
    (isSecond : second ∈ map.entries)
    (same : first.2 = second.2) :
    first = second :=
  List.inj_on_of_nodup_map map.distinctDrives isFirst isSecond same

/-- The same drives in another order. -/
def DriveMap.reordered
    (map : DriveMap)
    {entries : List (String × Char)}
    (same : entries.Perm map.entries) : DriveMap where
  entries := entries
  distinctDevices :=
    ((same.map Prod.fst).nodup_iff).mpr map.distinctDevices
  distinctDrives := ((same.map Prod.snd).nodup_iff).mpr map.distinctDrives
  letters entry member := map.letters entry (same.mem_iff.mp member)

theorem resolveDevicePath_first
    {map : DriveMap}
    {path : String}
    (nonempty : path ≠ "")
    {entry : String × Char}
    {rest : List (String × Char)}
    (first : map.entries = entry :: rest)
    (begins : beginsWith lower path entry.1 = true) :
    resolveDevicePath lower map path =
      onDrive entry.2 (path.toList.drop entry.1.length) := by
  rw [resolveDevicePath, if_neg nonempty, first,
    List.find?_cons_of_pos (by exact begins)]

section Native

variable
    {map : DriveMap}
    {path : String}
    (native : path.toList.head? = some '\\')

include native

theorem nonempty_of_native : path ≠ "" := by
  rintro rfl
  cases native

theorem replaced_of_resolves
    (resolves : ResolvesInAnyOrder lower map path)
    {entry : String × Char}
    (member : entry ∈ map.entries)
    (begins : beginsWith lower path entry.1 = true) :
    resolveDevicePath lower map path =
      onDrive entry.2 (path.toList.drop entry.1.length) := by
  have same := (List.perm_cons_erase member).symm
  have replaced :=
    resolveDevicePath_first (nonempty_of_native native)
      (show (map.reordered same).entries =
        entry :: map.entries.erase entry from rfl) begins
  rw [← replaced]
  exact ((resolves (map.reordered same) same).2).symm

/--
A native path is resolved in any order of the map if and only if it begins
with one device at most, which it is or continues with a backslash.
-/
theorem resolvesInAnyOrder_iff
    (lowers : LowersAround lower) :
    ResolvesInAnyOrder lower map path ↔ SingleDevice lower map path := by
  have nonempty := nonempty_of_native native
  constructor
  · intro resolves entry member begins
    have replaced := replaced_of_resolves native resolves member begins
    obtain ⟨resolved, _⟩ := resolves map (List.Perm.refl _)
    rw [replaced] at resolved
    rcases resolved with
      ⟨found, isFound, rest, continues, same⟩ | ⟨_, unchanged⟩
    · obtain ⟨sameDrive, sameRest⟩ := onDrive_inj same
      obtain rfl := map.eq_of_drive member isFound sameDrive
      obtain ⟨part, isPath, isDevice, ended⟩ := continues
      rw [← sameRest] at ended isPath
      have isPart : path.toList.take entry.1.length = part := by
        apply List.append_cancel_right
        rw [List.take_append_drop]
        exact isPath
      refine ⟨isPart ▸ isDevice, ended, fun other isOther alsoBegins => ?_⟩
      have alsoReplaced :=
        replaced_of_resolves native resolves isOther alsoBegins
      rw [replaced] at alsoReplaced
      exact map.eq_of_drive isOther member (onDrive_inj alsoReplaced).1.symm
    · exact absurd unchanged (onDrive_ne native member _)
  · intro single order same
    have found? (others : DriveMap) (alike : others.entries.Perm map.entries) :
        (∃ entry ∈ map.entries, beginsWith lower path entry.1 = true ∧
            resolveDevicePath lower others path =
              onDrive entry.2 (path.toList.drop entry.1.length)) ∨
          (∀ entry ∈ map.entries, beginsWith lower path entry.1 = false) ∧
            resolveDevicePath lower others path = path := by
      cases found : others.entries.find? fun entry =>
          beginsWith lower path entry.1 with
      | some entry =>
        refine
          .inl
            ⟨entry, alike.mem_iff.mp (List.mem_of_find?_eq_some found),
              by simpa using List.find?_some found, ?_⟩
        rw [resolveDevicePath, if_neg nonempty, found]
      | none =>
        refine .inr ⟨fun entry member => ?_, ?_⟩
        · simpa using
            List.find?_eq_none.mp found entry (alike.mem_iff.mpr member)
        · rw [resolveDevicePath, if_neg nonempty, found]
    rcases found? order same with
      ⟨entry, member, begins, replaced⟩ | ⟨nothing, unchanged⟩
    · obtain ⟨isDevice, ended, unique⟩ := single entry member begins
      refine ⟨.inl ⟨entry, member, _, ?_, replaced⟩, ?_⟩
      · exact ⟨_, (List.take_append_drop _ _).symm, isDevice, ended⟩
      · rcases found? map (List.Perm.refl _) with
          ⟨other, isOther, alsoBegins, alsoReplaced⟩ | ⟨nothing, _⟩
        · obtain rfl := unique other isOther alsoBegins
          rw [replaced, alsoReplaced]
        · rw [nothing entry member] at begins
          cases begins
    · refine ⟨.inr ⟨fun entry member rest continues => ?_, unchanged⟩, ?_⟩
      · have begins := beginsWith_of_continues lowers continues
        rw [nothing entry member] at begins
        cases begins
      · rcases found? map (List.Perm.refl _) with
          ⟨other, isOther, alsoBegins, _⟩ | ⟨_, alsoUnchanged⟩
        · rw [nothing other isOther] at alsoBegins
          cases alsoBegins
        · rw [unchanged, alsoUnchanged]

end Native

def asciiLower (text : String) : String :=
  String.ofList (text.toList.map Char.toLower)

theorem lowersAround_asciiLower : LowersAround asciiLower := by
  intro before after
  rw [← String.toList_inj]
  simp [asciiLower]

/-- Two volumes, the name of one of which begins with that of the other. -/
def twoVolumes : DriveMap where
  entries :=
    [("\\device\\harddiskvolume1", 'C'), ("\\device\\harddiskvolume10", 'D')]
  distinctDevices := by decide
  distinctDrives := by decide
  letters := by decide

theorem resolvesInAnyOrder_windows :
    ResolvesInAnyOrder asciiLower twoVolumes
      "\\Device\\HarddiskVolume1\\Windows" := by
  have single :
      SingleDevice asciiLower twoVolumes
        "\\Device\\HarddiskVolume1\\Windows" := by
    intro entry member begins
    rcases List.mem_pair.mp member with rfl | rfl
    · refine
        ⟨by decide +kernel, .inr (by decide +kernel),
          fun other isOther alsoBegins => ?_⟩
      rcases List.mem_pair.mp isOther with rfl | rfl
      · rfl
      · exact absurd alsoBegins (by decide +kernel)
    · exact absurd begins (by decide +kernel)
  exact
    (resolvesInAnyOrder_iff (by decide +kernel)
      lowersAround_asciiLower).mpr single

/-- Native paths are resolved in any order of the drive map. -/
def DevicePathsResolved : Prop :=
  ∀ {lower : String → String},
    LowersAround lower →
    ∀ (map : DriveMap) (path : String),
      path.toList.head? = some '\\' →
      ResolvesInAnyOrder lower map path

/-- A path on the tenth volume is taken for one on the first. -/
theorem not_devicePathsResolved : ¬ DevicePathsResolved := by
  intro resolved
  have claimed :=
    (resolved lowersAround_asciiLower twoVolumes
        "\\Device\\HarddiskVolume10\\logs" (by decide +kernel)
        twoVolumes (List.Perm.refl _)).1
  have misread :
      resolveDevicePath asciiLower twoVolumes
          "\\Device\\HarddiskVolume10\\logs" =
        onDrive 'C' "0\\logs".toList := by
    decide +kernel
  rw [misread] at claimed
  rcases claimed with ⟨entry, member, rest, continues, same⟩ | ⟨_, same⟩
  · obtain ⟨sameDrive, rfl⟩ := onDrive_inj same
    obtain ⟨_, _, _, ended⟩ := continues
    revert ended
    decide +kernel
  · revert same
    decide +kernel

end RpaPlatform.Telemetry
