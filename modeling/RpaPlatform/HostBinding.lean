import RpaPlatform.AgentLifecycle

namespace RpaPlatform.Agents

/-!
# The host that a package is bound to

The bootstrap file of a deployment names the host, in two fields that are made
from the host name of the deployment.  The agent compares them with what the
machine is called, before it connects; the server compares the registered host
name with what the agent reports.
-/

/-! ### The bootstrap file -/

/-- `_resolve_bootstrap_hostnames`: the full name, and the host name. -/
def resolveBootstrapHostnames
    (library : TextLibrary)
    (hostname : String) : String × String :=
  let names := normalizeHostname library hostname
  if '.' ∈ names.1.toList then (strip hostname, names.2)
  else ("", strip hostname)

def bootstrapHost (library : TextLibrary) (hostname : String) : JsonObject :=
  let names := resolveBootstrapHostnames library hostname
  [("hostname", .str (orText names.2 hostname)), ("fqdn", .str names.1)]

/-! ### The agent -/

/-- What a machine is called; the full name may not be known. -/
structure LocalNames where
  computerName : Option String
  getfqdn : Option String

namespace LocalNames

def hostname (names : LocalNames) : String :=
  names.computerName.getD ""

def fqdn (names : LocalNames) : String :=
  names.getfqdn.getD ""

end LocalNames

/-- `str(config.get(key) or "")`. -/
def configuredText
    (library : TextLibrary)
    (config : JsonObject)
    (key : String) : String :=
  match config.lookup key with
  | some (.str text) => text
  | some value => if truthy value then library.str value else ""
  | none => ""

/-- `_validate_runtime_host`; its `_host_matches` is that of the server. -/
def validateRuntimeHost
    (library : TextLibrary)
    (config : JsonObject)
    (names : LocalNames) : Except String Unit :=
  let expectedHostname := strip (configuredText library config "hostname")
  let expectedFqdn := strip (configuredText library config "fqdn")
  if expectedHostname = "" && expectedFqdn = "" then
    .ok ()
  else
    let localHostname := strip names.hostname
    let localFqdn := strip names.fqdn
    if localHostname = "" && localFqdn = "" then
      .ok ()
    else if hostMatches library (orText expectedHostname expectedFqdn)
        [.str localHostname, .str localFqdn] = some true then
      .ok ()
    else
      .error
        ("Bootstrap package is bound to host '" ++
          orText expectedFqdn expectedHostname ++
          "', but the agent is running on '" ++
          orText localFqdn localHostname ++ "'.")

/-! ### Names -/

/-- What is known of `str.lower`: it is done with every letter it has given. -/
structure LowersNames (library : TextLibrary) : Prop where
  kept :
    ∀ text piece : String,
      piece.toList ⊆ (library.lower text).toList → library.lower piece = piece
  visible :
    ∀ text : String,
      (∀ character ∈ text.toList, isSpace character = false) →
      ∀ character ∈ (library.lower text).toList, isSpace character = false

def Unspaced (text : String) : Prop :=
  ∀ character ∈ (strip text).toList, isSpace character = false

section Names

variable
    {library : TextLibrary}
    {hostname : String}

@[simp]
theorem normalizeHostname_strip (value : String) :
    normalizeHostname library (strip value) =
      normalizeHostname library value := by
  unfold normalizeHostname
  rw [strip_strip]

theorem mem_short
    {character : Char}
    (member : character ∈ (normalizeHostname library hostname).2.toList) :
    character ∈ (normalizeHostname library hostname).1.toList ∧
      character ≠ '.' := by
  simp only [normalizeHostname, String.toList_ofList] at member ⊢
  exact
    ⟨(List.takeWhile_prefix _).subset member,
      by simpa using List.mem_takeWhile_imp member⟩

theorem strip_short
    (lowers : LowersNames library)
    (unspaced : Unspaced hostname) :
    strip (normalizeHostname library hostname).2 =
      (normalizeHostname library hostname).2 := by
  refine strip_eq_self fun character member => ?_
  refine lowers.visible _ (fun other isOther => unspaced other ?_) character
    (mem_short member).1
  unfold rstripDots at isOther
  rw [String.toList_ofList] at isOther
  exact (List.rdropWhile_prefix _ _).subset isOther

theorem normalizeHostname_short
    (lowers : LowersNames library)
    (unspaced : Unspaced hostname) :
    normalizeHostname library (normalizeHostname library hostname).2 =
      ((normalizeHostname library hostname).2,
        (normalizeHostname library hostname).2) := by
  have members := @mem_short library hostname
  have lowered :
      library.lower (normalizeHostname library hostname).2 =
        (normalizeHostname library hostname).2 :=
    lowers.kept _ _ fun _ member => (members member).1
  have stripped := strip_short lowers unspaced
  generalize (normalizeHostname library hostname).2 = short at *
  have noDots : rstripDots short = short := by
    unfold rstripDots
    rw [List.rdropWhile_eq_self_iff.mpr fun nonempty => by
        simpa using (members (List.getLast_mem nonempty)).2,
      String.ofList_toList]
  have isWhole : short.toList.takeWhile (· ≠ '.') = short.toList :=
    List.takeWhile_eq_self_iff.mpr fun character member =>
      decide_eq_true (members member).2
  simp only [normalizeHostname, stripped, noDots, lowered, isWhole,
    String.ofList_toList]

/-! ### The comparison -/

theorem someMatches_strip
    (expected : String × String)
    (names : List String) :
    someMatches library expected (names.map fun name => .str (strip name)) =
      someMatches library expected (names.map .str) := by
  induction names with
  | nil =>
    rfl
  | cons name rest inductionHypothesis =>
    simp [someMatches, inductionHypothesis]

theorem someMatches_short
    (dotted : '.' ∈ (normalizeHostname library hostname).1.toList)
    (names : List String) :
    someMatches library (normalizeHostname library hostname)
        (names.map .str) =
      someMatches library
        ((normalizeHostname library hostname).2,
          (normalizeHostname library hostname).2)
        (names.map .str) := by
  induction names with
  | nil =>
    rfl
  | cons name rest inductionHypothesis =>
    have whole :
        (normalizeHostname library hostname).1 =
            (normalizeHostname library name).1 →
          (normalizeHostname library hostname).2 =
            (normalizeHostname library name).2 :=
      congrArg fun full : String =>
        String.ofList (full.toList.takeWhile (· ≠ '.'))
    have neverShort :
        (normalizeHostname library hostname).1 ≠
          (normalizeHostname library name).2 := fun same =>
      (mem_short (same ▸ dotted)).2 rfl
    simp only [List.map_cons, someMatches, inductionHypothesis]
    grind

theorem hostMatches_blank
    (lowers : LowersNames library)
    (blank : strip hostname = "")
    (names : List String) :
    hostMatches library hostname (names.map .str) = some true := by
  have nothing : library.lower "" = "" :=
    lowers.kept "" "" nofun
  have noDots : rstripDots "" = "" := rfl
  simp [hostMatches, normalizeHostname, blank, noDots, nothing]

theorem hostMatches_bootstrap
    (lowers : LowersNames library)
    (unspaced : Unspaced hostname)
    (names : List String) :
    hostMatches library
        (orText
          (strip
            (orText (resolveBootstrapHostnames library hostname).2 hostname))
          (strip (resolveBootstrapHostnames library hostname).1))
        (names.map .str) =
      hostMatches library hostname (names.map .str) := by
  have ofStripped :
      hostMatches library (strip hostname) (names.map .str) =
        hostMatches library hostname (names.map .str) := by
    simp [hostMatches]
  have noneBlank : strip "" = "" := rfl
  unfold resolveBootstrapHostnames
  dsimp only
  by_cases dotted : '.' ∈ (normalizeHostname library hostname).1.toList
  · rw [if_pos dotted]
    have isShort := normalizeHostname_short lowers unspaced
    have matchesShort := someMatches_short dotted names
    have notBlank : (normalizeHostname library hostname).1 ≠ "" := by
      intro blank
      simp [blank] at dotted
    by_cases leadingDot : (normalizeHostname library hostname).2 = ""
    · simp [orText, leadingDot, strip_strip, ofStripped]
    · simp [orText, hostMatches, strip_short lowers unspaced, isShort,
        leadingDot, notBlank, matchesShort]
  · rw [if_neg dotted]
    by_cases blank : strip hostname = ""
    · simp only [orText, blank, noneBlank, ne_eq, not_true_eq_false, if_false]
      rw [← blank, ofStripped]
    · simp [orText, blank, strip_strip, ofStripped]

end Names

/-! ### Both sides -/

/--
The agent accepts the machine exactly when the server's check of the names
that it reports does, whatever the host name of the deployment looks like.
-/
theorem validateRuntimeHost_eq_ok_iff
    {library : TextLibrary}
    (lowers : LowersNames library)
    {hostname : String}
    (unspaced : Unspaced hostname)
    {config : JsonObject}
    (isHostname :
      config.lookup "hostname" =
        (bootstrapHost library hostname).lookup "hostname")
    (isFqdn :
      config.lookup "fqdn" = (bootstrapHost library hostname).lookup "fqdn")
    {names : LocalNames}
    (named : strip names.hostname ≠ "" ∨ strip names.fqdn ≠ "") :
    validateRuntimeHost library config names = .ok () ↔
      hostMatches library hostname [.str names.hostname, .str names.fqdn] =
        some true := by
  have compared :=
    hostMatches_bootstrap lowers unspaced [names.hostname, names.fqdn]
  have localsStripped (expected : String) :
      hostMatches library expected
          [.str (strip names.hostname), .str (strip names.fqdn)] =
        hostMatches library expected [.str names.hostname, .str names.fqdn] := by
    have same :=
      @someMatches_strip library (normalizeHostname library expected)
        [names.hostname, names.fqdn]
    simp only [List.map_cons, List.map_nil] at same
    simp only [hostMatches, same]
  have hostnameText :
      configuredText library config "hostname" =
        orText (resolveBootstrapHostnames library hostname).2 hostname := by
    rw [configuredText, isHostname]
    rfl
  have fqdnText :
      configuredText library config "fqdn" =
        (resolveBootstrapHostnames library hostname).1 := by
    rw [configuredText, isFqdn]
    rfl
  simp only [List.map_cons, List.map_nil] at compared
  rw [← compared, ← hostnameText, ← fqdnText]
  unfold validateRuntimeHost
  dsimp only
  split
  · rename_i nothing
    simp only [Bool.and_eq_true, decide_eq_true_eq] at nothing
    have blank :
        strip
            (orText (strip (configuredText library config "hostname"))
              (strip (configuredText library config "fqdn"))) =
          "" := by
      rw [nothing.1, nothing.2]
      rfl
    exact iff_of_true rfl (hostMatches_blank lowers blank [_, _])
  · have notBlank :
        ¬ (decide (strip names.hostname = "") &&
          decide (strip names.fqdn = "")) = true := by
      simpa [imp_iff_not_or] using named
    rw [if_neg notBlank, localsStripped]
    split <;> simp_all

/-! ### ASCII letters -/

theorem toLower_cases (character : Char) :
    character.toLower = character ∨
      97 ≤ character.toLower.toNat ∧ character.toLower.toNat ≤ 122 := by
  unfold Char.toLower
  split
  · rename_i isUpper
    simp only [ge_iff_le, UInt32.le_iff_toNat_le] at isUpper
    right
    simp only [Char.toNat, UInt32.toNat_add] at isUpper ⊢
    generalize character.val.toNat = code at isUpper
    have first : 65 ≤ code := isUpper.1
    have last : code ≤ 90 := isUpper.2
    have offset : ('a'.val - 'A'.val).toNat = 32 := rfl
    omega
  · exact .inl rfl

theorem toLower_toLower (character : Char) :
    character.toLower.toLower = character.toLower := by
  rcases toLower_cases character with same | ⟨first, last⟩
  · rw [same, same]
  · generalize character.toLower = lowered at first last
    unfold Char.toLower
    refine dif_neg fun isUpper => ?_
    have code : lowered.toNat ≤ 90 := UInt32.le_iff_toNat_le.mp isUpper.2
    omega

theorem isSpace_toLower
    {character : Char}
    (visible : isSpace character = false) :
    isSpace character.toLower = false := by
  rcases toLower_cases character with same | ⟨first, last⟩
  · rwa [same]
  · simp only [isSpace, Bool.or_eq_false_iff, Bool.and_eq_false_iff,
      decide_eq_false_iff_not]
    omega

theorem lowersNames_ascii : LowersNames asciiTextLibrary where
  kept text piece pieces := by
    have lowered : piece.toList.map Char.toLower = piece.toList := by
      refine (List.map_congr_left fun character member => ?_).trans
        (List.map_id _)
      have isLowered := pieces member
      simp only [asciiTextLibrary, String.toList_ofList,
        List.mem_map] at isLowered
      obtain ⟨original, _, rfl⟩ := isLowered
      exact toLower_toLower original
    simp only [asciiTextLibrary, lowered, String.ofList_toList]
  visible text visible character member := by
    simp only [asciiTextLibrary, String.toList_ofList, List.mem_map] at member
    obtain ⟨upper, isMember, rfl⟩ := member
    exact isSpace_toLower (visible upper isMember)

/-- A package for one host, on that host. -/
theorem validateRuntimeHost_eq_ok_iff_vm :
    validateRuntimeHost asciiTextLibrary
          (bootstrapHost asciiTextLibrary " VM-7.corp.local.")
          ⟨some "vm-7", none⟩ =
        .ok () ↔
      hostMatches asciiTextLibrary " VM-7.corp.local."
          [.str "vm-7", .str ""] =
        some true :=
  validateRuntimeHost_eq_ok_iff lowersNames_ascii (fun _ member => by
      have visible :
          ((strip " VM-7.corp.local.").toList.all (!isSpace ·)) = true := by
        decide
      simpa using List.all_eq_true.mp visible _ member)
    rfl rfl (.inl (by decide))

end RpaPlatform.Agents
