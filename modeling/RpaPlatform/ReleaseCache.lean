import RpaPlatform.LinkedFile
import RpaPlatform.Transition

namespace RpaPlatform.Releases

open Transition

/-!
# The cache of a release

`get_release_artifact_proxy`, called any number of times for one release.  The
calls share a path: each of them looks whether there is a file, checks it
against the recorded hash, if there is one, and otherwise downloads it there in
place.  Files are read and written in threads, chunk by chunk.
-/

/-- A release, what its artifact's URL serves, and the hash of files. -/
structure CachedRelease where
  artifact : List UInt8
  /-- The recorded hash, stripped and in lower case, or an empty text. -/
  expectedSha256 : String
  sha256 : List UInt8 → String

/-- What the cache is to serve. -/
def CachedRelease.Complete
    (release : CachedRelease)
    (content : List UInt8) : Prop :=
  if release.expectedSha256 = "" then
    content = release.artifact
  else
    release.sha256 content = release.expectedSha256

/-- Where a call is. -/
inductive ProxyCall where
  /-- It waits for the release. -/
  | resolving
  /-- A thread reads the file; what it has opened and read. -/
  | hashing (opened : Option (Nat × List UInt8))
  | hashed (digest : String)
  /-- A thread downloads to the path; what it has opened and received. -/
  | downloading (opened : Option (Nat × List UInt8))
  | downloaded (digest : String)
  | returned
  | raised

namespace ProxyCall

/-- Whether a call is to write the file. -/
def isDownloading : ProxyCall → Bool
  | downloading _ => true
  | downloaded _ => true
  | _ => false

/-- Whether a call is to read the file. -/
def isHashing : ProxyCall → Bool
  | hashing _ => true
  | hashed _ => true
  | _ => false

def hasReturned : ProxyCall → Bool
  | returned => true
  | _ => false

def isPartial (release : CachedRelease) : ProxyCall → Bool
  | downloading (some (_, received)) => decide (received ≠ release.artifact)
  | _ => false

def crashed : ProxyCall → ProxyCall
  | returned => returned
  | _ => raised

end ProxyCall

/-- The path, and the calls that use it. -/
structure ReleaseCache where
  path : LinkedFile UInt8 := {}
  calls : List ProxyCall := []

/-- What can happen next. -/
inductive CacheAction where
  | request
  /-- The release is known; the call looks whether there is a file. -/
  | check (call : Nat)
  /-- A thread opens the file. -/
  | openFile (call : Nat)
  /-- A thread reads at most so many bytes and one more. -/
  | readChunk (call size : Nat)
  /-- A thread writes the next bytes of the response. -/
  | writeChunk (call size : Nat)
  /-- The response ends, early or not. -/
  | endResponse (call : Nat)
  /-- The call goes on with what its thread has returned. -/
  | resume (call : Nat) (unlinks : Bool)
  /-- A thread raises. -/
  | fail (call : Nat)
  /-- The server is stopped. -/
  | crash

namespace ReleaseCache

variable (cache : ReleaseCache)

/-- A call goes on, and leaves the path like this. -/
def goTo
    (position : Nat)
    (call : ProxyCall)
    (path : LinkedFile UInt8) : ReleaseCache where
  path := path
  calls := cache.calls.set position call

/-- A call finds a file, or none. -/
def afterCheck (release : CachedRelease) : ProxyCall :=
  if cache.path.entry.isSome then
    if release.expectedSha256 = "" then .returned else .hashing none
  else
    .downloading none

/-- `_hash_file_sha256`: the next chunk, or the digest. -/
def readChunk
    (release : CachedRelease)
    (file : Nat)
    (read : List UInt8)
    (size : Nat) : ProxyCall :=
  let rest := (cache.path.content file).drop read.length
  if rest = [] then
    .hashed (release.sha256 read)
  else
    .hashing (some (file, read ++ rest.take (size + 1)))

/-- A call takes a step. -/
def callStep?
    (release : CachedRelease)
    (position : Nat)
    (call : ProxyCall) : CacheAction → Option ReleaseCache
  | .check _ =>
    match call with
    | .resolving =>
      some (cache.goTo position (cache.afterCheck release) cache.path)
    | _ => none
  | .openFile _ =>
    match call with
    | .hashing none =>
      match cache.path.entry with
      | none => some (cache.goTo position .raised cache.path)
      | some file =>
        some (cache.goTo position (.hashing (some (file, []))) cache.path)
    | .downloading none =>
      let opened := cache.path.openTruncated
      some (cache.goTo position (.downloading (some (opened.2, []))) opened.1)
    | _ => none
  | .readChunk _ size =>
    match call with
    | .hashing (some (file, read)) =>
      some
        (cache.goTo position (cache.readChunk release file read size)
          cache.path)
    | _ => none
  | .writeChunk _ size =>
    match call with
    | .downloading (some (file, received)) =>
      let rest := release.artifact.drop received.length
      if rest = [] then
        none
      else
        let chunk := rest.take (size + 1)
        some
          (cache.goTo position
            (.downloading (some (file, received ++ chunk)))
            (cache.path.writeAt 0 file received.length chunk))
    | _ => none
  | .endResponse _ =>
    match call with
    | .downloading (some (_, received)) =>
      some
        (cache.goTo position (.downloaded (release.sha256 received)) cache.path)
    | _ => none
  | .resume _ unlinks =>
    match call with
    | .hashed digest =>
      some
        (cache.goTo position
          (if digest = release.expectedSha256 then .returned
            else .downloading none)
          cache.path)
    | .downloaded digest =>
      if release.expectedSha256 ≠ "" ∧ digest ≠ release.expectedSha256 then
        some
          (cache.goTo position .raised
            (if unlinks then cache.path.unlink else cache.path))
      else
        some (cache.goTo position .returned cache.path)
    | _ => none
  | .fail _ =>
    match call with
    | .hashing _ => some (cache.goTo position .raised cache.path)
    | .downloading _ => some (cache.goTo position .raised cache.path)
    | _ => none
  | .request => none
  | .crash => none

end ReleaseCache

/-- The call that takes a step. -/
def CacheAction.call? : CacheAction → Option Nat
  | check call => some call
  | openFile call => some call
  | readChunk call _ => some call
  | writeChunk call _ => some call
  | endResponse call => some call
  | resume call _ => some call
  | fail call => some call
  | request => none
  | crash => none

namespace ReleaseCache

/-- Take a step, if it can be taken. -/
def step?
    (release : CachedRelease)
    (cache : ReleaseCache)
    (action : CacheAction) : Option ReleaseCache :=
  match action.call? with
  | some position =>
    cache.calls[position]?.bind fun call =>
      cache.callStep? release position call action
  | none =>
    match action with
    | .request =>
      some { cache with calls := cache.calls ++ [.resolving] }
    | .crash =>
      some { cache with calls := cache.calls.map ProxyCall.crashed }
    | _ => none

def Serves (release : CachedRelease) (cache : ReleaseCache) : Prop :=
  (∃ call ∈ cache.calls, call.hasReturned = true) →
  ∃ content, cache.path.linked? = some content ∧ release.Complete content

/-- No call returns a bad file, or lets a file that was returned go bad. -/
def ServesComplete
    (release : CachedRelease)
    (step : ReleaseCache → CacheAction → ReleaseCache → Prop) : Prop :=
  ∀ {actions : List CacheAction} {reached : ReleaseCache},
    Run step {} actions reached →
    reached.Serves release

/-- Of the other calls, none downloads. -/
def NoneDownloads (cache : ReleaseCache) (position : Nat) : Prop :=
  ∀ other < cache.calls.length,
    other ≠ position →
    ∀ call ∈ cache.calls[other]?, call.isDownloading = false

/-- Of the other calls, none reads the file. -/
def NoneHashes (cache : ReleaseCache) (position : Nat) : Prop :=
  ∀ other < cache.calls.length,
    other ≠ position →
    ∀ call ∈ cache.calls[other]?, call.isHashing = false

def decidesToDownload (release : CachedRelease) : ProxyCall → Bool
  | .hashed digest => decide (digest ≠ release.expectedSha256)
  | _ => false

/--
The condition under which no bad file is served.  A call looks for the file
only when no other one downloads it, and sets about to download it only when
no other one reads or downloads it; and where no hash is recorded, no download
that has opened the file ends before all has been written.
-/
def Undisturbed
    (release : CachedRelease)
    (cache : ReleaseCache) : CacheAction → Prop
  | .check position =>
    cache.NoneDownloads position ∧
      (cache.path.entry = none → cache.NoneHashes position)
  | .resume position _ =>
    (∃ call ∈ cache.calls[position]?, decidesToDownload release call = true) →
    cache.NoneDownloads position ∧ cache.NoneHashes position
  | .endResponse position =>
    release.expectedSha256 = "" →
    ∀ call ∈ cache.calls[position]?, call.isPartial release = false
  | .fail position =>
    release.expectedSha256 = "" →
    ∀ call ∈ cache.calls[position]?, call.isPartial release = false
  | .crash =>
    release.expectedSha256 = "" →
    ∀ call ∈ cache.calls, call.isPartial release = false
  | _ => True

/-! ### What the calls know -/

/-- What a call has read or written is what is in the file. -/
def CallSound
    (release : CachedRelease)
    (path : LinkedFile UInt8) : ProxyCall → Prop
  | .hashing none =>
    release.expectedSha256 ≠ ""
  | .hashing (some (file, read)) =>
    release.expectedSha256 ≠ "" ∧
      path.entry = some file ∧ read <+: path.content file
  | .hashed digest =>
    release.expectedSha256 ≠ "" ∧
      ∃ content, path.linked? = some content ∧ digest = release.sha256 content
  | .downloading (some (file, received)) =>
    path.entry = some file ∧
      path.content file = received ∧ received <+: release.artifact
  | .downloaded digest =>
    ∃ content,
      path.linked? = some content ∧
        digest = release.sha256 content ∧
          (release.expectedSha256 = "" → content = release.artifact)
  | .returned =>
    ∃ content, path.linked? = some content ∧ release.Complete content
  | _ => True

/-- Whether nothing is known of the file through a call. -/
def isIdle : ProxyCall → Bool
  | .resolving => true
  | .raised => true
  | _ => false

/-- The invariant: who downloads is alone, and all is as it seems. -/
structure Sound
    (release : CachedRelease)
    (cache : ReleaseCache) : Prop where
  calls : ∀ call ∈ cache.calls, CallSound release cache.path call
  alone :
    ∀ {first second : Nat} {one other : ProxyCall},
      first ≠ second →
      cache.calls[first]? = some one →
      cache.calls[second]? = some other →
      one.isDownloading = true →
      isIdle other = true
  named : ∀ file, cache.path.entry = some file → cache.path.Exists file
  resting :
    release.expectedSha256 = "" →
    ∀ content,
      cache.path.linked? = some content →
      content = release.artifact ∨
        ∃ call ∈ cache.calls, call.isPartial release = true

section Steps

variable
    {release : CachedRelease}
    {cache after : ReleaseCache}
    {position : Nat}
    {call : ProxyCall}

variable
    {path : LinkedFile UInt8}
    {next : ProxyCall}
    {digest : String}

theorem callSound_of_idle
    (idle : isIdle call = true) : CallSound release path call := by
  cases call with
  | resolving | raised =>
    trivial
  | _ =>
    cases idle

theorem Sound.noneDownloads
    (sound : cache.Sound release)
    (isCall : cache.calls[position]? = some call)
    (busy : isIdle call = false) :
    cache.NoneDownloads position := by
  intro other _ different found isFound
  cases downloads : found.isDownloading with
  | false =>
    rfl
  | true =>
    have idle := sound.alone different isFound isCall downloads
    rw [busy] at idle
    cases idle

/-- One call goes on, and the others stay as they are. -/
theorem Sound.advance
    (sound : cache.Sound release)
    (own : CallSound release path next)
    (others :
      ∀ {index : Nat} {other : ProxyCall},
        index ≠ position →
        cache.calls[index]? = some other →
        CallSound release path other)
    (exclusive :
      next.isDownloading = true →
      ∀ {index : Nat} {other : ProxyCall},
        index ≠ position →
        cache.calls[index]? = some other →
        isIdle other = true)
    (undisturbed : isIdle next = false → cache.NoneDownloads position)
    (named : ∀ file, path.entry = some file → path.Exists file)
    (resting :
      release.expectedSha256 = "" →
      ∀ content,
        path.linked? = some content →
        content = release.artifact ∨
          ∃ call ∈ (cache.goTo position next path).calls,
            call.isPartial release = true) :
    (cache.goTo position next path).Sound release where
  calls := by
    intro other member
    obtain ⟨index, isOther⟩ := List.mem_iff_getElem?.mp member
    rcases getElem?_set_cases isOther with ⟨_, rfl⟩ | ⟨elsewhere, isOther⟩
    · exact own
    · exact others elsewhere isOther
  alone := by
    intro first second one other different isOne isOther downloads
    rcases getElem?_set_cases isOne with
      ⟨rfl, rfl⟩ | ⟨oneElse, oneStays⟩
    · rcases getElem?_set_cases isOther with
        ⟨same, _⟩ | ⟨otherElse, otherStays⟩
      · exact absurd same.symm different
      · exact exclusive downloads otherElse otherStays
    · rcases getElem?_set_cases isOther with
        ⟨rfl, rfl⟩ | ⟨otherElse, otherStays⟩
      · cases idle : isIdle other with
        | true =>
          rfl
        | false =>
          have inside := (List.getElem?_eq_some_iff.mp oneStays).1
          rw [undisturbed idle first inside oneElse one oneStays] at downloads
          cases downloads
      · exact sound.alone different oneStays otherStays downloads
  named := named
  resting := resting

theorem Sound.goTo
    (sound : cache.Sound release)
    (isCall : cache.calls[position]? = some call)
    (own : CallSound release cache.path next)
    (exclusive :
      next.isDownloading = true →
      ∀ {index : Nat} {other : ProxyCall},
        index ≠ position →
        cache.calls[index]? = some other →
        isIdle other = true)
    (undisturbed : isIdle next = false → cache.NoneDownloads position)
    (wasPartial :
      release.expectedSha256 = "" → call.isPartial release = false) :
    (cache.goTo position next cache.path).Sound release := by
  refine sound.advance own ?_ exclusive undisturbed sound.named ?_
  · intro index other _ isOther
    exact sound.calls other (List.mem_of_getElem? isOther)
  · intro noHash content linked
    rcases sound.resting noHash content linked with
      complete | ⟨other, member, isPartial⟩
    · exact .inl complete
    · right
      obtain ⟨index, isOther⟩ := List.mem_iff_getElem?.mp member
      have elsewhere : index ≠ position := by
        rintro rfl
        obtain rfl := Option.some.inj (isCall.symm.trans isOther)
        rw [wasPartial noHash] at isPartial
        cases isPartial
      have stays :
          (cache.goTo position next cache.path).calls[index]? = some other :=
        (List.getElem?_set_ne (Ne.symm elsewhere)).trans isOther
      exact ⟨other, List.mem_of_getElem? stays, isPartial⟩

theorem Sound.othersIdle
    (sound : cache.Sound release)
    (isCall : cache.calls[position]? = some call)
    (downloads : call.isDownloading = true)
    {index : Nat}
    {other : ProxyCall}
    (elsewhere : index ≠ position)
    (isOther : cache.calls[index]? = some other) :
    isIdle other = true :=
  sound.alone (Ne.symm elsewhere) isCall isOther downloads

/-- Where the other calls neither read, write nor have returned, they are
idle. -/
theorem idle_of_inactive
    {other : ProxyCall}
    (noDownload : other.isDownloading = false)
    (noHash : other.isHashing = false)
    (notReturned : other.hasReturned = false) :
    isIdle other = true := by
  cases other with
  | resolving | raised =>
    rfl
  | hashing | hashed =>
    cases noHash
  | downloading | downloaded =>
    cases noDownload
  | returned =>
    cases notReturned

section Keeping

variable
    (sound : cache.Sound release)
include sound

/-- A call may set about to download when the others are not busy and the
path does not name a complete file. -/
theorem Sound.setsAbout
    (isCall : cache.calls[position]? = some call)
    (noneDownloads : cache.NoneDownloads position)
    (noneHashes : cache.NoneHashes position)
    (incomplete :
      ∀ content, cache.path.linked? = some content → ¬ release.Complete content)
    (wasPartial :
      release.expectedSha256 = "" → call.isPartial release = false) :
    (cache.goTo position (.downloading none) cache.path).Sound release := by
  refine sound.goTo isCall trivial ?_ (fun _ => noneDownloads) wasPartial
  intro _ index other elsewhere isOther
  have inside := (List.getElem?_eq_some_iff.mp isOther).1
  refine
    idle_of_inactive (noneDownloads index inside elsewhere other isOther)
      (noneHashes index inside elsewhere other isOther) ?_
  cases other with
  | returned =>
    obtain ⟨content, linked, complete⟩ :=
      sound.calls _ (List.mem_of_getElem? isOther)
    exact absurd complete (incomplete content linked)
  | _ =>
    rfl

theorem Sound.goAlone
    (isCall : cache.calls[position]? = some call)
    (downloads : call.isDownloading = true)
    (own : CallSound release path next)
    (named : ∀ file, path.entry = some file → path.Exists file)
    (resting :
      release.expectedSha256 = "" →
      ∀ content,
        path.linked? = some content →
        content = release.artifact ∨ next.isPartial release = true) :
    (cache.goTo position next path).Sound release := by
  have inside := (List.getElem?_eq_some_iff.mp isCall).1
  have isNext : (cache.goTo position next path).calls[position]? = some next :=
    List.getElem?_set_self inside
  refine sound.advance own ?_ ?_ ?_ named ?_
  · intro index other elsewhere isOther
    exact
      callSound_of_idle (sound.othersIdle isCall downloads elsewhere isOther)
  · intro _ index other elsewhere isOther
    exact sound.othersIdle isCall downloads elsewhere isOther
  · intro _ index _ elsewhere other isOther
    have idle := sound.othersIdle isCall downloads elsewhere isOther
    cases other with
    | downloading | downloaded =>
      cases idle
    | _ =>
      rfl
  · intro noHash content linked
    rcases resting noHash content linked with complete | isPartial
    · exact .inl complete
    · exact .inr ⟨next, List.mem_of_getElem? isNext, isPartial⟩

theorem Sound.check
    (isCall : cache.calls[position]? = some .resolving)
    (meets : cache.Undisturbed release (.check position)) :
    (cache.goTo position (cache.afterCheck release) cache.path).Sound
      release := by
  obtain ⟨noneDownloads, noneHashes⟩ := meets
  unfold ReleaseCache.afterCheck
  cases isEntry : cache.path.entry with
  | none =>
    refine
      sound.setsAbout isCall noneDownloads (noneHashes isEntry) ?_ fun _ => rfl
    intro content linked
    unfold LinkedFile.linked? at linked
    rw [isEntry] at linked
    cases linked
  | some file =>
    have linked := LinkedFile.linked?_eq_content isEntry
    rw [Option.isSome_some, if_pos rfl]
    split
    · rename_i noHash
      refine
        sound.goTo isCall ⟨_, linked, ?_⟩ (fun downloads => nomatch downloads)
          (fun _ => noneDownloads) fun _ => rfl
      rcases sound.resting noHash _ linked with
        complete | ⟨other, member, isPartial⟩
      · unfold CachedRelease.Complete
        rw [if_pos noHash]
        exact complete
      · obtain ⟨index, isOther⟩ := List.mem_iff_getElem?.mp member
        have inside := (List.getElem?_eq_some_iff.mp isOther).1
        have elsewhere : index ≠ position := by
          rintro rfl
          obtain rfl := Option.some.inj (isCall.symm.trans isOther)
          cases isPartial
        have idle := noneDownloads index inside elsewhere other isOther
        cases other with
        | downloading opened =>
          cases idle
        | _ =>
          cases isPartial
    · rename_i recorded
      exact
        sound.goTo isCall recorded (fun downloads => nomatch downloads)
          (fun _ => noneDownloads) fun _ => rfl

theorem Sound.openToHash
    (isCall : cache.calls[position]? = some (.hashing none))
    {file : Nat}
    (isEntry : cache.path.entry = some file) :
    (cache.goTo position (.hashing (some (file, []))) cache.path).Sound
      release := by
  have recorded := sound.calls _ (List.mem_of_getElem? isCall)
  exact
    sound.goTo isCall ⟨recorded, isEntry, List.nil_prefix⟩
      (fun downloads => nomatch downloads)
      (fun _ => sound.noneDownloads isCall rfl) fun _ => rfl

theorem Sound.openToDownload
    (isCall : cache.calls[position]? = some (.downloading none)) :
    (cache.goTo position
        (.downloading (some (cache.path.openTruncated.2, [])))
        cache.path.openTruncated.1).Sound release := by
  obtain ⟨isEntry, inside, empty⟩ :=
    LinkedFile.openTruncated_spec sound.named
  refine sound.goAlone isCall rfl ⟨isEntry, empty, List.nil_prefix⟩ ?_ ?_
  · intro file isFile
    obtain rfl := Option.some.inj (isEntry.symm.trans isFile)
    exact inside
  · intro _ content linked
    rw [LinkedFile.linked?_eq_content isEntry, empty] at linked
    cases linked
    unfold ProxyCall.isPartial
    by_cases whole : [] = release.artifact
    · exact .inl whole
    · exact .inr (decide_eq_true whole)

theorem Sound.readChunk
    {file size : Nat}
    {read : List UInt8}
    (isCall : cache.calls[position]? = some (.hashing (some (file, read)))) :
    (cache.goTo position (cache.readChunk release file read size)
      cache.path).Sound release := by
  obtain ⟨recorded, isEntry, isPrefix⟩ :=
    sound.calls _ (List.mem_of_getElem? isCall)
  have noneDownloads := sound.noneDownloads isCall rfl
  obtain ⟨rest, whole⟩ := isPrefix
  have isRest : (cache.path.content file).drop read.length = rest := by
    rw [← whole]
    exact List.drop_left
  unfold ReleaseCache.readChunk
  rw [isRest]
  dsimp only
  split
  · rename_i atEnd
    rw [atEnd, List.append_nil] at whole
    refine
      sound.goTo isCall ⟨recorded, read, ?_, rfl⟩
        (fun downloads => nomatch downloads) (fun _ => noneDownloads)
        fun _ => rfl
    rw [LinkedFile.linked?_eq_content isEntry, whole]
  · refine
      sound.goTo isCall ⟨recorded, isEntry, ?_⟩
        (fun downloads => nomatch downloads) (fun _ => noneDownloads)
        fun _ => rfl
    rw [← whole]
    exact (List.prefix_append_right_inj _).mpr (List.take_prefix _ _)

theorem Sound.writeChunk
    {file size : Nat}
    {received : List UInt8}
    (isCall :
      cache.calls[position]? = some (.downloading (some (file, received)))) :
    let chunk := (release.artifact.drop received.length).take (size + 1)
    (cache.goTo position (.downloading (some (file, received ++ chunk)))
      (cache.path.writeAt 0 file received.length chunk)).Sound release := by
  intro chunk
  obtain ⟨isEntry, isContent, isPrefix⟩ :=
    sound.calls _ (List.mem_of_getElem? isCall)
  have inside := sound.named file isEntry
  have entryKept :
      (cache.path.writeAt 0 file received.length chunk).entry =
        cache.path.entry :=
    LinkedFile.entry_writeAt received.length
  have written :
      (cache.path.writeAt 0 file received.length chunk).content file =
        received ++ chunk := by
    rw [← isContent]
    exact LinkedFile.content_writeAt inside
  have goesOn : received ++ chunk <+: release.artifact := by
    obtain ⟨rest, whole⟩ := isPrefix
    have isRest : release.artifact.drop received.length = rest := by
      rw [← whole]
      exact List.drop_left
    rw [← whole]
    refine (List.prefix_append_right_inj _).mpr ?_
    rw [← isRest]
    exact List.take_prefix _ _
  refine sound.goAlone isCall rfl ⟨isEntry, written, goesOn⟩ ?_ ?_
  · intro named isNamed
    exact LinkedFile.exists_writeAt _ (sound.named named isNamed)
  · intro _ content linked
    have isWritten := LinkedFile.linked?_eq_content (entryKept.trans isEntry)
    rw [written] at isWritten
    obtain rfl := Option.some.inj (isWritten.symm.trans linked)
    unfold ProxyCall.isPartial
    by_cases whole : received ++ chunk = release.artifact
    · exact .inl whole
    · exact .inr (decide_eq_true whole)

theorem Sound.endResponse
    {file : Nat}
    {received : List UInt8}
    (isCall :
      cache.calls[position]? = some (.downloading (some (file, received))))
    (meets : cache.Undisturbed release (.endResponse position)) :
    (cache.goTo position (.downloaded (release.sha256 received))
      cache.path).Sound release := by
  obtain ⟨isEntry, isContent, _⟩ :=
    sound.calls _ (List.mem_of_getElem? isCall)
  have linked := LinkedFile.linked?_eq_content isEntry
  rw [isContent] at linked
  have whole : release.expectedSha256 = "" → received = release.artifact := by
    intro noHash
    have isPartial := meets noHash _ isCall
    exact not_not.mp (of_decide_eq_false isPartial)
  refine sound.goAlone isCall rfl ⟨received, linked, rfl, whole⟩ sound.named ?_
  intro noHash content isContent
  obtain rfl := Option.some.inj (linked.symm.trans isContent)
  exact .inl (whole noHash)

theorem Sound.resumeHashed
    {unlinks : Bool}
    (isCall : cache.calls[position]? = some (.hashed digest))
    (meets : cache.Undisturbed release (.resume position unlinks)) :
    (cache.goTo position
      (if digest = release.expectedSha256 then .returned
        else .downloading none)
      cache.path).Sound release := by
  obtain ⟨recorded, content, linked, isDigest⟩ :=
    sound.calls _ (List.mem_of_getElem? isCall)
  split
  · rename_i agrees
    refine
      sound.goTo isCall ⟨content, linked, ?_⟩
        (fun downloads => nomatch downloads)
        (fun _ => sound.noneDownloads isCall rfl) fun _ => rfl
    unfold CachedRelease.Complete
    rw [if_neg recorded, ← isDigest]
    exact agrees
  · rename_i differs
    obtain ⟨noneDownloads, noneHashes⟩ :=
      meets ⟨_, isCall, decide_eq_true differs⟩
    refine sound.setsAbout isCall noneDownloads noneHashes ?_ fun _ => rfl
    intro found isFound complete
    obtain rfl := Option.some.inj (linked.symm.trans isFound)
    unfold CachedRelease.Complete at complete
    rw [if_neg recorded, ← isDigest] at complete
    exact differs complete

theorem Sound.returnDownloaded
    (isCall : cache.calls[position]? = some (.downloaded digest))
    (agrees :
      ¬ (release.expectedSha256 ≠ "" ∧ digest ≠ release.expectedSha256)) :
    (cache.goTo position .returned cache.path).Sound release := by
  obtain ⟨content, linked, isDigest, whole⟩ :=
    sound.calls _ (List.mem_of_getElem? isCall)
  have complete : release.Complete content := by
    unfold CachedRelease.Complete
    split
    · rename_i noHash
      exact whole noHash
    · rename_i recorded
      rw [← isDigest]
      exact not_not.mp fun differs => agrees ⟨recorded, differs⟩
  refine sound.goAlone isCall rfl ⟨content, linked, complete⟩ sound.named ?_
  intro noHash found isFound
  obtain rfl := Option.some.inj (linked.symm.trans isFound)
  exact .inl (whole noHash)

theorem Sound.rejectDownloaded
    (isCall : cache.calls[position]? = some (.downloaded digest))
    (recorded : release.expectedSha256 ≠ "")
    (unlinks : Bool) :
    (cache.goTo position .raised
      (if unlinks then cache.path.unlink else cache.path)).Sound release := by
  refine sound.goAlone isCall rfl trivial ?_ ?_
  · intro file isEntry
    cases unlinks with
    | false =>
      exact sound.named file isEntry
    | true =>
      cases isEntry
  · intro noHash
    exact absurd noHash recorded

theorem Sound.raise
    (isCall : cache.calls[position]? = some call)
    (meets : cache.Undisturbed release (.fail position)) :
    (cache.goTo position .raised cache.path).Sound release :=
  sound.goTo isCall trivial (fun downloads => nomatch downloads)
    (fun busy => nomatch busy) fun noHash => meets noHash call isCall

end Keeping

theorem Sound.callStep
    (sound : cache.Sound release)
    (isCall : cache.calls[position]? = some call)
    {action : CacheAction}
    (isTarget : action.call? = some position)
    (stepped : cache.callStep? release position call action = some after)
    (meets : cache.Undisturbed release action) :
    after.Sound release := by
  unfold callStep? at stepped
  cases action with
  | request | crash =>
    cases isTarget
  | check target =>
    cases isTarget
    cases call with
    | resolving =>
      cases stepped
      exact sound.check isCall meets
    | _ =>
      cases stepped
  | openFile target =>
    dsimp only at stepped
    split at stepped
    · split at stepped
      · cases stepped
        exact
          sound.goTo isCall trivial (fun downloads => nomatch downloads)
            (fun busy => nomatch busy) fun _ => rfl
      · rename_i isEntry
        cases stepped
        exact sound.openToHash isCall isEntry
    · cases stepped
      exact sound.openToDownload isCall
    · cases stepped
  | readChunk target size =>
    dsimp only at stepped
    split at stepped
    · cases stepped
      exact sound.readChunk isCall
    · cases stepped
  | writeChunk target size =>
    dsimp only at stepped
    split at stepped
    · split at stepped
      · cases stepped
      · cases stepped
        exact sound.writeChunk isCall
    · cases stepped
  | endResponse target =>
    cases isTarget
    dsimp only at stepped
    split at stepped
    · cases stepped
      exact sound.endResponse isCall meets
    · cases stepped
  | resume target unlinks =>
    cases isTarget
    dsimp only at stepped
    split at stepped
    · cases stepped
      exact sound.resumeHashed isCall meets
    · split at stepped
      · rename_i mismatch
        cases stepped
        exact sound.rejectDownloaded isCall mismatch.1 unlinks
      · rename_i agrees
        cases stepped
        exact sound.returnDownloaded isCall agrees
    · cases stepped
  | fail target =>
    cases isTarget
    dsimp only at stepped
    split at stepped
    · cases stepped
      exact sound.raise isCall meets
    · cases stepped
      exact sound.raise isCall meets
    · cases stepped

theorem Sound.request
    (sound : cache.Sound release) :
    ({ cache with calls := cache.calls ++ [.resolving] } :
      ReleaseCache).Sound release where
  calls := by
    intro other member
    rcases List.mem_append.mp member with old | isNew
    · exact sound.calls other old
    · obtain rfl := List.mem_singleton.mp isNew
      trivial
  alone := by
    intro first second one other different isOne isOther downloads
    rcases getElem?_append_cases isOne with rfl | oneStays
    · cases downloads
    · rcases getElem?_append_cases isOther with rfl | otherStays
      · rfl
      · exact sound.alone different oneStays otherStays downloads
  named := sound.named
  resting := by
    intro noHash content linked
    rcases sound.resting noHash content linked with
      complete | ⟨other, member, isPartial⟩
    · exact .inl complete
    · exact .inr ⟨other, List.mem_append_left _ member, isPartial⟩

theorem Sound.crash
    (sound : cache.Sound release)
    (meets : cache.Undisturbed release .crash) :
    ({ cache with calls := cache.calls.map ProxyCall.crashed } :
      ReleaseCache).Sound release where
  calls := by
    intro other member
    obtain ⟨old, isOld, rfl⟩ := List.mem_map.mp member
    cases old with
    | returned =>
      exact sound.calls _ isOld
    | _ =>
      trivial
  alone := by
    intro first second one other _ isOne _ downloads
    obtain ⟨old, _, rfl⟩ :=
      List.mem_map.mp (List.mem_of_getElem? isOne)
    cases old with
    | _ =>
      cases downloads
  named := sound.named
  resting := by
    intro noHash content linked
    rcases sound.resting noHash content linked with
      complete | ⟨other, member, isPartial⟩
    · exact .inl complete
    · rw [meets noHash other member] at isPartial
      cases isPartial

theorem Sound.step
    (sound : cache.Sound release)
    {action : CacheAction}
    (stepped : step? release cache action = some after)
    (meets : cache.Undisturbed release action) :
    after.Sound release := by
  unfold step? at stepped
  split at stepped
  · rename_i position isTarget
    obtain ⟨call, isCall, stepped⟩ := Option.bind_eq_some_iff.mp stepped
    exact sound.callStep isCall isTarget stepped meets
  · split at stepped
    · cases stepped
      exact sound.request
    · cases stepped
      exact sound.crash meets
    · cases stepped

theorem Sound.empty : Sound release {} where
  calls := by
    intro other member
    cases member
  alone := by
    intro first second one other _ isOne
    cases isOne
  named := by
    intro file isEntry
    cases isEntry
  resting := by
    intro _ content linked
    cases linked

theorem Sound.serves
    (sound : cache.Sound release) : cache.Serves release := by
  rintro ⟨other, member, returned⟩
  cases other with
  | returned =>
    exact sound.calls _ member
  | _ =>
    cases returned

end Steps

/-- The cache serves complete files while the calls leave each other's
downloads alone. -/
theorem servesComplete_of_undisturbed (release : CachedRelease) :
    ServesComplete release
      (Guarded (Fires (step? release)) (Undisturbed release)) := by
  intro actions reached run
  have stepPreserves :
      ∀ before action after,
        Guarded (Fires (step? release)) (Undisturbed release) before action
          after →
        Sound release before →
        Sound release after :=
    fun _ _ _ taken sound => sound.step taken.1 taken.2
  exact (run.preserves stepPreserves .empty).serves

/-! ### Downloads that fail, and downloads that meet -/

instance (cache : ReleaseCache) (position : Nat) :
    Decidable (cache.NoneDownloads position) :=
  inferInstanceAs
    (Decidable
      (∀ other < cache.calls.length,
        other ≠ position →
        ∀ call ∈ cache.calls[other]?, call.isDownloading = false))

instance (cache : ReleaseCache) (position : Nat) :
    Decidable (cache.NoneHashes position) :=
  inferInstanceAs
    (Decidable
      (∀ other < cache.calls.length,
        other ≠ position →
        ∀ call ∈ cache.calls[other]?, call.isHashing = false))

instance
    (release : CachedRelease)
    (cache : ReleaseCache)
    (action : CacheAction) :
    Decidable (cache.Undisturbed release action) :=
  match action with
  | .check position =>
    inferInstanceAs
      (Decidable
        (cache.NoneDownloads position ∧
          (cache.path.entry = none → cache.NoneHashes position)))
  | .resume position _ =>
    inferInstanceAs
      (Decidable
        ((∃ call ∈ cache.calls[position]?,
            decidesToDownload release call = true) →
          cache.NoneDownloads position ∧ cache.NoneHashes position))
  | .endResponse position | .fail position =>
    inferInstanceAs
      (Decidable
        (release.expectedSha256 = "" →
          ∀ call ∈ cache.calls[position]?, call.isPartial release = false))
  | .crash =>
    inferInstanceAs
      (Decidable
        (release.expectedSha256 = "" →
          ∀ call ∈ cache.calls, call.isPartial release = false))
  | .request | .openFile _ | .readChunk _ _ | .writeChunk _ _ =>
    inferInstanceAs (Decidable True)

/-- The digests of `release-binary`, of its first seven bytes and of none. -/
def sha256OfBinary (content : List UInt8) : String :=
  if content = "release-binary".toUTF8.toList then
    "6a9dd98cb1b85b58ae5df68a8a04fc6a0a8e6fad99c865a3b653a559271abc7c"
  else if content = "release".toUTF8.toList then
    "a4d451ec23463726f72c43d64c710968f6b602cd653b4de8adee1b556240a829"
  else if content = [] then
    "e3b0c44298fc1c149afbf4c8996fb92427ae41e4649b934ca495991b7852b855"
  else
    ""

/-- A release with a recorded hash. -/
def hashedBinary : CachedRelease where
  artifact := "release-binary".toUTF8.toList
  expectedSha256 :=
    "6a9dd98cb1b85b58ae5df68a8a04fc6a0a8e6fad99c865a3b653a559271abc7c"
  sha256 := sha256OfBinary

/-- A download fails; the next call replaces it, and a third one reuses it. -/
def replacedThenReused : List CacheAction :=
  [.request, .check 0, .openFile 0, .writeChunk 0 6, .fail 0,
    .request, .check 1, .openFile 1, .readChunk 1 1048575,
    .readChunk 1 1048575, .resume 1 true, .openFile 1,
    .writeChunk 1 6, .writeChunk 1 6, .endResponse 1, .resume 1 true,
    .request, .check 2, .openFile 2, .readChunk 2 1048575,
    .readChunk 2 1048575, .resume 2 true]

theorem replacedThenReused_serves :
    ∃ reached : ReleaseCache,
      Run
          (Guarded (Fires (step? hashedBinary)) (Undisturbed hashedBinary))
          {} replacedThenReused reached ∧
        reached.calls.map ProxyCall.hasReturned = [false, true, true] ∧
        reached.Serves hashedBinary := by
  obtain ⟨reached, checkedRun, returned⟩ :=
    exists_run_of_execute
      (show (execute
            (checked (step? hashedBinary) (Undisturbed hashedBinary)) {}
            replacedThenReused).any
          (fun cache =>
            decide
              (cache.calls.map ProxyCall.hasReturned =
                [false, true, true])) = true by
        decide +kernel)
  have run := checkedRun.guarded_of_checked
  exact
    ⟨reached, run, of_decide_eq_true returned,
      servesComplete_of_undisturbed hashedBinary run⟩

/-- A call that has found no file truncates the one that another call has
downloaded and returned in the meantime. -/
theorem not_servesComplete :
    ¬ ∀ release, ServesComplete release (Fires (step? release)) := by
  intro claimed
  obtain ⟨reached, run, truncated⟩ :=
    exists_run_of_execute
      (show (execute (step? hashedBinary) {}
          [.request, .request, .check 0, .check 1, .openFile 0,
            .writeChunk 0 1048575, .endResponse 0, .resume 0 true,
            .openFile 1]).any
          (fun cache =>
            cache.calls.any ProxyCall.hasReturned &&
              decide (cache.path.linked? = some [])) = true by
        decide +kernel)
  rw [Bool.and_eq_true] at truncated
  obtain ⟨content, linked, complete⟩ :=
    claimed hashedBinary run (List.any_eq_true.mp truncated.1)
  obtain rfl :=
    Option.some.inj ((of_decide_eq_true truncated.2).symm.trans linked)
  unfold CachedRelease.Complete at complete
  revert complete
  decide +kernel

end ReleaseCache

end RpaPlatform.Releases
