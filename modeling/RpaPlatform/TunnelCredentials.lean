import RpaPlatform.GuacamoleTunnels
import RpaPlatform.SessionActivity

namespace RpaPlatform.Agents

open Transition

/-!
# The credentials of HTTP tunnels

For every HTTP tunnel that is opened, `GuacamoleService` stores a token and
the cookies; `RdpMonitorService` says which session the tunnel is bound to.
The credentials are dropped when the tunnels of a session are released, and
when Guacamole does not know a tunnel any more.

`_forget_session` drops the credentials of the tunnels that it finds in the
set of the session that has been removed.  `remove_session` has emptied that
set when it returns.
-/

/-- What Guacamole replies to a request, as `urlopen` hands it on. -/
inductive TunnelReply where
  | answered (status : Nat) (text tunnelToken cookie : String)
  | error (code : Nat)
  | unreachable

/-- `GuacamoleService`, as far as credentials of tunnels depend on it. -/
structure CredentialService where
  monitor : RdpMonitor := {}
  memory : TunnelMemory := {}

/-- What can be called. -/
inductive CredentialCall where
  /-- `create_client_session` registers a session. -/
  | registerSession (registration : Registration) (now : Int)
  /-- `_forget_http_tunnels_for_auth_token`. -/
  | forgetTunnels (authToken : String)
  /-- `_open_http_tunnel`. -/
  | openTunnel (authToken : String) (reply : TunnelReply) (now : Int)
  /-- `proxy_tunnel_request`. -/
  | proxyRequest (request : TunnelRequest) (reply : TunnelReply) (now : Int)
  /-- A chunk of a stream is read. -/
  | touchTunnel (tunnelUuid : String) (now : Int)
  /-- `_mark_session_activity`. -/
  | markActivity (authToken : String) (now : Int)
  | forgetSession (authToken : String)
  /-- `close_all_sessions` has been called. -/
  | shutdown

/-- `_extract_auth_token_from_body`. -/
def TunnelRequest.bodyToken
    (library : QueryLibrary)
    (request : TunnelRequest) : String :=
  if request.body = [] then ""
  else extractAuthToken library (library.decode request.body)

/-- What `remove_session` returns: its last step is to clear the tunnels. -/
def RdpMonitor.removed?
    (monitor : RdpMonitor)
    (authToken : String) : Option TrackedRdpSession :=
  (monitor.getSession authToken).map fun session =>
    { session with tunnelUuids := [] }

def RdpMonitor.getTunnelUuids
    (monitor : RdpMonitor)
    (authToken : String) : List String :=
  (monitor.getSession authToken).elim [] RdpMonitor.sortedTunnels

namespace CredentialService

variable (service : CredentialService)

/-- `_forget_http_tunnels_for_auth_token`. -/
def forgetTunnels (authToken : String) : CredentialService where
  monitor := service.monitor.releaseAllTunnels authToken
  memory :=
    (service.monitor.getTunnelUuids authToken).foldl TunnelMemory.forget
      service.memory

def forgetSession (authToken : String) : CredentialService :=
  if strip authToken = "" then
    service
  else
    let tunnels :=
      (service.monitor.removed? authToken).elim [] TrackedRdpSession.tunnelUuids
    let memory := tunnels.foldl TunnelMemory.forget service.memory
    { monitor := service.monitor.removeSession authToken
      memory :=
        { memory with
          authCookies :=
            Dictionary.erase (strip authToken) memory.authCookies } }

/-- A tunnel is remembered, and bound if there is a token for it. -/
def rememberTunnel
    (authToken text tunnelToken cookie : String)
    (binds : Bool)
    (now : Int) : CredentialService where
  monitor :=
    if binds then service.monitor.bindTunnel authToken (strip text) now
    else service.monitor
  memory :=
    service.memory.remember (strip text) (strip tunnelToken) cookie

/-- `_open_http_tunnel`. -/
def openTunnel
    (authToken : String)
    (now : Int) : TunnelReply → CredentialService
  | .answered _ text tunnelToken cookie =>
    service.rememberTunnel authToken text tunnelToken cookie
      (decide (strip text ≠ "") && decide (strip tunnelToken ≠ "")) now
  | .error _ => service
  | .unreachable => service

def dropTunnel (tunnelUuid : String) : CredentialService where
  monitor := service.monitor.releaseTunnel tunnelUuid
  memory := service.memory.forget tunnelUuid

def touchTunnel (tunnelUuid : String) (now : Int) : CredentialService :=
  { service with monitor := service.monitor.touchTunnel tunnelUuid now }

/-- `_mark_session_activity`, as far as sessions depend on it. -/
def markActivity (authToken : String) (now : Int) : CredentialService :=
  if strip authToken = "" then
    service
  else
    { service with
      monitor := service.monitor.touchAuthToken authToken now }

/-- `proxy_tunnel_request`, once Guacamole has replied. -/
def takeReply
    (library : QueryLibrary)
    (request : TunnelRequest)
    (now : Int) : TunnelReply → CredentialService
  | .answered status text tunnelToken cookie =>
    let tunnel := extractTunnelUuid request.rawQuery
    if request.rawQuery = "connect" then
      let authToken := request.bodyToken library
      service.rememberTunnel authToken text tunnelToken cookie
        (decide (strip text ≠ "") && decide (authToken ≠ "")) now
    else
      let touched :=
        if tunnel ≠ "" then service.touchTunnel tunnel now else service
      if request.method ≠ "GET" ∧ tunnel ≠ "" ∧
          request.rawQuery.startsWith "write:" ∧ 400 ≤ status then
        touched.dropTunnel tunnel
      else
        touched
  | .error code =>
    let tunnel := extractTunnelUuid request.rawQuery
    if tunnel ≠ "" ∧ (code = 404 ∨ code = 410) then
      service.dropTunnel tunnel
    else
      service
  | .unreachable => service

/-- What a request touches when it is handed on to Guacamole. -/
def handOn
    (library : QueryLibrary)
    (request : TunnelRequest)
    (now : Int) : CredentialService :=
  ((service.markActivity (request.authToken library) now).touchTunnel
    (request.resumedTunnel library) now).touchTunnel
      (extractTunnelUuid request.rawQuery) now

/-- `proxy_tunnel_request`. -/
def proxyRequest
    (library : QueryLibrary)
    (config : ProxyConfig)
    (request : TunnelRequest)
    (reply : TunnelReply)
    (now : Int) : CredentialService :=
  if service.memory.shutdownRequested then
    service
  else if config.baseUrl = "" then
    service.markActivity (request.authToken library) now
  else
    (service.handOn library request now).takeReply library request now reply

/-- Make a call, if the callers make it. -/
def step?
    (library : QueryLibrary)
    (config : ProxyConfig)
    (service : CredentialService) :
    CredentialCall → Option CredentialService
  | .registerSession registration now =>
    some
      { service with
        monitor := service.monitor.registerSession registration now }
  | .forgetTunnels authToken => some (service.forgetTunnels authToken)
  | .openTunnel authToken reply now =>
    -- It is called with the token of a session.
    if strip authToken = "" then
      none
    else if config.baseUrl = "" then
      some service
    else
      some (service.openTunnel authToken now reply)
  | .proxyRequest request reply now =>
    some (service.proxyRequest library config request reply now)
  | .touchTunnel tunnelUuid now => some (service.touchTunnel tunnelUuid now)
  | .markActivity authToken now => some (service.markActivity authToken now)
  | .forgetSession authToken => some (service.forgetSession authToken)
  | .shutdown =>
    some
      { service with
        memory := { service.memory with shutdownRequested := true } }

/-! ### The claim -/

/-- A tunnel that has a token is bound to a session that is tracked. -/
def CredentialsBound : Prop :=
  ∀ tunnel,
    (service.memory.tunnelTokens.lookup tunnel).isSome = true →
    ∃ authToken, service.monitor.Binds authToken tunnel

/-- Nothing is remembered of the tunnels of a session. -/
def Forgotten
    (monitor : RdpMonitor)
    (memory : TunnelMemory)
    (authToken : String) : Prop :=
  ∀ session ∈ monitor.sessions.find? (strip authToken),
    ∀ tunnel ∈ session.tunnelUuids,
      memory.tunnelTokens.lookup tunnel = none ∧
        memory.tunnelCookies.lookup tunnel = none

/-- After a call no credentials are left over. -/
def LeavesNothing
    (before : CredentialService)
    (call : CredentialCall)
    (after : CredentialService) : Prop :=
  after.CredentialsBound ∧
    ∀ authToken,
      call = .forgetSession authToken →
      Forgotten before.monitor after.memory authToken

/-- The calls, and the calls that leave no credentials over. -/
def CleanStep
    (library : QueryLibrary)
    (config : ProxyConfig)
    (before : CredentialService)
    (call : CredentialCall)
    (after : CredentialService) : Prop :=
  Fires (step? library config) before call after ∧
    before.LeavesNothing call after

/-- After every call of every sequence no credentials are left over. -/
def NoLeftovers (library : QueryLibrary) (config : ProxyConfig) : Prop :=
  ∀ idleTimeoutSeconds calls reached,
    Run (Fires (step? library config))
      { monitor := { idleTimeoutSeconds } } calls reached →
    Run (CleanStep library config)
      { monitor := { idleTimeoutSeconds } } calls reached

/-- A connection without a token is made in a tunnel that is bound. -/
def ConnectsBound
    (library : QueryLibrary)
    (config : ProxyConfig)
    (request : TunnelRequest) : TunnelReply → Prop
  | .answered _ text tunnelToken _ =>
    service.memory.shutdownRequested = false →
    config.baseUrl ≠ "" →
    request.rawQuery = "connect" →
    strip text ≠ "" →
    strip tunnelToken ≠ "" →
    request.bodyToken library = "" →
    ∃ session ∈ service.monitor.sessions.rows, strip text ∈ session.tunnelUuids
  | _ => True

/--
The condition under which nothing is left over: when a session is forgotten
there is nothing to drop, and tunnels without a session get no token.
-/
def NothingToDrop
    (library : QueryLibrary)
    (config : ProxyConfig) : CredentialCall → Prop
  | .forgetSession authToken =>
    Forgotten service.monitor service.memory authToken
  | .proxyRequest request reply _ =>
    service.ConnectsBound library config request reply
  | _ => True

end CredentialService

/-! ### What is bound when a tunnel is released -/

namespace RdpMonitor

variable {monitor : RdpMonitor} {authToken tunnel : String}

theorem binds_releaseFrom_iff (released clean : String) :
    (monitor.releaseFrom released clean).Binds authToken tunnel ↔
      (monitor.modifySession released
        (fun session =>
          { session with tunnelUuids := session.tunnelUuids.erase clean })
        fun _ => rfl).Binds authToken tunnel := by
  unfold Binds
  rw [sessions_releaseFrom]
  rfl

theorem Binds.releaseTunnel
    (binds : monitor.Binds authToken tunnel)
    {tunnelUuid : String}
    (other : tunnel ≠ strip tunnelUuid) :
    (monitor.releaseTunnel tunnelUuid).Binds authToken tunnel := by
  unfold RdpMonitor.releaseTunnel
  dsimp only
  split
  · exact binds
  · split
    · exact binds
    · rw [binds_releaseFrom_iff, binds_modifySession]
      obtain ⟨session, tracked, member⟩ := binds
      refine ⟨session, tracked, ?_⟩
      split
      · exact (List.mem_erase_of_ne other).mpr member
      · exact member

theorem binds_of_releaseTunnel
    {tunnelUuid : String}
    (binds : (monitor.releaseTunnel tunnelUuid).Binds authToken tunnel) :
    monitor.Binds authToken tunnel := by
  unfold RdpMonitor.releaseTunnel at binds
  dsimp only at binds
  split at binds
  · exact binds
  · split at binds
    · exact binds
    · rw [binds_releaseFrom_iff, binds_modifySession] at binds
      obtain ⟨session, tracked, member⟩ := binds
      refine ⟨session, tracked, ?_⟩
      split at member
      · exact List.mem_of_mem_erase member
      · exact member

theorem Binds.foldl_releaseTunnel
    (binds : monitor.Binds authToken tunnel)
    {tunnels : List String}
    (others : ∀ released ∈ tunnels, tunnel ≠ strip released) :
    (tunnels.foldl RdpMonitor.releaseTunnel monitor).Binds authToken
      tunnel := by
  induction tunnels generalizing monitor with
  | nil =>
    exact binds
  | cons first rest inductionHypothesis =>
    obtain ⟨other, others⟩ := List.forall_mem_cons.mp others
    exact inductionHypothesis (binds.releaseTunnel other) others

theorem binds_of_foldl_releaseTunnel
    {tunnels : List String}
    (binds :
      (tunnels.foldl RdpMonitor.releaseTunnel monitor).Binds authToken tunnel) :
    monitor.Binds authToken tunnel := by
  induction tunnels generalizing monitor with
  | nil =>
    exact binds
  | cons first rest inductionHypothesis =>
    exact binds_of_releaseTunnel (inductionHypothesis binds)

theorem releaseAllTunnels_eq (authToken : String) :
    monitor.releaseAllTunnels authToken =
      (monitor.getTunnelUuids authToken).foldl RdpMonitor.releaseTunnel
        monitor := by
  unfold RdpMonitor.releaseAllTunnels getTunnelUuids
  cases monitor.getSession authToken with
  | none | some =>
    rfl

theorem binds_bindTunnel {bound tunnelUuid : String} {now : Int} :
    (monitor.bindTunnel bound tunnelUuid now).Binds authToken tunnel ↔
      monitor.Binds authToken tunnel ∨
        (strip bound ≠ "" ∧ strip tunnelUuid ≠ "") ∧
          authToken = strip bound ∧ tunnel = strip tunnelUuid := by
  unfold RdpMonitor.bindTunnel
  split
  · rename_i isEmpty
    refine (or_iff_left ?_).symm
    rintro ⟨⟨named, given⟩, _⟩
    exact isEmpty.elim named given
  · rename_i nonempty
    rw [and_iff_right (not_or.mp nonempty)]
    split
    · rename_i isTracked
      obtain ⟨session, found⟩ := Option.isSome_iff_exists.mp isTracked
      exact
        binds_addTunnel
          (Option.isSome_iff_exists.mpr ⟨session, tracked_of_getSession found⟩)
    · have tracks :
          (monitor.registerSession { authToken := bound } now).Tracks
            (strip bound) :=
        (tracks_registerSession _).mpr (.inl ⟨rfl, (not_or.mp nonempty).1⟩)
      rw [binds_addTunnel tracks, binds_registerSession]

end RdpMonitor

/-! ### What is remembered after each operation -/

namespace TunnelMemory

variable (memory : TunnelMemory) (tunnel : String)

theorem tunnelTokens_forget (tunnelUuid : String) :
    (memory.forget tunnelUuid).tunnelTokens.lookup tunnel =
      if tunnel = tunnelUuid then none
      else memory.tunnelTokens.lookup tunnel := by
  unfold forget
  split
  · rename_i same
    rw [same, Dictionary.lookup_erase_self]
  · rename_i other
    exact Dictionary.lookup_erase_other other _

theorem tunnelTokens_foldl_forget (tunnels : List String) :
    (tunnels.foldl forget memory).tunnelTokens.lookup tunnel =
      if tunnel ∈ tunnels then none
      else memory.tunnelTokens.lookup tunnel := by
  induction tunnels generalizing memory with
  | nil =>
    rfl
  | cons first rest inductionHypothesis =>
    rw [List.foldl_cons, inductionHypothesis, tunnelTokens_forget]
    by_cases later : tunnel ∈ rest
    · rw [if_pos later, if_pos (List.mem_cons_of_mem first later)]
    · simp [later]

theorem tunnelTokens_remember (tunnelUuid tunnelToken cookie : String) :
    (memory.remember tunnelUuid tunnelToken cookie).tunnelTokens.lookup
        tunnel =
      if tunnelUuid ≠ "" ∧ tunnelToken ≠ "" ∧ tunnel = tunnelUuid then
        some tunnelToken
      else
        memory.tunnelTokens.lookup tunnel := by
  unfold remember
  dsimp only
  by_cases stores : tunnelUuid ≠ "" ∧ tunnelToken ≠ ""
  · rw [if_pos stores]
    by_cases same : tunnel = tunnelUuid
    · rw [if_pos ⟨stores.1, stores.2, same⟩, same, Dictionary.lookup_set_self]
    · rw [if_neg fun all => same all.2.2, Dictionary.lookup_set_other same]
  · rw [if_neg stores, if_neg fun all => stores ⟨all.1, all.2.1⟩]

end TunnelMemory

/-! ### What a call leaves over -/

namespace CredentialService

/-- The invariant: tokens are bound, and tunnels are stored stripped. -/
structure Kept (service : CredentialService) : Prop where
  bound : service.CredentialsBound
  clean :
    ∀ {authToken tunnel},
      service.monitor.Binds authToken tunnel → strip tunnel = tunnel

variable {service before after : CredentialService}

theorem forgotten_iff
    {monitor : RdpMonitor}
    {memory : TunnelMemory}
    {authToken : String} :
    Forgotten monitor memory authToken ↔
      ∀ tunnel,
        monitor.Binds (strip authToken) tunnel →
        memory.tunnelTokens.lookup tunnel = none ∧
          memory.tunnelCookies.lookup tunnel = none := by
  constructor
  · rintro forgotten tunnel ⟨session, tracked, member⟩
    exact forgotten session tracked tunnel member
  · intro forgotten session tracked tunnel member
    exact forgotten tunnel ⟨session, tracked, member⟩

theorem bound_iff_mem_rows {monitor : RdpMonitor} {tunnel : String} :
    (∃ authToken, monitor.Binds authToken tunnel) ↔
      ∃ session ∈ monitor.sessions.rows, tunnel ∈ session.tunnelUuids := by
  constructor
  · rintro ⟨_, session, tracked, member⟩
    exact ⟨session, (monitor.sessions.find?_eq_some_iff.mp tracked).1, member⟩
  · rintro ⟨session, isRow, member⟩
    exact
      ⟨session.authToken, session,
        monitor.sessions.find?_eq_some_iff.mpr ⟨isRow, rfl⟩, member⟩

theorem Kept.of_same
    (kept : before.Kept)
    (sameBinds :
      ∀ authToken tunnel,
        after.monitor.Binds authToken tunnel ↔
          before.monitor.Binds authToken tunnel)
    (sameTokens : after.memory.tunnelTokens = before.memory.tunnelTokens) :
    after.Kept where
  bound := by
    intro tunnel isStored
    rw [sameTokens] at isStored
    obtain ⟨authToken, binds⟩ := kept.bound tunnel isStored
    exact ⟨authToken, (sameBinds _ _).mpr binds⟩
  clean binds := kept.clean ((sameBinds _ _).mp binds)

theorem Kept.touchTunnel
    (kept : service.Kept)
    (tunnelUuid : String)
    (now : Int) : (service.touchTunnel tunnelUuid now).Kept :=
  kept.of_same (fun _ _ => RdpMonitor.binds_touchTunnel) rfl

theorem Kept.touchGiven
    (kept : service.Kept)
    (tunnelUuid : String)
    (now : Int) :
    (if tunnelUuid ≠ "" then service.touchTunnel tunnelUuid now
      else service).Kept := by
  split
  · exact kept.touchTunnel tunnelUuid now
  · exact kept

theorem Kept.markActivity
    (kept : service.Kept)
    (authToken : String)
    (now : Int) : (service.markActivity authToken now).Kept := by
  unfold CredentialService.markActivity
  split
  · exact kept
  · exact kept.of_same (fun _ _ => RdpMonitor.binds_touchAuthToken) rfl

theorem Kept.forgetTunnels
    (kept : service.Kept)
    (authToken : String) : (service.forgetTunnels authToken).Kept := by
  constructor
  · intro tunnel isStored
    unfold CredentialService.forgetTunnels at isStored ⊢
    dsimp only at isStored ⊢
    rw [TunnelMemory.tunnelTokens_foldl_forget] at isStored
    split at isStored
    · cases isStored
    rename_i notReleased
    obtain ⟨owner, binds⟩ := kept.bound tunnel isStored
    refine ⟨owner, ?_⟩
    rw [RdpMonitor.releaseAllTunnels_eq]
    apply binds.foldl_releaseTunnel
    rintro released member rfl
    unfold RdpMonitor.getTunnelUuids at notReleased member
    cases found : service.monitor.getSession authToken with
    | none =>
      rw [found] at member
      cases member
    | some session =>
      rw [found] at notReleased member
      have isOwn : service.monitor.Binds (strip authToken) released :=
        ⟨session, RdpMonitor.tracked_of_getSession found,
          List.mem_mergeSort.mp member⟩
      rw [kept.clean isOwn] at notReleased
      exact notReleased member
  · intro owner tunnel binds
    unfold CredentialService.forgetTunnels at binds
    dsimp only at binds
    rw [RdpMonitor.releaseAllTunnels_eq] at binds
    exact kept.clean (RdpMonitor.binds_of_foldl_releaseTunnel binds)

theorem Kept.dropTunnel
    (kept : service.Kept)
    {tunnelUuid : String}
    (isClean : strip tunnelUuid = tunnelUuid) :
    (service.dropTunnel tunnelUuid).Kept := by
  constructor
  · intro tunnel isStored
    unfold CredentialService.dropTunnel at isStored ⊢
    dsimp only at isStored ⊢
    rw [TunnelMemory.tunnelTokens_forget] at isStored
    split at isStored
    · cases isStored
    · rename_i other
      obtain ⟨owner, binds⟩ := kept.bound tunnel isStored
      rw [← isClean] at other
      exact ⟨owner, binds.releaseTunnel other⟩
  · intro owner tunnel binds
    exact kept.clean (RdpMonitor.binds_of_releaseTunnel binds)

variable
    {now : Int}
    {owner tunnel : String}
    {library : QueryLibrary}
    {config : ProxyConfig}
    {request : TunnelRequest}
    {reply : TunnelReply}
    {call : CredentialCall}

/-- What is remembered is bound, if a session gets it or has it already. -/
theorem Kept.rememberTunnel_iff
    (kept : service.Kept)
    {authToken text tunnelToken cookie : String}
    {binds : Bool}
    (isNamed : binds = true → strip text ≠ "" ∧ strip authToken ≠ "") :
    (service.rememberTunnel authToken text tunnelToken cookie binds
        now).CredentialsBound ↔
      (strip text ≠ "" →
        strip tunnelToken ≠ "" →
        binds = false →
        ∃ owner, service.monitor.Binds owner (strip text)) := by
  have isBound :
      ∀ owner tunnel,
        (service.rememberTunnel authToken text tunnelToken cookie binds
            now).monitor.Binds owner tunnel ↔
          service.monitor.Binds owner tunnel ∨
            binds = true ∧ owner = strip authToken ∧ tunnel = strip text := by
    intro owner tunnel
    unfold CredentialService.rememberTunnel
    dsimp only
    split
    · rename_i isTrue
      obtain ⟨given, named⟩ := isNamed isTrue
      rw [RdpMonitor.binds_bindTunnel, strip_strip]
      simp [isTrue, given, named]
    · rename_i isFalse
      simp [isFalse]
  have isStored :
      ∀ tunnel,
        (service.rememberTunnel authToken text tunnelToken cookie binds
            now).memory.tunnelTokens.lookup tunnel = _ :=
    fun tunnel =>
      service.memory.tunnelTokens_remember tunnel (strip text)
        (strip tunnelToken) cookie
  unfold CredentialsBound
  simp only [isBound, isStored]
  constructor
  · intro bound given stores isFalse
    obtain ⟨owner, isOwner⟩ :=
      bound (strip text) (by rw [if_pos ⟨given, stores, rfl⟩]; rfl)
    refine ⟨owner, isOwner.resolve_right ?_⟩
    rw [isFalse]
    exact fun both => absurd both.1 (by decide)
  · intro bound tunnel stored
    split at stored
    · rename_i isNew
      obtain ⟨given, stores, rfl⟩ := isNew
      cases isTrue : binds with
      | true =>
        exact ⟨strip authToken, .inr ⟨rfl, rfl, rfl⟩⟩
      | false =>
        obtain ⟨owner, isOwner⟩ := bound given stores isTrue
        exact ⟨owner, .inl isOwner⟩
    · obtain ⟨owner, isOwner⟩ := kept.bound tunnel stored
      exact ⟨owner, .inl isOwner⟩

theorem Kept.clean_rememberTunnel
    (kept : service.Kept)
    {authToken text tunnelToken cookie : String}
    {binds : Bool}
    (isBound :
      (service.rememberTunnel authToken text tunnelToken cookie binds
        now).monitor.Binds owner tunnel) :
    strip tunnel = tunnel := by
  unfold CredentialService.rememberTunnel at isBound
  dsimp only at isBound
  split at isBound
  · rw [RdpMonitor.binds_bindTunnel, strip_strip] at isBound
    rcases isBound with earlier | ⟨_, _, rfl⟩
    · exact kept.clean earlier
    · exact strip_strip text
  · exact kept.clean isBound

theorem strip_bodyToken (library : QueryLibrary) (request : TunnelRequest) :
    strip (request.bodyToken library) = request.bodyToken library := by
  unfold TunnelRequest.bodyToken extractAuthToken firstValue
  split
  · decide
  · exact strip_strip _

theorem strip_extractTunnelUuid (rawQuery : String) :
    strip (extractTunnelUuid rawQuery) = extractTunnelUuid rawQuery := by
  unfold extractTunnelUuid
  dsimp only
  split
  · decide
  · split
    · exact strip_strip _
    · split
      · exact strip_strip _
      · decide

theorem Kept.openTunnel
    (kept : service.Kept)
    {authToken : String}
    (named : strip authToken ≠ "")
    (now : Int)
    (reply : TunnelReply) :
    (service.openTunnel authToken now reply).Kept := by
  cases reply with
  | answered status text tunnelToken cookie =>
    constructor
    · refine (kept.rememberTunnel_iff ?_).mpr ?_
      · intro binds
        rw [Bool.and_eq_true] at binds
        exact ⟨of_decide_eq_true binds.1, named⟩
      · intro given stores isFalse
        simp [given, stores] at isFalse
    · intro owner tunnel isBound
      exact kept.clean_rememberTunnel isBound
  | error | unreachable =>
    exact kept

theorem Kept.takeReply_iff
    (kept : service.Kept)
    (isRunning : service.memory.shutdownRequested = false)
    (isConfigured : config.baseUrl ≠ "") :
    (service.takeReply library request now reply).CredentialsBound ↔
      service.ConnectsBound library config request reply := by
  have isClean := strip_extractTunnelUuid request.rawQuery
  cases reply with
  | answered status text tunnelToken cookie =>
    unfold CredentialService.takeReply ConnectsBound
    dsimp only
    rw [imp_iff_right isRunning, imp_iff_right isConfigured,
      ← bound_iff_mem_rows]
    split
    · rename_i isConnect
      rw [imp_iff_right isConnect, kept.rememberTunnel_iff]
      · refine forall_congr' fun given => forall_congr' fun _ => ?_
        simp [given]
      · intro binds
        rw [Bool.and_eq_true, decide_eq_true_eq, decide_eq_true_eq] at binds
        rwa [strip_bodyToken]
    · rename_i other
      refine iff_of_true ?_ fun isConnect => absurd isConnect other
      have touched :=
        kept.touchGiven (extractTunnelUuid request.rawQuery) now
      split
      · exact (touched.dropTunnel isClean).bound
      · exact touched.bound
  | error code =>
    refine iff_of_true ?_ trivial
    unfold CredentialService.takeReply
    dsimp only
    split
    · exact (kept.dropTunnel isClean).bound
    · exact kept.bound
  | unreachable =>
    exact iff_of_true kept.bound trivial

theorem Kept.clean_takeReply
    (kept : service.Kept)
    (binds :
      (service.takeReply library request now reply).monitor.Binds owner
        tunnel) :
    strip tunnel = tunnel := by
  unfold CredentialService.takeReply at binds
  cases reply with
  | answered status text tunnelToken cookie =>
    dsimp only at binds
    split at binds
    · exact kept.clean_rememberTunnel binds
    · have touched :=
        kept.touchGiven (extractTunnelUuid request.rawQuery) now
      split at binds
      · exact touched.clean (RdpMonitor.binds_of_releaseTunnel binds)
      · exact touched.clean binds
  | error code =>
    dsimp only at binds
    split at binds
    · exact kept.clean (RdpMonitor.binds_of_releaseTunnel binds)
    · exact kept.clean binds
  | unreachable =>
    exact kept.clean binds

theorem binds_markActivity
    {authToken owner tunnel : String}
    {now : Int} :
    (service.markActivity authToken now).monitor.Binds owner tunnel ↔
      service.monitor.Binds owner tunnel := by
  unfold markActivity
  split
  · rfl
  · exact RdpMonitor.binds_touchAuthToken

theorem binds_handOn
    {owner tunnel : String} :
    (service.handOn library request now).monitor.Binds owner tunnel ↔
      service.monitor.Binds owner tunnel := by
  unfold handOn CredentialService.touchTunnel
  rw [RdpMonitor.binds_touchTunnel, RdpMonitor.binds_touchTunnel,
    binds_markActivity]

theorem memory_handOn
    (library : QueryLibrary)
    (request : TunnelRequest)
    (now : Int) :
    (service.handOn library request now).memory = service.memory := by
  unfold handOn CredentialService.touchTunnel markActivity
  dsimp only
  split <;> rfl

theorem Kept.handOn
    (kept : service.Kept)
    (library : QueryLibrary)
    (request : TunnelRequest)
    (now : Int) : (service.handOn library request now).Kept := by
  refine kept.of_same (fun _ _ => binds_handOn) ?_
  rw [memory_handOn]

theorem connectsBound_congr
    (sameBinds :
      ∀ owner tunnel,
        after.monitor.Binds owner tunnel ↔ before.monitor.Binds owner tunnel)
    (sameMemory : after.memory = before.memory) :
    after.ConnectsBound library config request reply ↔
      before.ConnectsBound library config request reply := by
  cases reply with
  | answered status text tunnelToken cookie =>
    unfold ConnectsBound
    simp only [← bound_iff_mem_rows, sameBinds, sameMemory]
  | error | unreachable =>
    rfl

theorem Kept.proxyRequest_iff
    (kept : service.Kept)
    {reply : TunnelReply} :
    (service.proxyRequest library config request reply
        now).CredentialsBound ↔
      service.ConnectsBound library config request reply := by
  have unanswered :
      ¬ (service.memory.shutdownRequested = false ∧ config.baseUrl ≠ "") →
      service.ConnectsBound library config request reply := by
    intro refused
    cases reply with
    | answered status text tunnelToken cookie =>
      exact fun isRunning isConfigured =>
        absurd ⟨isRunning, isConfigured⟩ refused
    | error | unreachable =>
      exact trivial
  unfold CredentialService.proxyRequest
  split
  · rename_i isShutdown
    refine iff_of_true kept.bound (unanswered fun both => ?_)
    rw [isShutdown] at both
    exact absurd both.1 (by decide)
  · rename_i notShutdown
    split
    · rename_i unconfigured
      exact
        iff_of_true (kept.markActivity _ _).bound
          (unanswered fun both => both.2 unconfigured)
    · rename_i isConfigured
      rw [(kept.handOn library request now).takeReply_iff ?_ isConfigured]
      · exact
          connectsBound_congr (fun _ _ => binds_handOn)
            (service.memory_handOn library request now)
      · rw [memory_handOn]
        exact Bool.eq_false_iff.mpr notShutdown

theorem Kept.clean_proxyRequest
    (kept : service.Kept)
    (binds :
      (service.proxyRequest library config request reply
        now).monitor.Binds owner tunnel) :
    strip tunnel = tunnel := by
  unfold CredentialService.proxyRequest at binds
  split at binds
  · exact kept.clean binds
  · split at binds
    · exact (kept.markActivity _ _).clean binds
    · exact (kept.handOn _ _ _).clean_takeReply binds

theorem forgetSession_eq (authToken : String) :
    (service.forgetSession authToken).monitor =
        service.monitor.removeSession authToken ∧
      (service.forgetSession authToken).memory.tunnelTokens =
        service.memory.tunnelTokens ∧
      (service.forgetSession authToken).memory.tunnelCookies =
        service.memory.tunnelCookies := by
  unfold CredentialService.forgetSession
  split
  · rename_i isEmpty
    have unchanged :
        service.monitor.removeSession authToken = service.monitor := by
      unfold RdpMonitor.removeSession RdpMonitor.getSession
      rw [if_pos isEmpty]
    exact ⟨unchanged.symm, rfl, rfl⟩
  · have noTunnels :
        (service.monitor.removed? authToken).elim []
            TrackedRdpSession.tunnelUuids = [] := by
      unfold RdpMonitor.removed?
      cases service.monitor.getSession authToken <;> rfl
    rw [noTunnels]
    exact ⟨rfl, rfl, rfl⟩

theorem Kept.forgetSession_iff
    (kept : service.Kept)
    (authToken : String) :
    service.LeavesNothing (.forgetSession authToken)
        (service.forgetSession authToken) ↔
      Forgotten service.monitor service.memory authToken := by
  obtain ⟨sameMonitor, sameTokens, sameCookies⟩ :=
    service.forgetSession_eq authToken
  have sameForgotten :
      Forgotten service.monitor (service.forgetSession authToken).memory
          authToken ↔
        Forgotten service.monitor service.memory authToken := by
    unfold Forgotten
    rw [sameTokens, sameCookies]
  constructor
  · rintro ⟨_, forgets⟩
    exact sameForgotten.mp (forgets authToken rfl)
  · intro forgotten
    refine ⟨?_, ?_⟩
    · intro tunnel isStored
      rw [sameTokens] at isStored
      obtain ⟨owner, binds⟩ := kept.bound tunnel isStored
      refine ⟨owner, ?_⟩
      rw [sameMonitor, RdpMonitor.binds_removeSession]
      refine ⟨binds, ?_⟩
      rintro rfl
      have dropped := (forgotten_iff.mp forgotten tunnel binds).1
      rw [dropped] at isStored
      cases isStored
    · rintro _ ⟨⟩
      exact sameForgotten.mpr forgotten

theorem leavesNothing_iff_bound
    (forgetsNone : ∀ authToken, call ≠ .forgetSession authToken) :
    before.LeavesNothing call after ↔ after.CredentialsBound :=
  and_iff_left fun authToken isForget =>
    absurd isForget (forgetsNone authToken)

/-- A call leaves nothing over if and only if there is nothing to drop. -/
theorem Kept.leavesNothing_iff
    (kept : before.Kept)
    (stepped : step? library config before call = some after) :
    before.LeavesNothing call after ↔
      before.NothingToDrop library config call := by
  unfold step? at stepped
  cases call with
  | registerSession registration now =>
    cases stepped
    rw [leavesNothing_iff_bound (by simp)]
    have registered : Kept
          { before with
            monitor :=
              before.monitor.registerSession registration now } :=
      kept.of_same (fun _ _ => RdpMonitor.binds_registerSession) rfl
    exact iff_of_true registered.bound trivial
  | forgetTunnels authToken =>
    cases stepped
    rw [leavesNothing_iff_bound (by simp)]
    exact iff_of_true (kept.forgetTunnels authToken).bound trivial
  | openTunnel authToken reply now =>
    rw [leavesNothing_iff_bound (by simp)]
    refine iff_of_true ?_ trivial
    dsimp only at stepped
    split at stepped
    · cases stepped
    · rename_i named
      split at stepped
      · cases stepped
        exact kept.bound
      · cases stepped
        exact (kept.openTunnel named now reply).bound
  | proxyRequest request reply now =>
    cases stepped
    rw [leavesNothing_iff_bound (by simp)]
    exact kept.proxyRequest_iff
  | touchTunnel tunnelUuid now =>
    cases stepped
    rw [leavesNothing_iff_bound (by simp)]
    exact iff_of_true (kept.touchTunnel tunnelUuid now).bound trivial
  | markActivity authToken now =>
    cases stepped
    rw [leavesNothing_iff_bound (by simp)]
    exact iff_of_true (kept.markActivity authToken now).bound trivial
  | forgetSession authToken =>
    cases stepped
    exact kept.forgetSession_iff authToken
  | shutdown =>
    cases stepped
    rw [leavesNothing_iff_bound (by simp)]
    exact iff_of_true kept.bound trivial

theorem Kept.clean_step
    (kept : before.Kept)
    (stepped : step? library config before call = some after)
    (binds : after.monitor.Binds owner tunnel) :
    strip tunnel = tunnel := by
  unfold step? at stepped
  cases call with
  | registerSession registration now =>
    cases stepped
    exact kept.clean (RdpMonitor.binds_registerSession.mp binds)
  | forgetTunnels authToken =>
    cases stepped
    exact (kept.forgetTunnels authToken).clean binds
  | openTunnel authToken reply now =>
    dsimp only at stepped
    split at stepped
    · cases stepped
    · rename_i named
      split at stepped
      · cases stepped
        exact kept.clean binds
      · cases stepped
        exact (kept.openTunnel named now reply).clean binds
  | proxyRequest request reply now =>
    cases stepped
    exact kept.clean_proxyRequest binds
  | touchTunnel tunnelUuid now =>
    cases stepped
    exact (kept.touchTunnel tunnelUuid now).clean binds
  | markActivity authToken now =>
    cases stepped
    exact (kept.markActivity authToken now).clean binds
  | forgetSession authToken =>
    cases stepped
    rw [(before.forgetSession_eq authToken).1] at binds
    exact kept.clean (RdpMonitor.binds_removeSession.mp binds).1
  | shutdown =>
    cases stepped
    exact kept.clean binds

theorem kept_started (idleTimeoutSeconds : Int) :
    Kept { monitor := { idleTimeoutSeconds } } where
  bound := nofun
  clean := by
    rintro _ _ ⟨session, tracked, _⟩
    cases tracked

/--
In a run nothing is ever left over if and only if every session is forgotten
with nothing to drop, and no tunnel without a session gets a token.
-/
theorem leavesNothing_iff_nothingToDrop
    (library : QueryLibrary)
    (config : ProxyConfig)
    (idleTimeoutSeconds : Int)
    (calls : List CredentialCall)
    (reached : CredentialService) :
    Run (CleanStep library config) { monitor := { idleTimeoutSeconds } }
        calls reached ↔
      Run
        (Guarded (Fires (step? library config)) fun before call =>
          before.NothingToDrop library config call)
        { monitor := { idleTimeoutSeconds } } calls reached := by
  have agree :
      ∀ (before : CredentialService) call after,
        before.Kept →
        (CleanStep library config before call after ↔
          Guarded (Fires (step? library config))
            (fun before call => before.NothingToDrop library config call)
            before call after) :=
    fun _ _ _ kept => and_congr_right kept.leavesNothing_iff
  have stepPreserves :
      ∀ (before : CredentialService) call after,
        CleanStep library config before call after →
        before.Kept →
        after.Kept :=
    fun _ _ _ taken kept => ⟨taken.2.1, kept.clean_step taken.1⟩
  exact Run.congr agree stepPreserves (kept_started idleTimeoutSeconds)

/-- A session is forgotten that has a tunnel which was opened ahead. -/
def forgottenWithTunnel : List CredentialCall :=
  [.registerSession { authToken := "token-1", agentId := "agent-1" } 10,
    .openTunnel "token-1" (.answered 200 "tunnel-1" "secret-1" "") 11,
    .forgetSession "token-1"]

/-- The token of the tunnel is still stored, and nothing is tracked. -/
theorem not_noLeftovers :
    ¬ NoLeftovers plainQueryLibrary localGuacamole := by
  intro claimed
  obtain ⟨reached, run, leftOver⟩ :=
    exists_run_of_execute
      (show
        (execute (step? plainQueryLibrary localGuacamole)
            { monitor := { idleTimeoutSeconds := 900 } }
            forgottenWithTunnel).any (fun service =>
              (service.memory.tunnelTokens.lookup "tunnel-1").isSome &&
                service.monitor.sessions.rows.isEmpty) =
          true by decide +kernel)
  rw [Bool.and_eq_true, List.isEmpty_iff] at leftOver
  have stepPreserves :
      ∀ (before : CredentialService) call after,
        CleanStep plainQueryLibrary localGuacamole before call after →
        before.CredentialsBound →
        after.CredentialsBound :=
    fun _ _ _ taken _ => taken.2.1
  have bound : reached.CredentialsBound :=
    (claimed _ _ _ run).preserves stepPreserves nofun
  have tracked := bound_iff_mem_rows.mp (bound "tunnel-1" leftOver.1)
  rw [leftOver.2] at tracked
  exact absurd tracked (by simp)

end CredentialService

end RpaPlatform.Agents
