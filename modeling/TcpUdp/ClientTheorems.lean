import TcpUdp.Client
import TcpUdp.OneClose

/-!
# The client closes no socket twice

A socket moves from the operation that has made it to `tcpSockets` and from there to a
connection, and each of the three closes what it holds. `Balanced` counts it: every socket
obtained is in one place, and the closed ones are one of the places. This holds in every run.
-/

namespace TcpUdp

open Lib

namespace Client

variable {s : Client}

/-! ## Where the sockets are -/

/-- The sockets of the connections that are connected. -/
def Channel.live (ch : Channel) : List SocketId :=
  ((List.range ch.life.nextConn).filter ch.life.connected).map ch.fds

lemma count_dropped (ch : Channel) {life : Lifecycle} (hnext : life.nextConn = ch.life.nextConn)
    (hdying : ∀ c, life.connected c = true → ch.life.connected c = true) (fd : SocketId) :
    (ch.dropped life).count fd + ({ ch with life := life } : Channel).live.count fd
      = ch.live.count fd := by
  have hlive : (List.range life.nextConn).filter life.connected
      = ((List.range ch.life.nextConn).filter ch.life.connected).filter life.connected := by
    rw [List.filter_filter, hnext]
    refine List.filter_congr fun c _ => ?_
    cases hc : life.connected c with
    | false => rfl
    | true => rw [hdying c hc]; rfl
  have hdropped : (List.range ch.life.nextConn).filter
        (fun c => ch.life.connected c && !life.connected c)
      = ((List.range ch.life.nextConn).filter ch.life.connected).filter fun c =>
        !life.connected c := by
    rw [List.filter_filter]
    exact List.filter_congr fun c _ => Bool.and_comm _ _
  have hsplit := List.filter_append_perm life.connected
    ((List.range ch.life.nextConn).filter ch.life.connected)
  have hcount := (hsplit.map ch.fds).count_eq fd
  rw [List.map_append, List.count_append] at hcount
  rw [Channel.dropped, Channel.live, Channel.live, hdropped, hlive]
  dsimp only
  omega

lemma count_set {channels : List Channel} {v : ℕ} {ch : Channel} (h : channels[v]? = some ch)
    (ch' : Channel) (fd : SocketId) :
    ((channels.set v ch').flatMap Channel.live).count fd + ch.live.count fd
      = (channels.flatMap Channel.live).count fd + ch'.live.count fd := by
  obtain ⟨hv, rfl⟩ := List.getElem?_eq_some_iff.mp h
  have hsplit : channels = channels.take v ++ channels[v] :: channels.drop (v + 1) := by
    rw [← List.drop_eq_getElem_cons hv, List.take_append_drop]
  rw [List.set_eq_take_append_cons_drop, if_pos hv]
  conv_rhs => rw [hsplit]
  simp only [List.flatMap_append, List.flatMap_cons, List.count_append]
  omega

/-- Every socket obtained is in exactly one place: in the hand of the operation, in
`tcpSockets` as long as no channel has it, with a connected connection, or closed. -/
def Balanced (s : Client) (inHand : List SocketId) : Prop :=
  ∀ fd, inHand.count fd + (if s.vc = none then s.tcpSockets.count fd else 0)
    + (s.channels.flatMap Channel.live).count fd + s.closed.count fd
      = if fd < s.nextSocket then 1 else 0

/-- Without a channel there are no sockets. -/
def Tidy (s : Client) : Prop := s.vc = none → s.tcpSockets = []

def SlotFits (s : Client) (slotIndex : ℕ) : Prop :=
  ∀ v ch, s.vc = some v → s.channels[v]? = some ch → slotIndex < ch.life.connections.length

/-- What is known of `vc` and `tcpSockets` before an action. -/
def At (s : Client) : OperationPc → Prop
  | .teardown _ => True
  | .socketCreate _ _ | .socketConnect _ _ _ | .sendBind _ _ _ | .createVc _ => s.vc = none
  | .teardownClosing v _ | .stopClosing v | .reconnectClosing v _ _ | .openVc _ v => s.vc = some v
  | .slotReplace v slotIndex _ => s.vc = some v ∧ s.SlotFits slotIndex
  | .slotCreate slotIndex _ | .slotConnect slotIndex _ _ | .slotCheck slotIndex _ _
  | .slotBind slotIndex _ _ _ | .slotOpenCheck slotIndex _ _ _ =>
    s.Tidy ∧ s.SlotFits slotIndex
  | .idle | .startWatchdog _ | .reconnectLoop _ _ | .reconnectCleared _ _ => s.Tidy

structure Wf (s : Client) : Prop where
  vc : ∀ v, s.vc = some v → v < s.channels.length
  here : s.At s.pc
  balanced : s.Balanced s.pc.socket?.toList

lemma wf_goto {pc : OperationPc} (hvc : ∀ v, s.vc = some v → v < s.channels.length)
    (hat : s.At pc) (hbal : s.Balanced pc.socket?.toList) : Wf (s.goto pc) :=
  ⟨hvc, hat, hbal⟩

/-! ### Actions inside a channel -/

lemma channelStep_eq (v : ℕ) (e : Lifecycle.Event) :
    (s.channelStep v e).vc = s.vc ∧ (s.channelStep v e).tcpSockets = s.tcpSockets
      ∧ (s.channelStep v e).pc = s.pc ∧ (s.channelStep v e).nextSocket = s.nextSocket
      ∧ (s.channelStep v e).channels.length = s.channels.length := by
  rw [channelStep]
  split
  · exact ⟨rfl, rfl, rfl, rfl, rfl⟩
  · exact ⟨rfl, rfl, rfl, rfl, List.length_set⟩

lemma balanced_channelStep {inHand : List SocketId} (hs : s.Balanced inHand) (v : ℕ)
    {e : Lifecycle.Event} (he : ∀ slotIndex, e ≠ .replaceConnection slotIndex) :
    (s.channelStep v e).Balanced inHand := by
  rw [channelStep]
  split
  · exact hs
  · rename_i ch hch
    obtain ⟨hnext, -, hdying⟩ := Lifecycle.connected_step (s := ch.life) he
    intro fd
    have h := hs fd
    have hset := count_set hch { ch with life := Lifecycle.step ch.life e } fd
    have hdrop := count_dropped ch hnext hdying fd
    show _ + _ + ((s.channels.set v _).flatMap Channel.live).count fd
      + (ch.dropped _ ++ s.closed).count fd = _
    rw [List.count_append]
    dsimp only at h ⊢
    omega

/-! ### The end of `PrepareVC` and of `TeardownVc` -/

lemma wf_prepareReturned (hvc : ∀ v, s.vc = some v → v < s.channels.length) (htidy : s.Tidy)
    (hbal : s.Balanced []) (caller : Caller) (ok : Bool) : Wf (s.prepareReturned caller ok) := by
  cases caller with
  | user => exact wf_goto hvc htidy hbal
  | reconnectVC maxRetries retryCount =>
    rw [prepareReturned]
    split_ifs
    · exact wf_goto hvc htidy hbal
    · exact wf_goto hvc htidy hbal
    · exact wf_goto hvc htidy hbal

lemma wf_teardownReturned (hvc : s.vc = none) (hbal : s.clearSockets.Balanced [])
    (next : AfterTeardown) : Wf (s.teardownReturned next) := by
  have hbound : ∀ v, s.vc = some v → v < s.channels.length := fun v h => by
    rw [hvc] at h
    cases h
  cases next with
  | done => exact wf_goto hbound (fun _ => rfl) hbal
  | prepare caller => exact wf_goto hbound hvc hbal
  | fail caller =>
    exact wf_prepareReturned (s := { s.clearSockets with teardowns := s.nextSocket :: s.teardowns })
      hbound (fun _ => rfl) hbal caller false

/-- `close()` has returned: the client forgets the channel and its sockets. -/
lemma balanced_release {v : ℕ} (hvc : s.vc = some v) (hbal : s.Balanced []) :
    ({ s with vc := none } : Client).clearSockets.Balanced [] := by
  intro fd
  have h := hbal fd
  rw [hvc] at h
  exact h

/-- Without a channel, `TeardownVc` closes what is in `tcpSockets`. -/
lemma balanced_closeSockets (hvc : s.vc = none) (hbal : s.Balanced []) :
    ({ s with closed := s.tcpSockets ++ s.closed } : Client).clearSockets.Balanced [] := by
  intro fd
  have h := hbal fd
  show 0 + (if s.vc = none then List.count fd [] else 0)
    + (s.channels.flatMap Channel.live).count fd + (s.tcpSockets ++ s.closed).count fd
      = if fd < s.nextSocket then 1 else 0
  rw [if_pos hvc, List.count_nil] at h
  rw [if_pos hvc, List.count_nil, List.count_append]
  omega

lemma wf_teardown (hs : Wf s) {next : AfterTeardown} (hpc : s.pc = .teardown next) :
    Wf (s.teardown next) := by
  have hbal : s.Balanced [] := by
    have h := hs.balanced
    rwa [hpc] at h
  unfold teardown
  dsimp only
  split
  · rename_i v hvc
    have hvc : s.vc = some v := hvc
    obtain ⟨hvc', -, -, -, hlen⟩ := channelStep_eq (s := s.stopWatchdog) v (.callClose 0)
    refine wf_goto (fun w hw => ?_) (hvc'.trans hvc) ?_
    · rw [hlen]
      exact hs.vc w (hvc'.symm.trans hw)
    · exact balanced_channelStep (s := s.stopWatchdog) hbal v fun _ h => by cases h
  · rename_i hvc
    have hvc : s.vc = none := hvc
    exact wf_teardownReturned (s := { s.stopWatchdog with closed := s.tcpSockets ++ s.closed })
      hvc (balanced_closeSockets (s := s.stopWatchdog) hvc hbal) next

/-! ### `PrepareVC` -/

lemma live_create (fds : List SocketId) : (Channel.create fds).live = fds := by
  have hall : (List.range fds.length).filter (fun _ => true) = List.range fds.length :=
    List.filter_true _
  show ((List.range fds.length).filter fun _ => true).map (fun c => fds.getD c 0) = fds
  rw [hall]
  refine List.ext_getElem (by rw [List.length_map, List.length_range]) fun i hi hi' => ?_
  rw [List.getElem_map, List.getElem_range, List.getD_eq_getElem?_getD,
    List.getElem?_eq_getElem hi']
  rfl

lemma wf_createVc (hs : Wf s) {caller : Caller} (hpc : s.pc = .createVc caller) :
    Wf (s.createVc caller) := by
  have hvc : s.vc = none := by
    have h := hs.here
    rwa [hpc] at h
  have hbal := hs.balanced
  rw [hpc] at hbal
  refine wf_goto (fun v hv => ?_) rfl fun fd => ?_
  · obtain rfl := Option.some.inj hv
    rw [List.length_append]
    exact Nat.lt_succ_self _
  · have h := hbal fd
    rw [if_pos hvc] at h
    show 0 + 0 + ((s.channels ++ [Channel.create s.tcpSockets]).flatMap Channel.live).count fd + _
      = _
    rw [List.flatMap_append, List.flatMap_singleton, List.count_append, live_create]
    have hhand : ((OperationPc.createVc caller).socket?.toList).count fd = 0 := rfl
    dsimp only at h ⊢
    omega

/-! ### `ReconnectSingleSlot` -/

/-- A new connection takes the socket over. -/
lemma live_replace {ch : Channel} {slotIndex : ℕ} (hfree : ch.life.disconnectMutex = none)
    (hlt : slotIndex < ch.life.connections.length) (tcpSocket : SocketId) :
    Channel.live { life := Lifecycle.step ch.life (.replaceConnection slotIndex)
                   fds := Function.update ch.fds ch.life.nextConn tcpSocket }
      = ch.live ++ [tcpSocket] := by
  have hstep : Lifecycle.step ch.life (.replaceConnection slotIndex)
      = ch.life.replaceConnection slotIndex := rfl
  rw [hstep, Lifecycle.replaceConnection, if_pos ⟨hfree, hlt⟩, Channel.live, Channel.live]
  dsimp only
  rw [List.range_succ, List.filter_append, List.map_append]
  have hold : ∀ c ∈ List.range ch.life.nextConn, c ≠ ch.life.nextConn := fun c hc =>
    Nat.ne_of_lt (List.mem_range.mp hc)
  congr 1
  · have hfilter : (List.range ch.life.nextConn).filter
          (Function.update ch.life.connected ch.life.nextConn true)
        = (List.range ch.life.nextConn).filter ch.life.connected :=
      List.filter_congr fun c hc => Function.update_of_ne (hold c hc) _ _
    rw [hfilter]
    exact List.map_congr_left fun c hc =>
      Function.update_of_ne (hold c (List.mem_of_mem_filter hc)) _ _
  · have hself : Function.update ch.life.connected ch.life.nextConn true ch.life.nextConn = true :=
      Function.update_self ..
    rw [List.filter_cons_of_pos hself, List.filter_nil, List.map_singleton, Function.update_self]

lemma wf_replaceConnection (hs : Wf s) {v slotIndex : ℕ} {tcpSocket : SocketId}
    (hpc : s.pc = .slotReplace v slotIndex tcpSocket) :
    Wf (s.replaceConnection v slotIndex tcpSocket) := by
  obtain ⟨hvc, hfits⟩ : s.vc = some v ∧ s.SlotFits slotIndex := by
    have h := hs.here
    rwa [hpc] at h
  have hbal := hs.balanced
  rw [hpc] at hbal
  obtain ⟨ch, hv⟩ : ∃ ch, s.channels[v]? = some ch :=
    ⟨_, List.getElem?_eq_getElem (hs.vc v hvc)⟩
  have hlt := hfits v _ hvc hv
  rw [replaceConnection, hv]
  dsimp only
  rw [if_neg (not_le.mpr hlt)]
  split_ifs with hfree
  · refine wf_goto (fun w hw => ?_) (fun h => ?_) fun fd => ?_
    · rw [List.length_set]
      exact hs.vc w hw
    · rw [show s.vc = none from h] at hvc
      cases hvc
    · have h := hbal fd
      have hset := count_set hv
        { life := Lifecycle.step ch.life (.replaceConnection slotIndex)
          fds := Function.update ch.fds ch.life.nextConn tcpSocket } fd
      rw [live_replace hfree hlt, List.count_append] at hset
      have hhand : ((OperationPc.slotReplace v slotIndex tcpSocket).socket?.toList).count fd
          = [tcpSocket].count fd := rfl
      rw [hhand] at h
      show 0 + _ + _ + _ = _
      dsimp only at h ⊢
      omega
  · exact hs

/-! ### Every action -/

lemma balanced_socketClose {tcpSocket : SocketId} (h : s.Balanced [tcpSocket]) :
    (s.socketClose tcpSocket).Balanced [] := by
  intro fd
  have h := h fd
  show 0 + (if s.vc = none then s.tcpSockets.count fd else 0)
    + (s.channels.flatMap Channel.live).count fd + (tcpSocket :: s.closed).count fd
      = if fd < s.nextSocket then 1 else 0
  rw [List.count_cons]
  rw [List.count_singleton] at h
  omega

lemma balanced_socketCreate (h : s.Balanced []) : s.socketCreate.Balanced [s.nextSocket] := by
  intro fd
  have h := h fd
  show [s.nextSocket].count fd + (if s.vc = none then s.tcpSockets.count fd else 0)
    + (s.channels.flatMap Channel.live).count fd + s.closed.count fd
      = if fd < s.nextSocket + 1 then 1 else 0
  rw [List.count_nil] at h
  by_cases hfd : fd = s.nextSocket
  · subst hfd
    rw [if_neg (lt_irrefl s.nextSocket)] at h
    rw [List.count_singleton_self, if_pos (Nat.lt_succ_self s.nextSocket)]
    omega
  · have hiff : fd < s.nextSocket + 1 ↔ fd < s.nextSocket :=
      ⟨fun hlt => Nat.lt_of_le_of_ne (Nat.le_of_lt_succ hlt) hfd, Nat.lt_succ_of_lt⟩
    rw [List.count_eq_zero_of_not_mem (fun hmem => hfd (List.mem_singleton.mp hmem)), h]
    simp only [hiff]

/-- `PrepareVC` keeps a socket that is connected and bound. -/
lemma balanced_keep {tcpSocket : SocketId} (hvc : s.vc = none) (h : s.Balanced [tcpSocket])
    (ids : List ℕ) (next : ℕ) :
    { s with
      nextConnectionId := next
      tcpSockets := s.tcpSockets ++ [tcpSocket], tcpConnectionIds := ids }.Balanced [] := by
  intro fd
  have h := h fd
  rw [if_pos hvc] at h
  show 0 + (if s.vc = none then (s.tcpSockets ++ [tcpSocket]).count fd else 0)
    + (s.channels.flatMap Channel.live).count fd + s.closed.count fd
      = if fd < s.nextSocket then 1 else 0
  rw [if_pos hvc, List.count_append]
  omega

lemma balanced_clearSockets (htidy : s.Tidy) (h : s.Balanced []) : s.clearSockets.Balanced [] := by
  intro fd
  have h := h fd
  show 0 + (if s.vc = none then List.count fd [] else 0)
    + (s.channels.flatMap Channel.live).count fd + s.closed.count fd
      = if fd < s.nextSocket then 1 else 0
  by_cases hvc : s.vc = none
  · rw [if_pos hvc, htidy hvc] at h
    rw [if_pos hvc]
    exact h
  · rw [if_neg hvc] at h ⊢
    exact h

lemma slotFits_channelStep {slotIndex : ℕ} (h : s.SlotFits slotIndex) (v : ℕ)
    {e : Lifecycle.Event} (he : ∀ slotIndex, e ≠ .replaceConnection slotIndex) :
    (s.channelStep v e).SlotFits slotIndex := by
  rw [channelStep]
  split
  · exact h
  · rename_i ch hch
    intro w ch' hw hch'
    have hch' : (s.channels.set v { ch with life := Lifecycle.step ch.life e })[w]? = some ch' :=
      hch'
    rw [List.getElem?_set] at hch'
    split_ifs at hch' with hvw hlt
    · obtain rfl := Option.some.inj hch'
      show slotIndex < (Lifecycle.step ch.life e).connections.length
      rw [(Lifecycle.connected_step he).2.1]
      exact h v ch (hvw ▸ hw) hch
    · exact h w ch' hw hch'

lemma wf_channelStep (hs : Wf s) (v : ℕ) {e : Lifecycle.Event}
    (he : ∀ slotIndex, e ≠ .replaceConnection slotIndex) : Wf (s.channelStep v e) := by
  obtain ⟨hvc, hsockets, hpc, -, hlen⟩ := channelStep_eq (s := s) v e
  refine ⟨fun w hw => ?_, ?_, ?_⟩
  · rw [hlen]
    exact hs.vc w (hvc.symm.trans hw)
  · have htidy : s.Tidy → (s.channelStep v e).Tidy := fun h hnone => by
      rw [hsockets]
      exact h (hvc.symm.trans hnone)
    have hhere := hs.here
    rw [hpc]
    cases hpc' : s.pc with
    | teardown next => trivial
    | socketCreate | socketConnect | sendBind | createVc | teardownClosing | stopClosing
    | reconnectClosing | openVc =>
      rw [hpc'] at hhere
      exact hvc.trans hhere
    | slotReplace =>
      rw [hpc'] at hhere
      exact ⟨hvc.trans hhere.1, slotFits_channelStep hhere.2 v he⟩
    | slotCreate | slotConnect | slotCheck | slotBind | slotOpenCheck =>
      rw [hpc'] at hhere
      exact ⟨htidy hhere.1, slotFits_channelStep hhere.2 v he⟩
    | idle | startWatchdog | reconnectLoop | reconnectCleared =>
      rw [hpc'] at hhere
      exact htidy hhere
  · rw [hpc]
    exact balanced_channelStep hs.balanced v he

/-- `vc->close()` begins. -/
lemma wf_callClose (hs : Wf s) {v : ℕ} {pc : OperationPc} (hvc : s.vc = some v)
    (hhand : s.Balanced []) (hat : ∀ t : Client, t.vc = some v → t.At pc)
    (hsocket : pc.socket? = none) : Wf ((s.channelStep v (.callClose 0)).goto pc) := by
  obtain ⟨hvc', -, -, -, hlen⟩ := channelStep_eq (s := s) v (.callClose 0)
  refine wf_goto (fun w hw => ?_) (hat _ (hvc'.trans hvc)) ?_
  · rw [hlen]
    exact hs.vc w (hvc'.symm.trans hw)
  · rw [hsocket]
    exact balanced_channelStep hhand v fun _ h => by cases h

/-- The action is one of `PrepareVC` itself. -/
def OperationPc.inPrepareVC : OperationPc → Bool
  | socketCreate _ _ | socketConnect _ _ _ | sendBind _ _ _ | createVc _ | openVc _ _
  | startWatchdog _ => true
  | _ => false

/-- The action is one of `ReconnectSingleSlot`. -/
def OperationPc.inSlot : OperationPc → Bool
  | slotCreate _ _ | slotConnect _ _ _ | slotCheck _ _ _ | slotBind _ _ _ _
  | slotOpenCheck _ _ _ _ | slotReplace _ _ _ => true
  | _ => false

lemma wf_prepareVC (hs : Wf s) (h : s.pc.inPrepareVC = true) (ok : Bool) : Wf (s.run ok) := by
  have hhere := hs.here
  have hbal := hs.balanced
  have hvc := hs.vc
  rw [run]
  cases hpc : s.pc with
  | socketCreate caller i =>
    rw [hpc] at hhere hbal
    dsimp only
    split_ifs
    · exact wf_goto hvc hhere (balanced_socketCreate hbal)
    · exact wf_goto hvc trivial hbal
    · exact wf_goto hvc hhere hbal
  | socketConnect caller i tcpSocket =>
    rw [hpc] at hhere hbal
    dsimp only
    split_ifs
    · exact wf_goto hvc hhere hbal
    · exact wf_goto hvc trivial (balanced_socketClose hbal)
  | sendBind caller i tcpSocket =>
    rw [hpc] at hhere hbal
    dsimp only
    split_ifs
    · exact wf_goto hvc hhere (balanced_keep hhere hbal
        (s.tcpConnectionIds ++ [s.nextConnectionId]) ((s.nextConnectionId + 1) % uint32Size))
    · refine wf_goto hvc ?_ (balanced_socketClose hbal)
      trivial
  | createVc caller =>
    dsimp only
    split_ifs
    · exact wf_createVc hs hpc
    · rw [hpc] at hbal
      exact wf_goto hvc trivial hbal
  | openVc caller v =>
    rw [hpc] at hhere hbal
    dsimp only
    split
    · split_ifs
      · exact wf_goto hvc (fun h => by rw [hhere] at h; cases h) hbal
      · exact wf_channelStep hs v fun _ h => by cases h
    · exact hs
  | startWatchdog caller =>
    rw [hpc] at hhere hbal
    exact wf_prepareReturned (s := { s with watchdogRunning := true }) hvc hhere hbal caller true
  | _ =>
    rw [hpc] at h
    cases h

lemma wf_reconnectSingleSlot (hs : Wf s) (h : s.pc.inSlot = true) (ok : Bool) : Wf (s.run ok) := by
  have hhere := hs.here
  have hbal := hs.balanced
  have hvc := hs.vc
  rw [run]
  cases hpc : s.pc with
  | slotCreate slotIndex epochAtStart =>
    rw [hpc] at hhere hbal
    dsimp only
    split_ifs
    · exact wf_goto hvc hhere.1 hbal
    · exact wf_goto hvc hhere (balanced_socketCreate hbal)
    · exact wf_goto hvc hhere.1 hbal
  | slotConnect slotIndex epochAtStart tcpSocket =>
    rw [hpc] at hhere hbal
    dsimp only
    split_ifs
    · exact wf_goto hvc hhere hbal
    · exact wf_goto hvc hhere.1 (balanced_socketClose hbal)
  | slotCheck slotIndex epochAtStart tcpSocket =>
    rw [hpc] at hhere hbal
    dsimp only
    split_ifs
    · exact wf_goto hvc hhere.1 (balanced_socketClose hbal)
    · exact wf_goto hvc hhere hbal
  | slotBind slotIndex epochAtStart newConnId tcpSocket =>
    rw [hpc] at hhere hbal
    dsimp only
    split_ifs
    · exact wf_goto hvc hhere.1 (balanced_socketClose hbal)
    · exact wf_goto hvc hhere hbal
    · exact wf_goto hvc hhere.1 (balanced_socketClose hbal)
  | slotOpenCheck slotIndex epochAtStart newConnId tcpSocket =>
    rw [hpc] at hhere hbal
    dsimp only
    split
    · exact wf_goto hvc hhere.1 (balanced_socketClose hbal)
    · rename_i v hv
      split_ifs
      · exact wf_goto hvc hhere.1 (balanced_socketClose hbal)
      · exact wf_goto hvc hhere.1 (balanced_socketClose hbal)
      · refine wf_goto (s := s.recordSlot slotIndex tcpSocket newConnId) hvc ⟨hv, hhere.2⟩
          fun fd => ?_
        have h := hbal fd
        rw [hv] at h
        show _ + (if s.vc = none then _ else 0) + _ + _ = _
        rw [hv]
        exact h
  | slotReplace v slotIndex tcpSocket => exact wf_replaceConnection hs hpc
  | _ =>
    rw [hpc] at h
    cases h

theorem wf_run (hs : Wf s) (ok : Bool) : Wf (s.run ok) := by
  by_cases hprepare : s.pc.inPrepareVC = true
  · exact wf_prepareVC hs hprepare ok
  by_cases hslot : s.pc.inSlot = true
  · exact wf_reconnectSingleSlot hs hslot ok
  have hhere := hs.here
  have hbal := hs.balanced
  have hvc := hs.vc
  rw [run]
  cases hpc : s.pc with
  | idle => exact hs
  | teardown next => exact wf_teardown hs hpc
  | teardownClosing v next =>
    rw [hpc] at hhere hbal
    dsimp only
    split_ifs
    · exact wf_teardownReturned (s := { s with vc := none }) rfl (balanced_release hhere hbal) next
    · exact wf_channelStep hs v fun _ h => by cases h
  | stopClosing v =>
    rw [hpc] at hhere hbal
    dsimp only
    split_ifs
    · exact wf_goto hvc (fun h => by rw [hhere] at h; cases h) hbal
    · exact wf_channelStep hs v fun _ h => by cases h
  | reconnectLoop maxRetries retryCount =>
    rw [hpc] at hhere hbal
    dsimp only
    split_ifs
    · split
      · rename_i v hv
        exact wf_callClose hs hv hbal (fun _ h => h) rfl
      · refine wf_goto hvc ?_ (balanced_clearSockets hhere hbal)
        exact fun _ => rfl
    · exact wf_goto hvc hhere hbal
  | reconnectClosing v maxRetries retryCount =>
    rw [hpc] at hhere hbal
    dsimp only
    split_ifs
    · refine wf_goto (fun _ h => by cases h) ?_ (balanced_release hhere hbal)
      exact fun _ => rfl
    · exact wf_channelStep hs v fun _ h => by cases h
  | reconnectCleared maxRetries retryCount =>
    rw [hpc] at hhere hbal
    dsimp only
    split_ifs
    · exact wf_goto hvc trivial hbal
    · exact wf_goto hvc hhere hbal
  | socketCreate | socketConnect | sendBind | createVc | openVc | startWatchdog =>
    rw [hpc] at hprepare
    exact absurd rfl hprepare
  | slotCreate | slotConnect | slotCheck | slotBind | slotOpenCheck | slotReplace =>
    rw [hpc] at hslot
    exact absurd rfl hslot

lemma pc_of_enabled {op : Operation} (h : s.enabled op = true) : s.pc = .idle := by
  cases op with
  | reconnectSingleSlot slotIndex => exact of_decide_eq_true (Bool.and_eq_true_iff.mp h).1
  | _ => exact of_decide_eq_true h

lemma wf_call (hs : Wf s) {op : Operation} (h : s.enabled op = true) : Wf (s.call op) := by
  have hpc := pc_of_enabled h
  have hhere := hs.here
  have hbal := hs.balanced
  rw [hpc] at hhere hbal
  cases op with
  | prepareVC => exact wf_goto hs.vc trivial hbal
  | teardownVc => exact wf_goto hs.vc trivial hbal
  | reconnectVC maxRetries => exact wf_goto hs.vc hhere hbal
  | stop =>
    have hstop : Wf ({ s with running := false } : Client).stopWatchdog :=
      ⟨hs.vc, hs.here, hs.balanced⟩
    unfold call
    dsimp only
    split
    · rename_i v hv
      exact wf_callClose hstop hv hbal (fun _ h => h) rfl
    · exact hstop
  | reconnectSingleSlot slotIndex =>
    refine wf_goto hs.vc ⟨hhere, fun v ch hv hch => ?_⟩ hbal
    have hdead := (Bool.and_eq_true_iff.mp h).2
    rw [isDeadSlot, hv, Option.bind_some, life?, hch, Option.map_some] at hdead
    dsimp only at hdead
    split at hdead
    · rename_i c hc
      exact (List.getElem?_eq_some_iff.mp hc).1
    · cases hdead

lemma wf_destroy (hs : Wf s) (v : ℕ) : Wf (s.destroy v) := by
  rw [destroy]
  split
  · exact hs
  · rename_i ch hch
    split_ifs with hunref
    · refine ⟨fun w hw => ?_, ?_, fun fd => ?_⟩
      · show w < (s.channels.set v _).length
        rw [List.length_set]
        exact hs.vc w hw
      · have hfits : ∀ {i : ℕ}, s.SlotFits i → ∀ w ch', s.vc = some w →
            (s.channels.set v { ch with life := { ch.life with connected := fun _ => false } })[w]?
              = some ch' → i < ch'.life.connections.length := by
          intro i h w ch' hw hch'
          have hne : v ≠ w := fun heq => hunref.1 (by rw [heq]; exact hw)
          rw [List.getElem?_set_ne hne] at hch'
          exact h w ch' hw hch'
        have hhere := hs.here
        show At _ s.pc
        cases hpc : s.pc with
        | slotReplace =>
          rw [hpc] at hhere
          exact ⟨hhere.1, hfits hhere.2⟩
        | slotCreate | slotConnect | slotCheck | slotBind | slotOpenCheck =>
          rw [hpc] at hhere
          exact ⟨hhere.1, hfits hhere.2⟩
        | _ =>
          rw [hpc] at hhere
          exact hhere
      · have h := hs.balanced fd
        have hset := count_set hch
          { ch with life := { ch.life with connected := fun _ => false } } fd
        have hdrop := @count_dropped ch { ch.life with connected := fun _ => false } rfl
          (fun c h => by cases h) fd
        show s.pc.socket?.toList.count fd + (if s.vc = none then s.tcpSockets.count fd else 0)
          + ((s.channels.set v _).flatMap Channel.live).count fd
          + (ch.dropped { ch.life with connected := fun _ => false } ++ s.closed).count fd
            = if fd < s.nextSocket then 1 else 0
        rw [List.count_append]
        omega
    · exact hs

lemma toLifecycle_ne (e : WorkerEvent) (slotIndex : ℕ) :
    e.toLifecycle ≠ .replaceConnection slotIndex := by
  cases e with
  | death k c => exact fun h => by cases h
  | callback k => exact fun h => by cases h

theorem wf_step (hs : Wf s) (e : Event) : Wf (step s e) := by
  cases e with
  | start =>
    show Wf (if s.pc = .idle then { s with running := true } else s)
    split_ifs
    · exact ⟨hs.vc, hs.here, hs.balanced⟩
    · exact hs
  | call op =>
    show Wf (if s.enabled op then s.call op else s)
    split_ifs with h
    · exact wf_call hs h
    · exact hs
  | run ok => exact wf_run hs ok
  | worker v e => exact wf_channelStep hs v (toLifecycle_ne e)
  | destroy v => exact wf_destroy hs v

lemma wf_init : Wf {} where
  vc v h := by cases h
  here _ := rfl
  balanced fd := by
    rw [if_neg (Nat.not_lt_zero fd)]
    rfl

theorem wf_stateAt (events : ℕ → Event) (n : ℕ) : Wf (stateAt events n) :=
  runState_invariant (Q := fun _ => True) wf_init (fun _ e _ hs => wf_step hs e)
    (fun _ => trivial) n

/-- No run closes a socket twice. -/
theorem nodup_closed (events : ℕ → Event) (n : ℕ) : (stateAt events n).closed.Nodup := by
  rw [List.nodup_iff_count_le_one]
  intro fd
  have h := (wf_stateAt events n).balanced fd
  split_ifs at h <;> omega

end Client
end TcpUdp
