import TcpUdp.Lib.GroupIndex
import Mathlib.Data.Finset.Erase
import Mathlib.Data.Finset.Insert

/-!
# The connection manager

`ConnectionManager` keeps its connections three times: in a vector, by their ids in a set, and by
their clients in a map. `Consistent` says that these agree; every operation keeps it, and so
`indexes_consistent` for every sequence of operations.

`rand()` is the list of the values it will return. `generateConnectionId` draws until an id is
free, which is for ever when the list has none (`none`). A `Connection` is never changed, so that
a pointer to one is the object.
-/

namespace TcpUdp

open Lib

structure Connection where
  clientId : ℕ
  connectionId : ℕ
  deriving DecidableEq, Repr

structure ConnectionManager where
  connections : List Connection := []
  connectionIds : Finset ℕ := ∅
  clientConnections : SortedMap ℕ (List Connection) := .empty

namespace ConnectionManager

/-- The id of a draw. -/
def drawnId (r : ℕ) : ℕ := r % 1000000

/-- The loop of `generateConnectionId`, with the values of `rand()` that are left. -/
def drawConnectionId (connectionIds : Finset ℕ) : List ℕ → Option (ℕ × List ℕ)
  | [] => none
  | r :: rands =>
    if drawnId r ∈ connectionIds then drawConnectionId connectionIds rands
    else some (drawnId r, rands)

def generateConnectionId (m : ConnectionManager) (rands : List ℕ) :
    Option (ℕ × ConnectionManager × List ℕ) :=
  match drawConnectionId m.connectionIds rands with
  | none => none
  | some (connectionId, rands) =>
    some (connectionId, { m with connectionIds := insert connectionId m.connectionIds }, rands)

def createConnection (m : ConnectionManager) (clientId : ℕ) (rands : List ℕ) :
    Option (Connection × ConnectionManager × List ℕ) :=
  match m.generateConnectionId rands with
  | none => none
  | some (connectionId, m, rands) =>
    let connection : Connection := { clientId := clientId, connectionId := connectionId }
    let connections := m.connections ++ [connection]
    let clientConnections := m.clientConnections.upsert clientId fun conns =>
      conns.getD [] ++ [connection]
    some (connection, { m with connections, clientConnections }, rands)

/-- Both loops erase the first connection with the id. -/
def removeConnection (m : ConnectionManager) (connectionId : ℕ) : Bool × ConnectionManager :=
  match m.connections.find? fun c => c.connectionId = connectionId with
  | none => (false, m)
  | some connection =>
    let clientId := connection.clientId
    let clientConns := (m.clientConnections.group clientId).eraseP fun c =>
      c.connectionId = connectionId
    -- `clientConnections[clientId]` makes an entry if there is none
    let clientConnections := m.clientConnections.insertOrAssign clientId clientConns
    (true,
      { connections := m.connections.eraseP fun c => c.connectionId = connectionId
        connectionIds := m.connectionIds.erase connectionId
        clientConnections :=
          if clientConns.isEmpty then clientConnections.erase clientId else clientConnections })

/-- `clientConnections[clientId]` makes an entry if there is none. -/
def getClientConnections (m : ConnectionManager) (clientId : ℕ) :
    List Connection × ConnectionManager :=
  (m.clientConnections.group clientId,
    { m with clientConnections := m.clientConnections.tryEmplace clientId [] })

def getClientConnectionCount (m : ConnectionManager) (clientId : ℕ) : ℕ × ConnectionManager :=
  ((m.clientConnections.group clientId).length,
    { m with clientConnections := m.clientConnections.tryEmplace clientId [] })

def removeAllConnections (m : ConnectionManager) : ConnectionManager :=
  { m with connections := [], connectionIds := ∅, clientConnections := .empty }

/-! ## Sequences of operations -/

inductive Op where
  | createConnection (clientId : ℕ)
  | removeConnection (connectionId : ℕ)
  | getClientConnections (clientId : ℕ)
  | getClientConnectionCount (clientId : ℕ)
  | removeAllConnections
  deriving DecidableEq, Repr

/-- What an operation does to the manager and to the values of `rand()`. -/
def step (m : ConnectionManager) (rands : List ℕ) : Op → Option (ConnectionManager × List ℕ)
  | .createConnection clientId => (m.createConnection clientId rands).map Prod.snd
  | .removeConnection connectionId => some ((m.removeConnection connectionId).2, rands)
  | .getClientConnections clientId => some ((m.getClientConnections clientId).2, rands)
  | .getClientConnectionCount clientId => some ((m.getClientConnectionCount clientId).2, rands)
  | .removeAllConnections => some (m.removeAllConnections, rands)

def run (m : ConnectionManager) (rands : List ℕ) : List Op → Option (ConnectionManager × List ℕ)
  | [] => some (m, rands)
  | op :: ops =>
    match m.step rands op with
    | none => none
    | some (m, rands) => m.run rands ops

/-- Each creation of the sequence finds a free id among the values that are left. -/
def OffersFreeIds (m : ConnectionManager) (rands : List ℕ) : List Op → Prop
  | [] => True
  | op :: ops =>
    (∀ clientId, op = .createConnection clientId → ∃ r ∈ rands, drawnId r ∉ m.connectionIds)
      ∧ ∀ m' rands', m.step rands op = some (m', rands') → m'.OffersFreeIds rands' ops

/-! ## The three indexes -/

structure Consistent (m : ConnectionManager) : Prop where
  nodup : (m.connections.map Connection.connectionId).Nodup
  ids : ∀ id, id ∈ m.connectionIds ↔ id ∈ m.connections.map Connection.connectionId
  clients : Groups Connection.clientId m.clientConnections m.connections

lemma consistent_empty : Consistent {} where
  nodup := List.nodup_nil
  ids id := by
    rw [List.map_nil]
    exact iff_of_false (Finset.notMem_empty id) List.not_mem_nil
  clients := Groups.empty

variable {m m' : ConnectionManager} {rands rands' : List ℕ} {op : Op}

/-- The loop ends as soon as a free id is drawn. -/
lemma drawConnectionId_isSome {connectionIds : Finset ℕ}
    (h : ∃ r ∈ rands, drawnId r ∉ connectionIds) :
    ∃ id left, drawConnectionId connectionIds rands = some (id, left) := by
  induction rands with
  | nil =>
    obtain ⟨r, hr, -⟩ := h
    exact absurd hr List.not_mem_nil
  | cons r rands ih =>
    rw [drawConnectionId]
    split_ifs with hused
    · obtain ⟨r', hr', hfree⟩ := h
      rcases List.mem_cons.mp hr' with rfl | hr'
      · exact absurd hused hfree
      · exact ih ⟨r', hr', hfree⟩
    · exact ⟨_, _, rfl⟩

lemma drawConnectionId_free {connectionIds : Finset ℕ} {id : ℕ} {left : List ℕ}
    (h : drawConnectionId connectionIds rands = some (id, left)) : id ∉ connectionIds := by
  induction rands with
  | nil => cases h
  | cons r rands ih =>
    rw [drawConnectionId] at h
    split_ifs at h with hused
    · exact ih h
    · cases h
      exact hused

/-- A new connection goes to the end of the vector under an id that was free. -/
lemma createConnection_cases {clientId : ℕ} {connection : Connection}
    (h : m.createConnection clientId rands = some (connection, m', rands')) :
    connection.clientId = clientId ∧ connection.connectionId ∉ m.connectionIds
      ∧ m' = { connections := m.connections ++ [connection]
               connectionIds := insert connection.connectionId m.connectionIds
               clientConnections := m.clientConnections.upsert connection.clientId fun conns =>
                 conns.getD [] ++ [connection] } := by
  rw [createConnection, generateConnectionId] at h
  cases hdraw : drawConnectionId m.connectionIds rands with
  | none =>
    rw [hdraw] at h
    cases h
  | some drawn =>
    rw [hdraw] at h
    cases h
    exact ⟨rfl, drawConnectionId_free hdraw, rfl⟩

namespace Consistent

lemma createConnection (h : Consistent m) {clientId : ℕ} {connection : Connection}
    (hcreate : m.createConnection clientId rands = some (connection, m', rands')) :
    Consistent m' := by
  obtain ⟨-, hfree, rfl⟩ := createConnection_cases hcreate
  refine ⟨?_, fun id => ?_, h.clients.push connection⟩
  · rw [List.map_append, List.map_singleton]
    have hnew : connection.connectionId ∉ m.connections.map Connection.connectionId :=
      fun hmem => hfree ((h.ids _).mpr hmem)
    rw [List.nodup_append_comm, List.singleton_append]
    exact List.nodup_cons.mpr ⟨hnew, h.nodup⟩
  · rw [Finset.mem_insert, List.map_append, List.mem_append, List.map_singleton,
      List.mem_singleton, h.ids, or_comm]

/-- Only the connection with the id is removed, from all three. -/
lemma removeConnection_cases (h : Consistent m) (connectionId : ℕ) :
    (connectionId ∈ m.connections.map Connection.connectionId
      ∧ (m.removeConnection connectionId).1 = true
      ∧ (m.removeConnection connectionId).2.connections
        = m.connections.filter (fun c => c.connectionId ≠ connectionId)
      ∧ (m.removeConnection connectionId).2.connectionIds = m.connectionIds.erase connectionId
      ∧ Groups Connection.clientId (m.removeConnection connectionId).2.clientConnections
        (m.connections.filter fun c => c.connectionId ≠ connectionId))
    ∨ connectionId ∉ m.connections.map Connection.connectionId
      ∧ m.removeConnection connectionId = (false, m) := by
  rw [removeConnection]
  cases hfind : m.connections.find? fun c => c.connectionId = connectionId with
  | none =>
    refine Or.inr ⟨fun hmem => ?_, rfl⟩
    obtain ⟨c, hc, hid⟩ := List.mem_map.mp hmem
    exact List.find?_eq_none.mp hfind c hc (decide_eq_true hid)
  | some connection =>
    have hmem := List.mem_of_find?_eq_some hfind
    obtain rfl : connection.connectionId = connectionId := by
      simpa using List.find?_some hfind
    -- ids are distinct, so the first connection with the id is the only one
    have hgroups := h.clients.remove h.nodup hmem
    rw [eraseP_eq_filter h.nodup] at hgroups
    refine Or.inl ⟨List.mem_map_of_mem hmem, rfl, eraseP_eq_filter h.nodup _, rfl, ?_⟩
    simp only
    split_ifs with hempty
    · apply hgroups.eraseEmpty
      rw [SortedMap.group, SortedMap.find?_insertOrAssign, if_pos rfl, Option.getD_some]
      exact List.isEmpty_iff.mp hempty
    · exact hgroups

lemma removeConnection (h : Consistent m) (connectionId : ℕ) :
    Consistent (m.removeConnection connectionId).2 := by
  rcases h.removeConnection_cases connectionId with ⟨-, -, hconns, hids, hgroups⟩ | ⟨-, hsame⟩
  · refine ⟨?_, fun id => ?_, ?_⟩
    · rw [hconns]
      exact nodup_map_filter h.nodup _
    · rw [hids, hconns, Finset.mem_erase, h.ids, List.mem_map, List.mem_map]
      constructor
      · rintro ⟨hne, c, hc, rfl⟩
        exact ⟨c, List.mem_filter.mpr ⟨hc, decide_eq_true hne⟩, rfl⟩
      · rintro ⟨c, hc, rfl⟩
        obtain ⟨hc, hne⟩ := List.mem_filter.mp hc
        exact ⟨of_decide_eq_true hne, c, hc, rfl⟩
    · rw [hconns]
      exact hgroups
  · rw [hsame]
    exact h

/-- A read changes no list of a client, and returns the one it is asked for. -/
lemma getClientConnections (h : Consistent m) (clientId : ℕ) :
    (m.getClientConnections clientId).1 = m.connections.filter (fun c => c.clientId = clientId)
      ∧ Consistent (m.getClientConnections clientId).2 :=
  ⟨h.clients clientId, h.nodup, h.ids, h.clients.touch clientId⟩

lemma step (h : Consistent m) (hstep : m.step rands op = some (m', rands')) : Consistent m' := by
  cases op with
  | createConnection clientId =>
    obtain ⟨⟨connection, created⟩, hcreate, heq⟩ := Option.map_eq_some_iff.mp hstep
    cases heq
    exact h.createConnection hcreate
  | removeConnection connectionId =>
    cases hstep
    exact h.removeConnection connectionId
  | getClientConnections clientId =>
    cases hstep
    exact (h.getClientConnections clientId).2
  | getClientConnectionCount clientId =>
    cases hstep
    exact (h.getClientConnections clientId).2
  | removeAllConnections =>
    cases hstep
    exact consistent_empty

end Consistent

/-- Only a creation may fail to return, and it returns when it is offered a free id. -/
lemma step_isSome
    (h : ∀ clientId, op = .createConnection clientId → ∃ r ∈ rands, drawnId r ∉ m.connectionIds) :
    ∃ m' rands', m.step rands op = some (m', rands') := by
  cases op with
  | createConnection clientId =>
    obtain ⟨id, left, hdraw⟩ := drawConnectionId_isSome (h clientId rfl)
    rw [step, createConnection, generateConnectionId, hdraw]
    exact ⟨_, _, rfl⟩
  | removeConnection | getClientConnections | getClientConnectionCount | removeAllConnections =>
    exact ⟨_, _, rfl⟩

lemma run_consistent {ops : List Op} (h : Consistent m) (hoffers : m.OffersFreeIds rands ops) :
    ∃ m' rands', m.run rands ops = some (m', rands') ∧ Consistent m' := by
  induction ops generalizing m rands with
  | nil => exact ⟨m, rands, rfl, h⟩
  | cons op ops ih =>
    obtain ⟨hfree, hnext⟩ := hoffers
    obtain ⟨m', rands', hstep⟩ := step_isSome hfree
    obtain ⟨m'', rands'', hrun, hend⟩ := ih (h.step hstep) (hnext m' rands' hstep)
    refine ⟨m'', rands'', ?_, hend⟩
    rw [run, hstep]
    exact hrun

/-- After any sequence of operations the three indexes agree, and removing a connection removes
that one and no other. -/
theorem indexes_consistent {ops : List Op} {rands : List ℕ}
    (h : ({} : ConnectionManager).OffersFreeIds rands ops) :
    ∃ m rands', ({} : ConnectionManager).run rands ops = some (m, rands')
      ∧ (m.connections.map Connection.connectionId).Nodup
      ∧ (∀ id, id ∈ m.connectionIds ↔ ∃ c ∈ m.connections, c.connectionId = id)
      ∧ (∀ clientId, m.clientConnections.group clientId
        = m.connections.filter fun c => c.clientId = clientId)
      ∧ ∀ id, ((m.removeConnection id).1 = true ↔ ∃ c ∈ m.connections, c.connectionId = id)
        ∧ (m.removeConnection id).2.connections
          = m.connections.filter (fun c => c.connectionId ≠ id)
        ∧ (m.removeConnection id).2.connectionIds = m.connectionIds.erase id
        ∧ ∀ clientId, (m.removeConnection id).2.clientConnections.group clientId
          = (m.clientConnections.group clientId).filter fun c => c.connectionId ≠ id := by
  obtain ⟨m, rands', hrun, hm⟩ := run_consistent consistent_empty h
  refine ⟨m, rands', hrun, hm.nodup, fun id => ?_, hm.clients, fun id => ?_⟩
  · rw [hm.ids, List.mem_map]
  · rcases hm.removeConnection_cases id with
      ⟨hmem, hret, hconns, hids, hgroups⟩ | ⟨hmem, hsame⟩
    · refine ⟨?_, hconns, hids, fun clientId => ?_⟩
      · rw [hret, ← List.mem_map]
        exact iff_of_true rfl hmem
      · rw [hgroups clientId, hm.clients clientId, List.filter_comm]
    · -- the filters remove nothing
      have hkept : ∀ c ∈ m.connections, decide (c.connectionId ≠ id) = true := by
        intro c hc
        exact decide_eq_true fun hid => hmem (List.mem_map.mpr ⟨c, hc, hid⟩)
      rw [hsame]
      refine ⟨?_, (List.filter_eq_self.mpr hkept).symm, ?_, fun clientId => ?_⟩
      · rw [← List.mem_map]
        exact iff_of_false Bool.false_ne_true hmem
      · rw [← hm.ids] at hmem
        exact (Finset.erase_eq_of_notMem hmem).symm
      · symm
        rw [hm.clients clientId, List.filter_eq_self]
        exact fun c hc => hkept c (List.mem_filter.mp hc).1

lemma offersFreeIds_cons {ops : List Op}
    (hfree : ∀ clientId, op = .createConnection clientId → ∃ r ∈ rands, drawnId r ∉ m.connectionIds)
    (hstep : m.step rands op = some (m', rands')) (h : m'.OffersFreeIds rands' ops) :
    m.OffersFreeIds rands (op :: ops) := by
  refine ⟨hfree, fun m'' rands'' hstep' => ?_⟩
  rw [hstep] at hstep'
  cases hstep'
  exact h

/-- The second client draws the id of the first one once. -/
theorem indexes_consistent_redraw :
    ∃ m rands', ({} : ConnectionManager).run [5, 1000005, 6]
        [.createConnection 7, .createConnection 8, .getClientConnections 9] = some (m, rands')
      ∧ m.connections.map Connection.connectionId = [5, 6]
      ∧ (∀ id, id ∈ m.connectionIds ↔ ∃ c ∈ m.connections, c.connectionId = id)
      ∧ ((m.removeConnection 6).1 = true ↔ ∃ c ∈ m.connections, c.connectionId = 6) := by
  have hoffers : ({} : ConnectionManager).OffersFreeIds [5, 1000005, 6]
      [.createConnection 7, .createConnection 8, .getClientConnections 9] := by
    refine offersFreeIds_cons (fun _ _ => ⟨5, by decide, by decide⟩) rfl ?_
    refine offersFreeIds_cons (fun _ _ => ⟨6, by decide, by decide⟩) rfl ?_
    exact offersFreeIds_cons (fun _ h => nomatch h) rfl trivial
  obtain ⟨m, rands', hrun, -, hids, -, hremove⟩ := indexes_consistent hoffers
  refine ⟨m, rands', hrun, ?_, hids, (hremove 6).1⟩
  cases hrun
  rfl

end ConnectionManager
end TcpUdp
