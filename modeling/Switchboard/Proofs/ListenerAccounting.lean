/-
What listeners count.

Connections arrive at a listener, their tasks start and end, and the proxy goes on, all in any order.
A place is taken from the arrival of a connection to the end of its task, so the places taken are the
active connections, and what was accepted is active or closed.

* `Reception.apply`, `Reception.run`: a listener with its proxy, and what can happen to the two;
* `Reception.Counts`, `Reception.Ends`: how the counters go with the connections and their sessions;
* `Reception.apply_kept`: what every event keeps;
* `Reception.settle_eq_run`: letting all connections end that can is a run;
* `run_accounting`: **the counters of a listener tell what became of its connections**.
-/
import Mathlib.Data.List.Perm.Basic
import Switchboard.Proofs.Lifecycle
import Switchboard.Proofs.Proxy.Roster
import Switchboard.Proxy.Listener

namespace Switchboard

/-! ### Connections and sessions -/

/-- The session that a connection has become. -/
def Connection.session? : Connection → Option ActorId
  | .waiting _ _ => none
  | .started session => session

namespace Listener

variable {p : Proxy} {id : ActorId} {r : Running}

/-- A session whose way to a cluster was not found. -/
def isUnrouted (p : Proxy) (session : Option ActorId) : Bool :=
  match outcome? p session with
  | some .unroutable | some (.configError _) | some (.routeAborted _) => true
  | _ => false

theorem isRoutingFailure_outcome (p : Proxy) (session : Option ActorId) :
    ((outcome? p session).map Outcome.isRoutingFailure).getD false = isUnrouted p session := by
  unfold isUnrouted
  generalize outcome? p session = outcome
  rcases outcome with _ | _ | _ <;> rfl

theorem outcome?_of_running (h : p.running? id = some r) :
    outcome? p (some id) = r.session.outcome := by
  obtain ⟨a, ha, rfl⟩ := Option.map_eq_some_iff.mp h
  rw [outcome?, Option.bind_some, ha]
  rfl

theorem isOver_of_running (h : p.running? id = some r) :
    isOver p (some id) = true ↔ r.session.state = .terminated := by
  obtain ⟨a, ha, rfl⟩ := Option.map_eq_some_iff.mp h
  rw [isOver, ha]
  exact decide_eq_true_iff

/-- A session starts as it does by an event of the proxy, unless the connection is lost. -/
theorem startSession_eq (l : Listener) (peer : SocketAddress) (host : Option SocketAddress)
    (p : Proxy) :
    l.startSession peer host p = (none, p) ∨
      ∃ e, l.startSession peer host p = (p.started? e, p.apply e) := by
  cases host with
  | none => exact .inl rfl
  | some host =>
    refine .inr ⟨.dispatch (connectionMetadata l.config.name peer host) l.config.ruleList none, ?_⟩
    unfold startSession Proxy.apply Proxy.accept Proxy.started?
    dsimp only
    split <;> next heq => rw [heq]; rfl

/-- What the start of a task does. -/
theorem start_cases (l : Listener) (p : Proxy) (i : Nat) :
    l.start p i = (l, p) ∨
      ∃ peer host, l.served[i]? = some (.waiting peer host) ∧
        (l.start p i = ({ l with served := l.served.set i (.started none) }, p) ∨
          ∃ e, l.start p i =
            ({ l with served := l.served.set i (.started (p.started? e)) }, p.apply e)) := by
  rw [start]
  split
  · next peer host hi =>
    refine .inr ⟨peer, host, hi, ?_⟩
    rcases l.startSession_eq peer host p with hsession | ⟨e, hsession⟩
    · exact .inl (by rw [hsession])
    · exact .inr ⟨e, by rw [hsession]⟩
  · exact .inl rfl

theorem over?_eq_some {l : Listener} {i : Nat} {session : Option ActorId}
    (h : l.over? p i = some session) :
    l.served[i]? = some (.started session) ∧ isOver p session = true := by
  unfold over? at h
  split at h
  · next other hi =>
    split at h
    · next hover =>
      cases h
      exact ⟨hi, hover⟩
    · cases h
  · cases h

end Listener

/-- A session that starts was not there before. -/
theorem Proxy.started?_new {p : Proxy} {e : Event} {id : ActorId} (h : p.started? e = some id) :
    p.running? id = none ∧ ∃ r, (p.apply e).running? id = some r := by
  cases e with
  | dispatch metadata ruleList hook =>
    rcases p.accept_cases metadata ruleList hook with ⟨_, _, b, -, hid, -, hactors, -⟩ | ⟨hid, -⟩
    · obtain rfl : p.actors.size = id := Option.some.inj (hid.symm.trans h)
      have hthere : (p.accept metadata ruleList hook).actor? p.actors.size = some b := by
        rw [actor?_of_push hactors, if_pos rfl]
      have hnone : p.actor? p.actors.size = none := Array.getElem?_size
      exact ⟨congrArg (Option.map Actor.running) hnone, b.running, running?_of_actor? hthere⟩
    · rw [hid] at h
      cases h
  | _ => cases h

/-! ### Events -/

/-- A listener and its proxy, with what became of the connections that are closed: the session of each,
if it got one. -/
structure Reception where
  listener : Listener
  proxy : Proxy
  closed : List (Option ActorId)

namespace Reception

open Listener (isUnrouted)

/-- What can happen to a listener and its proxy. -/
inductive Event
  | arrive (peer : SocketAddress) (host : Option SocketAddress)
  /-- The task of the connection at a place starts, unless it has before. -/
  | start (place : Nat)
  /-- The task of the connection at a place ends, if the connection is over. -/
  | depart (place : Nat)
  /-- The proxy goes on, or other connections than those of the listener reach it. -/
  | goOn (e : Switchboard.Event)

def Event.isArrival : Event → Bool
  | arrive _ _ => true
  | _ => false

/-- A listener that no connection has reached, and a new proxy. -/
def opened (config : ListenerConfig) (strict : Bool) : Reception :=
  ⟨.opened config, .fresh strict, []⟩

/-- The reception after an event. -/
def apply (d : Reception) : Event → Reception
  | .arrive peer host => { d with listener := d.listener.arrive peer host }
  | .start i =>
    let (listener, proxy) := d.listener.start d.proxy i
    { d with listener, proxy }
  | .depart i =>
    { d with
      listener := d.listener.depart d.proxy i
      closed := d.closed ++ (d.listener.over? d.proxy i).toList }
  | .goOn e => { d with proxy := d.proxy.apply e }

/-- The reception after a list of events. -/
def run (events : List Event) (d : Reception) : Reception := events.foldl apply d

/-- The sessions of all connections, closed and served ones. -/
def sessions (d : Reception) : List ActorId :=
  d.closed.filterMap id ++ d.listener.served.filterMap Connection.session?

/-! ### Counters -/

/-- The counters go with the connections, of which `came` have arrived and `gone` are closed. -/
structure Counts (config : ListenerConfig) (came gone : Nat) (l : Listener) : Prop where
  config : l.config = config
  active : l.active = l.served.length
  closed : l.closed = gone
  accepted : l.accepted = l.served.length + gone
  arrived : l.accepted + l.rejected = came
  room : l.served.length ≤ l.config.maxConnections

section

variable {config : ListenerConfig} {came gone : Nat} {l : Listener}

theorem Counts.isFull (h : Counts config came gone l) :
    l.isFull = true ↔ l.active = config.maxConnections := by
  rw [Listener.isFull, decide_eq_true_iff, h.active, ← h.config]
  exact ⟨Nat.le_antisymm h.room, fun heq => Nat.le_of_eq heq.symm⟩

theorem Counts.arrive (h : Counts config came gone l) (peer : SocketAddress)
    (host : Option SocketAddress) : Counts config (came + 1) gone (l.arrive peer host) := by
  have harrived := h.arrived
  have haccepted := h.accepted
  rw [Listener.arrive]
  split
  · exact { h with arrived := by dsimp only; omega }
  · next hroom =>
    have hlt : l.served.length < l.config.maxConnections := by
      have := h.room
      have hfull : ¬ l.config.maxConnections ≤ l.served.length := by
        simpa [Listener.isFull] using hroom
      omega
    constructor
    case config => exact h.config
    case active => simp [h.active]
    case closed => exact h.closed
    all_goals
      simp only [List.length_append, List.length_singleton]
      omega

theorem Counts.start (h : Counts config came gone l) (i : Nat) (c : Connection) :
    Counts config came gone { l with served := l.served.set i c } where
  config := h.config
  active := by rw [List.length_set, ← h.active]
  closed := h.closed
  accepted := by rw [List.length_set, ← h.accepted]
  arrived := h.arrived
  room := by rw [List.length_set]; exact h.room

theorem Counts.depart (h : Counts config came gone l) {i : Nat} (hi : i < l.served.length)
    (outcome : Option Outcome) : Counts config came (gone + 1)
      (Listener.count { l with served := l.served.eraseIdx i } outcome) := by
  have haccepted := h.accepted
  have hactive := h.active
  have hroom := h.room
  have hlength := List.length_eraseIdx_of_lt hi
  constructor
  case config => exact h.config
  case closed => exact congrArg (· + 1) h.closed
  case arrived => exact h.arrived
  all_goals
    simp only [Listener.count]
    omega

end

/-! ### Sessions -/

/-- The sessions of all connections are different ones, and those of closed connections are over. -/
structure Ends (d : Reception) : Prop where
  course : ∃ strict events, d.proxy = Proxy.run events (.fresh strict)
  known : ∀ id ∈ d.sessions, ∃ r, d.proxy.running? id = some r
  distinct : d.sessions.Nodup
  terminated : ∀ id r, some id ∈ d.closed → d.proxy.running? id = some r →
    r.session.state = .terminated
  unrouted : d.listener.routingFailures = d.closed.countP (isUnrouted d.proxy)

variable {d : Reception}

theorem mem_sessions_of_closed {id : ActorId} (h : some id ∈ d.closed) : id ∈ d.sessions :=
  List.mem_append_left _ (List.mem_filterMap.mpr ⟨some id, h, rfl⟩)

/-- Whatever the proxy does, sessions that are over keep their outcomes. -/
theorem Ends.goOn (h : d.Ends) (e : Switchboard.Event) :
    Ends { d with proxy := d.proxy.apply e } := by
  obtain ⟨strict, events, hcourse⟩ := h.course
  have hsound {id : ActorId} {r : Running} (hr : d.proxy.running? id = some r) : r.Sound :=
    Proxy.run_sound strict events (hcourse ▸ hr)
  -- a session whose connection is closed keeps its state and its outcome
  have hsettled {id : ActorId} (hid : some id ∈ d.closed) : ∃ r next,
      d.proxy.running? id = some r ∧ (d.proxy.apply e).running? id = some next ∧
        next.session.record = r.session.record := by
    obtain ⟨r, hr⟩ := h.known id (mem_sessions_of_closed hid)
    obtain ⟨next, hnext, hsame⟩ := Proxy.run_settled [e] hr (hsound hr) (h.terminated id r hid hr)
    exact ⟨r, next, hr, hnext, hsame⟩
  have hunrouted : ∀ session ∈ d.closed,
      isUnrouted (d.proxy.apply e) session = isUnrouted d.proxy session := by
    intro session hsession
    cases session with
    | none => rfl
    | some id =>
      obtain ⟨r, next, hr, hnext, hrecord⟩ := hsettled hsession
      have houtcome : next.session.outcome = r.session.outcome :=
        congrArg (fun record => record.2.1) hrecord
      rw [isUnrouted, isUnrouted, Listener.outcome?_of_running hr,
        Listener.outcome?_of_running hnext, houtcome]
  constructor
  case course => exact ⟨strict, events ++ [e], by rw [Proxy.run_append, ← hcourse]; rfl⟩
  case distinct => exact h.distinct
  case unrouted =>
    show d.listener.routingFailures = _
    rw [h.unrouted]
    exact List.countP_congr fun session hsession => by rw [hunrouted session hsession]
  case known =>
    intro id hid
    obtain ⟨r, hr⟩ := h.known id hid
    obtain ⟨next, hnext, -⟩ := Proxy.apply_moved e hr (hsound hr)
    exact ⟨next, hnext⟩
  case terminated =>
    intro id next hid hnext
    obtain ⟨r, last, hr, hlast, hrecord⟩ := hsettled hid
    obtain rfl : next = last := Option.some.inj (hnext.symm.trans hlast)
    exact (congrArg Prod.fst hrecord).trans (h.terminated id r hid hr)

theorem Ends.arrive (h : d.Ends) (peer : SocketAddress) (host : Option SocketAddress) :
    Ends { d with listener := d.listener.arrive peer host } := by
  have hsessions :
      sessions { d with listener := d.listener.arrive peer host } = d.sessions := by
    unfold sessions Listener.arrive
    split
    · rfl
    · dsimp only
      rw [List.filterMap_append]
      exact congrArg _ (List.append_nil _)
  have hfailures : (d.listener.arrive peer host).routingFailures = d.listener.routingFailures := by
    unfold Listener.arrive
    split <;> rfl
  exact ⟨h.course, hsessions ▸ h.known, hsessions ▸ h.distinct, h.terminated,
    hfailures ▸ h.unrouted⟩

/-- The sessions of a connection that is served and of all others. -/
theorem sessions_perm {i : Nat} {c : Connection} (hi : d.listener.served[i]? = some c) :
    d.sessions.Perm (d.closed.filterMap id ++ (c.session?.toList ++
      (d.listener.served.eraseIdx i).filterMap Connection.session?)) := by
  obtain ⟨hlt, rfl⟩ := List.getElem?_eq_some_iff.mp hi
  have hcons (c : Connection) (rest : List Connection) :
      c.session?.toList ++ rest.filterMap Connection.session? =
        (c :: rest).filterMap Connection.session? := by
    rw [List.filterMap_cons]
    cases c.session? <;> rfl
  rw [hcons]
  exact ((List.getElem_cons_eraseIdx_perm hlt).symm.filterMap _).append_left _

/-- The connection at a place gets a session that no other connection has. -/
theorem Ends.start (h : d.Ends) {i : Nat} {peer : SocketAddress} {host : Option SocketAddress}
    (hi : d.listener.served[i]? = some (.waiting peer host)) {session : Option ActorId}
    (hnew : ∀ id, session = some id → id ∉ d.sessions ∧ ∃ r, d.proxy.running? id = some r) :
    Ends { d with
      listener := { d.listener with served := d.listener.served.set i (.started session) } } := by
  obtain ⟨hlt, -⟩ := List.getElem?_eq_some_iff.mp hi
  let next : Reception := { d with
    listener := { d.listener with served := d.listener.served.set i (.started session) } }
  have hset : next.listener.served[i]? = some (.started session) := List.getElem?_set_self hlt
  have hperm : next.sessions.Perm (session.toList ++ d.sessions) := by
    have hnext := sessions_perm hset
    rw [List.eraseIdx_set_eq] at hnext
    exact hnext.trans
      ((List.perm_append_comm_assoc _ _ _).trans ((sessions_perm hi).symm.append_left _))
  constructor
  case course => exact h.course
  case terminated => exact h.terminated
  case unrouted => exact h.unrouted
  case known =>
    intro id hid
    rcases List.mem_append.mp (hperm.mem_iff.mp hid) with hid | hid
    · exact (hnew id (Option.mem_toList.mp hid)).2
    · exact h.known id hid
  case distinct =>
    rw [hperm.nodup_iff]
    cases session with
    | none => exact h.distinct
    | some id => exact List.nodup_cons.mpr ⟨(hnew id rfl).1, h.distinct⟩

/-- The connection at a place is over. -/
theorem Ends.depart (h : d.Ends) {i : Nat} {session : Option ActorId}
    (hi : d.listener.served[i]? = some (.started session))
    (hover : Listener.isOver d.proxy session = true) :
    Ends { d with
      listener :=
        Listener.count { d.listener with served := d.listener.served.eraseIdx i }
          (Listener.outcome? d.proxy session)
      closed := d.closed ++ [session] } := by
  have hperm : ((d.closed ++ [session]).filterMap id ++
      (d.listener.served.eraseIdx i).filterMap Connection.session?).Perm d.sessions := by
    have hone : [session].filterMap id = session.toList := by cases session <;> rfl
    rw [List.filterMap_append, hone, List.append_assoc]
    exact (sessions_perm hi).symm
  constructor
  case course => exact h.course
  case known => exact fun id hid => h.known id (hperm.mem_iff.mp hid)
  case distinct => exact hperm.nodup_iff.mpr h.distinct
  case terminated =>
    intro id r hid hr
    rcases List.mem_append.mp hid with hid | hid
    · exact h.terminated id r hid hr
    · obtain rfl := List.mem_singleton.mp hid
      exact (Listener.isOver_of_running hr).mp hover
  case unrouted =>
    rw [List.countP_append, ← h.unrouted]
    simp only [Listener.count, Listener.isRoutingFailure_outcome, List.countP_singleton]

/-! ### Runs -/

/-- What every event keeps. -/
theorem apply_kept {config : ListenerConfig} {came : Nat} (e : Event)
    (hcounts : Counts config came d.closed.length d.listener) (hends : d.Ends) :
    Counts config (came + if e.isArrival then 1 else 0) (d.apply e).closed.length
      (d.apply e).listener ∧ (d.apply e).Ends := by
  cases e with
  | arrive peer host => exact ⟨hcounts.arrive peer host, hends.arrive peer host⟩
  | goOn e => exact ⟨hcounts, hends.goOn e⟩
  | start i =>
    rw [apply]
    rcases d.listener.start_cases d.proxy i with hsame | ⟨peer, host, hi, hnone | ⟨e, hsome⟩⟩
    · rw [hsame]
      exact ⟨hcounts, hends⟩
    · rw [hnone]
      exact ⟨hcounts.start i _, hends.start hi nofun⟩
    · rw [hsome]
      refine ⟨hcounts.start i _, (hends.goOn e).start hi fun id hid => ?_⟩
      obtain ⟨habsent, hthere⟩ := Proxy.started?_new hid
      refine ⟨fun hmem => ?_, hthere⟩
      obtain ⟨r, hr⟩ := hends.known id hmem
      rw [habsent] at hr
      cases hr
  | depart i =>
    rw [apply, Listener.depart]
    cases hover : d.listener.over? d.proxy i with
    | none =>
      rw [Option.toList_none, List.append_nil]
      exact ⟨hcounts, hends⟩
    | some session =>
      obtain ⟨hi, hover⟩ := Listener.over?_eq_some hover
      obtain ⟨hlt, -⟩ := List.getElem?_eq_some_iff.mp hi
      rw [Option.toList_some, List.length_append]
      exact ⟨hcounts.depart hlt _, hends.depart hi hover⟩

/-- After any run the counters go with the connections. -/
theorem run_kept {config : ListenerConfig} {came : Nat} (events : List Event)
    (hcounts : Counts config came d.closed.length d.listener) (hends : d.Ends) :
    Counts config (came + events.countP Event.isArrival) (run events d).closed.length
      (run events d).listener ∧ (run events d).Ends := by
  induction events generalizing d came with
  | nil => exact ⟨hcounts, hends⟩
  | cons e rest ih =>
    obtain ⟨hnext, hrest⟩ := apply_kept e hcounts hends
    rw [List.countP_cons, Nat.add_comm (rest.countP _), ← Nat.add_assoc]
    exact ih hnext hrest

theorem counts_opened (config : ListenerConfig) : Counts config 0 0 (Listener.opened config) :=
  ⟨rfl, rfl, rfl, rfl, rfl, Nat.zero_le _⟩

theorem ends_opened (config : ListenerConfig) (strict : Bool) : (opened config strict).Ends := by
  have hsessions : (opened config strict).sessions = [] := rfl
  refine ⟨⟨strict, [], rfl⟩, ?_, ?_, fun _ _ h => absurd h List.not_mem_nil, rfl⟩
  · rw [hsessions]
    exact List.forall_mem_nil _
  · rw [hsessions]
    exact .nil

/-- Letting all connections end that can is a run. -/
theorem settle_eq_run (d : Reception) : ∃ places : List Nat,
    let last := run (places.map .depart) d
    last.listener = d.listener.settle d.proxy ∧ last.proxy = d.proxy := by
  have hplaces (places : List Nat) (d : Reception) : let last := run (places.map .depart) d
      last.listener = places.foldl (fun l i => l.depart d.proxy i) d.listener ∧
        last.proxy = d.proxy := by
    induction places generalizing d with
    | nil => exact ⟨rfl, rfl⟩
    | cons i rest ih => exact ih (d.apply (.depart i))
  exact ⟨_, hplaces _ d⟩

/-- **The counters of a listener tell what became of its connections.** After any run no more
connections are active than the listener serves at a time. Each one that has arrived was accepted or
rejected, and each one that was accepted is active or closed: either it is served, or it got no
session, or its session is terminated. The next one is rejected, and nothing else happens, exactly if
the listener serves as many as it may. The routing failures are the closed connections whose session
was found unroutable, met an error of the configuration or was refused by a stage. -/
theorem run_accounting (config : ListenerConfig) (strict : Bool) (events : List Event) :
    let d := run events (opened config strict)
    let l := d.listener
    l.active ≤ config.maxConnections ∧
    l.accepted = l.active + l.closed ∧
    l.accepted + l.rejected = events.countP Event.isArrival ∧
    (l.active = l.served.length ∧ l.closed = d.closed.length ∧ d.sessions.Nodup ∧
      ∀ session ∈ d.closed, Listener.isOver d.proxy session = true) ∧
    (∀ peer host, let next := d.apply (.arrive peer host)
      (l.active = config.maxConnections →
        next = { d with listener := { l with rejected := l.rejected + 1 } }) ∧
      (l.active ≠ config.maxConnections → next.proxy = d.proxy ∧
        next.listener = { l with
          served := l.served ++ [.waiting peer host]
          accepted := l.accepted + 1
          active := l.active + 1 })) ∧
    l.routingFailures = d.closed.countP (isUnrouted d.proxy) := by
  intro d l
  obtain ⟨hcounts, hends⟩ :=
    run_kept events (counts_opened config) (ends_opened config strict)
  have hover : ∀ session ∈ d.closed, Listener.isOver d.proxy session = true := by
    intro session hsession
    cases session with
    | none => rfl
    | some id =>
      obtain ⟨r, hr⟩ := hends.known id (mem_sessions_of_closed hsession)
      exact (Listener.isOver_of_running hr).mpr (hends.terminated id r hsession hr)
  refine ⟨?_, ?_, ?_, ⟨hcounts.active, hcounts.closed, hends.distinct, hover⟩, ?_, hends.unrouted⟩
  · have hroom := hcounts.room
    rwa [hcounts.config, ← hcounts.active] at hroom
  · rw [hcounts.active, hcounts.closed]
    exact hcounts.accepted
  · exact hcounts.arrived.trans (Nat.zero_add _)
  · intro peer host
    constructor
    · intro hfull
      rw [apply, Listener.arrive, if_pos (hcounts.isFull.mpr hfull)]
    · intro hroom
      rw [apply, Listener.arrive, if_neg (mt hcounts.isFull.mp hroom)]
      exact ⟨rfl, rfl⟩

/-- A listener for one connection at a time. Its rules are not registered. -/
def narrow : ListenerConfig := ⟨"front", ⟨.v4 [127, 0, 0, 1], 0, 80⟩, "main", 1⟩

/-- A second connection comes too early. The first one ends without a route, and a third one comes. -/
def busy : List Event :=
  let peer : SocketAddress := ⟨.v4 [10, 0, 0, 1], 0, 40000⟩
  [.arrive peer (some narrow.bind), .arrive peer (some narrow.bind), .start 0, .goOn (.step 0),
    .goOn (.step 0), .depart 0, .arrive peer none]

/-- The first connection was a routing failure, and a fourth one would be rejected. -/
theorem run_accounting_busy :
    let d := run busy (opened narrow false)
    d.closed.countP (isUnrouted d.proxy) = 1 ∧
      ∀ peer host, d.apply (.arrive peer host) = { d with
        listener := { d.listener with rejected := d.listener.rejected + 1 } } := by
  have hfailures : (run busy (opened narrow false)).listener.routingFailures = 1 := by
    decide +kernel
  have hactive : (run busy (opened narrow false)).listener.active = 1 := by decide +kernel
  obtain ⟨-, -, -, -, hnext, hunrouted⟩ := run_accounting narrow false busy
  exact ⟨hunrouted.symm.trans hfailures, fun peer host => (hnext peer host).1 hactive⟩

end Reception

end Switchboard
