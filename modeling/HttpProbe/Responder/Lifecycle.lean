import HttpProbe.Responder.AcceptLoop

/-!
# Start, run and stop

* `Site.start` makes a listener and starts an accept loop, which waits until it is run. A responder
  that runs already is left alone. A listener that cannot be set up is closed again;
* `Site.run` runs the oldest accept loop that has not ended;
* `Site.stop` clears the running flag, waits for the last accept loop, and closes the listener. A
  responder that does not run is left alone;
* `Site.cycle` is all three, one after the other.
-/

namespace HttpProbe

/-- What can end an operation on a responder. -/
inductive Responder.Refusal where
  | alreadyRunning
  | failed (f : Failure)
  deriving DecidableEq

/-- What a message says of it. -/
def Responder.Refusal.message : Responder.Refusal → String
  | alreadyRunning => "status server already running"
  | failed f => f.message

namespace Site

/-! ## 1. Start -/

/-- The time after which a listener is asked again: a tenth of a second. -/
def pollInterval : Binary64 := .ofDecimal false 1 (-1)

/-- Sets a listener up. -/
def setUp (host : String) (port : Int) : SocketM Unit := do
  Socket.setOption Constant.levelSocket Constant.reuseAddress 1
  Socket.bind host (.numbered port)
  Socket.listen Socket.listenBacklog
  Socket.setTimeout (some pollInterval)

/-- The failure of a set-up once the listener is closed again; a failure to close it comes first. -/
def abandon (f : Failure) (t : Session) : Failure × System :=
  match Session.close t with
  | .ok () t => (f, t.system)
  | .error g t => (g, t.system)

/-- Starts the responder. -/
def start : EStateM Responder.Refusal Site Unit := fun s =>
  if s.responder.running then .error .alreadyRunning s
  else
    match Socket.createDefault s.system with
    | .error f system => .error (.failed f) { s with system }
    | .ok socket system =>
      match setUp s.responder.plan.host s.responder.port ⟨socket, system⟩ with
      | .error f t =>
        let (f, system) := abandon f t
        .error (.failed f) { s with system }
      | .ok () t =>
        match Socket.portOf .here t with
        | .error f t =>
          .error (.failed f) { s with responder.listener := some t.socket, system := t.system }
        | .ok port t =>
          let n := s.responder.started
          let responder := { s.responder with
            listener := some t.socket, port, running := true, started := n + 1
            unfinished := s.responder.unfinished ++ [n] }
          .ok () (Site.say ⟨responder, t.system⟩ .info
            s!"status server listening on {responder.plan.host}:{port}")

/-! ## 2. Run -/

/-- What a run comes to. -/
inductive Run where
  | idle
  | paused (p : Pause)
  deriving DecidableEq

/-- Takes an accept loop off the list of those that have not ended. -/
def forget (loop : Nat) (s : Site) : Site :=
  { s with responder.unfinished := s.responder.unfinished.filter (· != loop) }

/-- The site after a stretch of an accept loop, which is forgotten unless it is only parked. -/
def settle (loop : Nat) : Pause × Site → Site
  | (.parked, s) => s
  | (.finished, s) => s.forget loop
  | (.died f, s) => { s.forget loop with system := s.system.note (.threadEnded f) }

/-- Runs the oldest accept loop that has not ended. -/
def run (s : Site) : Run × Site :=
  match s.responder.unfinished with
  | [] => (.idle, s)
  | loop :: _ => (.paused s.acceptAll.1, settle loop s.acceptAll)

/-! ## 3. Stop -/

/-- Waits for the accept loop that was started last. With the running flag clear it ends at once. -/
def join (s : Site) : Site :=
  match s.responder.started with
  | 0 => s
  | loop + 1 =>
    if loop ∈ s.responder.unfinished then (settle loop s.acceptAll).forget loop else s

/-- Stops the responder. -/
def stop : EStateM Responder.Refusal Site Unit := fun s =>
  if !s.responder.running then .ok () s
  else
    let s := join { s with responder.running := false }
    let farewell := fun s : Site => s.say .info s!"status server on port {s.responder.port} stopped"
    match s.responder.listener with
    | none => .ok () (farewell s)
    | some listener =>
      match Session.close ⟨listener, s.system⟩ with
      | .ok () t => .ok () (farewell
          { s with responder.listener := some t.socket, system := t.system })
      | .error f t =>
        .error (.failed f) { s with responder.listener := some t.socket, system := t.system }

/-! ## 4. All three -/

/-- Starts, lets connections wait, runs once, and stops. A responder that does not start is not run
and not stopped. -/
def cycle (callers : List (Reply (Caller Script))) : EStateM Responder.Refusal Site Run := fun s =>
  match start s with
  | .error why s => .error why s
  | .ok () s =>
    let (r, s) := (s.offer callers).run
    match stop s with
    | .error why s => .error why s
    | .ok () s => .ok r s

/-- A responder that runs already is not started again. -/
theorem start_of_running {s : Site} (h : s.responder.running = true) :
    start s = .error .alreadyRunning s := by
  simp [start, h]

/-- A responder that does not run is not stopped again. -/
theorem stop_of_not_running {s : Site} (h : s.responder.running = false) : stop s = .ok () s := by
  simp [stop, h]

end Site

end HttpProbe
