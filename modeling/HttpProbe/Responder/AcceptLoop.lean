import HttpProbe.Responder.Visit

/-!
# The accept loop

While the responder runs, connections are taken and served. A listener whose time is over is asked
again; any other error of the network ends the loop, and is said if the responder still runs. When
no connection waits the loop pauses, and looks at the running flag again when it goes on.

`acceptOnce` is one round of the loop. `acceptAll` is the loop where each connection is served
before the next one is taken; it comes to an end because every round but the last takes a connection
off the queue. In general each connection has a thread of its own (`House`).
-/

namespace HttpProbe

/-- How a stretch of an accept loop ends. -/
inductive Pause where
  /-- No connection waits. -/
  | parked
  | finished
  | died (f : Failure)
  deriving DecidableEq

/-- What a round of an accept loop comes to: the loop pauses or is over, or it goes on, maybe with a
connection to serve. -/
inductive Round where
  | ends (pause : Pause) (s : Site)
  | again (s : Site)
  | taken (connection : Socket) (s : Site)

/-- The site after the round. -/
def Round.site : Round → Site
  | ends _ s => s
  | again s => s
  | taken _ s => s

/-- The site once the connection that was taken is served, if there is one. -/
def Round.served : Round → Site
  | ends _ s => s
  | again s => s
  | taken connection s => s.handle connection

/-- The loop does not go on, at least for now. -/
def Round.isOver : Round → Bool
  | ends .. => true
  | _ => false

namespace Site

/-- What the loop makes of the result of an accept. -/
def proceed (s : Site) : EStateM.Result Failure Session (Option Socket) → Round
  | .ok none t => .ends .parked (s.withListener t)
  | .ok (some connection) t => .taken connection (s.withListener t)
  | .error (.net e) t =>
    let s := s.withListener t
    if e.isTimeout then .again s
    else if s.responder.running then .ends .finished (s.say .error s!"accept failed: {e.message}")
    else .ends .finished s
  | .error f t => .ends (.died f) (s.withListener t)

/-- One round of the accept loop. -/
def acceptOnce (s : Site) : Round :=
  if s.responder.running then
    match s.responder.listener with
    | none => .ends .finished s
    | some listener => s.proceed (Socket.accept ⟨listener, s.system⟩)
  else .ends .finished s

/-- A round after which the loop goes on takes a connection off the queue. -/
theorem waiting_acceptOnce {s : Site} (h : s.acceptOnce.isOver = false) :
    s.acceptOnce.site.waiting < s.waiting := by
  unfold acceptOnce at h ⊢
  split at h
  · rename_i hrunning
    rw [if_pos hrunning]
    split at h
    · cases h
    · rename_i listener hlistener
      rw [waiting_of_listener hlistener]
      cases hasked : Socket.accept ⟨listener, s.system⟩ with
      | ok connection t =>
        cases connection with
        | none => rw [hasked] at h; cases h
        | some connection => exact Socket.waiting_accept_ok hasked
      | error f t =>
        rw [hasked] at h
        cases f with
        | net e =>
          unfold proceed at h ⊢
          dsimp only at h ⊢
          split at h
          · rename_i hlate
            rw [if_pos hlate]
            exact Socket.waiting_accept_timeout hasked hlate
          · split at h <;> cases h
        | _ => cases h
  · cases h

/-- Runs the accept loop as far as it goes. -/
def acceptAll (s : Site) : Pause × Site :=
  match _round : s.acceptOnce with
  | .ends pause t => (pause, t)
  | .again t => acceptAll t
  | .taken connection t => acceptAll (t.handle connection)
termination_by s.waiting
decreasing_by
  · have hless := waiting_acceptOnce (s := s) (by rw [_round]; rfl)
    rwa [_round] at hless
  · have hless := waiting_acceptOnce (s := s) (by rw [_round]; rfl)
    rwa [_round] at hless

end Site

end HttpProbe
