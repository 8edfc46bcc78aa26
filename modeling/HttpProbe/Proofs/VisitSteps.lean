import HttpProbe.Proofs.HandingOver
import HttpProbe.Responder.House

/-!
# The steps of a visit

A visit goes on step by step, and between two steps others may do what they like with the system.
What it is to note is settled by the sessions in which it makes its own steps:

* `requestOver`: the request of a visit that makes its steps in these sessions. Its two look-ups and
  its receptions have to return;
* `Stage.Goes`: what a step does;
* `Stage.expects`: what a visit is to note that goes on in these sessions from here
  (`expects_step`);
* `Stage.noted?`: what a visit has noted, and `noted?_step` when it comes to that;
* `hurried_step`: a step hands no connection over.
-/

namespace HttpProbe

/-- No step changes the number of the descriptor. -/
theorem Session.Steps.number {may : Permit} {s t : Session} (h : Steps may s t) :
    t.socket.descriptor.number = s.socket.descriptor.number := by
  refine h.keep (R := fun s t => t.socket.descriptor.number = s.socket.descriptor.number)
    (fun _ => rfl) (fun h h' => h'.trans h) fun {s t} hstep => ?_
  cases hstep with
  | @call _ operation answer take usual _ _ =>
    exact (Socket.afterCall_cases take operation usual answer s).1
  | close => exact (handled_closeElsewhere s).number
  | lookUp => exact (Socket.disturbed_cases _ _).1
  | describe => exact (Socket.disturbed_cases _ _).1
  | say => rfl
  | store => rfl
  | attach => rfl
  | occupy => rfl
  | adopt => rfl

namespace Responder

/-! ## 1. What a visit is to note -/

/-- The request of which this was received, if more of it is received in these sessions. -/
def collectOver (collected : Bytes) : List Session → Option Bytes
  | [] => if Head.isComplete collected then some collected else none
  | s :: rest =>
    if Head.isComplete collected then some collected
    else
      match Socket.read Socket.readSize s with
      | .error .. => none
      | .ok [] _ => some collected
      | .ok data _ => collectOver (collected ++ data) rest

/-- The request of a visit that looks the port of its client up in the first of these sessions. -/
def portOver : List Session → Option Bytes
  | [] => none
  | s :: rest =>
    match Socket.portOf .there s with
    | .error .. => none
    | .ok .. => collectOver [] rest

/-- The request of a visit that makes its steps in these sessions. -/
def requestOver : List Session → Option Bytes
  | [] => none
  | s :: rest =>
    match Socket.hostOf .there s with
    | .error .. => none
    | .ok .. => portOver rest

namespace Stage

variable {plan : Plan} {stage : Stage}

/-- What a step does. -/
inductive Goes (plan : Plan) (s : Session) : Stage → Stage × Session → Prop where
  | lost {f : Failure} {t : Session} (hhost : Socket.hostOf .there s = .error f t) :
    Goes plan s arrived (leaving "client" none (.error f), t)
  | located {host : String} {t : Session} (hhost : Socket.hostOf .there s = .ok host t) :
    Goes plan s arrived (located host, t)
  | unnamed {host : String} {f : Failure} {t : Session}
      (hport : Socket.portOf .there s = .error f t) :
    Goes plan s (located host) (leaving "client" none (.error f), t)
  | named {host : String} {port : Int} {t : Session} (hport : Socket.portOf .there s = .ok port t) :
    Goes plan s (located host) (reading s!"{host}:{port}" [], greeted s!"{host}:{port}" t)
  | complete {client : String} {collected : Bytes} (henough : Head.isComplete collected = true) :
    Goes plan s (reading client collected) (asked client collected, s)
  | unread {client : String} {collected : Bytes} {f : Failure} {t : Session}
      (hshort : Head.isComplete collected = false)
      (hread : Socket.read Socket.readSize s = .error f t) :
    Goes plan s (reading client collected) (leaving client none (.error f), t)
  | ended {client : String} {collected : Bytes} {t : Session}
      (hshort : Head.isComplete collected = false)
      (hread : Socket.read Socket.readSize s = .ok [] t) :
    Goes plan s (reading client collected) (asked client collected, t)
  | more {client : String} {collected : Bytes} {b : UInt8} {rest : Bytes} {t : Session}
      (hshort : Head.isComplete collected = false)
      (hread : Socket.read Socket.readSize s = .ok (b :: rest) t) :
    Goes plan s (reading client collected) (reading client (collected ++ b :: rest), t)
  | noted {client : String} {data : Bytes} : Goes plan s (asked client data) (noted client data, s)
  | unanswered {client : String} {data : Bytes} {f : Failure} {t : Session}
      (hreply : reply plan s = .error f t) :
    Goes plan s (noted client data) (leaving client (some data) (.error f), t)
  | answered {client : String} {data : Bytes} {n : Nat} {t : Session}
      (hreply : reply plan s = .ok n t) :
    Goes plan s (noted client data) (leaving client (some data) (.ok ()), t)
  | left {client : String} {received : Option Bytes} {outcome : Except Failure Unit}
      {failure : Option Failure} {t : Session}
      (hconclude : Visit.conclude ⟨client, received, outcome, s⟩ = (failure, t)) :
    Goes plan s (leaving client received outcome) (gone received,
      { t with system := match failure with
          | none => t.system
          | some f => t.system.note (.threadEnded f) })
  | gone {received : Option Bytes} : Goes plan s (gone received) (gone received, s)

theorem goes_step (plan : Plan) (stage : Stage) (s : Session) :
    Goes plan s stage (stage.step plan s) := by
  fun_cases step plan stage s with
  | case1 s f t h => exact .lost h
  | case2 s host t h => exact .located h
  | case3 s host f t h => exact .unnamed h
  | case4 s host port t h => exact .named h
  | case5 s client collected h => exact .complete h
  | case6 s client collected hshort f t h => exact .unread (by simpa using hshort) h
  | case7 s client collected hshort t h => exact .ended (by simpa using hshort) h
  | case8 s client collected hshort data t hne h =>
    cases data with
    | nil => exact absurd rfl hne
    | cons b rest => exact .more (by simpa using hshort) h
  | case9 s client data => exact .noted
  | case10 s client data f t h => exact .unanswered h
  | case11 s client data n t h => exact .answered h
  | case12 s client received outcome t h => exact .left h
  | case13 s client received outcome t f h => exact .left h
  | case14 s received => exact .gone

/-- What a visit has noted or is to note when it makes its further steps in these sessions. -/
def expects : Stage → List Session → Option Bytes
  | arrived, sessions => requestOver sessions
  | located _, sessions => portOver sessions
  | reading _ collected, sessions => collectOver collected sessions
  | asked _ data, _ => some data
  | noted _ data, _ => some data
  | leaving _ received _, _ => received
  | gone received, _ => received

/-- What a visit has noted. -/
def noted? : Stage → Option Bytes
  | noted _ data => some data
  | leaving _ received _ => received
  | gone received => received
  | _ => none

/-- The visit is over. -/
def isGone : Stage → Bool
  | gone _ => true
  | _ => false

/-- **What a visit is to note** is settled by the sessions of its steps. -/
theorem expects_step (s : Session) (rest : List Session) :
    (stage.step plan s).1.expects rest = stage.expects (s :: rest) := by
  have hgoes := goes_step plan stage s
  generalize stage.step plan s = r at hgoes ⊢
  cases hgoes with
  | lost hhost => simp [expects, requestOver, hhost]
  | located hhost => simp [expects, requestOver, hhost]
  | unnamed hport => simp [expects, portOver, hport]
  | named hport => simp [expects, portOver, hport]
  | complete henough => simp [expects, collectOver, henough]
  | unread hshort hread => simp [expects, collectOver, hshort, hread]
  | ended hshort hread => simp [expects, collectOver, hshort, hread]
  | more hshort hread => simp [expects, collectOver, hshort, hread]
  | _ => rfl

/-- A step notes what it is to note, and what was noted stays noted. -/
theorem noted?_step (s : Session) :
    (stage.step plan s).1.noted? = stage.noted?.or stage.notes? := by
  have hgoes := goes_step plan stage s
  generalize stage.step plan s = r at hgoes ⊢
  cases hgoes with
  | left => exact (Option.or_none ..).symm
  | gone => exact (Option.or_none ..).symm
  | _ => rfl

/-- Nothing is noted twice. -/
theorem noted?_of_notes? {data : Bytes} (h : stage.notes? = some data) : stage.noted? = none := by
  cases stage with
  | asked => rfl
  | _ => cases h

/-- What was noted was to be noted. -/
theorem expects_of_noted? {data : Bytes} (h : stage.noted? = some data) (sessions : List Session) :
    stage.expects sessions = some data := by
  cases stage with
  | noted => exact h
  | leaving => exact h
  | gone => exact h
  | _ => cases h

/-- A visit that is over has noted what it was to note. -/
theorem expects_of_isGone (h : stage.isGone = true) (sessions : List Session) :
    stage.expects sessions = stage.noted? := by
  cases stage with
  | gone => rfl
  | _ => cases h

/-! ## 2. What a step leaves alone -/

/-- A step stays with its connection and hands none over. -/
theorem hurried_step (plan : Plan) (stage : Stage) (s : Session) :
    (stage.step plan s).2.socket.descriptor.number = s.socket.descriptor.number ∧
      ∃ es, s.system.Noted (stage.step plan s).2.system es ∧
        es.filterMap Event.unhurried? = [] := by
  have hsteps {t : Session} (h : Session.Steps Permit.hurried s t) :
      t.socket.descriptor.number = s.socket.descriptor.number ∧
        ∃ es, s.system.Noted t.system es ∧ es.filterMap Event.unhurried? = [] :=
    ⟨h.number, h.hurried⟩
  have hname (s : Session) (_ : s.socket.closed = false) : Permit.hurried s .getpeername :=
    ⟨Operation.noConfusion, Operation.noConfusion⟩
  have hhost : Stepwise Permit.hurried (Socket.hostOf .there) := Socket.stepwise_hostOf hname
  have hport : Stepwise Permit.hurried (Socket.portOf .there) := Socket.stepwise_portOf hname
  have hread : Stepwise Permit.hurried (Socket.read Socket.readSize) :=
    Socket.stepwise_read fun _ _ => ⟨Operation.noConfusion, Operation.noConfusion⟩
  have hreply : Stepwise Permit.hurried (reply plan) :=
    stepwise_reply fun _ _ _ _ => ⟨Operation.noConfusion, Operation.noConfusion⟩
  have hgoes := goes_step plan stage s
  generalize stage.step plan s = r at hgoes ⊢
  cases hgoes with
  | lost h => exact hsteps (hhost.of_error h)
  | located h => exact hsteps (hhost.of_ok h)
  | unnamed h => exact hsteps (hport.of_error h)
  | named h => exact hsteps ((hport.of_ok h).tail (.say ..))
  | complete => exact hsteps .refl
  | unread _ h => exact hsteps (hread.of_error h)
  | ended _ h => exact hsteps (hread.of_ok h)
  | more _ h => exact hsteps (hread.of_ok h)
  | noted => exact hsteps .refl
  | unanswered h => exact hsteps (hreply.of_error h)
  | answered h => exact hsteps (hreply.of_ok h)
  | @left client received outcome failure t h =>
    have hclose (s : Session) : Permit.hurried s .close :=
      ⟨Operation.noConfusion, Operation.noConfusion⟩
    have hconclude := steps_conclude hclose ⟨client, received, outcome, s⟩
    rw [h] at hconclude
    obtain ⟨hnumber, es, hes, hnone⟩ := hsteps hconclude
    cases failure with
    | none => exact ⟨hnumber, es, hes, hnone⟩
    | some f =>
      refine ⟨hnumber, es ++ [.threadEnded f], hes.trans (System.Noted.note ..), ?_⟩
      rw [List.filterMap_append, hnone]
      rfl
  | gone => exact hsteps .refl

end Stage

end Responder

end HttpProbe
