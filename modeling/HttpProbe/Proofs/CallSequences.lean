import Mathlib.Data.List.Forall2
import HttpProbe.Proofs.Numerals
import HttpProbe.Proofs.QuietCalls
import HttpProbe.Proofs.SocketRuns

/-!
# Sequences of calls

An operation that is made of several calls makes them in a fixed order, up to the first one that
fails, and it then fails with that one's error. Here this is said once for all such operations:

* `Done kinds es`, `Cut kinds es f`: all calls of a sequence were made and done, or the first ones
  were done and the next one failed with `f`. What a call may be is a predicate, its kind;
* `Obliging`: the session answers with names and ports that can be read;
* `Aside`: what such calls leave as it was, which is all that reading needs;
* `Makes kinds s r`: from `s` the calls of `kinds` were made and came to `r`, with `Makes.bind` for
  one operation after the other and `makes_call` for one call.
-/

namespace HttpProbe

/-! ## 1. Sequences -/

/-- What a call may be. -/
abbrev CallKind := Call → Prop

/-- The event is a call of the kind, and it is done. -/
inductive DoneAs (kind : CallKind) : Event → Prop where
  | intro {c : Call} (h : kind c) : DoneAs kind (.called c .done)

/-- All calls of the sequence were made and done. -/
abbrev Done (kinds : List CallKind) (es : List Event) : Prop := List.Forall₂ DoneAs kinds es

/-- The first calls of the sequence were done, and the next one failed. -/
inductive Cut : List CallKind → List Event → SystemFailure → Prop where
  | here {kind : CallKind} {kinds : List CallKind} {c : Call} {f : SystemFailure} (h : kind c) :
    Cut (kind :: kinds) [.called c (.failed f)] f
  | later {kind : CallKind} {kinds : List CallKind} {e : Event} {es : List Event}
      {f : SystemFailure} (h : DoneAs kind e) (hrest : Cut kinds es f) :
    Cut (kind :: kinds) (e :: es) f

section Sequences

variable {kinds kinds' : List CallKind} {es es' : List Event} {f : SystemFailure}

theorem Cut.append_right (h : Cut kinds es f) : Cut (kinds ++ kinds') es f := by
  induction h with
  | here h => exact .here h
  | later h _ ih => exact .later h ih

theorem Cut.append_left (hd : Done kinds es) (h : Cut kinds' es' f) :
    Cut (kinds ++ kinds') (es ++ es') f := by
  induction hd with
  | nil => exact h
  | cons hhead _ ih => exact .later hhead ih

end Sequences

/-! ## 2. Sessions that answer well -/

/-- Nobody closes the socket, a timeout can be set, and peers have ports that can be read. -/
structure Script.Obliging (s : Script) : Prop where
  quiet : s.Quiet
  timeouts : ∀ r ∈ s.setTimeout, ∀ f, r.outcome ≠ .failure f
  peers : ∀ r ∈ s.getpeername, ∀ a, r.outcome = .value a → a.Numbered

/-- The names that the system gives to addresses have services that can be read. -/
def System.NamesServices (s : System) : Prop :=
  ∀ names, Outcome.value names ∈ s.descriptions → Numeric names.2

/-- The socket is open and will stay so, and all that it is told can be read. -/
structure Session.Obliging (s : Session) : Prop where
  usable : s.Usable
  script : s.socket.descriptor.script.Obliging
  peer : ∀ a, s.socket.descriptor.peer = some a → a.Numbered
  names : s.system.NamesServices

/-- What calls that are not receptions leave as it was. -/
structure Session.Aside (s t : Session) : Prop where
  keeps : s.Keeps t
  buffer : t.socket.buffer = s.socket.buffer
  ended : t.socket.ended = s.socket.ended
  recv : t.socket.descriptor.script.recv = s.socket.descriptor.script.recv
  obliging : s.Obliging → t.Obliging

namespace Session.Aside

variable {s t u : Session}

theorem refl (s : Session) : s.Aside s := ⟨.refl s, rfl, rfl, rfl, id⟩

theorem trans (h : s.Aside t) (h' : t.Aside u) : s.Aside u where
  keeps := h.keeps.trans h'.keeps
  buffer := h'.buffer.trans h.buffer
  ended := h'.ended.trans h.ended
  recv := h'.recv.trans h.recv
  obliging := h'.obliging ∘ h.obliging

/-- What is said changes nothing. -/
theorem say (s : Session) (level : Log.Level) (source : Log.Source) (message : String) :
    s.Aside (s.say level source message) where
  keeps := ⟨rfl, rfl, rfl, id⟩
  buffer := rfl
  ended := rfl
  recv := rfl
  obliging := fun h =>
    ⟨⟨h.usable.isOpen, h.usable.alive, h.usable.quiet⟩, h.script, h.peer, h.names⟩

end Session.Aside

/-! ## 3. Replies that are no receptions -/

/-- What is taken off a queue other than that of receptions; `during` is what other threads do
meanwhile. -/
structure Script.Gentle {β : Type} (during : β → Interference) (take : Script → β × Script) :
    Prop where
  closing : ∀ s : Script, s.Quiet → (during (take s).1).closing = false
  recv : ∀ s : Script, (take s).2.recv = s.recv
  obliging : ∀ s : Script, s.Obliging → (take s).2.Obliging
  quiet : ∀ s : Script, s.Quiet → (take s).2.Quiet

namespace Script

theorem gentle_takeSetTimeout : Gentle Reply.toInterference takeSetTimeout where
  closing := fun _ h => Reply.closing_next h.setTimeout
  recv := fun _ => rfl
  obliging := fun _ h => ⟨h.quiet.takeSetTimeout,
    fun r hr => h.timeouts r (Reply.mem_of_mem_next hr), h.peers⟩
  quiet := fun _ h => h.takeSetTimeout

theorem gentle_takeConnect : Gentle Reply.toInterference takeConnect where
  closing := fun _ h => Reply.closing_next h.connect
  recv := fun _ => rfl
  obliging := fun _ h => ⟨h.quiet.takeConnect, h.timeouts, h.peers⟩
  quiet := fun _ h => h.takeConnect

theorem gentle_takeSendAll : Gentle Reply.toInterference takeSendAll where
  closing := fun _ h => Reply.closing_next h.sendAll
  recv := fun _ => rfl
  obliging := fun _ h => ⟨h.quiet.takeSendAll, h.timeouts, h.peers⟩
  quiet := fun _ h => h.takeSendAll

theorem gentle_takeGetpeername : Gentle Reply.toInterference takeGetpeername where
  closing := fun _ h => Reply.closing_next h.getpeername
  recv := fun _ => rfl
  obliging := fun _ h => ⟨h.quiet.takeGetpeername, h.timeouts,
    fun r hr => h.peers r (Reply.mem_of_mem_next hr)⟩
  quiet := fun _ h => h.takeGetpeername

theorem gentle_takeLookUp : Gentle id takeLookUp where
  closing := fun _ h => Interference.closing_next h.lookUp
  recv := fun _ => rfl
  obliging := fun _ h => ⟨h.quiet.takeLookUp, h.timeouts, h.peers⟩
  quiet := fun _ h => h.takeLookUp

theorem gentle_takeDescribe : Gentle id takeDescribe where
  closing := fun _ h => Interference.closing_next h.describe
  recv := fun _ => rfl
  obliging := fun _ h => ⟨h.quiet.takeDescribe, h.timeouts, h.peers⟩
  quiet := fun _ h => h.takeDescribe

end Script

theorem Session.aside_settled {α : Type} {s : Session} {operation : Operation} {answer : Answer}
    {take : Script → Reply α × Script} {usual : Descriptor → Except SystemFailure α}
    (hg : Script.Gentle Reply.toInterference take) :
    s.Aside (s.settled operation answer (s.socket.descriptor.reply take usual)) := by
  have hc : s.Called operation answer
      (s.settled operation answer (s.socket.descriptor.reply take usual)) :=
    Session.called_settled answer (hg.quiet _)
  have hscript : (s.socket.descriptor.reply take usual).descriptor.script
        = s.socket.descriptor.script ∨
      (s.socket.descriptor.reply take usual).descriptor.script
        = (take s.socket.descriptor.script).2 := by
    unfold Descriptor.reply
    split
    · exact .inl rfl
    · exact .inr rfl
  refine ⟨hc.keeps, hc.buffer, hc.ended, ?_, fun h => ⟨h.usable.of_keeps hc.keeps, ?_, ?_, ?_⟩⟩
  · rcases hscript with e | e
    · exact congrArg Script.recv e
    · exact (congrArg Script.recv e).trans (hg.recv _)
  · show (s.socket.descriptor.reply take usual).descriptor.script.Obliging
    rcases hscript with e | e
    · exact e ▸ h.script
    · exact e ▸ hg.obliging _ h.script
  · intro a ha
    rw [hc.peer] at ha
    exact h.peer a ha
  · intro names hnames
    rw [hc.descriptions] at hnames
    exact h.names names hnames

/-- A call that is not on the descriptor leaves the socket as it is. -/
theorem Session.aside_apart {s : Session} {take : Script → Interference × Script} {system : System}
    (hg : Script.Gentle id take) (h : ∀ o ∈ system.descriptions, o ∈ s.system.descriptions) :
    s.Aside (s.apart (take s.socket.descriptor.script) system) where
  keeps := ⟨rfl, rfl, rfl, hg.quiet _⟩
  buffer := rfl
  ended := rfl
  recv := hg.recv _
  obliging := fun hs => ⟨⟨hs.usable.isOpen, hs.usable.alive, hg.quiet _ hs.usable.quiet⟩,
    hg.obliging _ hs.script, hs.peer, fun names hnames => hs.names names (h _ hnames)⟩

/-! ## 4. Operations that make a sequence of calls -/

/-- The error that callers see when a call fails. -/
abbrev Failure.translated (f : SystemFailure) : Failure := .net (.ofSystem f)

/-- From `s` the calls were made, up to the first one that failed, and this came of it. `err` is how
failures of the system are shown, and `post` is what holds of a result. -/
inductive Makes {ε α : Type} (err : SystemFailure → ε) (kinds : List CallKind) (post : α → Prop)
    (s : Session) : EStateM.Result ε Session α → Prop where
  | done {a : α} {t : Session} {es : List Event} (hes : Done kinds es)
      (hnoted : s.system.Noted t.system es) (haside : s.Aside t) (hpost : post a) :
    Makes err kinds post s (.ok a t)
  | cut {f : SystemFailure} {t : Session} {es : List Event} (hes : Cut kinds es f)
      (hnoted : s.system.Noted t.system es) (haside : s.Aside t) :
    Makes err kinds post s (.error (err f) t)

namespace Makes

variable {ε α β : Type} {err : SystemFailure → ε} {kinds kinds' : List CallKind} {post : α → Prop}
  {post' : β → Prop} {s : Session}

theorem pure {a : α} (h : post a) : Makes err [] post s (.ok a s) :=
  .done .nil (.refl _) (.refl s) h

/-- One operation after the other makes the calls of the one and then those of the other. -/
theorem bind {x : EStateM ε Session α} {k : α → EStateM ε Session β}
    (hx : Makes err kinds post s (x s))
    (hk : ∀ a t, post a → s.Aside t → Makes err kinds' post' t (k a t)) :
    Makes err (kinds ++ kinds') post' s ((x >>= k) s) := by
  cases hr : x s with
  | error e t =>
    rw [hr] at hx
    rw [bind_of_error hr]
    cases hx with
    | cut hes hnoted haside => exact .cut hes.append_right hnoted haside
  | ok a t =>
    rw [hr] at hx
    rw [bind_of_ok hr]
    cases hx with
    | done hes hnoted haside hpost =>
      cases hr' : k a t with
      | ok b u =>
        have hnext := hk a t hpost haside
        rw [hr'] at hnext
        cases hnext with
        | done hes' hnoted' haside' hpost' =>
          exact .done (List.rel_append hes hes') (hnoted.trans hnoted') (haside.trans haside')
            hpost'
      | error e u =>
        have hnext := hk a t hpost haside
        rw [hr'] at hnext
        cases hnext with
        | cut hes' hnoted' haside' =>
          exact .cut (.append_left hes hes') (hnoted.trans hnoted') (haside.trans haside')

/-- What is said, or made of the result, after the last call. -/
theorem map {x : EStateM ε Session α} {k : α → EStateM ε Session β}
    (hx : Makes err kinds post s (x s))
    (hk : ∀ a t, post a → s.Aside t → Makes err [] post' t (k a t)) :
    Makes err kinds post' s ((x >>= k) s) := by
  have h := bind hx hk
  rw [List.append_nil] at h
  exact h

theorem guarded {x : CallM α} (hx : Makes id kinds post s (x s)) :
    Makes Failure.translated kinds post s (guarded x s) := by
  cases hr : x s with
  | ok a t =>
    rw [hr] at hx
    rw [guarded_of_ok hr]
    cases hx with
    | done hes hnoted haside hpost => exact .done hes hnoted haside hpost
  | error f t =>
    rw [hr] at hx
    rw [guarded_of_error hr]
    cases hx with
    | cut hes hnoted haside => exact .cut hes hnoted haside

end Makes

/-- One call on the descriptor. -/
theorem makes_call {α : Type} {s : Session} {operation : Operation}
    {take : Script → Reply α × Script} {usual : Descriptor → Except SystemFailure α}
    {kind : CallKind} {post : α → Prop} (hs : s.Usable) (hg : Script.Gentle Reply.toInterference take)
    (hkind : kind (.on s.socket.descriptor.number operation))
    (hpost : ∀ a, (s.socket.descriptor.reply take usual).result = .ok a → post a) :
    Makes id [kind] post s
      (Session.call operation take usual (fun _ => .done) s) := by
  have hclosing := hg.closing _ hs.quiet
  cases hr : Session.call operation take usual (fun _ => .done) s with
  | ok a t =>
    obtain ⟨hresult, rfl⟩ := Session.call_ok hclosing hr
    exact .done (.cons (.intro hkind) .nil) (Session.called_settled _ (hg.quiet _)).noted
      (Session.aside_settled hg) (hpost a hresult)
  | error f t =>
    obtain ⟨-, rfl⟩ := Session.call_error hclosing hr
    exact .cut (.here hkind) (Session.called_settled _ (hg.quiet _)).noted
      (Session.aside_settled hg)

end HttpProbe
