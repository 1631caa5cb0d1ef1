/-
# One listener for each connection

Whatever is asked of a transport of remote calls and in which order, and whatever the remote object
and the listener do, at most one listener is started in each connection, the answers to a request for
one say which case it is, and no listener outlives its connection (`listener_discipline`).

Three fields say where the listener stands, and none of them counts: whether there is a connection,
whether a listener was started in it, and whether it goes on.  The count is taken at the other end.
`Watched` is the same remote object with a record of when it was reached and when it was listened
to, and the transport does not notice the difference (`unwatched_after`).  What ties the record to
the fields is `Disciplined`, which every move keeps.
-/
import Instrument.Proofs.Transport.Remote
import Instrument.Transport.Script

namespace Instrument

/-! ## What was begun with a remote object -/

/-- What is counted of a remote object: that it was reached, and that it was listened to. -/
inductive Approach
  | reached
  | listened
  deriving DecidableEq, Repr

/-- How often the object was listened to since it was last reached; the latest comes first. -/
def listened : List Approach → Nat
  | [] => 0
  | .reached :: _ => 0
  | .listened :: earlier => listened earlier + 1

/-- A remote object and what was begun with it so far, the latest first. -/
structure Watched (ρ : Type) where
  remote : ρ
  approaches : List Approach

instance [Remote ρ] : Remote (Watched ρ) where
  connect settings w :=
    let (r, remote) := Remote.connect settings w.remote
    (r, ⟨remote, if r.isOk then .reached :: w.approaches else w.approaches⟩)
  call method args w :=
    let (r, remote) := Remote.call method args w.remote
    (r, ⟨remote, w.approaches⟩)
  listen identity method w := ⟨Remote.listen identity method w.remote, .listened :: w.approaches⟩
  poll w :=
    let (r, remote) := Remote.poll w.remote
    (r, ⟨remote, w.approaches⟩)

namespace Watched

variable {ρ : Type} [Remote ρ] {settings : RpcSettings} {w : Watched ρ} {remote : ρ}

theorem connect_of_error {e : TransportFault}
    (h : Remote.connect settings w.remote = (.error e, remote)) :
    Remote.connect settings w = (.error e, ⟨remote, w.approaches⟩) := by
  simp [Remote.connect, h, Except.isOk, Except.toBool]

theorem connect_of_ok (h : Remote.connect settings w.remote = (.ok (), remote)) :
    Remote.connect settings w = (.ok (), ⟨remote, .reached :: w.approaches⟩) := by
  simp [Remote.connect, h, Except.isOk, Except.toBool]

end Watched

namespace Rpc

variable {ρ : Type}

/-- The transport over the watched object, with which nothing was begun yet. -/
def watched (r : Rpc ρ) : Rpc (Watched ρ) :=
  ⟨r.settings, ⟨r.remote, []⟩, r.connected, r.listener, r.listenerStarted, r.notifications⟩

/-- The transport over the object itself. -/
def unwatched (r : Rpc (Watched ρ)) : Rpc ρ :=
  ⟨r.settings, r.remote.remote, r.connected, r.listener, r.listenerStarted, r.notifications⟩

/-- What is begun with the remote object while moves are made, the latest first. -/
def approaches [Remote ρ] (r : Rpc ρ) (moves : List Move) : List Approach :=
  (r.watched.after moves).remote.approaches

/-! ## Watching changes nothing -/

section Unwatched

variable [Remote ρ] (w : Rpc (Watched ρ))

theorem remoteView_remote : RemoteView (Watched.remote (ρ := ρ)) :=
  ⟨fun _ _ => rfl, fun _ _ _ => rfl, fun _ _ _ => rfl, fun _ => rfl⟩

theorem unwatched_startListener :
    w.unwatched.startListener = (w.startListener.1, w.startListener.2.unwatched) :=
  startListener_through w remoteView_remote

theorem unwatched_connect : w.unwatched.connect = (w.connect.1, w.connect.2.unwatched) :=
  connect_through w remoteView_remote

/-- **The transport does not notice that its object is watched.** -/
theorem unwatched_after (moves : List Move) :
    w.unwatched.after moves = (w.after moves).unwatched :=
  after_through w remoteView_remote moves

end Unwatched

/-! ## The discipline -/

section Discipline

variable [Remote ρ] {settings : RpcSettings}

/-- The record of what was begun with the object and the fields of the transport agree. -/
structure Disciplined (settings : RpcSettings) (w : Rpc (Watched ρ)) : Prop where
  configured : w.settings = settings
  most : listened w.remote.approaches ≤ 1
  started : w.connected = true → listened w.remote.approaches = w.listenerStarted.toNat
  stopped : w.connected = false → w.listener = none

variable {w : Rpc (Watched ρ)}

omit [Remote ρ] in
theorem disciplined_watched_ofSettings (settings : RpcSettings) (remote : ρ) :
    (ofSettings settings remote).watched.Disciplined settings :=
  ⟨rfl, Nat.zero_le 1, nofun, fun _ => rfl⟩

theorem Disciplined.startListener (h : w.Disciplined settings) :
    w.startListener.2.Disciplined settings := by
  cases hc : w.connected with
  | false => rwa [startListener_of_not_connected hc]
  | true =>
    cases hs : w.listenerStarted with
    | true => rwa [startListener_of_started hc hs]
    | false =>
      -- It is the first one since the object was reached.
      have hnone : listened w.remote.approaches = 0 := by rw [h.started hc, hs]; rfl
      have hone : listened (.listened :: w.remote.approaches) = 1 := by rw [listened, hnone]
      rw [startListener_of_not_started hc hs]
      exact ⟨h.configured, Nat.le_of_eq hone, fun _ => hone,
        fun hnot => absurd (hc.symm.trans hnot) Bool.noConfusion⟩

theorem Disciplined.connect (h : w.Disciplined settings) : w.connect.2.Disciplined settings := by
  cases hc : w.connected with
  | true => rwa [connect_of_connected hc]
  | false =>
    rcases hr : Remote.connect w.settings w.remote.remote with ⟨e | ⟨⟩, remote⟩
    · rw [connect_of_refused hc (Watched.connect_of_error hr)]
      exact ⟨h.configured, h.most, fun hyes => absurd (hc.symm.trans hyes) Bool.noConfusion,
        h.stopped⟩
    · rw [connect_of_reached hc (Watched.connect_of_ok hr)]
      cases w.settings.callback with
      | none => exact ⟨h.configured, Nat.zero_le 1, fun _ => rfl, nofun⟩
      | some callback => exact ⟨h.configured, Nat.le_refl 1, fun _ => rfl, nofun⟩

omit [Remote ρ] in
theorem Disciplined.disconnect (h : w.Disciplined settings) :
    w.disconnect.2.Disciplined settings := by
  cases hc : w.connected with
  | true =>
    rw [disconnect_of_connected hc]
    exact ⟨h.configured, h.most, nofun, fun _ => rfl⟩
  | false => rwa [disconnect_of_not_connected hc]

theorem Disciplined.invoke (h : w.Disciplined settings) (command : String)
    (args : List Argument) : (w.invoke command args).2.Disciplined settings := by
  cases hc : w.connected with
  | false => rwa [invoke_of_not_connected hc]
  | true =>
    cases hresolve : w.resolve command args with
    | error e => rwa [invoke_of_unresolved hc hresolve]
    | ok call =>
      rw [invoke_of_resolved hc hresolve]
      exact ⟨h.configured, h.most, h.started, h.stopped⟩

theorem Disciplined.settle (h : w.Disciplined settings) : w.settle.Disciplined settings := by
  cases hl : w.isListening with
  | false => rwa [settle_of_not_listening hl]
  | true =>
    rw [settle_of_listening hl]
    refine ⟨h.configured, h.most, h.started, fun hc => ?_⟩
    -- Without a connection there is no listener that could get on.
    rw [isListening, h.stopped hc] at hl
    exact absurd hl (by decide)

/-- **Every move keeps the discipline.** -/
theorem Disciplined.perform (h : w.Disciplined settings) (move : Move) :
    (w.perform move).Disciplined settings := by
  cases move with
  | connect => exact h.connect
  | disconnect => exact h.disconnect
  | startListener => exact h.startListener
  | send command args => exact h.invoke command args
  | request command args => exact h.invoke command args
  | settle => exact h.settle

theorem Disciplined.after (h : w.Disciplined settings) (moves : List Move) :
    (w.after moves).Disciplined settings := by
  induction moves generalizing w with
  | nil => exact h
  | cons move moves ih => exact ih (h.perform move)

/-- What starting a listener comes to is decided by the connection and the record. -/
theorem Disciplined.startListener_iff (h : w.Disciplined settings) :
    (w.startListener.1 = .error .notConnected ↔ w.connected = false) ∧
    (w.startListener.1 = .error .listenerRunning ↔
      w.connected = true ∧ listened w.remote.approaches = 1) ∧
    (w.startListener.1 = .ok () ↔
      w.connected = true ∧ listened w.remote.approaches = 0) := by
  cases hc : w.connected with
  | false => simp [startListener_of_not_connected hc]
  | true =>
    rw [h.started hc]
    cases hs : w.listenerStarted with
    | true => simp [startListener_of_started hc hs]
    | false => simp [startListener_of_not_started hc hs]

/-- To start a listener begins one thing with the object if it succeeds, and else nothing. -/
theorem approaches_startListener (w : Rpc (Watched ρ)) :
    w.startListener.2.remote.approaches =
      (if w.startListener.1.isOk then [.listened] else []) ++ w.remote.approaches := by
  cases hc : w.connected with
  | false =>
    rw [startListener_of_not_connected hc]
    rfl
  | true =>
    cases hs : w.listenerStarted with
    | true =>
      rw [startListener_of_started hc hs]
      rfl
    | false =>
      rw [startListener_of_not_started hc hs]
      rfl

/-- What connecting begins with an object that can be reached. -/
theorem Disciplined.connect_of_reached (h : w.Disciplined settings) (hc : w.connected = false)
    {remote : ρ} (hr : Remote.connect settings w.remote.remote = (.ok (), remote)) :
    w.connect.1 = .ok () ∧ w.connect.2.connected = true ∧
      w.connect.2.remote.approaches =
        (if settings.callback.isSome then [.listened, .reached] else [.reached]) ++
          w.remote.approaches := by
  obtain rfl := h.configured
  rw [Rpc.connect_of_reached hc (Watched.connect_of_ok hr)]
  cases w.settings.callback with
  | none => exact ⟨rfl, rfl, rfl⟩
  | some callback => exact ⟨rfl, rfl, rfl⟩

end Discipline

end Rpc

open Rpc

/-- **One listener for each connection**, whatever moves are made, whatever the remote object does
and whenever a listener ends.  At most one was started since the object was last reached.  To start
one fails without a connection, fails if there was one in this connection, ended or not, and else
succeeds; then it listens to the object once, and not at all if it fails.  A connect that reaches the
object succeeds, and starts one exactly if there are settings for callbacks.  A disconnect succeeds,
and without a connection nothing is left of a listener. -/
theorem listener_discipline {ρ : Type} [Remote ρ] (settings : RpcSettings) (remote : ρ)
    (moves : List Move) :
    let r₀ := ofSettings settings remote
    let r := r₀.after moves
    let since := listened (r₀.approaches moves)
    since ≤ 1 ∧
    (r.startListener.1 = .error .notConnected ↔ r.connected = false) ∧
    (r.startListener.1 = .error .listenerRunning ↔ r.connected = true ∧ since = 1) ∧
    (r.startListener.1 = .ok () ↔ r.connected = true ∧ since = 0) ∧
    r₀.approaches (moves ++ [.startListener]) =
      (if r.startListener.1.isOk then [.listened] else []) ++ r₀.approaches moves ∧
    (∀ remote', r.connected = false → Remote.connect settings r.remote = (.ok (), remote') →
      r.connect.1 = .ok () ∧ r.connect.2.connected = true ∧
      r₀.approaches (moves ++ [.connect]) =
        (if settings.callback.isSome then [.listened, .reached] else [.reached]) ++
          r₀.approaches moves) ∧
    (r.disconnect.1 = .ok () ∧ r.disconnect.2.connected = false) ∧
    (r.connected = false → r.listener = none ∧ r.isListening = false) := by
  intro r₀ r since
  have hw : (r₀.watched.after moves).Disciplined settings :=
    (disciplined_watched_ofSettings settings remote).after moves
  have hr : r = (r₀.watched.after moves).unwatched := unwatched_after r₀.watched moves
  have hstart : r.startListener.1 = (r₀.watched.after moves).startListener.1 := by
    rw [hr, unwatched_startListener]
  have hconnected : r.connected = (r₀.watched.after moves).connected := by rw [hr]; rfl
  obtain ⟨hnot, hrunning, hok⟩ := hw.startListener_iff
  rw [hstart, hconnected]
  refine ⟨hw.most, hnot, hrunning, hok, ?_, fun remote' hc hreached => ?_, r.disconnect_succeeds,
    fun hc => ?_⟩
  · rw [approaches, after_append]
    exact approaches_startListener _
  · rw [hr] at hreached
    rw [approaches, after_append, hr, unwatched_connect]
    exact hw.connect_of_reached hc hreached
  · have hstopped : r.listener = none := by
      rw [hr]
      exact hw.stopped hc
    exact ⟨hstopped, by rw [isListening, hstopped]; decide⟩

/-- A listener that ends by itself is not started again before the next connection. -/
theorem listener_discipline_ended :
    let settings := (RpcSettings.plain "localhost" 7700).withCallback .plain
    let remote : ScriptedRemote := ⟨[], [], [], false, false, []⟩
    let r₀ := ofSettings settings remote
    let r := r₀.after [.connect, .settle]
    let r' := r₀.after [.connect, .settle, .disconnect]
    ((r₀.connected = false ∧ Remote.connect settings r₀.remote = (.ok (), remote)) ∧
      r₀.connect.1 = .ok () ∧ r₀.connect.2.connected = true ∧
      r₀.approaches [.connect] = [.listened, .reached]) ∧
    (r.isListening = false ∧ r.connected = true ∧ listened (r₀.approaches [.connect, .settle]) = 1 ∧
      r.startListener.1 = .error .listenerRunning) ∧
    (r'.connected = false ∧ r'.startListener.1 = .error .notConnected ∧ r'.listener = none ∧
      r'.isListening = false) := by
  intro settings remote r₀ r r'
  obtain ⟨-, -, -, -, -, hconnect, -, -⟩ := listener_discipline settings remote []
  obtain ⟨-, -, hrunning, -⟩ := listener_discipline settings remote [.connect, .settle]
  obtain ⟨-, hnot, -, -, -, -, -, hstopped⟩ :=
    listener_discipline settings remote [.connect, .settle, .disconnect]
  exact ⟨⟨⟨rfl, rfl⟩, hconnect remote rfl rfl⟩, ⟨rfl, rfl, rfl, hrunning.2 ⟨rfl, rfl⟩⟩,
    ⟨rfl, hnot.2 rfl, hstopped rfl⟩⟩

end Instrument
