/-
# Remote calls, operation by operation

What each operation of a transport of remote calls comes to, by the cases in which it does it, and
what any sequence of them leaves (`Rpc.after`).

A transport knows its remote object by the operations of `Remote` alone.  So a record may be kept
beside the object of what is asked of it: the object without the record is a view of the object with
it (`RemoteView`), and the transport over the one does what the transport over the other does
(`Rpc.after_through`).
-/
import Instrument.Transport.Rpc

namespace Instrument

/-- A remote object that can be seen as one of another type: each operation answers the same on both,
and leaves them so. -/
structure RemoteView {ρ ρ' : Type} [Remote ρ] [Remote ρ'] (view : ρ' → ρ) : Prop where
  connect (settings : RpcSettings) (o : ρ') : Remote.connect settings (view o) =
    ((Remote.connect settings o).1, view (Remote.connect settings o).2)
  call (method : String) (args : List Json) (o : ρ') : Remote.call method args (view o) =
    ((Remote.call method args o).1, view (Remote.call method args o).2)
  listen (identity : Option String) (method : String) (o : ρ') :
    Remote.listen identity method (view o) = view (Remote.listen identity method o)
  poll (o : ρ') : Remote.poll (view o) = ((Remote.poll o).1, view (Remote.poll o).2)

namespace Rpc

variable {ρ : Type}

/-! ## Moves -/

/-- What happens to a transport of remote calls.  All but the last is asked of it; the last is the
listener getting on by itself, which it may do at any time, and end. -/
inductive Move
  | connect
  | disconnect
  | startListener
  | send (command : String) (args : List Argument)
  | request (command : String) (args : List Argument)
  | settle

section Perform

variable [Remote ρ]

/-- The transport after a move. -/
def perform (r : Rpc ρ) : Move → Rpc ρ
  | .connect => r.connect.2
  | .disconnect => r.disconnect.2
  | .startListener => r.startListener.2
  | .send command args => (r.send command args).2
  | .request command args => (r.request command args).2
  | .settle => r.settle

/-- The transport after moves. -/
def after (r : Rpc ρ) (moves : List Move) : Rpc ρ := moves.foldl perform r

theorem after_append (r : Rpc ρ) (moves : List Move) (move : Move) :
    r.after (moves ++ [move]) = (r.after moves).perform move := by
  simp [after]

end Perform

/-! ## What each operation comes to -/

section Operation

variable {r : Rpc ρ}

theorem disconnect_of_connected (h : r.connected = true) :
    r.disconnect = (.ok (), { r with connected := false, listener := none }) := by
  simp [disconnect, h]

theorem disconnect_of_not_connected (h : r.connected = false) : r.disconnect = (.ok (), r) := by
  simp [disconnect, h]

/-- A disconnect cannot fail. -/
theorem disconnect_succeeds (r : Rpc ρ) :
    r.disconnect.1 = .ok () ∧ r.disconnect.2.connected = false := by
  cases h : r.connected with
  | true =>
    rw [disconnect_of_connected h]
    exact ⟨rfl, rfl⟩
  | false =>
    rw [disconnect_of_not_connected h]
    exact ⟨rfl, h⟩

variable [Remote ρ]

theorem startListener_of_not_connected (h : r.connected = false) :
    r.startListener = (.error .notConnected, r) := by
  simp [startListener, h]

theorem startListener_of_started (h : r.connected = true) (hs : r.listenerStarted = true) :
    r.startListener = (.error .listenerRunning, r) := by
  simp [startListener, h, hs]

/-- Without settings for callbacks the listener is a plain one. -/
theorem startListener_of_not_started (h : r.connected = true) (hs : r.listenerStarted = false) :
    r.startListener = (.ok (), { r with
      remote := Remote.listen (r.settings.callback.getD .plain).identity
        (r.settings.callback.getD .plain).registerMethod r.remote
      listener := some true
      listenerStarted := true }) := by
  simp [startListener, h, hs]

theorem connect_of_connected (h : r.connected = true) : r.connect = (.ok (), r) := by
  simp [connect, h]

theorem connect_of_refused {e : TransportFault} {remote : ρ} (h : r.connected = false)
    (hr : Remote.connect r.settings r.remote = (.error e, remote)) :
    r.connect = (.error e, { r with remote }) := by
  simp [connect, h, hr]

/-- The transport holds the object before it starts the listener, but that cannot fail. -/
theorem connect_of_reached {remote : ρ} (h : r.connected = false)
    (hr : Remote.connect r.settings r.remote = (.ok (), remote)) :
    r.connect = (.ok (), match r.settings.callback with
      | none => { r with remote, connected := true, listenerStarted := false }
      | some callback => { r with
          remote := Remote.listen callback.identity callback.registerMethod remote
          connected := true
          listener := some true
          listenerStarted := true }) := by
  cases hcallback : r.settings.callback <;> simp [connect, startListener, h, hr, hcallback]

theorem invoke_of_not_connected (h : r.connected = false) (command : String)
    (args : List Argument) : r.invoke command args = (.error .notConnected, r) := by
  simp [invoke, h]

theorem invoke_of_unresolved (h : r.connected = true) {command : String} {args : List Argument}
    {e : TransportFault} (hresolve : r.resolve command args = .error e) :
    r.invoke command args = (.error e, r) := by
  simp [invoke, h, hresolve]

theorem invoke_of_resolved (h : r.connected = true) {command method : String}
    {args : List Argument} {values : List Json}
    (hresolve : r.resolve command args = .ok (method, values)) :
    r.invoke command args = ((Remote.call method values r.remote).1,
      { r with remote := (Remote.call method values r.remote).2 }) := by
  simp [invoke, h, hresolve]

theorem settle_of_not_listening (h : r.isListening = false) : r.settle = r := by
  simp [settle, h]

theorem settle_of_listening (h : r.isListening = true) :
    r.settle = { r with
      remote := (Remote.poll r.remote).2
      listener := some (Remote.poll r.remote).1.2
      notifications := r.notifications.publishAll (Remote.poll r.remote).1.1 } := by
  simp [settle, h]

end Operation

/-! ## Objects seen as others -/

section Views

variable {ρ' : Type} {view : ρ' → ρ} (w : Rpc ρ')

/-- The transport over the object as it is seen. -/
def through (view : ρ' → ρ) (w : Rpc ρ') : Rpc ρ :=
  ⟨w.settings, view w.remote, w.connected, w.listener, w.listenerStarted, w.notifications⟩

theorem disconnect_through :
    (w.through view).disconnect = (w.disconnect.1, w.disconnect.2.through view) := by
  cases h : w.connected with
  | true =>
    rw [disconnect_of_connected h, disconnect_of_connected (r := w.through view) h]
    rfl
  | false =>
    rw [disconnect_of_not_connected h, disconnect_of_not_connected (r := w.through view) h]

variable [Remote ρ] [Remote ρ'] (hview : RemoteView view)

include hview

theorem startListener_through :
    (w.through view).startListener = (w.startListener.1, w.startListener.2.through view) := by
  cases h : w.connected with
  | false =>
    rw [startListener_of_not_connected h, startListener_of_not_connected (r := w.through view) h]
  | true =>
    cases hs : w.listenerStarted with
    | true =>
      rw [startListener_of_started h hs, startListener_of_started (r := w.through view) h hs]
    | false =>
      rw [startListener_of_not_started h hs, startListener_of_not_started (r := w.through view) h hs]
      simp only [through, hview.listen]

theorem connect_through : (w.through view).connect = (w.connect.1, w.connect.2.through view) := by
  cases h : w.connected with
  | true => rw [connect_of_connected h, connect_of_connected (r := w.through view) h]
  | false =>
    rcases hr : Remote.connect w.settings w.remote with ⟨e | ⟨⟩, remote⟩
    · have hremote : Remote.connect w.settings (view w.remote) = (.error e, view remote) := by
        rw [hview.connect, hr]
      rw [connect_of_refused h hr, connect_of_refused (r := w.through view) h hremote]
      rfl
    · have hremote : Remote.connect w.settings (view w.remote) = (.ok (), view remote) := by
        rw [hview.connect, hr]
      rw [connect_of_reached h hr, connect_of_reached (r := w.through view) h hremote]
      cases hcallback : w.settings.callback <;> simp only [through, hcallback, hview.listen]

theorem invoke_through (command : String) (args : List Argument) :
    (w.through view).invoke command args =
      ((w.invoke command args).1, (w.invoke command args).2.through view) := by
  cases h : w.connected with
  | false => rw [invoke_of_not_connected h, invoke_of_not_connected (r := w.through view) h]
  | true =>
    cases hresolve : w.resolve command args with
    | error e =>
      rw [invoke_of_unresolved h hresolve, invoke_of_unresolved (r := w.through view) h hresolve]
    | ok call =>
      rw [invoke_of_resolved h hresolve, invoke_of_resolved (r := w.through view) h hresolve]
      simp only [through, hview.call]

theorem settle_through : (w.through view).settle = w.settle.through view := by
  cases h : w.isListening with
  | false => rw [settle_of_not_listening h, settle_of_not_listening (r := w.through view) h]
  | true =>
    rw [settle_of_listening h, settle_of_listening (r := w.through view) h]
    simp only [through, hview.poll]

theorem perform_through (move : Move) :
    (w.through view).perform move = (w.perform move).through view := by
  cases move with
  | connect => exact congrArg Prod.snd (connect_through w hview)
  | disconnect => exact congrArg Prod.snd w.disconnect_through
  | startListener => exact congrArg Prod.snd (startListener_through w hview)
  | send command args => exact congrArg Prod.snd (invoke_through w hview command args)
  | request command args => exact congrArg Prod.snd (invoke_through w hview command args)
  | settle => exact settle_through w hview

/-- **The transport does not notice what is kept beside its object.** -/
theorem after_through (moves : List Move) :
    (w.through view).after moves = (w.after moves).through view := by
  induction moves generalizing w with
  | nil => rfl
  | cons move moves ih =>
    show ((w.through view).perform move).after moves = _
    rw [perform_through w hview, ih]
    rfl

end Views

end Rpc

end Instrument
