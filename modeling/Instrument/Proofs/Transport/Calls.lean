/-
# Which remote calls are made

A transport of remote calls makes exactly the calls that its commands are due, in their order: one
for each command that was given while it was connected, whose first word is in the table of methods
and whose arguments are as many as the method asks for (`remote_calls`).

What a command is due is said without the transport (`Due`): by the first word of the text, found
between blanks (`IsFirstWord`), by the table, and by the values of the arguments in their places.  What
is called is recorded at the other end, by an object with a list of its calls (`Recorded`), which the
transport does not notice (`Rpc.after_through`).  One move is related to what it is due, and a run to its
moves by induction (`CallsOf`).
-/
import Instrument.Proofs.Outcome
import Instrument.Proofs.Text.Blank
import Instrument.Proofs.Transport.Remote
import Instrument.Transport.Script
import Mathlib.Data.List.TakeWhile

namespace Instrument

/-! ## First words -/

/-- `word` is the first word of a text: blanks, a run without any, and what is behind its end.  Only a
text of nothing but blanks has the empty one. -/
inductive IsFirstWord : List Char → List Char → Prop
  | word {blanks word rest : List Char} : (∀ c ∈ blanks, Text.isBlank c = true) →
      (∀ c ∈ word, Text.isBlank c = false) → (∀ c ∈ rest.head?, Text.isBlank c = true) →
      word ≠ [] → IsFirstWord (blanks ++ word ++ rest) word
  | none {blanks : List Char} : (∀ c ∈ blanks, Text.isBlank c = true) → IsFirstWord blanks []

namespace Text

theorem isBlank_head?_dropWhile (cs : List Char) :
    ∀ c ∈ (cs.dropWhile (!isBlank ·)).head?, isBlank c = true := by
  intro c hc
  have h := List.head?_dropWhile_not (!isBlank ·) cs
  rw [Option.mem_def.1 hc] at h
  simpa using h

theorem takeWhile_of_isBlank_head? {rest : List Char} (h : ∀ c ∈ rest.head?, isBlank c = true) :
    rest.takeWhile (!isBlank ·) = [] := by
  cases rest with
  | nil => rfl
  | cons c rest => simp [h c rfl]

theorem firstWord_of_isBlank {text : List Char} (h : ∀ c ∈ text, isBlank c = true) :
    firstWord text = [] := by
  rw [firstWord, trimStart_eq_nil h]
  rfl

theorem firstWord_ne_nil {text : List Char} (h : IsSolid text) : firstWord text ≠ [] := by
  obtain ⟨c, rest, hstart, hc⟩ := exists_trimStart h
  simp [firstWord, hstart, hc]

/-- The first word of a text, with what stands around it. -/
theorem firstWord_split (text : List Char) :
    text.takeWhile isBlank ++ firstWord text ++ (trimStart text).dropWhile (!isBlank ·) = text := by
  rw [List.append_assoc, firstWord, List.takeWhile_append_dropWhile, trimStart,
    List.takeWhile_append_dropWhile]

theorem isFirstWord_firstWord (text : List Char) : IsFirstWord text (firstWord text) := by
  rcases isSolid_or_isBlank text with hsolid | hblank
  · have hblanks : ∀ c ∈ text.takeWhile isBlank, isBlank c = true :=
      fun c hc => List.mem_takeWhile_imp hc
    have hword : ∀ c ∈ firstWord text, isBlank c = false :=
      fun c hc => by simpa using List.mem_takeWhile_imp hc
    have h := IsFirstWord.word hblanks hword (isBlank_head?_dropWhile (trimStart text))
      (firstWord_ne_nil hsolid)
    rwa [firstWord_split] at h
  · rw [firstWord_of_isBlank hblank]
    exact .none hblank

/-- **The first word of a text** is the one that is found. -/
theorem firstWord_eq_iff {text word : List Char} :
    firstWord text = word ↔ IsFirstWord text word := by
  refine ⟨fun h => h ▸ isFirstWord_firstWord text, fun h => ?_⟩
  cases h with
  | none hblanks => exact firstWord_of_isBlank hblanks
  | @word blanks _ rest hblanks hsolid hrest hne =>
    obtain ⟨c, cs, rfl⟩ := List.exists_cons_of_ne_nil hne
    have hstart : trimStart (blanks ++ (c :: cs) ++ rest) = c :: cs ++ rest := by
      rw [List.append_assoc, trimStart_of_isBlank hblanks]
      exact List.dropWhile_cons_of_neg (by simp [hsolid c List.mem_cons_self])
    rw [firstWord, hstart, List.takeWhile_append_of_pos (fun d hd => by simp [hsolid d hd]),
      takeWhile_of_isBlank_head? hrest, List.append_nil]

end Text

/-! ## Calls that are due -/

/-- A call of a method of a remote object. -/
structure RemoteCall where
  method : String
  args : List Json

/-- The call that a command is due by the settings: its first word is in the table of methods, and it
has as many arguments as the method asks for, if it asks for any number.  The method is called by its
name, or by the word if it has none, with the values of the arguments in their places. -/
inductive Due (settings : RpcSettings) (command : String) (args : List Argument) : RemoteCall → Prop
  | intro {word : String} {m : RpcMethod} : IsFirstWord command.toList word.toList →
      settings.methods.lookup word = some m → (∀ n ∈ m.arity, args.length = n.toNat) →
      Due settings command args ⟨m.remote.getD word, args.map fun a => a.value.toArgument⟩

/-- A request says of the result of its call: a text is a reply to be read, and all else is a value. -/
inductive RepliesTo : Except TransportFault Json → Except TransportFault RawReply → Prop
  | failed (e : TransportFault) : RepliesTo (.error e) (.error e)
  | text (s : String) : RepliesTo (.ok (.text s)) (.ok (.text s))
  | value {j : Json} : (∀ s, j ≠ .text s) → RepliesTo (.ok j) (.ok (.value j))

theorem repliesTo_map (result : Except TransportFault Json) :
    RepliesTo result (result.map Rpc.replyOf) := by
  rcases result with e | j
  · exact .failed e
  · cases j with
    | text s => exact .text s
    | _ => exact .value nofun

namespace Rpc

section Resolve

variable {ρ : Type} {r : Rpc ρ} {command word : String} {args : List Argument}

theorem commandWord_eq_iff :
    commandWord command = word ↔ IsFirstWord command.toList word.toList := by
  rw [← Text.firstWord_eq_iff, commandWord, ← String.toList_inj, String.toList_ofList]

theorem resolve_of_unknown (hword : IsFirstWord command.toList word.toList)
    (hm : r.settings.methods.lookup word = none) :
    r.resolve command args = .error (.unknownMethod word) := by
  obtain rfl := commandWord_eq_iff.2 hword
  simp only [resolve, hm]

/-- What a command with another number of arguments is answered. -/
def arityMessage (word : String) (expected given : Nat) : String :=
  word ++ " takes " ++ toString expected ++ " arguments, " ++ toString given ++ " given"

theorem resolve_of_arity (hword : IsFirstWord command.toList word.toList) {m : RpcMethod}
    {n : UInt64} (hm : r.settings.methods.lookup word = some m) (hn : m.arity = some n)
    (hargs : args.length ≠ n.toNat) :
    r.resolve command args = .error (.rpc (arityMessage word n.toNat args.length)) := by
  obtain rfl := commandWord_eq_iff.2 hword
  simp [resolve, hm, hn, Ne.symm hargs, arityMessage]

/-- **A command comes to the call that it is due.** -/
theorem resolve_eq_ok_iff {method : String} {values : List Json} :
    r.resolve command args = .ok (method, values) ↔
      Due r.settings command args ⟨method, values⟩ := by
  constructor
  · intro h
    simp only [resolve] at h
    split at h
    · cases h
    · rename_i m hm
      split at h
      · rename_i hargs
        cases h
        refine .intro (commandWord_eq_iff.1 rfl) hm fun n hn => ?_
        rw [Option.mem_def.1 hn] at hargs
        simpa using (of_decide_eq_true hargs).symm
      · cases h
  · rintro ⟨hword, hm, hargs⟩
    obtain rfl := commandWord_eq_iff.2 hword
    have hall : Option.all (fun n => decide (n.toNat = args.length)) ‹RpcMethod›.arity = true := by
      simpa [Option.all_eq_true] using fun n hn => (hargs n hn).symm
    simp only [resolve, hm, hall, if_true]

end Resolve

end Rpc

/-! ## Calls that are made -/

/-- A remote object and the calls that were made of it so far, in order. -/
structure Recorded (ρ : Type) where
  remote : ρ
  calls : List RemoteCall

instance {ρ : Type} [Remote ρ] : Remote (Recorded ρ) where
  connect settings o :=
    let (r, remote) := Remote.connect settings o.remote
    (r, ⟨remote, o.calls⟩)
  call method args o :=
    let (r, remote) := Remote.call method args o.remote
    (r, ⟨remote, o.calls ++ [⟨method, args⟩]⟩)
  listen identity method o := ⟨Remote.listen identity method o.remote, o.calls⟩
  poll o :=
    let (r, remote) := Remote.poll o.remote
    (r, ⟨remote, o.calls⟩)

theorem Recorded.remoteView {ρ : Type} [Remote ρ] : RemoteView (Recorded.remote (ρ := ρ)) :=
  ⟨fun _ _ => rfl, fun _ _ _ => rfl, fun _ _ _ => rfl, fun _ => rfl⟩

namespace Rpc

/-- The command and the arguments that a move gives. -/
def Move.given? : Move → Option (String × List Argument)
  | .send command args => some (command, args)
  | .request command args => some (command, args)
  | _ => none

section Calls

variable {ρ : Type} [Remote ρ] {settings : RpcSettings}

/-- The calls that one move is due: that of its command, if it gives a command that is due one and the
transport is connected, and else none. -/
inductive CallOf (settings : RpcSettings) (r : Rpc ρ) (move : Move) : List RemoteCall → Prop
  | made {command : String} {args : List Argument} {call : RemoteCall} : r.connected = true →
      move.given? = some (command, args) → Due settings command args call →
      CallOf settings r move [call]
  | none : (r.connected = true → ∀ command args call, move.given? = some (command, args) →
      ¬ Due settings command args call) → CallOf settings r move []

/-- The calls that moves are due, one after the other, from a transport on. -/
inductive CallsOf (settings : RpcSettings) : Rpc ρ → List Move → List RemoteCall → Prop
  | nil {r : Rpc ρ} : CallsOf settings r [] []
  | cons {r : Rpc ρ} {move : Move} {moves : List Move} {made calls : List RemoteCall} :
      CallOf settings r move made → CallsOf settings (r.perform move) moves calls →
      CallsOf settings r (move :: moves) (made ++ calls)

/-- The transport over the recorded object, of which no call was made yet. -/
def recorded (r : Rpc ρ) : Rpc (Recorded ρ) :=
  ⟨r.settings, ⟨r.remote, []⟩, r.connected, r.listener, r.listenerStarted, r.notifications⟩

/-- The calls that are made of the remote object by moves, in order. -/
def calls (r : Rpc ρ) (moves : List Move) : List RemoteCall :=
  (r.recorded.after moves).remote.calls

/-! ### One move -/

theorem settings_connect (r : Rpc ρ) : r.connect.2.settings = r.settings := by
  cases hc : r.connected with
  | true => rw [connect_of_connected hc]
  | false =>
    rcases hr : Remote.connect r.settings r.remote with ⟨e | ⟨⟩, remote⟩
    · rw [connect_of_refused hc hr]
    · rw [connect_of_reached hc hr]
      cases r.settings.callback <;> rfl

theorem settings_startListener (r : Rpc ρ) : r.startListener.2.settings = r.settings := by
  cases hc : r.connected with
  | false => rw [startListener_of_not_connected hc]
  | true =>
    cases hs : r.listenerStarted with
    | true => rw [startListener_of_started hc hs]
    | false => rw [startListener_of_not_started hc hs]

theorem settings_invoke (r : Rpc ρ) (command : String) (args : List Argument) :
    (r.invoke command args).2.settings = r.settings := by
  cases hc : r.connected with
  | false => rw [invoke_of_not_connected hc]
  | true =>
    cases hresolve : r.resolve command args with
    | error e => rw [invoke_of_unresolved hc hresolve]
    | ok call => rw [invoke_of_resolved hc hresolve]

/-- No move changes the settings. -/
theorem settings_perform (r : Rpc ρ) (move : Move) : (r.perform move).settings = r.settings := by
  cases move with
  | connect => exact settings_connect r
  | disconnect =>
    show r.disconnect.2.settings = _
    cases hc : r.connected with
    | true => rw [disconnect_of_connected hc]
    | false => rw [disconnect_of_not_connected hc]
  | startListener => exact settings_startListener r
  | send command args => exact settings_invoke r command args
  | request command args => exact settings_invoke r command args
  | settle =>
    show r.settle.settings = _
    cases hl : r.isListening with
    | true => rw [settle_of_listening hl]
    | false => rw [settle_of_not_listening hl]

theorem calls_connect (w : Rpc (Recorded ρ)) :
    w.connect.2.remote.calls = w.remote.calls := by
  cases hc : w.connected with
  | true => rw [connect_of_connected hc]
  | false =>
    have hcalls : (Remote.connect w.settings w.remote).2.calls = w.remote.calls := rfl
    rcases hr : Remote.connect w.settings w.remote with ⟨e | ⟨⟩, remote⟩
    · rw [hr] at hcalls
      rw [connect_of_refused hc hr]
      exact hcalls
    · rw [hr] at hcalls
      rw [connect_of_reached hc hr]
      cases w.settings.callback <;> exact hcalls

omit [Remote ρ] in
theorem calls_disconnect (w : Rpc (Recorded ρ)) :
    w.disconnect.2.remote.calls = w.remote.calls := by
  cases hc : w.connected with
  | true => rw [disconnect_of_connected hc]
  | false => rw [disconnect_of_not_connected hc]

theorem calls_startListener (w : Rpc (Recorded ρ)) :
    w.startListener.2.remote.calls = w.remote.calls := by
  cases hc : w.connected with
  | false => rw [startListener_of_not_connected hc]
  | true =>
    cases hs : w.listenerStarted with
    | true => rw [startListener_of_started hc hs]
    | false =>
      rw [startListener_of_not_started hc hs]
      rfl

theorem calls_settle (w : Rpc (Recorded ρ)) : w.settle.remote.calls = w.remote.calls := by
  cases hl : w.isListening with
  | true =>
    rw [settle_of_listening hl]
    rfl
  | false => rw [settle_of_not_listening hl]

/-- A command makes the call that it is due. -/
theorem exists_callOf_invoke {w : Rpc (Recorded ρ)} {move : Move} {command : String}
    {args : List Argument} (hgiven : move.given? = some (command, args)) :
    ∃ made, (w.invoke command args).2.remote.calls = w.remote.calls ++ made ∧
      CallOf w.settings (w.through Recorded.remote) move made := by
  cases hc : w.connected with
  | false =>
    rw [invoke_of_not_connected hc]
    exact ⟨[], (List.append_nil _).symm, .none fun hyes => absurd (hc.symm.trans hyes) nofun⟩
  | true =>
    cases hresolve : w.resolve command args with
    | error e =>
      rw [invoke_of_unresolved hc hresolve]
      refine ⟨[], (List.append_nil _).symm, .none fun _ command' args' call hgiven' hdue => ?_⟩
      cases hgiven.symm.trans hgiven'
      rw [resolve_eq_ok_iff.2 hdue] at hresolve
      cases hresolve
    | ok call =>
      rw [invoke_of_resolved hc hresolve]
      exact ⟨[⟨call.1, call.2⟩], rfl, .made hc hgiven (resolve_eq_ok_iff.1 hresolve)⟩

/-- **What a move adds to the record** is the call that it is due. -/
theorem exists_callOf (w : Rpc (Recorded ρ)) (move : Move) :
    ∃ made, (w.perform move).remote.calls = w.remote.calls ++ made ∧
      CallOf w.settings (w.through Recorded.remote) move made := by
  have hnone : move.given? = none → (w.perform move).remote.calls = w.remote.calls →
      ∃ made, (w.perform move).remote.calls = w.remote.calls ++ made ∧
        CallOf w.settings (w.through Recorded.remote) move made := by
    intro hgiven hcalls
    refine ⟨[], hcalls.trans (List.append_nil _).symm, .none fun _ command args call hgiven' => ?_⟩
    cases hgiven.symm.trans hgiven'
  cases move with
  | connect => exact hnone rfl (calls_connect w)
  | disconnect => exact hnone rfl (calls_disconnect w)
  | startListener => exact hnone rfl (calls_startListener w)
  | send command args => exact exists_callOf_invoke rfl
  | request command args => exact exists_callOf_invoke rfl
  | settle => exact hnone rfl (calls_settle w)

/-! ### Runs -/

/-- **What moves add to the record** are the calls that they are due, in order. -/
theorem exists_callsOf (w : Rpc (Recorded ρ)) (moves : List Move) :
    ∃ calls, (w.after moves).remote.calls = w.remote.calls ++ calls ∧
      CallsOf w.settings (w.through Recorded.remote) moves calls := by
  induction moves generalizing w with
  | nil => exact ⟨[], (List.append_nil _).symm, .nil⟩
  | cons move moves ih =>
    obtain ⟨made, hmade, hof⟩ := exists_callOf w move
    obtain ⟨calls, hcalls, hofs⟩ := ih (w.perform move)
    rw [settings_perform, ← perform_through w Recorded.remoteView] at hofs
    refine ⟨made ++ calls, ?_, .cons hof hofs⟩
    calc (w.after (move :: moves)).remote.calls
        = (w.perform move).remote.calls ++ calls := hcalls
      _ = w.remote.calls ++ (made ++ calls) := by rw [hmade, List.append_assoc]

theorem callsOf_calls (r : Rpc ρ) (moves : List Move) :
    CallsOf r.settings r moves (r.calls moves) := by
  obtain ⟨calls, hcalls, hof⟩ := exists_callsOf r.recorded moves
  rw [Rpc.calls, hcalls]
  exact hof

theorem settings_after (r : Rpc ρ) (moves : List Move) : (r.after moves).settings = r.settings := by
  induction moves generalizing r with
  | nil => rfl
  | cons move moves ih => exact (ih (r.perform move)).trans (settings_perform r move)

/-! ## What commands come to -/

/-- A command that fails before any call: both ways of sending it say why, and leave the transport as
it was. -/
def Refused (r : Rpc ρ) (command : String) (args : List Argument) (e : TransportFault) : Prop :=
  r.send command args = (.error e, r) ∧ r.request command args = (.error e, r)

theorem refused_of_invoke {r : Rpc ρ} {command : String} {args : List Argument} {e : TransportFault}
    (h : r.invoke command args = (.error e, r)) : r.Refused command args e := by
  constructor
  · rw [send, h]
    rfl
  · rw [request, h]
    rfl

end Calls

end Rpc

open Rpc

/-- **Remote calls are exactly those that commands are due**, whatever moves are made and whatever the
remote object does: the calls that it sees are, in order, one for each command that is due one and
given while the transport is connected.  Without a connection, for a word that is not in the table and
with another number of arguments than its method asks for, a command says so and leaves everything as
it was.  Else it is the result of its call that counts: to send a command is to wait for it, and to
request is to take it for the reply. -/
theorem remote_calls {ρ : Type} [Remote ρ] (settings : RpcSettings) (remote : ρ)
    (moves : List Move) :
    let r₀ := ofSettings settings remote
    let r := r₀.after moves
    CallsOf settings r₀ moves (r₀.calls moves) ∧
    ∀ command args,
      (r.connected = false → r.Refused command args .notConnected) ∧
      (r.connected = true → ∀ word, IsFirstWord command.toList word.toList →
        (settings.methods.lookup word = none → r.Refused command args (.unknownMethod word)) ∧
        ∀ m n, settings.methods.lookup word = some m → m.arity = some n →
          args.length ≠ n.toNat →
          r.Refused command args (.rpc (word ++ " takes " ++ toString n.toNat ++ " arguments, " ++
            toString args.length ++ " given"))) ∧
      (r.connected = true → ∀ call, Due settings command args call →
        let result := (Remote.call call.method call.args r.remote).1
        (r.send command args).1 = (result.map fun _ => ()) ∧
        RepliesTo result (r.request command args).1) := by
  intro r₀ r
  have hsettings : r.settings = settings := settings_after r₀ moves
  refine ⟨callsOf_calls r₀ moves, fun command args => ⟨fun hc => ?_, fun hc word hword => ?_,
    fun hc call hdue => ?_⟩⟩
  · exact refused_of_invoke (invoke_of_not_connected hc command args)
  · rw [← hsettings]
    exact ⟨fun hm => refused_of_invoke (invoke_of_unresolved hc (resolve_of_unknown hword hm)),
      fun m n hm hn hargs =>
        refused_of_invoke (invoke_of_unresolved hc (resolve_of_arity hword hm hn hargs))⟩
  · rw [← hsettings] at hdue
    have hinvoke := invoke_of_resolved hc (resolve_eq_ok_iff.2 hdue)
    rw [send, request, hinvoke]
    exact ⟨rfl, repliesTo_map _⟩

/-- Remote calls to a lamp: its level is set by a method of another name. -/
def Lamp.remote : RpcSettings :=
  { RpcSettings.plain "localhost" 7700 with
    methods := [("dim", ⟨some "setLevel", some 1⟩), ("level", ⟨none, none⟩)] }

/-- Commands without a connection, for no method, without an argument that is asked for, and two that
are due their calls. -/
theorem remote_calls_lamp :
    let remote : ScriptedRemote := ⟨[], [.ok (.text "40")], [], true, false, []⟩
    let r₀ := ofSettings Lamp.remote remote
    let r := r₀.after [.connect]
    let forty : Argument := ⟨.byte 40, "40"⟩
    let moves : List Move := [.send "level" [], .connect, .send "blink" [], .send " dim 40" [forty],
      .request "dim" [], .request "level\n" []]
    (CallsOf Lamp.remote r₀ moves (r₀.calls moves) ∧
      r₀.calls moves = [⟨"setLevel", [.integer 40]⟩, ⟨"level", []⟩]) ∧
    (r₀.connected = false ∧ r₀.Refused "level" [] .notConnected) ∧
    r.connected = true ∧
    (IsFirstWord "blink".toList "blink".toList ∧ Lamp.remote.methods.lookup "blink" = none ∧
      r.Refused "blink" [] (.unknownMethod "blink")) ∧
    (IsFirstWord "dim".toList "dim".toList ∧
      Lamp.remote.methods.lookup "dim" = some ⟨some "setLevel", some 1⟩ ∧
      r.Refused "dim" [] (.rpc "dim takes 1 arguments, 0 given")) ∧
    (Due Lamp.remote "level\n" [] ⟨"level", []⟩ ∧
      RepliesTo (.ok (.text "40")) (r.request "level\n" []).1) := by
  intro remote r₀ r forty moves
  have hblink : IsFirstWord "blink".toList "blink".toList := Text.firstWord_eq_iff.1 (by decide)
  have hdim : IsFirstWord "dim".toList "dim".toList := Text.firstWord_eq_iff.1 (by decide)
  have hlevel : IsFirstWord "level\n".toList "level".toList := Text.firstWord_eq_iff.1 (by decide)
  have hdue : Due Lamp.remote "level\n" [] ⟨"level", []⟩ :=
    .intro (m := ⟨none, none⟩) hlevel rfl nofun
  obtain ⟨hcalls, -⟩ := remote_calls Lamp.remote remote moves
  obtain ⟨-, hstart⟩ := remote_calls Lamp.remote remote []
  obtain ⟨-, hconnected⟩ := remote_calls Lamp.remote remote [.connect]
  have hc : r.connected = true := rfl
  obtain ⟨-, hunknown, -⟩ := hconnected "blink" []
  obtain ⟨-, harity, -⟩ := hconnected "dim" []
  obtain ⟨-, -, hreply⟩ := hconnected "level\n" []
  exact ⟨⟨hcalls, rfl⟩, ⟨rfl, (hstart "level" []).1 rfl⟩, hc,
    ⟨hblink, rfl, (hunknown hc "blink" hblink).1 rfl⟩,
    ⟨hdim, rfl, (harity hc "dim" hdim).2 _ 1 rfl rfl (by decide)⟩,
    ⟨hdue, (hreply hc _ hdue).2⟩⟩

end Instrument
