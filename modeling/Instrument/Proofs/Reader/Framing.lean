/-
# Framing

What a reader returns, read after read, is the stream of octets that it was sent, cut at the
terminators or into blocks: nothing is lost, sent twice or moved (`framing`).

A reader works in steps: it strips, looks for an end, waits for more and starts over, and what it
holds past the end begins the next read.  None of this is in the statement.  The link is an account
of one read: `taken` are the octets that it took from the line, and what it says of the reply is
what `complete?` says of the octets held before and those taken, together (`Accounts`).  Successive
reads (`Receives`) chain these accounts, each starting with what the one before left pending.
-/
import Instrument.Proofs.Outcome
import Instrument.Proofs.Reader.Ending

namespace Instrument

/-- The octets that are still to come on a line. -/
def Line.octets (l : Line) : List UInt8 :=
  l.flatMap fun
    | .data octets => octets
    | _ => []

theorem Line.octets_data (x : List UInt8) (l : Line) :
    Line.octets (.data x :: l) = x ++ Line.octets l := rfl

namespace Reader

/-! ## The account of a read -/

/-- What the outcome of a read says of the octets held before and those taken from the line. -/
structure Outcome.Accounts (o : Outcome) (s : ReadStrategy) (held : List UInt8) (l : Line)
    (taken : List UInt8) : Prop where
  line : l.octets = taken ++ o.line.octets
  ok : ∀ reply, o.reply = .ok reply → complete? s (held ++ taken) = some (reply, o.pending)
  error : ∀ e, o.reply = .error e → complete? s (held ++ taken) = none

/-- A read that ends without a reply takes nothing more. -/
theorem accounts_of_error {s : ReadStrategy} {octets pending : List UInt8} {fault : TransportFault}
    {l l' : Line} {elapsed : Nat} {reply : Except TransportFault (List UInt8)}
    (hnone : complete? s octets = none) (hl : l.octets = l'.octets)
    (hreply : reply = .error fault) :
    (Outcome.mk reply pending l' elapsed).Accounts s octets l [] := by
  subst hreply
  refine ⟨hl, fun reply h => ?_, fun e _ => ?_⟩
  · cases h
  · rwa [List.append_nil]

section Read

variable {r : Reader} (hs : r.strategy ≠ .untilQuiet) (endpoint : String)

include hs

theorem stop_eq_error (octets : List UInt8) (fault : TransportFault) :
    r.stop endpoint octets fault = .error fault := by
  unfold stop
  split
  · rename_i h
    exact absurd h hs
  · rfl

theorem exists_await_accounts {octets : List UInt8} (hnone : complete? r.strategy octets = none)
    (left patient : Nat) (l : Line) :
    ∃ taken, (r.await endpoint octets left patient l).Accounts r.strategy octets l taken := by
  -- While the reader waits there is no whole reply in what it holds: `hnone` is the invariant.
  induction l generalizing octets left patient with
  | nil => exact ⟨[], accounts_of_error hnone rfl (stop_eq_error hs endpoint _ _)⟩
  | cons e rest ih =>
    cases e with
    | data more =>
      simp only [await]
      split
      · rename_i reply pending hfound
        refine ⟨more, rfl, fun reply' h => ?_, fun e h => ?_⟩
        · cases h
          exact hfound
        · cases h
      · rename_i hmore
        obtain ⟨taken, hline, hok, herror⟩ := ih hmore left _
        refine ⟨more ++ taken, ?_, fun reply h => ?_, fun e h => ?_⟩
        · rw [Line.octets_data, hline, List.append_assoc]
        · rw [← List.append_assoc]
          exact hok reply h
        · rw [← List.append_assoc]
          exact herror e h
    | wait d =>
      simp only [await]
      split
      · obtain ⟨taken, hline, hok, herror⟩ := ih hnone (left - d) (patient - d)
        exact ⟨taken, hline, hok, herror⟩
      · have hwait : Line.octets (.wait d :: rest) =
            Line.octets (.wait (d - patient) :: rest) := rfl
        exact ⟨[], accounts_of_error hnone hwait (stop_eq_error hs endpoint _ _)⟩
    | close => exact ⟨[], accounts_of_error hnone rfl (stop_eq_error hs endpoint _ _)⟩
    | fail f =>
      have hfail : Line.octets (.fail f :: rest) = Line.octets rest := rfl
      exact ⟨[], accounts_of_error hnone hfail rfl⟩

/-- **Every read has an account.** -/
theorem exists_accounts (l : Line) :
    ∃ taken, (r.readOctets endpoint l).Accounts r.strategy r.pending l taken := by
  unfold readOctets
  split
  · rename_i reply pending hfound
    refine ⟨[], rfl, fun reply' h => ?_, fun e h => ?_⟩
    · cases h
      rwa [List.append_nil]
    · cases h
  · rename_i hnone
    exact exists_await_accounts hs endpoint hnone _ _ l

end Read

/-! ## Successive reads -/

/-- A reply as it came and as the text that was returned for it. -/
structure Received where
  octets : List UInt8
  text : String

/-- Reads that succeed, one after the other: from a reader and a line to those that are left. -/
inductive Receives (endpoint : String) : Reader → Line → List Received → Reader → Line → Prop
  | nil {r : Reader} {l : Line} : Receives endpoint r l [] r l
  | cons {r r₁ r₂ : Reader} {l l₁ l₂ : Line} {octets : List UInt8} {text : String}
      {received : List Received} :
      (r.readOctets endpoint l).reply = .ok octets → r.read endpoint l = (.ok text, r₁, l₁) →
      Receives endpoint r₁ l₁ received r₂ l₂ →
      Receives endpoint r l (⟨octets, text⟩ :: received) r₂ l₂

/-- What a read that succeeds does, by its account. -/
theorem of_read_eq_ok {r r' : Reader} {endpoint : String} {l l' : Line} {octets : List UInt8}
    {text : String} (hs : r.strategy ≠ .untilQuiet)
    (hreply : (r.readOctets endpoint l).reply = .ok octets)
    (hread : r.read endpoint l = (.ok text, r', l')) :
    r'.strategy = r.strategy ∧ text = textOf octets ∧
      ∃ taken, l.octets = taken ++ l'.octets ∧
        complete? r.strategy (r.pending ++ taken) = some (octets, r'.pending) := by
  obtain ⟨taken, hline, hok, -⟩ := exists_accounts hs endpoint l
  simp only [read, hreply, Prod.mk.injEq] at hread
  obtain ⟨htext, rfl, rfl⟩ := hread
  exact ⟨rfl, (Except.ok.inj htext).symm, taken, hline, hok octets hreply⟩

/-- The octets of replies, each behind a number of terminators and before one. -/
def framed (t : List UInt8) (counts : List Nat) (replies : List (List UInt8)) : List UInt8 :=
  (List.zipWith (fun count x => copies t count ++ x ++ t) counts replies).flatten

/-- **Replies with a terminator**, from any reader on. -/
theorem Receives.framed {t : List UInt8} (ht : t ≠ []) {endpoint : String} {r r' : Reader}
    {l l' : Line} {received : List Received} (h : Receives endpoint r l received r' l')
    (hr : r.strategy = .terminator t) :
    r'.strategy = .terminator t ∧
      (∃ counts : List Nat, counts.length = received.length ∧
        r.pending ++ l.octets =
          Reader.framed t counts (received.map (·.octets)) ++ r'.pending ++ l'.octets) ∧
      ∀ x ∈ received, x.octets ≠ [] ∧ Ends t x.octets ∧ x.text = textOf x.octets := by
  induction h with
  | nil => exact ⟨hr, ⟨[], rfl, rfl⟩, fun x hx => by cases hx⟩
  | @cons r r₁ r₂ l l₁ l₂ octets text received hreply hread _ ih =>
    have hs : r.strategy ≠ .untilQuiet := by simp [hr]
    obtain ⟨hstrategy, htext, taken, hline, hfound⟩ := of_read_eq_ok hs hreply hread
    rw [hr] at hfound hstrategy
    obtain ⟨count, hheld, hne, hends⟩ := (complete?_terminator_iff ht).1 hfound
    obtain ⟨hr', ⟨counts, hcounts, hrest⟩, hall⟩ := ih hstrategy
    refine ⟨hr', ⟨count :: counts, congrArg (· + 1) hcounts, ?_⟩, fun x hx => ?_⟩
    · rw [hline, ← List.append_assoc, hheld, List.append_assoc _ r₁.pending, hrest]
      simp only [Reader.framed, List.map_cons, List.zipWith_cons_cons, List.flatten_cons,
        List.append_assoc]
    · rcases List.mem_cons.1 hx with rfl | hx
      · exact ⟨hne, hends, htext⟩
      · exact hall x hx

/-- **Replies of a length**, from any reader on. -/
theorem Receives.blocks {n : Nat} {endpoint : String} {r r' : Reader} {l l' : Line}
    {received : List Received} (h : Receives endpoint r l received r' l')
    (hr : r.strategy = .length n) :
    r.pending ++ l.octets = (received.map (·.octets)).flatten ++ r'.pending ++ l'.octets ∧
      ∀ x ∈ received, x.octets.length = n ∧ x.text = textOf x.octets := by
  induction h with
  | nil => exact ⟨rfl, fun x hx => by cases hx⟩
  | @cons r r₁ r₂ l l₁ l₂ octets text received hreply hread _ ih =>
    have hs : r.strategy ≠ .untilQuiet := by simp [hr]
    obtain ⟨hstrategy, htext, taken, hline, hfound⟩ := of_read_eq_ok hs hreply hread
    rw [hr] at hfound hstrategy
    obtain ⟨hheld, hlength⟩ := complete?_length_eq_some hfound
    obtain ⟨hrest, hall⟩ := ih hstrategy
    refine ⟨?_, fun x hx => ?_⟩
    · rw [hline, ← List.append_assoc, hheld, List.append_assoc octets, hrest]
      simp only [List.map_cons, List.flatten_cons, List.append_assoc]
    · rcases List.mem_cons.1 hx with rfl | hx
      · exact ⟨hlength, htext⟩
      · exact hall x hx

/-- **A read that fails had no reply**: behind the terminators at their start, the octets that were
held and those that came have none. -/
theorem exists_of_read_eq_error {t : List UInt8} (ht : t ≠ []) {r : Reader}
    (hr : r.strategy = .terminator t) {endpoint : String} {l : Line} {e : TransportFault}
    (h : (r.read endpoint l).1 = .error e) :
    ∃ taken count rest, l.octets = taken ++ (r.read endpoint l).2.2.octets ∧
      r.pending ++ taken = copies t count ++ rest ∧ ¬ t <:+: rest := by
  have hs : r.strategy ≠ .untilQuiet := by simp [hr]
  obtain ⟨taken, hline, -, herror⟩ := exists_accounts hs endpoint l
  have hnone := herror e (map_eq_error_iff.1 h)
  rw [hr] at hnone
  obtain ⟨count, rest, hheld, hrest⟩ := exists_of_complete?_eq_none ht hnone
  exact ⟨taken, count, rest, hline, hheld, hrest⟩

end Reader

open Reader

/-- **No octet is lost, doubled or moved.**  The octets that a fresh reader has taken from the line
are its replies, each before the first terminator in it and behind any number of others, and then
what it holds; where a read fails, no reply was there.  With a length they are its replies, each of
that length, and then what it holds. -/
theorem framing (endpoint : String) (timeout : Nat) :
    (∀ (t : List UInt8) (l : Line) (received : List Received) (r : Reader) (l' : Line), t ≠ [] →
      Receives endpoint (.fresh (.terminator t) timeout) l received r l' →
      (∃ counts : List Nat, counts.length = received.length ∧
        l.octets = framed t counts (received.map (·.octets)) ++ r.pending ++ l'.octets) ∧
      (∀ x ∈ received, x.octets ≠ [] ∧ Ends t x.octets ∧ x.text = textOf x.octets) ∧
      ∀ e, (r.read endpoint l').1 = .error e →
        ∃ taken count rest, l'.octets = taken ++ (r.read endpoint l').2.2.octets ∧
          r.pending ++ taken = copies t count ++ rest ∧ ¬ t <:+: rest) ∧
    ∀ (n : Nat) (l : Line) (received : List Received) (r : Reader) (l' : Line),
      Receives endpoint (.fresh (.length n) timeout) l received r l' →
      l.octets = (received.map (·.octets)).flatten ++ r.pending ++ l'.octets ∧
      ∀ x ∈ received, x.octets.length = n ∧ x.text = textOf x.octets := by
  constructor
  · intro t l received r l' ht h
    obtain ⟨hr, hstream, hall⟩ := h.framed ht rfl
    exact ⟨hstream, hall, fun e he => exists_of_read_eq_error ht hr he⟩
  · intro n l received r l' h
    exact h.blocks rfl

/-- A terminator that overlaps itself and the content, cut by chunks and a pause; and two blocks. -/
theorem framing_overlapping :
    let t : List UInt8 := [0x61, 0x61]
    let l : Line := [.data [0x61, 0x61, 0x62, 0x61], .wait 100, .data [0x61, 0x61, 0x63],
      .data [0x61, 0x61, 0x64], .close]
    let received : List Received := [⟨[0x62], "b"⟩, ⟨[0x61, 0x63], "ac"⟩]
    let r : Reader := ⟨.terminator t, 250, [0x64]⟩
    let blocks : List Received := [⟨[0x61, 0x61, 0x62], "aab"⟩, ⟨[0x61, 0x61, 0x61], "aaa"⟩]
    let r' : Reader := ⟨.length 3, 250, [0x63]⟩
    let l' : Line := [.data [0x61, 0x61, 0x64], .close]
    (t ≠ [] ∧ Receives "loop" (.fresh (.terminator t) 250) l received r [.close] ∧
      (r.read "loop" [.close]).1 = .error (.closed "loop") ∧
      Receives "loop" (.fresh (.length 3) 250) l blocks r' l') ∧
    ((∃ counts : List Nat, counts.length = received.length ∧
        l.octets = framed t counts (received.map (·.octets)) ++ r.pending ++
          Line.octets [.close]) ∧
      (∀ x ∈ received, x.octets ≠ [] ∧ Ends t x.octets ∧ x.text = textOf x.octets) ∧
      ∀ e, (r.read "loop" [.close]).1 = .error e →
        ∃ taken count rest, Line.octets [.close] =
            taken ++ (r.read "loop" [.close]).2.2.octets ∧
          r.pending ++ taken = copies t count ++ rest ∧ ¬ t <:+: rest) ∧
    (l.octets = (blocks.map (·.octets)).flatten ++ r'.pending ++ l'.octets ∧
      ∀ x ∈ blocks, x.octets.length = 3 ∧ x.text = textOf x.octets) := by
  intro t l received r blocks r' l'
  have ht : t ≠ [] := List.cons_ne_nil _ _
  have hreceived : Receives "loop" (.fresh (.terminator t) 250) l received r [.close] :=
    .cons rfl rfl (.cons rfl rfl .nil)
  have hblocks : Receives "loop" (.fresh (.length 3) 250) l blocks r' l' :=
    .cons rfl rfl (.cons rfl rfl .nil)
  exact ⟨⟨ht, hreceived, rfl, hblocks⟩,
    (framing "loop" 250).1 t l received r [.close] ht hreceived,
    (framing "loop" 250).2 3 l blocks r' l' hblocks⟩

end Instrument
