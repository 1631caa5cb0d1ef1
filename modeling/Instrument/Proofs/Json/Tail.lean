/-
# No tail of a JSON text is an object

Who meets a text of JSON in its middle may still read something, but never an object: if a text is
JSON and the rest of it, from some point within on, is JSON by itself, then that rest is no object
(`not_object_of_tail`).

Quotation marks, backslashes and brackets decide this alone.  `scan` follows them through a text:
how many brackets are open, and whether a character stands outside of texts, inside of one or behind
a backslash in one.  What a value is read from is balanced (`core_of_readValue`, by induction on the
fuel, as the three readers call one another).  An object within a balanced text cannot begin outside
of texts, for there a bracket is open that it would leave open (`scan_add`), nor inside of one, for
then its texts would be where the whole has none, and its end would stand in a text
(`not_scan_opposite`).
-/
import Instrument.Json.Reader
import Instrument.Proofs.Outcome
import Mathlib.Tactic.SplitIfs

namespace Instrument.Json

open Number

/-! ## Places in a text -/

/-- Where a character stands: outside of texts, inside of one, or behind a backslash in one. -/
inductive Place
  | outside
  | inText
  | escaped
  deriving DecidableEq, Repr

/-- The number of open brackets and the place behind a character; nothing where JSON has no such
character. -/
def scanChar : Nat × Place → Char → Option (Nat × Place)
  | (depth, .outside), c =>
    if c = '"' then some (depth, .inText)
    else if c = '\\' then none
    else if c = '[' ∨ c = '\x7b' then some (depth + 1, .outside)
    else if c = ']' ∨ c = '\x7d' then
      match depth with
      | 0 => none
      | depth + 1 => some (depth, .outside)
    else some (depth, .outside)
  | (depth, .inText), c =>
    if c = '"' then some (depth, .outside)
    else if c = '\\' then some (depth, .escaped)
    else some (depth, .inText)
  | (depth, .escaped), _ => some (depth, .inText)

/-- The number of open brackets and the place behind a text. -/
def scan (s : Nat × Place) (cs : List Char) : Option (Nat × Place) := cs.foldlM scanChar s

/-- Every bracket and every text is closed. -/
def Balanced (cs : List Char) : Prop := scan (0, .outside) cs = some (0, .outside)

variable {cs ds rest used : List Char} {s s' : Nat × Place}

@[simp] theorem scan_nil (s : Nat × Place) : scan s [] = some s := rfl

theorem scan_cons (s : Nat × Place) (c : Char) (cs : List Char) :
    scan s (c :: cs) = (scanChar s c).bind fun s => scan s cs := by
  rw [scan, List.foldlM_cons]
  rfl

theorem scan_append (s : Nat × Place) (cs ds : List Char) :
    scan s (cs ++ ds) = (scan s cs).bind fun s => scan s ds := by
  rw [scan, List.foldlM_append]
  rfl

theorem scan_append_of_eq (h : scan s cs = some s') : scan s (cs ++ ds) = scan s' ds := by
  rw [scan_append, h]
  rfl

/-- Brackets that are open before a text do not matter to it. -/
theorem scanChar_add {d d' : Nat} {p p' : Place} {c : Char}
    (h : scanChar (d, p) c = some (d', p')) (k : Nat) :
    scanChar (d + k, p) c = some (d' + k, p') := by
  cases p with
  | outside =>
    simp only [scanChar] at h ⊢
    split_ifs at h ⊢
    · cases h
      rfl
    · cases h
      exact congrArg some (Prod.ext (Nat.add_right_comm d k 1) rfl)
    · cases d with
      | zero => cases h
      | succ d =>
        cases h
        rw [Nat.add_right_comm]
    · cases h
      rfl
  | inText =>
    simp only [scanChar] at h ⊢
    split_ifs at h ⊢
    all_goals
      cases h
      rfl
  | escaped =>
    cases h
    rfl

theorem scan_add {d d' : Nat} {p p' : Place} (h : scan (d, p) cs = some (d', p')) (k : Nat) :
    scan (d + k, p) cs = some (d' + k, p') := by
  induction cs generalizing d p with
  | nil =>
    cases h
    rfl
  | cons c cs ih =>
    rw [scan_cons] at h ⊢
    obtain ⟨⟨e, q⟩, hc, h⟩ := Option.bind_eq_some_iff.1 h
    rw [scanChar_add hc k]
    exact ih h

theorem Balanced.scan (h : Balanced cs) (d : Nat) :
    scan (d, .outside) cs = some (d, .outside) := by
  simpa using scan_add h d

theorem Balanced.append (h : Balanced cs) (h' : Balanced ds) : Balanced (cs ++ ds) :=
  (scan_append_of_eq h).trans h'

/-- Only a quotation mark leads into a text. -/
theorem outside_of_scanChar {d e : Nat} {p : Place} {c : Char} (hc : c ≠ '"')
    (h : scanChar (d, .outside) c = some (e, p)) : p = .outside := by
  simp only [scanChar, if_neg hc] at h
  split_ifs at h
  · cases h
    rfl
  · cases d with
    | zero => cases h
    | succ d =>
      cases h
      rfl
  · cases h
    rfl

/-- Two who scan one text, the one from outside of texts and the other from inside of one, do not
both come out. -/
theorem not_scan_opposite {d e d' e' : Nat} (h : scan (d, .outside) cs = some (d', .outside))
    (h' : scan (e, .inText) cs = some (e', .outside)) : False := by
  -- They trade places at every quotation mark, and a backslash stops the one outside.
  induction cs generalizing d e d' e' with
  | nil => cases h'
  | cons c cs ih =>
    rw [scan_cons] at h h'
    by_cases hquote : c = '"'
    · subst hquote
      exact ih h' h
    · by_cases hslash : c = '\\'
      · subst hslash
        cases h
      · have hin : scanChar (e, .inText) c = some (e, .inText) := by
          simp [scanChar, hquote, hslash]
        rw [hin] at h'
        obtain ⟨⟨d₁, p⟩, hc, h⟩ := Option.bind_eq_some_iff.1 h
        obtain rfl := outside_of_scanChar hquote hc
        exact ih h h'

/-! ## Characters that stand for nothing else -/

/-- Is `c` a character of a number or of a word: no blank, no bracket, and none that has to do with
texts? -/
def isBare (c : Char) : Bool :=
  !isSpace c && !(['"', '\\', '[', ']', '\x7b', '\x7d'].contains c)

/-- A character that neither opens nor closes anything. -/
theorem scanChar_outside {c : Char} (h : isSpace c = true ∨ isBare c = true) (d : Nat) :
    scanChar (d, .outside) c = some (d, .outside) := by
  have hc : c ≠ '"' ∧ c ≠ '\\' ∧ c ≠ '[' ∧ c ≠ ']' ∧ c ≠ '\x7b' ∧ c ≠ '\x7d' := by
    rcases h with h | h
    · simp only [isSpace, Bool.or_eq_true, decide_eq_true_eq] at h
      rcases h with ((rfl | rfl) | rfl) | rfl <;> decide
    · simpa [isBare, and_assoc] using (Bool.and_eq_true_iff.1 h).2
  simp [scanChar, hc]

theorem balanced_of_all (h : ∀ c ∈ cs, isSpace c = true ∨ isBare c = true) : Balanced cs := by
  induction cs with
  | nil => rfl
  | cons c cs ih =>
    rw [Balanced, scan_cons, scanChar_outside (h c List.mem_cons_self)]
    exact ih fun c' hc' => h c' (List.mem_cons_of_mem c hc')

theorem balanced_of_isSpace (h : ∀ c ∈ cs, isSpace c = true) : Balanced cs :=
  balanced_of_all fun c hc => .inl (h c hc)

theorem exists_skipSpace (cs : List Char) :
    ∃ blanks, (∀ c ∈ blanks, isSpace c = true) ∧ cs = blanks ++ skipSpace cs :=
  ⟨cs.takeWhile isSpace, List.all_eq_true.1 List.all_takeWhile,
    List.takeWhile_append_dropWhile.symm⟩

/-- What is left of a text after some of its characters, all of them bare. -/
def Drops (cs rest : List Char) : Prop := ∃ used, cs = used ++ rest ∧ ∀ c ∈ used, isBare c = true

theorem Drops.refl (cs : List Char) : Drops cs cs := ⟨[], rfl, fun _ h => absurd h List.not_mem_nil⟩

theorem Drops.trans (h : Drops cs ds) (h' : Drops ds rest) : Drops cs rest := by
  obtain ⟨used, rfl, hused⟩ := h
  obtain ⟨used', rfl, hused'⟩ := h'
  refine ⟨used ++ used', (List.append_assoc ..).symm, fun c hc => ?_⟩
  rcases List.mem_append.1 hc with hc | hc
  · exact hused c hc
  · exact hused' c hc

theorem Drops.cons {c : Char} (hc : isBare c = true) (h : Drops cs rest) : Drops (c :: cs) rest :=
  .trans ⟨[c], rfl, by simpa using hc⟩ h

theorem isBare_of_isDigit {c : Char} (h : Digits.isDigit c = true) : isBare c = true := by
  have hne (d : Char) (hd : Digits.isDigit d = false) : c ≠ d := by
    rintro rfl
    rw [h] at hd
    cases hd
  simp only [isBare, isSpace]
  simp [hne ' ' rfl, hne '\n' rfl, hne '\t' rfl, hne '\r' rfl, hne '"' rfl, hne '\\' rfl,
    hne '[' rfl, hne ']' rfl, hne '\x7b' rfl, hne '\x7d' rfl]

theorem drops_dropWhile (cs : List Char) : Drops cs (cs.dropWhile Digits.isDigit) :=
  ⟨cs.takeWhile Digits.isDigit, List.takeWhile_append_dropWhile.symm,
    fun c hc => isBare_of_isDigit (List.all_eq_true.1 List.all_takeWhile c hc)⟩

/-! ### Numbers -/

theorem isDigit_of_digit? {c : Char} {d : Nat} (h : Digits.digit? c = some d) :
    Digits.isDigit c = true := by
  unfold Digits.digit? at h
  split at h
  · assumption
  · cases h

theorem drops_takeDigits (n : Nat) (cs : List Char) : Drops cs (takeDigits n cs).2 := by
  induction cs generalizing n with
  | nil => exact .refl _
  | cons c cs ih =>
    simp only [takeDigits]
    split
    · rename_i d hd
      split
      · exact .refl _
      · exact .cons (isBare_of_isDigit (isDigit_of_digit? hd)) (ih _)
    · exact .refl _

variable {negative : Bool} {n : Nat} {e : Int} {v : Json}

theorem rest_of_realOf {significand : Nat} {cs' : List Char}
    (h : (realOf negative significand e).map (·, cs') = .ok (v, rest)) :
    cs' = rest ∧ ∀ ms, v ≠ .object ms := by
  obtain ⟨w, hw, heq⟩ := map_eq_ok_iff.1 h
  cases heq
  obtain ⟨x, -, rfl⟩ := map_eq_ok_iff.1 hw
  exact ⟨rfl, fun ms => Json.noConfusion⟩

theorem drops_readExponent (h : readExponent negative n e cs = .ok (v, rest)) :
    Drops cs rest ∧ ∀ ms, v ≠ .object ms := by
  unfold readExponent at h
  split at h
  rename_i down after hsign
  have hafter : Drops cs after := by
    split at hsign <;> cases hsign
    · exact .cons rfl (.refl _)
    · exact .cons rfl (.refl _)
    · exact .refl _
  split at h
  · cases h
  · split at h
    · cases h
    · split at h
      rename_i ds after' hspan
      have hdigits : Drops cs after' := by
        cases hspan
        exact hafter.trans (drops_dropWhile _)
      extract_lets exponent at h
      split at h
      · split at h
        · cases h
        · cases h
          exact ⟨hdigits, fun ms => Json.noConfusion⟩
      · obtain ⟨rfl, hv⟩ := rest_of_realOf h
        exact ⟨hdigits, hv⟩

theorem drops_finishReal (h : finishReal negative n e cs = .ok (v, rest)) :
    Drops cs rest ∧ ∀ ms, v ≠ .object ms := by
  unfold finishReal at h
  split at h
  · exact (drops_readExponent h).imp_left (.cons rfl)
  · exact (drops_readExponent h).imp_left (.cons rfl)
  · obtain ⟨rfl, hv⟩ := rest_of_realOf h
    exact ⟨.refl _, hv⟩

theorem drops_readPlaces (h : readPlaces negative n e cs = .ok (v, rest)) :
    Drops cs rest ∧ ∀ ms, v ≠ .object ms := by
  unfold readPlaces at h
  split at h
  · cases h
  · split at h
    · cases h
    · exact (drops_finishReal h).imp_left
        ((drops_takeDigits n _).trans (drops_dropWhile _)).trans

/-- The first digit of a number is among those that count or among those that do not. -/
theorem drops_digits {c : Char} (hc : Digits.isDigit c = true) (n : Nat) (after : List Char) :
    Drops after (Digits.span (takeDigits n (c :: after)).2).2 := by
  have hnone : Drops after (Digits.span (c :: after)).2 := by
    rw [Digits.span, List.dropWhile_cons_of_pos hc]
    exact drops_dropWhile after
  simp only [takeDigits]
  split
  · split
    · exact hnone
    · exact (drops_takeDigits _ after).trans (drops_dropWhile _)
  · exact hnone

/-- A number is read from bare characters, one at least. -/
theorem drops_readNumber (h : readNumber negative cs = .ok (v, rest)) :
    (∃ c after, cs = c :: after ∧ isBare c = true ∧ Drops after rest) ∧ ∀ ms, v ≠ .object ms := by
  unfold readNumber at h
  split at h
  · cases h
  · rename_i c after
    split at h
    · cases h
    · rename_i hdigit
      replace hdigit : Digits.isDigit c = true := by simpa using hdigit
      split at h
      · cases h
      · have hspan := drops_digits hdigit 0 after
        suffices hrest : Drops (Digits.span (takeDigits 0 (c :: after)).2).2 rest ∧
            ∀ ms, v ≠ .object ms from
          ⟨⟨c, after, rfl, isBare_of_isDigit hdigit, hspan.trans hrest.1⟩, hrest.2⟩
        dsimp only at h
        split at h
        · rename_i hpoint
          rw [hpoint]
          exact (drops_readPlaces h).imp_left (.cons rfl)
        · rename_i hpoint
          rw [hpoint]
          exact (drops_readExponent h).imp_left (.cons rfl)
        · rename_i hpoint
          rw [hpoint]
          exact (drops_readExponent h).imp_left (.cons rfl)
        · split at h
          · obtain ⟨rfl, hv⟩ := rest_of_realOf h
            exact ⟨.refl _, hv⟩
          · split at h
            · cases h
              exact ⟨.refl _, fun ms => Json.noConfusion⟩
            · split at h
              · obtain ⟨rfl, hv⟩ := rest_of_realOf h
                exact ⟨.refl _, hv⟩
              · cases h
                exact ⟨.refl _, fun ms => Json.noConfusion⟩

/-! ### Texts -/

/-- What is left of a text after some of its characters, all of them within one quoted text. -/
def Quotes (cs rest : List Char) : Prop :=
  ∃ used, cs = used ++ rest ∧ scan (0, .inText) used = some (0, .inText)

theorem Quotes.refl (cs : List Char) : Quotes cs cs := ⟨[], rfl, rfl⟩

theorem Quotes.trans (h : Quotes cs ds) (h' : Quotes ds rest) : Quotes cs rest := by
  obtain ⟨used, rfl, hused⟩ := h
  obtain ⟨used', rfl, hused'⟩ := h'
  exact ⟨used ++ used', (List.append_assoc ..).symm, (scan_append_of_eq hused).trans hused'⟩

theorem Quotes.cons {c : Char} (hquote : c ≠ '"') (hslash : c ≠ '\\') (h : Quotes cs rest) :
    Quotes (c :: cs) rest := by
  refine .trans ⟨[c], rfl, ?_⟩ h
  simp [scan_cons, scanChar, hquote, hslash]

/-- A backslash takes the next character with it. -/
theorem Quotes.escape (c : Char) (h : Quotes cs rest) : Quotes ('\\' :: c :: cs) rest :=
  .trans ⟨['\\', c], rfl, rfl⟩ h

theorem Quotes.hexDigit {c : Char} {x : Nat} (hc : hexValue? c = some x) (h : Quotes cs rest) :
    Quotes (c :: cs) rest := by
  refine h.cons ?_ ?_
  · rintro rfl
    cases hc
  · rintro rfl
    cases hc

theorem quotes_readHex {x : Nat} (h : readHex cs = .ok (x, rest)) : Quotes cs rest := by
  unfold readHex at h
  split at h
  · split at h
    · rename_i ha hb hc hd
      cases h
      exact ((((Quotes.refl _).hexDigit hd).hexDigit hc).hexDigit hb).hexDigit ha
    · cases h
  · cases h

theorem quotes_readUnicode {c : Char} (h : readUnicode cs = .ok (c, rest)) : Quotes cs rest := by
  unfold readUnicode at h
  split at h
  · cases h
  · rename_i hhex
    replace hhex := quotes_readHex hhex
    split at h
    · cases h
    · split at h
      · split at h
        · split at h
          · cases h
          · rename_i hhex'
            split at h
            · obtain ⟨-, rfl⟩ := Prod.mk.inj (Except.ok.inj h)
              exact hhex.trans ((quotes_readHex hhex').escape 'u')
            · cases h
        · cases h
        · cases h
        · cases h
      · cases h
        exact hhex

theorem quotes_readEscape {c : Char} (h : readEscape cs = .ok (c, rest)) :
    Quotes ('\\' :: cs) rest := by
  unfold readEscape at h
  split at h
  case h_1 => cases h
  case h_10 => exact (quotes_readUnicode h).escape 'u'
  case h_11 => cases h
  all_goals
    cases h
    exact (Quotes.refl _).escape _

theorem quotes_readChars {fuel : Nat} {acc : List Char} {t : String}
    (h : readChars fuel acc cs = .ok (t, rest)) : Quotes cs ('"' :: rest) := by
  induction fuel generalizing acc cs with
  | zero => cases h
  | succ fuel ih =>
    cases cs with
    | nil => cases h
    | cons c cs =>
      rw [readChars] at h
      by_cases hquote : c = '"'
      · subst hquote
        cases h
        exact .refl _
      · rw [if_neg hquote] at h
        by_cases hslash : c = '\\'
        · subst hslash
          rw [if_pos rfl] at h
          split at h
          · rename_i hescape
            exact (quotes_readEscape hescape).trans (ih h)
          · cases h
        · rw [if_neg hslash] at h
          split at h
          · cases h
          · exact (ih h).cons hquote hslash

/-- A quoted text is balanced. -/
theorem exists_readText {t : String} (h : readText cs = .ok (t, rest)) :
    ∃ used, cs = used ++ '"' :: rest ∧ Balanced ('"' :: used ++ ['"']) := by
  obtain ⟨used, rfl, hused⟩ := quotes_readChars h
  refine ⟨used, rfl, ?_⟩
  show scan (0, .inText) (used ++ ['"']) = _
  exact scan_append_of_eq hused

/-! ### Values -/

/-- What a value is read from, without the blanks around it: an object from what stands between
curly brackets, and any other value from what does not end in such a bracket. -/
inductive Core : Json → List Char → Prop
  | object {ms inner} : Balanced inner → Core (.object ms) ('\x7b' :: inner ++ ['\x7d'])
  | other {v init c} : (∀ ms, v ≠ .object ms) → Balanced (init ++ [c]) → isSpace c = false →
      c ≠ '\x7d' → Core v (init ++ [c])

/-- Brackets around a balanced text. -/
theorem balanced_bracket {o c : Char} (ho : o = '[' ∨ o = '\x7b') (hc : c = ']' ∨ c = '\x7d')
    (h : Balanced cs) : Balanced (o :: cs ++ [c]) := by
  have hopen : scanChar (0, .outside) o = some (1, .outside) := by
    rcases ho with rfl | rfl <;> rfl
  have hclose : scanChar (1, .outside) c = some (0, .outside) := by
    rcases hc with rfl | rfl <;> rfl
  rw [Balanced, List.cons_append, scan_cons, hopen]
  refine (scan_append_of_eq (h.scan 1)).trans ?_
  rw [scan_cons, hclose]
  rfl

theorem Core.balanced {v : Json} (h : Core v cs) : Balanced cs := by
  cases h with
  | object hinner => exact balanced_bracket (.inr rfl) (.inr rfl) hinner
  | other _ h => exact h

theorem core_of_isBare {v : Json} (hv : ∀ ms, v ≠ .object ms) (hne : cs ≠ [])
    (h : ∀ c ∈ cs, isBare c = true) : Core v cs := by
  obtain rfl | ⟨init, c, rfl⟩ := List.eq_nil_or_concat cs
  · exact absurd rfl hne
  · rw [List.concat_eq_append] at h ⊢
    have hc : isBare c = true := h c (List.mem_append_right init List.mem_cons_self)
    refine .other hv (balanced_of_all fun c hc => .inr (h c hc)) ?_ ?_
    · simpa using (Bool.and_eq_true_iff.1 hc).1
    · rintro rfl
      cases hc

/-- A value at the start of a text, perhaps after blanks, and the text after it. -/
def Starts (v : Json) (cs rest : List Char) : Prop :=
  ∃ blanks core, cs = blanks ++ (core ++ rest) ∧ (∀ c ∈ blanks, isSpace c = true) ∧ Core v core

/-- The rest of an array or of an object, with its last bracket. -/
def Closes (bracket : Char) (cs rest : List Char) : Prop :=
  ∃ inner, cs = inner ++ bracket :: rest ∧ Balanced inner

theorem Starts.balanced {v : Json} (h : Starts v cs rest) :
    ∃ used, cs = used ++ rest ∧ Balanced used := by
  obtain ⟨blanks, core, rfl, hblanks, hcore⟩ := h
  exact ⟨blanks ++ core, (List.append_assoc ..).symm,
    (balanced_of_isSpace hblanks).append hcore.balanced⟩

theorem Closes.append {bracket : Char} (hused : Balanced used) (h : Closes bracket cs rest) :
    Closes bracket (used ++ cs) rest := by
  obtain ⟨inner, rfl, hinner⟩ := h
  exact ⟨used ++ inner, (List.append_assoc ..).symm, hused.append hinner⟩

theorem Closes.nil {bracket : Char} (rest : List Char) : Closes bracket (bracket :: rest) rest :=
  ⟨[], rfl, rfl⟩

theorem Closes.skipSpace {bracket : Char} (h : Closes bracket (skipSpace cs) rest) :
    Closes bracket cs rest := by
  obtain ⟨blanks, hblanks, hcs⟩ := exists_skipSpace cs
  rw [hcs]
  exact h.append (balanced_of_isSpace hblanks)

theorem Core.starts {v : Json} (h : Core v cs) (rest : List Char) : Starts v (cs ++ rest) rest :=
  ⟨[], cs, rfl, fun _ hc => absurd hc List.not_mem_nil, h⟩

theorem Starts.skipSpace {v : Json} (h : Starts v (skipSpace cs) rest) : Starts v cs rest := by
  obtain ⟨blanks, hblanks, hcs⟩ := exists_skipSpace cs
  obtain ⟨blanks', core, hskip, hblanks', hcore⟩ := h
  refine ⟨blanks ++ blanks', core, ?_, fun c hc => ?_, hcore⟩
  · rw [List.append_assoc, ← hskip]
    exact hcs
  · rcases List.mem_append.1 hc with hc | hc
    · exact hblanks c hc
    · exact hblanks' c hc

/-- What is read from a bare character and more of them. -/
theorem starts_of_drops {v : Json} (hv : ∀ ms, v ≠ .object ms) {c : Char} (hc : isBare c = true)
    (h : Drops cs rest) : Starts v (c :: cs) rest := by
  obtain ⟨used, rfl, hused⟩ := h
  refine (core_of_isBare hv (List.cons_ne_nil c used) ?_).starts rest
  exact List.forall_mem_cons.2 ⟨hc, hused⟩

theorem drops_readWord {v w : Json} {word : List Char} (hword : ∀ c ∈ word, isBare c = true)
    (h : readWord w word cs = .ok (v, rest)) : Drops cs rest ∧ v = w := by
  induction word generalizing cs with
  | nil =>
    cases h
    exact ⟨.refl _, rfl⟩
  | cons c word ih =>
    cases cs with
    | nil => cases h
    | cons d cs =>
      rw [readWord] at h
      split at h
      · rename_i heq
        have hd : isBare d = true := heq ▸ hword c List.mem_cons_self
        exact (ih (fun c' hc' => hword c' (List.mem_cons_of_mem c hc')) h).imp_left (.cons hd)
      · cases h

/-- What is read from brackets or quotation marks around a text, but for curly brackets. -/
theorem starts_enclosed {v : Json} (hv : ∀ ms, v ≠ .object ms) {o c : Char}
    (hspace : isSpace c = false) (hc : c ≠ '\x7d') (h : Balanced (o :: used ++ [c])) :
    Starts v (o :: (used ++ c :: rest)) rest := by
  have hcore : Core v (o :: used ++ [c]) := .other hv h hspace hc
  simpa using hcore.starts rest

theorem Closes.array {vs : List Json} (h : Closes ']' cs rest) :
    Starts (.array vs) ('[' :: cs) rest := by
  obtain ⟨inner, rfl, hinner⟩ := h
  exact starts_enclosed (fun ms => Json.noConfusion) rfl (by decide)
    (balanced_bracket (.inl rfl) (.inl rfl) hinner)

theorem Closes.object {ms : List (String × Json)} (h : Closes '\x7d' cs rest) :
    Starts (.object ms) ('\x7b' :: cs) rest := by
  obtain ⟨inner, rfl, hinner⟩ := h
  simpa using (Core.object hinner).starts rest

/-- What values, arrays and objects are read from with some fuel. -/
structure Reads (fuel : Nat) : Prop where
  value {depth cs v rest} : readValue fuel depth cs = .ok (v, rest) → Starts v cs rest
  items {depth acc cs v rest} : readItems fuel depth acc cs = .ok (v, rest) →
    Closes ']' cs rest ∧ ∃ vs, v = .array vs
  members {depth acc cs v rest} : readMembers fuel depth acc cs = .ok (v, rest) →
    Closes '\x7d' cs rest ∧ ∃ ms, v = .object ms

section Step

variable {fuel depth : Nat} {v : Json} (h : Reads fuel)

include h

/-- A value, blanks, and the rest of the array or object that it stands in. -/
theorem Reads.closes_value {bracket : Char} (hv : readValue fuel depth cs = .ok (v, ds))
    (hrest : Closes bracket (skipSpace ds) rest) : Closes bracket cs rest := by
  obtain ⟨used, rfl, hused⟩ := (h.value hv).balanced
  exact hrest.skipSpace.append hused

theorem Reads.items_succ {acc : List Json}
    (hread : readItems (fuel + 1) depth acc cs = .ok (v, rest)) :
    Closes ']' cs rest ∧ ∃ vs, v = .array vs := by
  rw [readItems] at hread
  split at hread
  · cases hread
  · rename_i hvalue
    split at hread
    · cases hread
    · rename_i hskip
      cases hread
      exact ⟨h.closes_value hvalue (hskip ▸ .nil _), _, rfl⟩
    · rename_i hskip
      split at hread
      · cases hread
      · cases hread
      · obtain ⟨hcloses, hv⟩ := h.items hread
        have hcomma : Balanced [','] := rfl
        exact ⟨h.closes_value hvalue (hskip ▸ hcloses.skipSpace.append hcomma), hv⟩
    · cases hread

/-- A member, with the rest of its object. -/
theorem Reads.closes_member {name : String} {after value : List Char}
    (hname : readText cs = .ok (name, after)) (hcolon : skipSpace after = ':' :: value)
    (hv : readValue fuel depth value = .ok (v, ds))
    (hrest : Closes '\x7d' (skipSpace ds) rest) : Closes '\x7d' ('"' :: cs) rest := by
  obtain ⟨used, rfl, hused⟩ := exists_readText hname
  have hcolon' : Balanced [':'] := rfl
  have hvalue : Closes '\x7d' after rest :=
    .skipSpace (hcolon ▸ (h.closes_value hv hrest).append hcolon')
  simpa using hvalue.append hused

theorem Reads.members_succ {acc : List (String × Json)}
    (hread : readMembers (fuel + 1) depth acc cs = .ok (v, rest)) :
    Closes '\x7d' cs rest ∧ ∃ ms, v = .object ms := by
  unfold readMembers at hread
  split at hread
  · split at hread
    · cases hread
    · rename_i hname
      split at hread
      · cases hread
      · rename_i hcolon
        split at hread
        · cases hread
        · rename_i hvalue
          split at hread
          · cases hread
          · rename_i hskip
            cases hread
            exact ⟨h.closes_member hname hcolon hvalue (hskip ▸ .nil _), _, rfl⟩
          · rename_i hskip
            split at hread
            · cases hread
            · cases hread
            · obtain ⟨hcloses, hv⟩ := h.members hread
              have hcomma : Balanced [','] := rfl
              exact ⟨h.closes_member hname hcolon hvalue
                (hskip ▸ hcloses.skipSpace.append hcomma), hv⟩
          · cases hread
      · cases hread
  · cases hread

theorem Reads.value_succ (hread : readValue (fuel + 1) depth cs = .ok (v, rest)) :
    Starts v cs rest := by
  refine .skipSpace ?_
  unfold readValue at hread
  split at hread
  · cases hread
  · rename_i hskip
    obtain ⟨hdrops, rfl⟩ := drops_readWord (List.all_eq_true.1 rfl) hread
    exact hskip ▸ starts_of_drops (fun ms => Json.noConfusion) (by decide) hdrops
  · rename_i hskip
    obtain ⟨hdrops, rfl⟩ := drops_readWord (List.all_eq_true.1 rfl) hread
    exact hskip ▸ starts_of_drops (fun ms => Json.noConfusion) (by decide) hdrops
  · rename_i hskip
    obtain ⟨hdrops, rfl⟩ := drops_readWord (List.all_eq_true.1 rfl) hread
    exact hskip ▸ starts_of_drops (fun ms => Json.noConfusion) (by decide) hdrops
  · rename_i hskip
    obtain ⟨⟨c, after, rfl, hc, hdrops⟩, hv⟩ := drops_readNumber hread
    exact hskip ▸ starts_of_drops hv (by decide) (hdrops.cons hc)
  · rename_i hskip
    obtain ⟨⟨t, after⟩, htext, heq⟩ := map_eq_ok_iff.1 hread
    cases heq
    obtain ⟨used, rfl, hused⟩ := exists_readText htext
    exact hskip ▸ starts_enclosed (fun ms => Json.noConfusion) rfl (by decide) hused
  · rename_i hskip
    split at hread
    · cases hread
    · split at hread
      · cases hread
      · rename_i hempty
        cases hread
        exact hskip ▸ (Closes.skipSpace (hempty ▸ .nil _)).array
      · obtain ⟨hcloses, vs, rfl⟩ := h.items hread
        exact hskip ▸ hcloses.skipSpace.array
  · rename_i hskip
    split at hread
    · cases hread
    · split at hread
      · cases hread
      · rename_i hempty
        cases hread
        exact hskip ▸ (Closes.skipSpace (hempty ▸ .nil _)).object
      · obtain ⟨hcloses, ms, rfl⟩ := h.members hread
        exact hskip ▸ hcloses.skipSpace.object
  · rename_i hskip
    split at hread
    · obtain ⟨⟨c, after, heq, hc, hdrops⟩, hv⟩ := drops_readNumber hread
      cases heq
      exact hskip ▸ starts_of_drops hv hc hdrops
    · cases hread

end Step

/-- **What values, arrays and objects are read from.** -/
theorem reads (fuel : Nat) : Reads fuel := by
  induction fuel with
  | zero => exact ⟨fun h => (by cases h), fun h => (by cases h), fun h => (by cases h)⟩
  | succ fuel ih => exact ⟨ih.value_succ, ih.items_succ, ih.members_succ⟩

/-! ## Whole texts -/

/-- A text that holds one value has its characters between blanks. -/
theorem exists_core_of_read {v : Json} (h : read (String.ofList cs) = .ok v) :
    ∃ blanks core after, cs = blanks ++ (core ++ after) ∧ (∀ c ∈ blanks, isSpace c = true) ∧
      (∀ c ∈ after, isSpace c = true) ∧ Core v core := by
  unfold read at h
  rw [String.toList_ofList] at h
  dsimp only at h
  split at h
  · cases h
  · rename_i rest hvalue
    split at h
    · rename_i hend
      cases h
      obtain ⟨blanks, core, hcs, hblanks, hcore⟩ := (reads _).value hvalue
      obtain ⟨after, hafter, hrest⟩ := exists_skipSpace rest
      rw [List.isEmpty_iff.1 hend, List.append_nil] at hrest
      exact ⟨blanks, core, after, hrest ▸ hcs, hblanks, hafter, hcore⟩
    · cases h

theorem Core.balanced_between {v : Json} {blanks core after : List Char} (h : Core v core)
    (hblanks : ∀ c ∈ blanks, isSpace c = true) (hafter : ∀ c ∈ after, isSpace c = true) :
    Balanced (blanks ++ (core ++ after)) :=
  (balanced_of_isSpace hblanks).append (h.balanced.append (balanced_of_isSpace hafter))

/-- What stands before a balanced tail of a balanced text is balanced, if the tail does not begin
with a quotation mark. -/
theorem balanced_of_tail (h : Balanced (ds ++ cs)) (htail : Balanced cs)
    (hhead : cs.head? ≠ some '"') : Balanced ds := by
  rw [Balanced, scan_append] at h
  obtain ⟨⟨d, p⟩, hds, hcs⟩ := Option.bind_eq_some_iff.1 h
  cases p with
  | outside =>
    rw [htail.scan d] at hcs
    exact hds.trans hcs
  | inText => exact (not_scan_opposite htail hcs).elim
  | escaped =>
    cases cs with
    | nil => cases hcs
    | cons c cs =>
      -- The first character of the tail is taken for an escape, and the rest of it is in the text.
      have hc : c ≠ '"' := fun hc => hhead (congrArg some hc)
      rw [Balanced, scan_cons] at htail
      obtain ⟨⟨e, q⟩, hchar, htail⟩ := Option.bind_eq_some_iff.1 htail
      obtain rfl := outside_of_scanChar hc hchar
      exact (not_scan_opposite htail hcs).elim

/-- The last character of a text that is no blank. -/
theorem eq_of_append_isSpace {c c' : Char} {xs ys after after' : List Char}
    (h : xs ++ c :: after = ys ++ c' :: after') (hc : isSpace c = false) (hc' : isSpace c' = false)
    (hafter : ∀ d ∈ after, isSpace d = true) (hafter' : ∀ d ∈ after', isSpace d = true) :
    xs = ys ∧ c = c' := by
  -- Behind the one there are only blanks, so the other cannot be there.
  have hnone {d : Char} (hd : isSpace d = false) {zs ws : List Char}
      (hzs : ∀ e ∈ zs, isSpace e = true) : ∀ us, zs ≠ us ++ d :: ws := by
    rintro us rfl
    rw [hzs d (List.mem_append_right us List.mem_cons_self)] at hd
    cases hd
  rcases List.append_eq_append_iff.1 h with ⟨us, rfl, hus⟩ | ⟨us, rfl, hus⟩
  · cases us with
    | nil => exact ⟨(List.append_nil xs).symm, (List.cons.inj hus).1⟩
    | cons u us => exact absurd (List.cons.inj hus).2 (hnone hc' hafter us)
  · cases us with
    | nil => exact ⟨List.append_nil ys, (List.cons.inj hus).1.symm⟩
    | cons u us => exact absurd (List.cons.inj hus).2 (hnone hc hafter' us)

/-- Within an object a bracket is open. -/
theorem scan_within {blanks inner : List Char} (hblanks : ∀ c ∈ blanks, isSpace c = true)
    (hinner : Balanced inner) (hcut : ∃ c ∈ ds, isSpace c = false)
    (h : ds ++ cs = blanks ++ '\x7b' :: inner) :
    ∃ d p, scan (0, .outside) ds = some (d + 1, p) := by
  rcases List.append_eq_append_iff.1 h with ⟨us, rfl, -⟩ | ⟨us, rfl, hus⟩
  · obtain ⟨c, hc, hspace⟩ := hcut
    rw [hblanks c (List.mem_append_left us hc)] at hspace
    cases hspace
  · cases us with
    | nil =>
      obtain ⟨c, hc, hspace⟩ := hcut
      rw [hblanks c (by simpa using hc)] at hspace
      cases hspace
    | cons u us =>
      rw [List.cons_append] at hus
      obtain ⟨rfl, rfl⟩ := List.cons.inj hus
      rw [Balanced, scan_append] at hinner
      obtain ⟨⟨d, p⟩, hus, -⟩ := Option.bind_eq_some_iff.1 hinner
      refine ⟨d, p, (scan_append_of_eq (balanced_of_isSpace hblanks)).trans ?_⟩
      exact scan_add hus 1

/-- **No tail of a JSON text is an object**, unless nothing but blanks is cut off. -/
theorem not_object_of_tail {v : Json} {ms : List (String × Json)}
    (hcut : ∃ c ∈ ds, isSpace c = false) (h : read (String.ofList (ds ++ cs)) = .ok v) :
    read (String.ofList cs) ≠ .ok (.object ms) := by
  intro htail
  obtain ⟨blanks, core, after, rfl, hblanks, hafter, hcore⟩ := exists_core_of_read htail
  obtain ⟨blanks', core', after', hwhole, hblanks', hafter', hcore'⟩ := exists_core_of_read h
  have htail := hcore.balanced_between hblanks hafter
  have hbalanced := hwhole ▸ hcore'.balanced_between hblanks' hafter'
  cases hcore with
  | other hv => exact hv _ rfl
  | @object _ inner hinner =>
    have hhead : (blanks ++ ('\x7b' :: inner ++ ['\x7d'] ++ after)).head? ≠ some '"' := by
      cases blanks with
      | nil => exact fun h => by cases h
      | cons b blanks =>
        rintro ⟨⟩
        cases hblanks _ List.mem_cons_self
    have hds : Balanced ds := balanced_of_tail hbalanced htail hhead
    cases hcore' with
    | @other _ init c hv hflat hspace hc =>
      have hlast : (ds ++ (blanks ++ '\x7b' :: inner)) ++ '\x7d' :: after =
          (blanks' ++ init) ++ c :: after' := by simpa using hwhole
      exact hc (eq_of_append_isSpace hlast rfl hspace hafter hafter').2.symm
    | @object _ inner' hinner' =>
      have hlast : (ds ++ (blanks ++ '\x7b' :: inner)) ++ '\x7d' :: after =
          (blanks' ++ '\x7b' :: inner') ++ '\x7d' :: after' := by simpa using hwhole
      obtain ⟨hfront, -⟩ := eq_of_append_isSpace hlast rfl rfl hafter hafter'
      obtain ⟨d, p, hopen⟩ := scan_within hblanks' hinner' hcut hfront
      rw [hds] at hopen
      cases hopen

end Instrument.Json
