import Mathlib.Data.List.Infix
import Mathlib.Data.Nat.Notation
import Mathlib.Logic.Function.Iterate

/-!
# Readers and Writers of Token Streams

Programs that take tokens from a state one at a time, and programs that put tokens into one, as
two monads whose values carry what makes them composable: a reader goes by the tokens ahead of it
alone, and a writer puts down the same tokens wherever it starts, or finds too little room.

## Main definitions

* `Source`, `Sink`: states that tokens are taken from and put into.
* `Reader`, `Writer`: programs over a source and over a sink.
* `Reader.Reads d tokens a`: the tokens are a form of `a` for the reader `d`.
* `Reader.Refuses d tokens e`: the reader `d` ends on the tokens with the error `e`.
* `Writer.Writes e tokens a`: the writer `e` puts down the tokens.

## Main results

* `Reader.Reads.bind`, `Writer.Writes.bind`: the tokens of a sequence are the tokens of its parts.
* `Reader.reads_of_run`: whatever a reader accepts, it accepts by a form it has taken.
* `Writer.writes_of_run`: whatever a writer achieves, it achieves by the tokens it puts down.
-/

namespace Jpv2g

/-! ## Reading -/

/-- A state that tokens are taken from. -/
structure Source (σ β : Type) where
  /-- The tokens ahead. -/
  ahead : σ → List β
  /-- Pass over the next token. -/
  skip : σ → σ
  ahead_skip : ∀ s, ahead (skip s) = (ahead s).tail

namespace Source

variable {σ β ε α : Type} (src : Source σ β)

/-- Pass over the next tokens. -/
def advance (count : ℕ) (s : σ) : σ := src.skip^[count] s

@[simp]
theorem advance_zero (s : σ) : src.advance 0 s = s := rfl

theorem advance_one (s : σ) : src.advance 1 s = src.skip s := rfl

/-- Passing over tokens in two steps is passing over them in one. -/
theorem advance_add (first second : ℕ) (s : σ) :
    src.advance (first + second) s = src.advance second (src.advance first s) := by
  rw [advance, advance, advance, Nat.add_comm, Function.iterate_add_apply]

/-- What is ahead then are the tokens behind those passed over. -/
theorem ahead_advance (count : ℕ) (s : σ) :
    src.ahead (src.advance count s) = (src.ahead s).drop count := by
  induction count generalizing s with
  | zero => rfl
  | succ count ih =>
    rw [Nat.add_comm, advance_add, ih, advance_one, ahead_skip, List.drop_tail]
    congr 1
    omega

/-- From the one state to the other exactly the tokens are taken. -/
def Takes (s : σ) (tokens : List β) (s' : σ) : Prop :=
  tokens <+: src.ahead s ∧ s' = src.advance tokens.length s

/-- No token can always be taken. -/
theorem takes_nil (s : σ) : src.Takes s [] s := ⟨List.nil_prefix, rfl⟩

variable {src} in
/-- What is taken one after the other is taken together. -/
theorem Takes.append {s t u : σ} {tokens tokens' : List β} (h : src.Takes s tokens t)
    (h' : src.Takes t tokens' u) : src.Takes s (tokens ++ tokens') u := by
  obtain ⟨⟨rest, hrest⟩, rfl⟩ := h
  obtain ⟨⟨rest', hrest'⟩, rfl⟩ := h'
  rw [ahead_advance, ← hrest, List.drop_left] at hrest'
  refine ⟨⟨rest', ?_⟩, ?_⟩
  · rw [List.append_assoc, hrest', hrest]
  · rw [List.length_append, advance_add]

variable {src} in
/-- What can be taken first and what can be taken then can be taken together, and the first part
of what can be taken together can be taken first. -/
theorem Takes.split {s u : σ} {tokens tokens' : List β} (h : src.Takes s (tokens ++ tokens') u) :
    ∃ t, src.Takes s tokens t ∧ src.Takes t tokens' u := by
  obtain ⟨⟨rest, hrest⟩, rfl⟩ := h
  refine ⟨src.advance tokens.length s, ⟨⟨tokens' ++ rest, ?_⟩, rfl⟩, ⟨⟨rest, ?_⟩, ?_⟩⟩
  · rw [← List.append_assoc, hrest]
  · rw [ahead_advance, ← hrest, List.append_assoc, List.drop_left]
  · rw [List.length_append, advance_add]

/-- How `run` ends from `s` is decided by the tokens ahead: it takes a first part of them and goes
by nothing else, or it fails on all states with the same tokens ahead. -/
def Local (run : σ → Except ε (α × σ)) (s : σ) : Prop :=
  (∃ tokens a s', src.Takes s tokens s' ∧ ∀ t t', src.Takes t tokens t' → run t = .ok (a, t')) ∨
    ∃ e, ∀ t, src.ahead t = src.ahead s → run t = .error e

end Source

/-- A program that takes tokens from a source and goes by nothing else. -/
structure Reader {σ β : Type} (src : Source σ β) (ε α : Type) where
  run : σ → Except ε (α × σ)
  isLocal : ∀ s, src.Local run s

namespace Reader

variable {σ β ε α γ : Type} {src : Source σ β}

/-- Take no token. -/
def done (a : α) : Reader src ε α where
  run s := .ok (a, s)
  isLocal s := .inl ⟨[], a, s, src.takes_nil s, fun _ _ h => by rw [h.2]; rfl⟩

/-- Go on with what the first reader has left. -/
def andThen (d : Reader src ε α) (f : α → Reader src ε γ) : Reader src ε γ where
  run s :=
    match d.run s with
    | .error e => .error e
    | .ok (a, s) => (f a).run s
  isLocal s := by
    rcases d.isLocal s with ⟨tokens, a, s', htakes, hrun⟩ | ⟨e, hrun⟩
    · rcases (f a).isLocal s' with ⟨tokens', c, s'', htakes', hrun'⟩ | ⟨e, hrun'⟩
      · refine .inl ⟨tokens ++ tokens', c, s'', htakes.append htakes', fun t u h => ?_⟩
        obtain ⟨t', hfirst, hsecond⟩ := h.split
        simp only [hrun t t' hfirst, hrun' t' u hsecond]
      · refine .inr ⟨e, fun t ht => ?_⟩
        have hfirst : src.Takes t tokens (src.advance tokens.length t) := ⟨ht ▸ htakes.1, rfl⟩
        have hsecond : src.ahead (src.advance tokens.length t) = src.ahead s' := by
          rw [htakes.2, src.ahead_advance, src.ahead_advance, ht]
        simp only [hrun t _ hfirst, hrun' _ hsecond]
    · exact .inr ⟨e, fun t ht => by simp only [hrun t ht]⟩

/-- Give up. -/
def fail (e : ε) : Reader src ε α where
  run _ := .error e
  isLocal _ := .inr ⟨e, fun _ _ => rfl⟩

/-- Take no token, and end with the result. -/
def lift : Except ε α → Reader src ε α
  | .ok a => done a
  | .error e => fail e

instance : Monad (Reader src ε) where
  pure := done
  bind := andThen

@[simp]
theorem run_pure (a : α) (s : σ) : (pure a : Reader src ε α).run s = .ok (a, s) := rfl

@[simp]
theorem run_fail (e : ε) (s : σ) : (fail e : Reader src ε α).run s = .error e := rfl

theorem run_bind (d : Reader src ε α) (f : α → Reader src ε γ) (s : σ) :
    (d >>= f).run s =
      match d.run s with
      | .error e => .error e
      | .ok (a, s) => (f a).run s :=
  rfl

/-- A sequence succeeds when its parts do. -/
theorem run_bind_eq_ok {d : Reader src ε α} {f : α → Reader src ε γ} {s s' : σ} {c : γ} :
    (d >>= f).run s = .ok (c, s') ↔
      ∃ a t, d.run s = .ok (a, t) ∧ (f a).run t = .ok (c, s') := by
  rw [run_bind]
  constructor
  · intro h
    split at h
    · cases h
    next a t hd => exact ⟨a, t, hd, h⟩
  · rintro ⟨a, t, hd, hf⟩
    rw [hd]
    exact hf

/-- A lifted result takes nothing. -/
theorem run_lift_eq_ok {r : Except ε α} {s s' : σ} {a : α} :
    (lift r : Reader src ε α).run s = .ok (a, s') ↔ r = .ok a ∧ s' = s := by
  cases r with
  | ok b =>
    constructor
    · intro h
      obtain ⟨rfl, rfl⟩ := Prod.mk.inj (Except.ok.inj h)
      exact ⟨rfl, rfl⟩
    · rintro ⟨h, rfl⟩
      rw [Except.ok.inj h]
      rfl
  | error e => exact iff_of_false (fun h => nomatch h) fun h => nomatch h.1

/-- The tokens are a form of `a`: wherever they are ahead, the reader takes them and returns `a`. -/
def Reads (d : Reader src ε α) (tokens : List β) (a : α) : Prop :=
  ∀ s s', src.Takes s tokens s' → d.run s = .ok (a, s')

/-- A value that is there takes no token. -/
theorem reads_pure (a : α) : (pure a : Reader src ε α).Reads [] a :=
  fun _ _ h => by rw [h.2]; rfl

/-- The form of a sequence is the form of its first part and then that of the second. -/
theorem Reads.bind {d : Reader src ε α} {f : α → Reader src ε γ} {tokens tokens' : List β} {a : α}
    {c : γ} (hd : d.Reads tokens a) (hf : (f a).Reads tokens' c) :
    (d >>= f).Reads (tokens ++ tokens') c := by
  intro s u h
  obtain ⟨t, hfirst, hsecond⟩ := h.split
  rw [run_bind, hd s t hfirst]
  exact hf t u hsecond

/-- What is computed from a value has the forms of the value. -/
theorem Reads.bind_pure {d : Reader src ε α} {tokens : List β} {a : α} (hd : d.Reads tokens a)
    (g : α → γ) : (d >>= fun a => pure (g a)).Reads tokens (g a) := by
  have h : (d >>= fun a => pure (g a)).Reads (tokens ++ []) (g a) := hd.bind (reads_pure (g a))
  rwa [List.append_nil] at h

/-- The tokens are refused: wherever they are ahead, the reader ends with the error. -/
def Refuses (d : Reader src ε α) (tokens : List β) (e : ε) : Prop :=
  ∀ s s', src.Takes s tokens s' → d.run s = .error e

/-- A reader that fails refuses every stream. -/
theorem refuses_fail (e : ε) : (fail e : Reader src ε α).Refuses [] e := fun _ _ _ => rfl

/-- Tokens are refused behind a form of the first part of a sequence. -/
theorem Reads.bind_refuses {d : Reader src ε α} {f : α → Reader src ε γ} {tokens tokens' : List β}
    {a : α} {e : ε} (hd : d.Reads tokens a) (hf : (f a).Refuses tokens' e) :
    (d >>= f).Refuses (tokens ++ tokens') e := by
  intro s u h
  obtain ⟨t, hfirst, hsecond⟩ := h.split
  rw [run_bind, hd s t hfirst]
  exact hf t u hsecond

/-- A reader that succeeds has taken a form of what it returns. -/
theorem reads_of_run {d : Reader src ε α} {s s' : σ} {a : α} (h : d.run s = .ok (a, s')) :
    ∃ tokens, src.Takes s tokens s' ∧ d.Reads tokens a := by
  rcases d.isLocal s with ⟨tokens, a', t, htakes, hrun⟩ | ⟨e, hrun⟩
  · obtain ⟨rfl, rfl⟩ := Prod.mk.inj (Except.ok.inj (h.symm.trans (hrun s t htakes)))
    exact ⟨tokens, htakes, hrun⟩
  · cases h.symm.trans (hrun s rfl)

/-- Two states with the same tokens ahead are read alike. -/
theorem run_congr (d : Reader src ε α) {s t : σ} (h : src.ahead s = src.ahead t) :
    (∃ a tokens s' t', d.run s = .ok (a, s') ∧ d.run t = .ok (a, t') ∧
        src.Takes s tokens s' ∧ src.Takes t tokens t') ∨
      ∃ e, d.run s = .error e ∧ d.run t = .error e := by
  rcases d.isLocal s with ⟨tokens, a, s', htakes, hrun⟩ | ⟨e, hrun⟩
  · have htakes' : src.Takes t tokens (src.advance tokens.length t) := ⟨h ▸ htakes.1, rfl⟩
    exact .inl ⟨a, tokens, s', _, hrun s s' htakes, hrun t _ htakes', htakes, htakes'⟩
  · exact .inr ⟨e, hrun s rfl, hrun t h.symm⟩

end Reader

/-! ## Writing -/

/-- A state that tokens are put into while there is room. -/
structure Sink (σ β : Type) where
  /-- How many tokens there is room for. -/
  room : σ → ℕ
  /-- Put down the next token. -/
  push : σ → β → σ
  room_push : ∀ s b, room (push s b) = room s - 1

namespace Sink

variable {σ β : Type} (snk : Sink σ β)

/-- Put down the next tokens. -/
def pushAll (s : σ) (tokens : List β) : σ := tokens.foldl snk.push s

@[simp]
theorem pushAll_nil (s : σ) : snk.pushAll s [] = s := rfl

@[simp]
theorem pushAll_cons (s : σ) (b : β) (tokens : List β) :
    snk.pushAll s (b :: tokens) = snk.pushAll (snk.push s b) tokens := rfl

/-- Tokens put down in two steps are put down in one. -/
theorem pushAll_append (s : σ) (tokens tokens' : List β) :
    snk.pushAll s (tokens ++ tokens') = snk.pushAll (snk.pushAll s tokens) tokens' :=
  List.foldl_append

/-- Every token takes its room. -/
theorem room_pushAll (s : σ) (tokens : List β) :
    snk.room (snk.pushAll s tokens) = snk.room s - tokens.length := by
  induction tokens generalizing s with
  | nil => rfl
  | cons b tokens ih =>
    rw [pushAll_cons, ih, snk.room_push, List.length_cons]
    omega

/-- Put down the tokens and end with `result`, or with `full` when there is too little room. -/
def put {ε α : Type} (full : ε) (tokens : List β) (result : Except ε α) (s : σ) :
    Except ε (α × σ) :=
  if snk.room s < tokens.length then .error full
  else result.map fun a => (a, snk.pushAll s tokens)

end Sink

/-- A program that puts the same tokens into a sink wherever it starts, and ends with the same
result unless there is too little room for them. -/
@[ext]
structure Writer {σ β ε : Type} (snk : Sink σ β) (full : ε) (α : Type) where
  run : σ → Except ε (α × σ)
  isUniform : ∃ tokens result, run = snk.put full tokens result

namespace Writer

variable {σ β ε α γ : Type} {snk : Sink σ β} {full : ε}

/-- Put down no token. -/
def done (a : α) : Writer snk full α where
  run s := .ok (a, s)
  isUniform := ⟨[], .ok a, rfl⟩

/-- Give up. -/
def fail (e : ε) : Writer snk full α where
  run _ := .error e
  isUniform := ⟨[], .error e, rfl⟩

/-- Two blocks of tokens, the second one behind the first, are one block. -/
theorem put_then {run : σ → Except ε (α × σ)} (run' : α → σ → Except ε (γ × σ))
    {tokens tokens' : List β} {a : α} {result : Except ε γ}
    (hrun : run = snk.put full tokens (.ok a)) (hrun' : run' a = snk.put full tokens' result) :
    (fun s => match run s with
      | .error err => .error err
      | .ok (a, s) => run' a s) = snk.put full (tokens ++ tokens') result := by
  funext s
  by_cases hfirst : snk.room s < tokens.length
  · have hboth : snk.room s < (tokens ++ tokens').length := by
      rw [List.length_append]
      omega
    simp only [hrun, Sink.put, if_pos hfirst, if_pos hboth]
  · have hsecond : snk.room (snk.pushAll s tokens) < tokens'.length ↔
        snk.room s < (tokens ++ tokens').length := by
      rw [snk.room_pushAll, List.length_append]
      omega
    simp only [hrun, Sink.put, if_neg hfirst, Except.map, hrun', hsecond, snk.pushAll_append]

/-- Nothing comes behind a block that ends in an error. -/
theorem put_error_then {run : σ → Except ε (α × σ)} (run' : α → σ → Except ε (γ × σ))
    {tokens : List β} {err : ε} (hrun : run = snk.put full tokens (.error err)) :
    (fun s => match run s with
      | .error err => .error err
      | .ok (a, s) => run' a s) = snk.put full tokens (.error err) := by
  funext s
  by_cases hfull : snk.room s < tokens.length
  · simp only [hrun, Sink.put, if_pos hfull]
  · simp only [hrun, Sink.put, if_neg hfull, Except.map]

/-- Go on behind what the first writer has put down. -/
def andThen (e : Writer snk full α) (f : α → Writer snk full γ) : Writer snk full γ where
  run s :=
    match e.run s with
    | .error err => .error err
    | .ok (a, s) => (f a).run s
  isUniform := by
    obtain ⟨tokens, result, hrun⟩ := e.isUniform
    cases result with
    | error err => exact ⟨tokens, .error err, put_error_then (fun a => (f a).run) hrun⟩
    | ok a =>
      obtain ⟨tokens', result, hrun'⟩ := (f a).isUniform
      exact ⟨tokens ++ tokens', result, put_then (fun a => (f a).run) hrun hrun'⟩

/-- Put down no token, and end with the result. -/
def lift : Except ε α → Writer snk full α
  | .ok a => done a
  | .error e => fail e

instance : Monad (Writer snk full) where
  pure := done
  bind := andThen

@[simp]
theorem run_pure (a : α) (s : σ) : (pure a : Writer snk full α).run s = .ok (a, s) := rfl

@[simp]
theorem run_fail (e : ε) (s : σ) : (fail e : Writer snk full α).run s = .error e := rfl

/-- Nothing is done behind the writer. -/
theorem bind_pure (e : Writer snk full α) : e >>= pure = e := by
  ext s
  change (match e.run s with
    | .error err => .error err
    | .ok (a, s) => .ok (a, s)) = e.run s
  cases e.run s <;> rfl

/-- The writer puts down exactly the tokens, when there is room for them. -/
def Writes (e : Writer snk full α) (tokens : List β) (a : α) : Prop :=
  e.run = snk.put full tokens (.ok a)

/-- The writer puts down the tokens and then gives up. -/
def GivesUp (e : Writer snk full α) (err : ε) : Prop :=
  ∃ tokens, e.run = snk.put full tokens (.error err)

/-- A value that is there puts down no token. -/
theorem writes_pure (a : α) : (pure a : Writer snk full α).Writes [] a := rfl

theorem givesUp_fail (err : ε) : (fail err : Writer snk full α).GivesUp err := ⟨[], rfl⟩

/-- A sequence puts down the tokens of its first part and then those of the second. -/
theorem Writes.bind {e : Writer snk full α} {f : α → Writer snk full γ} {tokens tokens' : List β}
    {a : α} {c : γ} (he : e.Writes tokens a) (hf : (f a).Writes tokens' c) :
    (e >>= f).Writes (tokens ++ tokens') c :=
  put_then (fun a => (f a).run) he hf

/-- A sequence whose second part gives up gives up. -/
theorem Writes.bind_givesUp {e : Writer snk full α} {f : α → Writer snk full γ} {tokens : List β}
    {a : α} {err : ε} (he : e.Writes tokens a) (hf : (f a).GivesUp err) :
    (e >>= f).GivesUp err := by
  obtain ⟨tokens', hf⟩ := hf
  exact ⟨tokens ++ tokens', put_then (fun a => (f a).run) he hf⟩

/-- A sequence whose first part gives up gives up. -/
theorem GivesUp.bind {e : Writer snk full α} {f : α → Writer snk full γ} {err : ε}
    (he : e.GivesUp err) : (e >>= f).GivesUp err := by
  obtain ⟨tokens, he⟩ := he
  exact ⟨tokens, put_error_then (fun a => (f a).run) he⟩

/-- A writer puts down what it denotes, or gives up. -/
theorem writes_or_givesUp (e : Writer snk full α) :
    (∃ tokens a, e.Writes tokens a) ∨ ∃ err, e.GivesUp err := by
  obtain ⟨tokens, result, hrun⟩ := e.isUniform
  cases result with
  | ok a => exact .inl ⟨tokens, a, hrun⟩
  | error err => exact .inr ⟨err, tokens, hrun⟩

/-- Where there is room, the tokens are put down. -/
theorem Writes.run_of_room {e : Writer snk full α} {tokens : List β} {a : α}
    (he : e.Writes tokens a) {s : σ} (hroom : tokens.length ≤ snk.room s) :
    e.run s = .ok (a, snk.pushAll s tokens) := by
  rw [he, Sink.put, if_neg (Nat.not_lt.mpr hroom)]
  rfl

/-- Where there is too little room, the writer says so. -/
theorem Writes.run_of_full {e : Writer snk full α} {tokens : List β} {a : α}
    (he : e.Writes tokens a) {s : σ} (hfull : snk.room s < tokens.length) :
    e.run s = .error full := by
  rw [he, Sink.put, if_pos hfull]

/-- A writer that gives up never succeeds. -/
theorem GivesUp.run_ne_ok {e : Writer snk full α} {err : ε} (he : e.GivesUp err) (s : σ)
    (r : α × σ) : e.run s ≠ .ok r := by
  obtain ⟨tokens, he⟩ := he
  rw [he, Sink.put]
  split
  · simp
  · simp [Except.map]

/-- A writer that succeeds has put down its tokens, for which there was room. -/
theorem writes_of_run {e : Writer snk full α} {s s' : σ} {a : α} (h : e.run s = .ok (a, s')) :
    ∃ tokens, e.Writes tokens a ∧ tokens.length ≤ snk.room s ∧ s' = snk.pushAll s tokens := by
  rcases e.writes_or_givesUp with ⟨tokens, a', he⟩ | ⟨err, he⟩
  · by_cases hfull : snk.room s < tokens.length
    · cases h.symm.trans (he.run_of_full hfull)
    · have hroom := Nat.not_lt.mp hfull
      obtain ⟨rfl, rfl⟩ := Prod.mk.inj (Except.ok.inj (h.symm.trans (he.run_of_room hroom)))
      exact ⟨tokens, he, hroom, rfl⟩
  · exact absurd h (he.run_ne_ok s _)

end Writer

end Jpv2g
