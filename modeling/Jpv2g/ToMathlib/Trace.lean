import Mathlib.Data.List.Basic
import Mathlib.Data.List.Forall2
import Mathlib.Data.List.Induction
import Mathlib.Order.Basic

/-!
# Past-Time Properties of Event Traces

A trace is the list of the events emitted so far, oldest first. This file provides the past-time
predicates used to state ordering properties of a run, together with the lemmas that extend each
of them by the events of one more step.

## Main definitions

* `Trace.Since q p t`: some event of `t` satisfies `p`, and every event after it satisfies `q`.
* `Trace.InOrder ps t`: events satisfying the predicates `ps` occur in `t` in that order.
* `Trace.FollowedBy p Q t`: some event of `t` satisfies `p`, and `Q` holds of what follows it.
* `Trace.FirstSat p e t`: `e` is the first event of `t` that satisfies `p`.
* `Trace.Justified R t`: every event of `t` is related by `R` to the events before it.
* `Trace.sinceLast p t`: the events of `t` after the last one that satisfies `p`.
* `Trace.lastSome f t`: what `f` says of the last event of which it says anything.
-/

namespace Trace

variable {ε : Type*} {p q : ε → Prop} {ps qs : List (ε → Prop)} {t es : List ε} {e : ε}

/-- Some event of the trace satisfies `p`, and every later event satisfies `q`. -/
def Since (q p : ε → Prop) (t : List ε) : Prop :=
  ∃ pre e post, t = pre ++ e :: post ∧ p e ∧ ∀ x ∈ post, q x

/-- The trace contains events satisfying the predicates of the list, in the order listed. -/
def InOrder (ps : List (ε → Prop)) (t : List ε) : Prop :=
  ∃ l : List ε, l.Sublist t ∧ List.Forall₂ (fun p e => p e) ps l

/-- Some event of the trace satisfies `p`, and `Q` holds of the events after it. -/
def FollowedBy (p : ε → Prop) (Q : List ε → Prop) (t : List ε) : Prop :=
  ∃ pre e post, t = pre ++ e :: post ∧ p e ∧ Q post

/-- The event is the first of the trace that satisfies `p`. -/
def FirstSat (p : ε → Prop) (e : ε) (t : List ε) : Prop :=
  p e ∧ ∃ pre post, t = pre ++ e :: post ∧ ∀ x ∈ pre, ¬p x

/-- Every event of the trace is related by `R` to the list of the events before it. -/
def Justified (R : List ε → ε → Prop) (t : List ε) : Prop :=
  ∀ pre e post, t = pre ++ e :: post → R pre e

/-- The events after the last one that satisfies `p`, or all of them when none does. -/
def sinceLast (p : ε → Bool) (t : List ε) : List ε :=
  t.foldl (fun segment e => if p e then [] else segment ++ [e]) []

/-- What `f` says of the last event of which it says anything. -/
def lastSome {α : Type*} (f : ε → Option α) (t : List ε) : Option α :=
  t.foldl (fun last e => (f e).or last) none

/-- An event of a trace with one more event is the new one, or stands in the old trace with the same
past. -/
theorem concat_eq_append_cons {x : ε} {pre post : List ε} (h : t ++ [e] = pre ++ x :: post) :
    (t = pre ∧ e = x ∧ post = []) ∨ ∃ post', post = post' ++ [e] ∧ t = pre ++ x :: post' := by
  rcases List.eq_nil_or_concat post with rfl | ⟨post', y, rfl⟩
  · obtain ⟨ht, hx⟩ := List.append_inj' h rfl
    exact .inl ⟨ht, List.singleton_inj.mp hx, rfl⟩
  · have h' : t ++ [e] = (pre ++ x :: post') ++ [y] := by simpa using h
    obtain ⟨ht, hy⟩ := List.append_inj' h' rfl
    rw [List.singleton_inj.mp hy]
    exact .inr ⟨post', by simp, ht⟩

section Since

/-- An event satisfying `p` starts a `Since`. -/
theorem since_concat (hp : p e) : Since q p (t ++ [e]) :=
  ⟨t, e, [], rfl, hp, by simp⟩

/-- A `Since` lasts as long as the new events satisfy `q`. -/
theorem Since.append (h : Since q p t) (hq : ∀ x ∈ es, q x) : Since q p (t ++ es) := by
  obtain ⟨pre, e, post, rfl, hp, hpost⟩ := h
  refine ⟨pre, e, post ++ es, by simp, hp, ?_⟩
  intro x hx
  rcases List.mem_append.mp hx with hx | hx
  · exact hpost x hx
  · exact hq x hx

/-- A `Since` after one more event starts there or lasts through it. -/
theorem since_concat_iff : Since q p (t ++ [e]) ↔ p e ∨ Since q p t ∧ q e := by
  constructor
  · rintro ⟨pre, x, post, heq, hp, hpost⟩
    -- the starting event is the new one exactly when nothing follows it
    rcases concat_eq_append_cons heq with ⟨-, rfl, -⟩ | ⟨post', rfl, ht⟩
    · exact .inl hp
    · exact .inr ⟨⟨pre, x, post', ht, hp, fun z hz => hpost z (by simp [hz])⟩,
        hpost e (by simp)⟩
  · rintro (hp | ⟨h, hq⟩)
    · exact since_concat hp
    · exact h.append (by simpa using hq)

/-- A `Since` cannot start at events that do not satisfy `p`. -/
theorem Since.of_append (h : Since q p (t ++ es)) (hp : ∀ x ∈ es, ¬p x) : Since q p t := by
  induction es using List.reverseRecOn with
  | nil => simpa using h
  | append_singleton es e ih =>
    rw [← List.append_assoc, since_concat_iff] at h
    rcases h with hpe | ⟨h, -⟩
    · exact absurd hpe (hp e (by simp))
    · exact ih h fun x hx => hp x (by simp [hx])

/-- The empty trace satisfies no `Since`. -/
theorem not_since_nil : ¬Since q p ([] : List ε) := by
  rintro ⟨pre, e, post, heq, -⟩
  simp at heq

end Since

section FollowedBy

variable {Q Q' : List ε → Prop}

/-- An event satisfying `p` is followed by nothing yet. -/
theorem followedBy_concat (hp : p e) (hQ : Q []) : FollowedBy p Q (t ++ [e]) :=
  ⟨t, e, [], rfl, hp, hQ⟩

/-- New events extend what follows. -/
theorem FollowedBy.append (h : FollowedBy p Q t) (hQ : ∀ post, Q post → Q' (post ++ es)) :
    FollowedBy p Q' (t ++ es) := by
  obtain ⟨pre, e, post, rfl, hp, hpost⟩ := h
  exact ⟨pre, e, post ++ es, by simp, hp, hQ post hpost⟩

/-- The property of what follows may be weakened. -/
theorem FollowedBy.imp (h : FollowedBy p Q t) (hQ : ∀ post, Q post → Q' post) :
    FollowedBy p Q' t := by
  obtain ⟨pre, e, post, rfl, hp, hpost⟩ := h
  exact ⟨pre, e, post, rfl, hp, hQ post hpost⟩

end FollowedBy

section FirstSat

/-- The first event satisfying `p` stays the first. -/
theorem FirstSat.append (h : FirstSat p e t) : FirstSat p e (t ++ es) := by
  obtain ⟨hp, pre, post, rfl, hpre⟩ := h
  exact ⟨hp, pre, post ++ es, by simp, hpre⟩

/-- An event satisfying `p` after events that do not is the first. -/
theorem firstSat_concat (hp : p e) (ht : ∀ x ∈ t, ¬p x) : FirstSat p e (t ++ [e]) :=
  ⟨hp, t, [], rfl, ht⟩

/-- The first event satisfying `p` is one of the trace. -/
theorem FirstSat.mem (h : FirstSat p e t) : e ∈ t := by
  obtain ⟨-, pre, post, rfl, -⟩ := h
  simp

/-- There is one first event that satisfies `p`. -/
theorem FirstSat.unique {e' : ε} (h : FirstSat p e t) (h' : FirstSat p e' t) : e = e' := by
  obtain ⟨hp, pre, post, rfl, hpre⟩ := h
  obtain ⟨hp', pre', post', heq, hpre'⟩ := h'
  -- the shorter of the two prefixes would contain the other event
  rcases List.append_eq_append_iff.mp heq with ⟨mid, rfl, hmid⟩ | ⟨mid, rfl, hmid⟩
  · rcases mid with _ | ⟨x, mid⟩
    · exact (List.cons.inj hmid).1
    · obtain ⟨rfl, -⟩ := List.cons.inj hmid
      exact absurd hp (hpre' e (by simp))
  · rcases mid with _ | ⟨x, mid⟩
    · exact (List.cons.inj hmid).1.symm
    · obtain ⟨rfl, -⟩ := List.cons.inj hmid
      exact absurd hp' (hpre e' (by simp))

end FirstSat

section InOrder

/-- No predicate, no obligation. -/
theorem inOrder_nil : InOrder [] t := ⟨[], by simp, .nil⟩

/-- Order facts persist when events are appended. -/
theorem InOrder.append (h : InOrder ps t) : InOrder ps (t ++ es) := by
  obtain ⟨l, hl, hps⟩ := h
  exact ⟨l, hl.trans (List.sublist_append_left t es), hps⟩

/-- A new event satisfying `p` extends an ordered chain by `p`. -/
theorem InOrder.concat (h : InOrder ps t) (hp : p e) : InOrder (ps ++ [p]) (t ++ [e]) := by
  obtain ⟨l, hl, hps⟩ := h
  exact ⟨l ++ [e], hl.append (List.Sublist.refl _), List.rel_append hps (.cons hp .nil)⟩

/-- A new event satisfying `p` is a chain of its own. -/
theorem inOrder_last (hp : p e) : InOrder [p] (t ++ [e]) :=
  InOrder.concat (show InOrder [] t from inOrder_nil) hp

/-- The first part of an ordered chain is an ordered chain. -/
theorem InOrder.of_append (h : InOrder (ps ++ qs) t) : InOrder ps t := by
  obtain ⟨l, hl, hps⟩ := h
  refine ⟨l.take ps.length, (List.take_sublist _ _).trans hl, ?_⟩
  simpa using List.forall₂_take ps.length hps

/-- Every predicate of an ordered chain is satisfied by some event. -/
theorem InOrder.exists_mem (h : InOrder ps t) (hp : p ∈ ps) : ∃ e ∈ t, p e := by
  obtain ⟨l, hl, hps⟩ := h
  -- it is enough to look at the chosen events, one for each predicate
  suffices ∃ e ∈ l, p e by
    obtain ⟨e, he, hpe⟩ := this
    exact ⟨e, hl.subset he, hpe⟩
  clear hl
  induction hps with
  | nil => simp at hp
  | @cons p' e _ _ hpe _ ih =>
    rcases List.mem_cons.mp hp with rfl | hp
    · exact ⟨e, by simp, hpe⟩
    · obtain ⟨e', he', hpe'⟩ := ih hp
      exact ⟨e', by simp [he'], hpe'⟩

end InOrder

section SinceLast

variable {b : ε → Bool}

@[simp]
theorem sinceLast_nil : sinceLast b ([] : List ε) = [] := rfl

@[simp]
theorem sinceLast_concat :
    sinceLast b (t ++ [e]) = if b e then [] else sinceLast b t ++ [e] := by
  simp [sinceLast]

/-- Events that do not satisfy `b` extend the last segment. -/
theorem sinceLast_append (hes : ∀ e ∈ es, b e = false) :
    sinceLast b (t ++ es) = sinceLast b t ++ es := by
  induction es using List.reverseRecOn with
  | nil => simp
  | append_singleton es e ih =>
    have hinit := ih fun x hx => hes x (by simp [hx])
    rw [← List.append_assoc, sinceLast_concat, hes e (by simp), hinit]
    simp

/-- The last segment has events of the trace, of which none satisfies `b`. -/
theorem of_mem_sinceLast (h : e ∈ sinceLast b t) : e ∈ t ∧ b e = false := by
  induction t using List.reverseRecOn with
  | nil => simp at h
  | append_singleton t x ih =>
    rw [sinceLast_concat] at h
    split at h
    · simp at h
    · rcases List.mem_append.mp h with h | h
      · exact ⟨List.mem_append_left _ (ih h).1, (ih h).2⟩
      · rw [List.mem_singleton.mp h]
        exact ⟨by simp, by simpa using ‹¬b x = true›⟩

end SinceLast

section LastSome

variable {α : Type*} {f : ε → Option α}

@[simp]
theorem lastSome_nil : lastSome f ([] : List ε) = none := rfl

@[simp]
theorem lastSome_concat : lastSome f (t ++ [e]) = (f e).or (lastSome f t) := by
  simp [lastSome]

theorem lastSome_append : lastSome f (t ++ es) = (lastSome f es).or (lastSome f t) := by
  induction es using List.reverseRecOn with
  | nil => simp
  | append_singleton es e ih =>
    rw [← List.append_assoc, lastSome_concat, lastSome_concat, ih, Option.or_assoc]

theorem lastSome_eq_none (h : ∀ e ∈ t, f e = none) : lastSome f t = none := by
  induction t using List.reverseRecOn with
  | nil => rfl
  | append_singleton t e ih =>
    rw [lastSome_concat, h e (by simp), ih fun x hx => h x (by simp [hx]), Option.or_none]

theorem lastSome_congr {g : ε → Option α} (h : ∀ e ∈ t, f e = g e) :
    lastSome f t = lastSome g t := by
  induction t using List.reverseRecOn with
  | nil => rfl
  | append_singleton t e ih =>
    rw [lastSome_concat, lastSome_concat, h e (by simp), ih fun x hx => h x (by simp [hx])]

theorem lastSome_flatMap {ι : Type*} {g : ι → List ε} (l : List ι) :
    lastSome f (l.flatMap g) = lastSome (fun x => lastSome f (g x)) l := by
  induction l using List.reverseRecOn with
  | nil => rfl
  | append_singleton l x ih =>
    rw [List.flatMap_append, List.flatMap_singleton, lastSome_append, lastSome_concat, ih]

/-- Events of which `f` says nothing can be left out. -/
theorem lastSome_filter {b : ε → Bool} (h : ∀ e ∈ t, b e = false → f e = none) :
    lastSome f (t.filter b) = lastSome f t := by
  induction t using List.reverseRecOn with
  | nil => rfl
  | append_singleton t e ih =>
    have hinit := ih fun x hx => h x (by simp [hx])
    rw [List.filter_append, lastSome_append, lastSome_concat, hinit]
    cases hb : b e with
    | true => simp [hb, lastSome]
    | false => simp [hb, h e (by simp) hb]

/-- What `f` says last it says after the last event that satisfies `b`, or of that event. -/
theorem lastSome_eq_sinceLast_or {b : ε → Bool} (h : ∀ e, b e = true → (f e).isSome) :
    lastSome f t = (lastSome f (sinceLast b t)).or (lastSome f (t.filter b)) := by
  induction t using List.reverseRecOn with
  | nil => rfl
  | append_singleton t e ih =>
    rw [lastSome_concat, sinceLast_concat, List.filter_append]
    cases hb : b e with
    | true =>
      obtain ⟨a, ha⟩ := Option.isSome_iff_exists.mp (h e hb)
      simp [hb, ha]
    | false => simp [hb, ih, Option.or_assoc]

end LastSome

section Justified

variable {R : List ε → ε → Prop}

/-- The empty trace has nothing to justify. -/
@[simp]
theorem justified_nil : Justified R [] := by
  intro pre e post h
  simp at h

/-- A trace extended by one event is justified when the old trace and the new event are. -/
theorem Justified.concat (h : Justified R t) (he : R t e) : Justified R (t ++ [e]) := by
  intro pre x post heq
  rcases concat_eq_append_cons heq with ⟨rfl, rfl, -⟩ | ⟨post', -, ht⟩
  · exact he
  · exact h pre x post' ht

/-- The first part of a justified trace is justified. -/
theorem Justified.of_append (h : Justified R (t ++ es)) : Justified R t := by
  rintro pre e post rfl
  exact h pre e (post ++ es) (by simp)

/-- The last event of a justified trace is justified by the events before it. -/
theorem Justified.last (h : Justified R (t ++ [e])) : R t e :=
  h t e [] rfl

/-- A justified trace stays justified exactly when the new event is. -/
theorem Justified.concat_iff (h : Justified R t) : Justified R (t ++ [e]) ↔ R t e :=
  ⟨Justified.last, h.concat⟩

/-- A trace extended by events that `R` does not constrain stays justified. -/
theorem Justified.append (h : Justified R t)
    (hes : ∀ pre e post, es = pre ++ e :: post → R (t ++ pre) e) : Justified R (t ++ es) := by
  induction es using List.reverseRecOn with
  | nil => simpa using h
  | append_singleton es e ih =>
    have hinit : Justified R (t ++ es) := by
      refine ih fun pre x post heq => hes pre x (post ++ [e]) ?_
      simp [heq]
    have hlast : R (t ++ es) e := hes es e [] rfl
    simpa using hinit.concat hlast

end Justified

end Trace
