import Jpv2g.ToMathlib.TokenStream

/-!
# Writers and Readers of the Same Values

A writer and a reader that agree: what the one puts down for a value is what the other makes that
value of, for every value that fits, and the values that the reader returns fit, out of those in
scope. Records are transmitted field by field.

## Main definitions

* `Transmits`: a writer and a reader agree on the values that fit, where something is known.
* `Conveys`: they agree where nothing is known, and every value is in scope.

## Main results

* `Transmits.bind`, `Transmits.bindScope`: a field in front of the rest of a record.
* `Transmits.token`, `Transmits.last`, `Transmits.trail`: tokens that carry nothing, among the
  fields and behind them.
* `Transmits.inject`, `Transmits.map`: a value that another one is made of, or is carried by.
-/

namespace Jpv2g

variable {σ σ' β ε ε' α γ : Type} {src : Source σ β} {snk : Sink σ' β} {full : ε'}

/-- The writer and the reader agree on the values that fit, out of those of which `known` is known
already: their forms are put down and read, and in scope the reader returns no other values. -/
structure Transmits (scope known : γ → Prop) (e : γ → Writer snk full Unit) (d : Reader src ε γ)
    (form : γ → List β) (fits : γ → Prop) : Prop where
  writes : ∀ {g}, known g → fits g → (e g).Writes (form g) ()
  reads : ∀ {g}, known g → fits g → d.Reads (form g) g
  accepts : ∀ {s g s'}, d.run s = .ok (g, s') → known g ∧ (scope g → fits g)

/-- The writer and the reader agree on the values that fit. -/
abbrev Conveys (e : γ → Writer snk full Unit) (d : Reader src ε γ) (form : γ → List β)
    (fits : γ → Prop) : Prop :=
  Transmits (fun _ => True) (fun _ => True) e d form fits

namespace Transmits

variable {scope known : γ → Prop} {e : γ → Writer snk full Unit} {d : Reader src ε γ}
  {form : γ → List β} {fits : γ → Prop}

/-- Two descriptions of the same writer. -/
theorem congr (h : Transmits scope known e d form fits) {e' : γ → Writer snk full Unit}
    {form' : γ → List β} {fits' : γ → Prop} (he : ∀ g, known g → e' g = e g)
    (hform : ∀ g, known g → form' g = form g) (hfits : ∀ g, known g → (fits' g ↔ fits g)) :
    Transmits scope known e' d form' fits' where
  writes hg hf := by
    rw [he _ hg, hform _ hg]
    exact h.writes hg ((hfits _ hg).mp hf)
  reads hg hf := by
    rw [hform _ hg]
    exact h.reads hg ((hfits _ hg).mp hf)
  accepts hrun := by
    obtain ⟨hg, hf⟩ := h.accepts hrun
    exact ⟨hg, fun hs => (hfits _ hg).mpr (hf hs)⟩

/-- A smaller scope. -/
theorem restrict (h : Transmits scope known e d form fits) {scope' : γ → Prop}
    (hscope : ∀ g, scope' g → scope g) : Transmits scope' known e d form fits where
  writes := h.writes
  reads := h.reads
  accepts hrun := ⟨(h.accepts hrun).1, fun hs => (h.accepts hrun).2 (hscope _ hs)⟩

/-- A field is transmitted, and then the rest, of which the field is known. The scope is that of
the field and that of the rest. -/
theorem bindScope {scope₁ : α → Prop} {e₁ : α → Writer snk full Unit} {d₁ : Reader src ε α}
    {form₁ : α → List β} {fits₁ : α → Prop}
    (h : Transmits scope₁ (fun _ => True) e₁ d₁ form₁ fits₁) (field : γ → α)
    {rest : α → Reader src ε γ}
    (hrest : ∀ a, (scope₁ a → fits₁ a) →
      Transmits scope (fun g => known g ∧ field g = a) e (rest a) form fits) :
    Transmits (fun g => scope₁ (field g) ∧ scope g) known (fun g => e₁ (field g) >>= fun _ => e g)
      (d₁ >>= rest) (fun g => form₁ (field g) ++ form g)
      (fun g => fits₁ (field g) ∧ fits g) where
  writes hg hf :=
    (h.writes trivial hf.1).bind ((hrest _ fun _ => hf.1).writes ⟨hg, rfl⟩ hf.2)
  reads hg hf := (h.reads trivial hf.1).bind ((hrest _ fun _ => hf.1).reads ⟨hg, rfl⟩ hf.2)
  accepts hrun := by
    obtain ⟨a, t, hfirst, hthen⟩ := Reader.run_bind_eq_ok.mp hrun
    have ha := (h.accepts hfirst).2
    obtain ⟨⟨hg, rfl⟩, hf⟩ := (hrest a ha).accepts hthen
    exact ⟨hg, fun hs => ⟨ha hs.1, hf hs.2⟩⟩

/-- A field is transmitted, and then the rest, of which the field is known. -/
theorem bind {e₁ : α → Writer snk full Unit} {d₁ : Reader src ε α} {form₁ : α → List β}
    {fits₁ : α → Prop} (h : Conveys e₁ d₁ form₁ fits₁) (field : γ → α)
    {rest : α → Reader src ε γ}
    (hrest : ∀ a, fits₁ a →
      Transmits scope (fun g => known g ∧ field g = a) e (rest a) form fits) :
    Transmits scope known (fun g => e₁ (field g) >>= fun _ => e g) (d₁ >>= rest)
      (fun g => form₁ (field g) ++ form g) (fun g => fits₁ (field g) ∧ fits g) :=
  (h.bindScope field fun a ha => hrest a (ha trivial)).restrict fun _ hs => ⟨trivial, hs⟩

/-- Tokens that carry nothing stand in front of the rest. -/
theorem token {w : Writer snk full Unit} {r : Reader src ε Unit} {tokens : List β}
    (hw : w.Writes tokens ()) (hr : r.Reads tokens ())
    (h : Transmits scope known e d form fits) :
    Transmits scope known (fun g => w >>= fun _ => e g) (r >>= fun _ => d)
      (fun g => tokens ++ form g) fits where
  writes hg hf := hw.bind (h.writes hg hf)
  reads hg hf := hr.bind (h.reads hg hf)
  accepts hrun := by
    obtain ⟨_, t, -, hthen⟩ := Reader.run_bind_eq_ok.mp hrun
    exact h.accepts hthen

/-- Tokens that carry nothing stand behind a value that is known. -/
theorem last {w : Writer snk full Unit} {r : Reader src ε Unit} {tokens : List β}
    (hw : w.Writes tokens ()) (hr : r.Reads tokens ()) {a : γ} (hknown : ∀ g, known g ↔ g = a) :
    Transmits scope known (fun _ => w) (r >>= fun _ => pure a) (fun _ => tokens)
      (fun _ => True) where
  writes _ _ := hw
  reads hg _ := by
    rw [(hknown _).mp hg]
    exact hr.bind_pure fun _ => a
  accepts hrun := by
    obtain ⟨_, t, -, hpure⟩ := Reader.run_bind_eq_ok.mp hrun
    obtain ⟨rfl, -⟩ := Prod.mk.inj (Except.ok.inj hpure)
    exact ⟨(hknown _).mpr rfl, fun _ => trivial⟩

/-- Tokens that carry nothing stand behind the whole. -/
theorem trail {w : Writer snk full Unit} {r : Reader src ε Unit} {tokens : List β}
    (hw : w.Writes tokens ()) (hr : r.Reads tokens ())
    (h : Transmits scope known e d form fits) :
    Transmits scope known (fun g => e g >>= fun _ => w) (d >>= fun g => r >>= fun _ => pure g)
      (fun g => form g ++ tokens) fits where
  writes hg hf := (h.writes hg hf).bind hw
  reads hg hf := (h.reads hg hf).bind (hr.bind_pure fun _ => _)
  accepts hrun := by
    obtain ⟨g, t, hfirst, hthen⟩ := Reader.run_bind_eq_ok.mp hrun
    obtain ⟨_, u, -, hpure⟩ := Reader.run_bind_eq_ok.mp hthen
    obtain ⟨rfl, -⟩ := Prod.mk.inj (Except.ok.inj hpure)
    exact h.accepts hfirst

/-- Nothing stands behind a value that is known. -/
theorem done {a : γ} (hknown : ∀ g, known g ↔ g = a) :
    Transmits scope known (fun _ => (pure () : Writer snk full Unit))
      (pure a : Reader src ε γ) (fun _ => []) (fun _ => True) where
  writes _ _ := Writer.writes_pure ()
  reads hg _ := by
    rw [(hknown _).mp hg]
    exact Reader.reads_pure a
  accepts hrun := by
    obtain ⟨rfl, -⟩ := Prod.mk.inj (Except.ok.inj hrun)
    exact ⟨(hknown _).mpr rfl, fun _ => trivial⟩

/-- Of the values that are known those are transmitted that a constructor makes. -/
theorem inject {e₁ : α → Writer snk full Unit} {d : Reader src ε α} {form₁ : α → List β}
    {fits₁ : α → Prop} (h : Conveys e₁ d form₁ fits₁) (ctor : α → γ)
    (honly : ∀ g, known g → fits g → ∃ a, g = ctor a) (hknown : ∀ a, known (ctor a))
    (he : ∀ a, e (ctor a) = e₁ a) (hform : ∀ a, form (ctor a) = form₁ a)
    (hfits : ∀ a, fits (ctor a) ↔ fits₁ a) :
    Transmits scope known e (ctor <$> d) form fits where
  writes hg hf := by
    obtain ⟨a, rfl⟩ := honly _ hg hf
    rw [he, hform]
    exact h.writes trivial ((hfits a).mp hf)
  reads hg hf := by
    obtain ⟨a, rfl⟩ := honly _ hg hf
    rw [hform]
    exact (h.reads trivial ((hfits a).mp hf)).bind_pure ctor
  accepts hrun := by
    obtain ⟨a, t, hfirst, hpure⟩ := Reader.run_bind_eq_ok.mp hrun
    obtain ⟨rfl, -⟩ := Prod.mk.inj (Except.ok.inj hpure)
    exact ⟨hknown a, fun _ => (hfits a).mpr ((h.accepts hfirst).2 trivial)⟩

/-- A value is carried by another one. -/
theorem map {e : α → Writer snk full Unit} {d : Reader src ε α} {form : α → List β}
    {fits : α → Prop} (h : Conveys e d form fits) (carrier : γ → α) (value : α → γ)
    {fits' : γ → Prop}
    (hcarrier : ∀ g, fits' g → fits (carrier g) ∧ value (carrier g) = g)
    (hvalue : ∀ a, fits a → fits' (value a)) :
    Conveys (fun g => e (carrier g)) (d >>= fun a => pure (value a)) (fun g => form (carrier g))
      fits' where
  writes _ hf := h.writes trivial (hcarrier _ hf).1
  reads {g} _ hf := by
    have hback := (h.reads trivial (hcarrier _ hf).1).bind_pure value
    rwa [(hcarrier g hf).2] at hback
  accepts hrun := by
    obtain ⟨a, t, hfirst, hpure⟩ := Reader.run_bind_eq_ok.mp hrun
    obtain ⟨rfl, -⟩ := Prod.mk.inj (Except.ok.inj hpure)
    exact ⟨trivial, fun _ => hvalue a ((h.accepts hfirst).2 trivial)⟩

end Transmits

end Jpv2g
