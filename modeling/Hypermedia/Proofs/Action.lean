import Hypermedia.Proofs.Retry
import Hypermedia.Proxy.Creation
/-!
# What actions leave behind

An action is followed step by step with `after`.  Four kinds of statements are carried through actions whole: that
every run of one sends only certain requests and lets the proxies that were there stand (`Sends`), that every run that
succeeds leaves the traces that it should (`Ensures`), that every run ends in the same way (`Yields`), and that every
run gives certain values or fails in certain ways (`Ends`).  Sending no request at all is `Silent`, and measuring
nothing either is `Inward`.
-/
namespace Hypermedia

variable {S : Schema} {α β : Type}

/-- **Later traces**: more requests, each of which `P` allows, and more proxies behind those that were there. -/
structure Traces.Extends (P : Request → Prop) (s s' : Traces S) : Prop where
  requests : ∃ sent, s'.requests = sent ++ s.requests ∧ ∀ q ∈ sent, P q
  proxies : s.proxies <+: s'.proxies

namespace Traces.Extends

variable {P Q : Request → Prop} {s s' s'' : Traces S}

theorem refl (s : Traces S) : s.Extends P s := ⟨⟨[], rfl, by simp⟩, List.prefix_rfl⟩

theorem trans (h : s.Extends P s') (h' : s'.Extends P s'') : s.Extends P s'' := by
  obtain ⟨sent, hsent, hP⟩ := h.requests
  obtain ⟨sent', hsent', hP'⟩ := h'.requests
  refine ⟨⟨sent' ++ sent, by rw [hsent', hsent, List.append_assoc], fun q hq => ?_⟩, h.proxies.trans h'.proxies⟩
  rcases List.mem_append.1 hq with hq | hq
  · exact hP' q hq
  · exact hP q hq

theorem mono (h : s.Extends P s') (hPQ : ∀ q, P q → Q q) : s.Extends Q s' := by
  obtain ⟨sent, hsent, hP⟩ := h.requests
  exact ⟨⟨sent, hsent, fun q hq => hPQ q (hP q hq)⟩, h.proxies⟩

/-- Traces that allow no further request have none. -/
theorem requests_eq (h : s.Extends (fun _ => False) s') : s'.requests = s.requests := by
  obtain ⟨sent, hsent, hno⟩ := h.requests
  rw [hsent, List.eq_nil_iff_forall_not_mem.2 hno, List.nil_append]

theorem proxy? (h : s.Extends P s') {id : Nat} {p : (t : S.Ty) × Proxy S t} (hp : s.proxy? id = some p) :
    s'.proxy? id = some p := by
  obtain ⟨new, hnew⟩ := h.proxies
  unfold Traces.proxy? at hp ⊢
  rw [← hnew, List.getElem?_append_left (List.getElem?_eq_some_iff.1 hp).1, hp]

end Traces.Extends

/-- **Later traces of work that reaches nothing outside**: no request and no measurement, and more proxies behind those
that were there. -/
structure Traces.Inward (s s' : Traces S) : Prop where
  requests : s'.requests = s.requests
  measurements : s'.measurements = s.measurements
  proxies : s.proxies <+: s'.proxies

namespace Traces.Inward

variable {s s' s'' : Traces S}

theorem refl (s : Traces S) : s.Inward s := ⟨rfl, rfl, List.prefix_rfl⟩

theorem trans (h : s.Inward s') (h' : s'.Inward s'') : s.Inward s'' :=
  ⟨h'.requests.trans h.requests, h'.measurements.trans h.measurements, h.proxies.trans h'.proxies⟩

theorem toExtends (h : s.Inward s') (P : Request → Prop) : s.Extends P s' := ⟨⟨[], h.requests, by simp⟩, h.proxies⟩

end Traces.Inward

instance decidableEqOk {ε : Type} [DecidableEq α] : (o : Except ε α) → (a : α) → Decidable (o = .ok a)
  | .ok b, a => decidable_of_iff (b = a) ⟨fun h => congrArg _ h, fun h => Except.ok.inj h⟩
  | .error _, _ => isFalse fun h => by cases h

namespace Outcome

/-- A value of which `R` holds, or a failure of which `F` does. -/
inductive Ends (F : Failure → Prop) (R : α → Prop) : Outcome α → Prop
  | ok {x : α} : R x → Ends F R (.ok x)
  | error {e : Failure} : F e → Ends F R (.error e)

variable {F F' : Failure → Prop} {R R' : α → Prop}

theorem Ends.mono {o : Outcome α} (h : Ends F R o) (hF : ∀ e, F e → F' e) (hR : ∀ x, R x → R' x) : Ends F' R' o := by
  cases h with
  | ok h => exact .ok (hR _ h)
  | error h => exact .error (hF _ h)

theorem Ends.of_ok {x : α} (h : Ends F R (.ok x)) : R x := by
  cases h with
  | ok h => exact h

theorem Ends.of_error {e : Failure} (h : Ends F R (.error e)) : F e := by
  cases h with
  | error h => exact h

theorem ends_bind {R' : β → Prop} {o : Outcome α} {f : α → Outcome β} (h : Ends F R o)
    (hf : ∀ x, R x → Ends F R' (f x)) : Ends F R' (o >>= f) := by
  cases h with
  | ok h => exact hf _ h
  | error h => exact .error h

theorem ends_map {R' : β → Prop} {o : Outcome α} {f : α → β} (h : Ends F R o) (hf : ∀ x, R x → R' (f x)) :
    Ends F R' (o.map f) := by
  cases h with
  | ok h => exact .ok (hf _ h)
  | error h => exact .error h

end Outcome

namespace Action

/-! ## Steps -/

@[simp] theorem after_pure (a : α) (s : Traces S) : (pure a : Action S α).after s = (.ok a, s) := rfl

@[simp] theorem after_throw (e : Failure) (s : Traces S) : (throw e : Action S α).after s = (.error e, s) := rfl

@[simp] theorem after_ofOutcome (o : Outcome α) (s : Traces S) : (ofOutcome o : Action S α).after s = (o, s) := rfl

@[simp] theorem after_get (s : Traces S) : (get : Action S (Traces S)).after s = (.ok s, s) := rfl

@[simp] theorem after_modify (f : Traces S → Traces S) (s : Traces S) :
    (modify f : Action S Unit).after s = (.ok (), f s) := rfl

@[simp] theorem after_measure (m : Measurement) (s : Traces S) :
    (measure m : Action S Unit).after s = (.ok (), { s with measurements := m :: s.measurements }) := rfl

@[simp] theorem after_attempt (a : Action S α) (s : Traces S) :
    (attempt a).after s = (.ok (a.after s).1, (a.after s).2) := rfl

theorem after_bind (a : Action S α) (f : α → Action S β) (s : Traces S) :
    (a >>= f).after s = match a.after s with
      | (.ok x, s') => (f x).after s'
      | (.error e, s') => (.error e, s') := by
  show (ExceptT.bindCont f (a.after s).1).run (a.after s).2 = _
  rcases a.after s with ⟨_ | _, _⟩ <;> rfl

theorem after_bind_ok {a : Action S α} {s s' : Traces S} {x : α} (h : a.after s = (.ok x, s')) (f : α → Action S β) :
    (a >>= f).after s = (f x).after s' := by
  rw [after_bind, h]

theorem after_bind_error {a : Action S α} {s s' : Traces S} {e : Failure} (h : a.after s = (.error e, s'))
    (f : α → Action S β) : (a >>= f).after s = (.error e, s') := by
  rw [after_bind, h]

/-- **A sequence that succeeds, taken apart.** -/
theorem of_after_bind {a : Action S α} {f : α → Action S β} {s s' : Traces S} {y : β}
    (h : (a >>= f).after s = (.ok y, s')) : ∃ x s₁, a.after s = (.ok x, s₁) ∧ (f x).after s₁ = (.ok y, s') := by
  rw [after_bind] at h
  rcases ha : a.after s with ⟨_ | x, s₁⟩
  · rw [ha] at h; cases h
  · rw [ha] at h; exact ⟨x, s₁, rfl, h⟩

theorem after_tryCatch (a : Action S α) (f : Failure → Action S α) (s : Traces S) :
    (tryCatch a f).after s = match a.after s with
      | (.ok x, s') => (.ok x, s')
      | (.error e, s') => (f e).after s' := by
  unfold after
  rw [Operation.run_tryCatch]
  rcases a.run.run s with ⟨_ | _, _⟩ <;> rfl

/-! ## What every run sends -/

/-- **Whatever comes of it, the action sends only requests that `P` allows** and leaves the proxies that are there. -/
def Sends (P : Request → Prop) (a : Action S α) : Prop := ∀ s : Traces S, s.Extends P (a.after s).2

abbrev Silent (a : Action S α) : Prop := Sends (fun _ => False) a

variable {P Q : Request → Prop}

theorem Sends.mono {a : Action S α} (h : Sends P a) (hPQ : ∀ q, P q → Q q) : Sends Q a := fun s => (h s).mono hPQ

theorem sends_of_after_eq {a : Action S α} (h : ∀ s, (a.after s).2 = s) : Sends P a := fun s => by
  rw [h s]
  exact .refl s

theorem sends_pure (x : α) : Sends P (pure x : Action S α) := sends_of_after_eq fun _ => rfl

theorem sends_throw (e : Failure) : Sends P (throw e : Action S α) := sends_of_after_eq fun _ => rfl

theorem sends_ofOutcome (o : Outcome α) : Sends P (ofOutcome o : Action S α) := sends_of_after_eq fun _ => rfl

theorem sends_get : Sends P (get : Action S (Traces S)) := sends_of_after_eq fun _ => rfl

theorem sends_measure (m : Measurement) : Sends P (measure m : Action S Unit) :=
  fun _ => ⟨⟨[], rfl, by simp⟩, List.prefix_rfl⟩

theorem sends_bind {a : Action S α} {f : α → Action S β} (ha : Sends P a) (hf : ∀ x, Sends P (f x)) :
    Sends P (a >>= f) := by
  intro s
  have h := ha s
  rw [after_bind]
  rcases hx : a.after s with ⟨_ | x, s'⟩ <;> rw [hx] at h
  · exact h
  · exact h.trans (hf x s')

/-- What is done with the value of an action comes behind the action. -/
theorem extends_after_bind {f : α → Action S β} (hf : ∀ x, Sends P (f x)) (a : Action S α) (s : Traces S) :
    (a.after s).2.Extends P ((a >>= f).after s).2 := by
  rw [after_bind]
  rcases a.after s with ⟨_ | x, s'⟩
  · exact .refl s'
  · exact hf x s'

/-- Silent work on the value of an action adds no request. -/
theorem requests_after_bind {f : α → Action S β} (hf : ∀ x, Silent (f x)) (a : Action S α) (s : Traces S) :
    ((a >>= f).after s).2.requests = (a.after s).2.requests :=
  (extends_after_bind hf a s).requests_eq

/-! ## What every run leaves undone -/

/-- **Whatever comes of it, the action sends nothing and measures nothing.** -/
def Inward (a : Action S α) : Prop := ∀ s : Traces S, s.Inward (a.after s).2

theorem Inward.silent {a : Action S α} (h : Inward a) : Silent a := fun s => (h s).toExtends _

theorem inward_pure (x : α) : Inward (pure x : Action S α) := fun s => .refl s

theorem inward_ofOutcome (o : Outcome α) : Inward (ofOutcome o : Action S α) := fun s => .refl s

theorem inward_get : Inward (get : Action S (Traces S)) := fun s => .refl s

theorem inward_modify {f : Traces S → Traces S} (h : ∀ s : Traces S, s.Inward (f s)) :
    Inward (modify f : Action S Unit) := h

/-- What is done inward with the value of an action adds nothing to what the action leaves. -/
theorem inward_after_bind {a : Action S α} {f : α → Action S β} {s s₀ : Traces S} (ha : s₀.Inward (a.after s).2)
    (hf : ∀ x, Inward (f x)) : s₀.Inward ((a >>= f).after s).2 := by
  rw [after_bind]
  rcases hx : a.after s with ⟨_ | x, s'⟩ <;> rw [hx] at ha
  · exact ha
  · exact ha.trans (hf x s')

theorem inward_bind {a : Action S α} {f : α → Action S β} (ha : Inward a) (hf : ∀ x, Inward (f x)) : Inward (a >>= f) :=
  fun s => inward_after_bind (ha s) hf

/-! ## Trying again -/

/-- What an action sends is all that it sends in so many calls. -/
theorem Sends.state {a : Action S α} (h : Sends P a) : ∀ (n : Nat) (s : Traces S), s.Extends P (Operation.state a s n)
  | 0, s => .refl s
  | n + 1, s => (h s).trans (h.state n (a.after s).2)

theorem sends_execute {a : Action S α} (h : Sends P a) (p : RetryPolicy) (uri : String) :
    Sends P (p.execute uri a) := by
  intro s
  obtain ⟨k, -, hrun⟩ := p.execute_calls uri a s
  unfold after
  rw [hrun]
  exact h.state (k + 1) s

/-- What is tried again is tried once. -/
theorem extends_after_execute {a : Action S α} (h : Sends P a) (p : RetryPolicy) (uri : String) (s : Traces S) :
    (a.after s).2.Extends P (after s (p.execute uri a)).2 := by
  obtain ⟨k, -, hrun⟩ := p.execute_calls uri a s
  unfold after
  rw [hrun]
  exact h.state k (a.run.run s).2

theorem requests_state {a : Action S α} {q : Request} (one : ∀ s : Traces S, (a.after s).2.requests = q :: s.requests) :
    ∀ (n : Nat) (s : Traces S), (Operation.state a s n).requests = List.replicate n q ++ s.requests
  | 0, _ => rfl
  | n + 1, s => by
    have hfirst : (Operation.state a s 1).requests = q :: s.requests := one s
    rw [← Operation.state_state, requests_state one n, hfirst, List.replicate_succ', List.append_assoc,
      List.singleton_append]

/-- **What sends one request and is tried again sends it once for each attempt.**  The last attempt comes behind the
requests of the others; how it ends is how all of them end, up to the wording of its failure.  It fails in a way that
may pass only if no attempt is left. -/
theorem after_execute {a : Action S α} {q : Request} (one : ∀ s : Traces S, (a.after s).2.requests = q :: s.requests)
    (p : RetryPolicy) (uri : String) (s : Traces S) : ∃ k < p.maxAttempts.toNat, ∃ s' : Traces S,
      s'.requests = List.replicate k q ++ s.requests ∧
        after s (p.execute uri a) = ((a.after s').1.mapError (p.reported uri), (a.after s').2) ∧
        ((a.after s').1.mayPass = true → k + 1 = p.maxAttempts.toNat) := by
  obtain ⟨k, hlast, hrun⟩ := p.execute_calls uri a s
  refine ⟨k, hlast.lt, Operation.state a s k, requests_state one k s, ?_, hlast.last⟩
  unfold after
  rw [hrun, Operation.run_state]

/-! ## How every run that succeeds ends -/

/-- **If the action succeeds, `R` holds of its value and of the traces behind it.** -/
def Ensures (a : Action S α) (R : α → Traces S → Prop) : Prop := ∀ s x s', a.after s = (.ok x, s') → R x s'

theorem ensures_bind {a : Action S α} {f : α → Action S β} {R : β → Traces S → Prop} (h : ∀ x, Ensures (f x) R) :
    Ensures (a >>= f) R := by
  intro s y s' hy
  obtain ⟨x, s₁, -, hx⟩ := of_after_bind hy
  exact h x s₁ y s' hx

theorem ensures_throw {R : α → Traces S → Prop} (e : Failure) : Ensures (throw e : Action S α) R :=
  fun _ _ _ h => by cases h

theorem ensures_execute {a : Action S α} {R : α → Traces S → Prop} (h : Ensures a R) (p : RetryPolicy) (uri : String) :
    Ensures (p.execute uri a) R := by
  intro s x s' hx
  obtain ⟨k, -, hrun⟩ := p.execute_calls uri a s
  have hlast : a.after (Operation.state a s k) = (Operation.outcome a s k, Operation.state a s (k + 1)) :=
    Operation.run_state a k s
  unfold after at hx
  rw [hrun] at hx
  rcases ho : Operation.outcome a s k with e | y <;> rw [ho] at hx hlast
  · cases hx
  · cases hx
    exact h _ _ _ hlast

/-! ## Actions whose end is known -/

/-- **From any traces, the action ends in the same way.** -/
def Yields (o : Outcome α) (a : Action S α) : Prop := ∀ s : Traces S, (a.after s).1 = o

theorem yields_pure (x : α) : Yields (.ok x) (pure x : Action S α) := fun _ => rfl

theorem yields_throw (e : Failure) : Yields (.error e) (throw e : Action S α) := fun _ => rfl

theorem yields_ofOutcome (o : Outcome α) : Yields o (ofOutcome o : Action S α) := fun _ => rfl

theorem yields_bind {a : Action S α} {f : α → Action S β} {o : Outcome α} {g : α → Outcome β} (ha : Yields o a)
    (hf : ∀ x, Yields (g x) (f x)) : Yields (o >>= g) (a >>= f) := by
  intro s
  rw [← ha s, after_bind]
  rcases a.after s with ⟨e | x, s'⟩
  · rfl
  · exact hf x s'

/-! ## How every run ends, also one that fails -/

variable {F F' : Failure → Prop} {R : α → Prop} {R' : β → Prop}

/-- **From any traces, the action ends** with a value of which `R` holds or with a failure of which `F` does. -/
def Ends (F : Failure → Prop) (R : α → Prop) (a : Action S α) : Prop := ∀ s : Traces S, Outcome.Ends F R (a.after s).1

theorem Ends.mono {a : Action S α} {R' : α → Prop} (h : Ends F R a) (hF : ∀ e, F e → F' e) (hR : ∀ x, R x → R' x) :
    Ends F' R' a := fun s => (h s).mono hF hR

theorem ends_pure {x : α} (h : R x) : Ends F R (pure x : Action S α) := fun _ => .ok h

theorem ends_ofOutcome {o : Outcome α} (h : Outcome.Ends F R o) : Ends F R (ofOutcome o : Action S α) := fun _ => h

theorem ends_get : Ends F (fun _ => True) (get : Action S (Traces S)) := fun _ => .ok trivial

theorem ends_modify (f : Traces S → Traces S) : Ends F (fun _ => True) (modify f : Action S Unit) :=
    fun _ => .ok trivial

theorem ends_measure (m : Measurement) : Ends F (fun _ => True) (measure m : Action S Unit) := fun _ => .ok trivial

theorem ends_bind {a : Action S α} {f : α → Action S β} (ha : Ends F R a) (hf : ∀ x, R x → Ends F R' (f x)) :
    Ends F R' (a >>= f) := by
  intro s
  have h := ha s
  rw [after_bind]
  rcases hx : a.after s with ⟨e | x, s'⟩ <;> rw [hx] at h
  · exact .error h.of_error
  · exact hf x h.of_ok s'

end Action
end Hypermedia
