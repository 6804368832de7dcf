import Hypermedia.Proofs.Action
import Hypermedia.Repository.Buffer
/-!
# Nothing that is handed over gets lost

An entity that is handed to a repository waits in the queue until a batch with it was accepted.  A call saves one batch
at most, always the whole queue, and the queue is emptied just when that batch is accepted.  So the accepted batches,
one behind the other, and the queue behind them are what was handed over, in order (`accepted_append_queue`).
-/
namespace Hypermedia

variable {S : Schema} {α β γ : Type}

namespace Buffered

/-! ## Steps -/

/-- The outcome of an action on a buffer after the given traces, with the buffer and all traces after it. -/
def after (b : Buffer α) (s : Traces S) (x : Buffered S α β) : (Outcome β × Buffer α) × Traces S :=
  (x.run.run b).run s

variable (b : Buffer α) (s : Traces S)

@[simp] theorem after_pure (y : β) : (pure y : Buffered S α β).after b s = ((.ok y, b), s) := rfl

@[simp] theorem after_throw (e : Failure) : (throw e : Buffered S α β).after b s = ((.error e, b), s) := rfl

@[simp] theorem after_get : (get : Buffered S α (Buffer α)).after b s = ((.ok b, b), s) := rfl

@[simp] theorem after_modify (f : Buffer α → Buffer α) :
    (modify f : Buffered S α Unit).after b s = ((.ok (), f b), s) := rfl

@[simp] theorem after_ofAction (a : Action S β) :
    (ofAction a : Buffered S α β).after b s = (((a.after s).1, b), (a.after s).2) := rfl

@[simp] theorem after_attempt (x : Buffered S α β) :
    (attempt x).after b s = ((.ok (x.after b s).1.1, (x.after b s).1.2), (x.after b s).2) := rfl

theorem after_bind (x : Buffered S α β) (f : β → Buffered S α γ) :
    (x >>= f).after b s = match x.after b s with
      | ((.ok y, b'), s') => (f y).after b' s'
      | ((.error e, b'), s') => ((.error e, b'), s') := by
  show ExceptT.bindCont f (x.after b s).1.1 (x.after b s).1.2 (x.after b s).2 = _
  rcases x.after b s with ⟨⟨_ | _, _⟩, _⟩ <;> rfl

theorem after_bind_ok {x : Buffered S α β} {b b' : Buffer α} {s s' : Traces S} {y : β}
    (h : x.after b s = ((.ok y, b'), s')) (f : β → Buffered S α γ) : (x >>= f).after b s = (f y).after b' s' := by
  rw [after_bind, h]

end Buffered

/-! ## Calls -/

inductive BufferCall (α : Type) where
  | persist (a : α)
  | flush
  | saveAll (as : List α)
  | setMaxSize (n : Nat)

def BufferCall.handed : BufferCall α → List α
  | .persist a => [a]
  | .flush => []
  | .saveAll as => as
  | .setMaxSize _ => []

namespace Buffer

def batch? (b : Buffer α) : BufferCall α → Option (List α)
  | .persist a => if b.maxSize ≤ b.queue.length + 1 then some (b.queue ++ [a]) else none
  | .flush => if b.queue.isEmpty then none else some b.queue
  | .saveAll as => if as.isEmpty then none else some (b.queue ++ as)
  | .setMaxSize _ => none

/-- The buffer after a call that saves no batch. -/
def waiting (b : Buffer α) : BufferCall α → Buffer α
  | .persist a => { b with queue := b.queue ++ [a] }
  | .flush => b
  | .saveAll _ => b
  | .setMaxSize n => { b with maxSize := n }

variable {b : Buffer α} {c : BufferCall α} {batch : List α}

theorem batch?_eq_some (h : b.batch? c = some batch) : batch = b.queue ++ c.handed := by
  rcases c with a | _ | as | n <;> simp only [batch?] at h
  · split at h
    · exact (Option.some.inj h).symm
    · cases h
  · split at h
    · cases h
    · rw [← Option.some.inj h, BufferCall.handed, List.append_nil]
  · split at h
    · cases h
    · exact (Option.some.inj h).symm
  · cases h

/-- What a call without a batch hands over waits behind the queue. -/
theorem queue_waiting (h : b.batch? c = none) : (b.waiting c).queue = b.queue ++ c.handed := by
  rcases c with a | _ | as | n <;> simp only [waiting, BufferCall.handed, List.append_nil]
  have has : as.isEmpty = true := by
    by_cases has : as.isEmpty = true
    · exact has
    · simp only [batch?, has, Bool.false_eq_true, if_false] at h
      cases h
  rw [List.isEmpty_iff.1 has, List.append_nil]

end Buffer

namespace Repository

open Buffered

variable {t : S.Ty} (r : Repository S t) (b : Buffer (S.Content t)) (s : Traces S)

def perform : BufferCall (S.Content t) → Buffered S (S.Content t) (List (S.Content t))
  | .persist a => r.persist a
  | .flush => r.flush
  | .saveAll as => r.saveAll as
  | .setMaxSize n => do
    setMaxSize n
    return []

/-- The end of a call that saves a batch: the queue is empty when the batch was accepted, and else holds the batch. -/
def afterBatch (batch : List (S.Content t)) : (Outcome (List (S.Content t)) × Buffer (S.Content t)) × Traces S :=
  match (r.collection.saveAll batch).after s with
  | (.ok saved, s') => ((r.adoptEach saved, { b with queue := [] }), s')
  | (.error e, s') => ((.error e, { b with queue := batch }), s')

theorem afterBatch_traces (batch : List (S.Content t)) :
    (r.afterBatch b s batch).2 = ((r.collection.saveAll batch).after s).2 := by
  unfold afterBatch
  rcases (r.collection.saveAll batch).after s with ⟨_ | _, _⟩ <;> rfl

def accepts (batch : List (S.Content t)) : Bool := ((r.collection.saveAll batch).after s).1.isOk

theorem afterBatch_queue (batch : List (S.Content t)) :
    (r.afterBatch b s batch).1.2.queue = if r.accepts s batch then [] else batch := by
  unfold afterBatch accepts
  rcases (r.collection.saveAll batch).after s with ⟨_ | _, _⟩ <;> rfl

theorem after_flush :
    r.flush.after b s = if b.queue.isEmpty then ((.ok [], b), s) else r.afterBatch b s b.queue := by
  unfold flush
  rw [after_bind_ok (after_get b s)]
  by_cases h : b.queue.isEmpty = true
  · simp only [h, if_true, after_pure]
  · simp only [h, Bool.false_eq_true, if_false]
    unfold afterBatch
    rw [after_bind, after_ofAction]
    rcases hs : (r.collection.saveAll b.queue).after s with ⟨e | saved, s'⟩
    · simp only [Action.after_attempt, hs, after_throw]
    · simp only [Action.after_attempt, hs]
      rw [after_bind_ok (after_modify _ _ _), after_ofAction, Action.after_ofOutcome]

/-- **Handing over an entity** saves the queue with it, or lets it wait behind the queue. -/
theorem after_persist (a : S.Content t) :
    (r.persist a).after b s =
      if b.maxSize ≤ b.queue.length + 1 then r.afterBatch b s (b.queue ++ [a])
      else ((.ok [], { b with queue := b.queue ++ [a] }), s) := by
  unfold persist
  rw [after_bind_ok (after_modify b s _), after_bind_ok (after_get _ s)]
  simp only [List.length_append, List.length_singleton]
  by_cases h : b.maxSize ≤ b.queue.length + 1
  · rw [if_pos h, if_pos h, after_flush, if_neg (by simp)]
    rfl
  · rw [if_neg h, if_neg h, after_pure]

/-- **Handing over entities** hands over the first and then the others, unless the first fails. -/
theorem after_persistAll_cons (a : S.Content t) (as : List (S.Content t)) :
    (r.persistAll (a :: as)).after b s = match (r.persist a).after b s with
      | ((.ok saved, b₁), s₁) =>
        match (r.persistAll as).after b₁ s₁ with
        | ((.ok others, b₂), s₂) => ((.ok (saved ++ others), b₂), s₂)
        | ((.error e, b₂), s₂) => ((.error e, b₂), s₂)
      | ((.error e, b₁), s₁) => ((.error e, b₁), s₁) := by
  show (r.persist a >>= fun saved => do return saved ++ (← r.persistAll as)).after b s = _
  rw [after_bind]
  rcases (r.persist a).after b s with ⟨⟨e | saved, b₁⟩, s₁⟩
  · rfl
  · simp only [after_bind]
    rcases (r.persistAll as).after b₁ s₁ with ⟨⟨e | others, b₂⟩, s₂⟩ <;> rfl

/-- **Handing over entities while they are all waited for** saves the queue with them in one batch. -/
theorem after_persistAll : ∀ (as : List (S.Content t)) (b : Buffer (S.Content t)), as ≠ [] →
    b.maxSize = b.queue.length + as.length → (r.persistAll as).after b s = r.afterBatch b s (b.queue ++ as)
  | [a], b, _, h => by
    rw [after_persistAll_cons, after_persist, if_pos (by simp [h])]
    rcases r.afterBatch b s (b.queue ++ [a]) with ⟨⟨e | saved, b'⟩, s'⟩
    · rfl
    · show ((Except.ok (saved ++ []), b'), s') = _
      rw [List.append_nil]
  | a :: a' :: as, b, _, h => by
    have hwait : ¬ b.maxSize ≤ b.queue.length + 1 := by
      rw [h]
      simp only [List.length_cons]
      omega
    have hrest := after_persistAll (a' :: as) { b with queue := b.queue ++ [a] } (List.cons_ne_nil _ _) (by
      simp only [h, List.length_append, List.length_cons, List.length_nil]
      omega)
    rw [after_persistAll_cons, after_persist, if_neg hwait]
    simp only
    rw [hrest, List.append_assoc]
    have hsame : r.afterBatch { b with queue := b.queue ++ [a] } s (b.queue ++ ([a] ++ a' :: as)) =
        r.afterBatch b s (b.queue ++ a :: a' :: as) := rfl
    rw [hsame]
    rcases r.afterBatch b s (b.queue ++ a :: a' :: as) with ⟨⟨e | saved, b'⟩, s'⟩ <;> rfl

/-- **Saving entities** saves the queue with them in one batch, whatever is waited for. -/
theorem after_saveAll (as : List (S.Content t)) :
    (r.saveAll as).after b s = if as.isEmpty then ((.ok [], b), s) else r.afterBatch b s (b.queue ++ as) := by
  unfold saveAll
  rw [after_bind_ok (after_get b s), after_bind_ok (after_modify b s _), after_bind, after_attempt]
  by_cases h : as = []
  · subst h
    rfl
  · rw [if_neg (by simpa using h), after_persistAll r s as _ h rfl]
    unfold afterBatch
    rcases (r.collection.saveAll (b.queue ++ as)).after s with ⟨e | saved, s'⟩ <;> rfl

/-- **What a call does**: it saves its batch, or sends nothing and succeeds. -/
theorem after_perform (c : BufferCall (S.Content t)) :
    (r.perform c).after b s = match b.batch? c with
      | some batch => r.afterBatch b s batch
      | none => ((.ok [], b.waiting c), s) := by
  rcases c with a | _ | as | n <;> simp only [perform, Buffer.batch?]
  · rw [after_persist]
    split <;> rfl
  · rw [after_flush]
    split <;> rfl
  · rw [after_saveAll]
    split <;> rfl
  · rfl

end Repository

/-! ## Calls one after the other -/

structure Work (S : Schema) (α : Type) where
  buffer : Buffer α
  traces : Traces S
  /-- The batches that the collection saved, in order. -/
  accepted : List (List α) := []

namespace Work

variable {t : S.Ty} (r : Repository S t)

/-- The repository after a call, whether it succeeds or not. -/
def call (w : Work S (S.Content t)) (c : BufferCall (S.Content t)) : Work S (S.Content t) where
  buffer := ((r.perform c).after w.buffer w.traces).1.2
  traces := ((r.perform c).after w.buffer w.traces).2
  accepted := w.accepted ++ ((w.buffer.batch? c).filter (r.accepts w.traces)).toList

def calls (w : Work S (S.Content t)) (cs : List (BufferCall (S.Content t))) : Work S (S.Content t) :=
  cs.foldl (call r) w

/-- What was accepted, and behind it what waits. -/
def kept (w : Work S α) : List α := w.accepted.flatten ++ w.buffer.queue

theorem traces_call (w : Work S (S.Content t)) (c : BufferCall (S.Content t)) :
    (w.call r c).traces = match w.buffer.batch? c with
      | some batch => ((r.collection.saveAll batch).after w.traces).2
      | none => w.traces := by
  simp only [call, Repository.after_perform]
  rcases w.buffer.batch? c with _ | batch
  · rfl
  · exact r.afterBatch_traces w.buffer w.traces batch

/-- **A call keeps everything that was kept**, and behind it what it hands over. -/
theorem kept_call (w : Work S (S.Content t)) (c : BufferCall (S.Content t)) :
    (w.call r c).kept = w.kept ++ c.handed := by
  unfold kept
  simp only [call, Repository.after_perform]
  rcases hb : w.buffer.batch? c with _ | batch
  · simp only [Option.filter_none, Option.toList_none, List.append_nil]
    rw [Buffer.queue_waiting hb, List.append_assoc]
  · have hbatch := Buffer.batch?_eq_some hb
    simp only [Repository.afterBatch_queue]
    -- the batch is in exactly one of the two places, the accepted batches and the queue
    by_cases h : r.accepts w.traces batch = true
    · rw [Option.filter_some_pos h, if_pos h]
      simp [hbatch]
    · rw [Option.filter_some_neg (Bool.not_eq_true _ ▸ h), if_neg h]
      simp [hbatch]

theorem kept_calls : ∀ (cs : List (BufferCall (S.Content t))) (w : Work S (S.Content t)),
    (w.calls r cs).kept = w.kept ++ cs.flatMap BufferCall.handed
  | [], w => (List.append_nil _).symm
  | c :: cs, w => by
    rw [List.flatMap_cons, ← List.append_assoc, ← kept_call r w c]
    exact kept_calls cs (w.call r c)

/-- **No entity that is handed over is lost, doubled or moved.**  A repository starts with an empty queue and any batch
size; after any calls, with any answers of the server, the batches that the collection saved and the queue behind them
are all entities that were handed over, in order.  Every further call saves the batch that is counted for it and
does nothing else on the server. -/
theorem accepted_append_queue (n : Nat) (s : Traces S) (cs : List (BufferCall (S.Content t))) :
    let w := calls r { buffer := { maxSize := n }, traces := s } cs
    w.accepted.flatten ++ w.buffer.queue = cs.flatMap BufferCall.handed ∧
    ∀ c, (w.call r c).traces = match w.buffer.batch? c with
      | some batch => ((r.collection.saveAll batch).after w.traces).2
      | none => w.traces :=
  ⟨kept_calls r cs _, traces_call r _⟩

end Work
end Hypermedia
