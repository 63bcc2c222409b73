import Kubedock.Server

/-! Requests served concurrently. A handler is a thread of atomic calls: a store call, a platform
call, or a write through a pointer into the store; what it computes between them is no call. Two
threads run under a schedule of which goes next, so every interleaving of their calls is the run
of some schedule, and each thread run alone is its handler. -/

namespace Kubedock

/-- A thread of atomic calls ending with a value: a call changes the world by `eff`, and the
rest of the thread is `next` of the world the call read. -/
inductive Thread (α : Type) where
  | done (a : α)
  | step (eff : World → World) (next : World → Thread α)

namespace Thread

variable {α β : Type}

/-- One atomic call of `f`, whose result the rest `k` of the thread reads. -/
def call (f : World → β × World) (k : β → Thread α) : Thread α :=
  .step (fun w => (f w).2) (fun w => k (f w).1)

/-- One atomic call that only reads the store. -/
def read (f : DB → β) (k : β → Thread α) : Thread α :=
  .step id (fun w => k (f w.db))

/-- One atomic write through a pointer into the store, which no outcome makes fail. -/
def write (f : DB → DB) (k : Thread α) : Thread α :=
  .step (fun w => { w with db := f w.db }) fun _ => k

/-- The thread run alone. -/
def run : Thread α → World → α × World
  | .done a, w => (a, w)
  | .step eff next, w => (next w).run (eff w)

@[simp] theorem run_done (a : α) (w : World) : (Thread.done a).run w = (a, w) := rfl

@[simp] theorem run_call (f : World → β × World) (k : β → Thread α) (w : World) :
    (call f k).run w = (k (f w).1).run (f w).2 := rfl

@[simp] theorem run_read (f : DB → β) (k : β → Thread α) (w : World) :
    (read f k).run w = (k (f w.db)).run w := rfl

@[simp] theorem run_write (f : DB → DB) (k : Thread α) (w : World) :
    (write f k).run w = k.run { w with db := f w.db } := rfl

/-- The thread `t` and then the thread `k` of its value: one client's requests, the next sent
once the reply to the previous came. -/
def andThen : Thread α → (α → Thread β) → Thread β
  | .done a, k => k a
  | .step eff next, k => .step eff fun w => (next w).andThen k

/-- Run alone, a client's two requests are the first run alone and then the second. -/
theorem run_andThen (k : α → Thread β) : ∀ (t : Thread α) (w : World),
    (t.andThen k).run w = (k (t.run w).1).run (t.run w).2
  | .done _, _ => rfl
  | .step _ next, w => run_andThen k (next w) _

end Thread

/-- Two threads under a schedule: `true` gives the next call to the first, `false` to the
second, a finished thread's turn passes, and when the schedule ends the first runs to its end and
then the second. The result is the two threads' values and the final world. -/
def interleave {α β : Type} : List Bool → Thread α → Thread β → World → α × β × World
  | [], t₁, t₂, w => ((t₁.run w).1, (t₂.run (t₁.run w).2).1, (t₂.run (t₁.run w).2).2)
  | b :: s, t₁, t₂, w =>
    match b, t₁, t₂ with
    | true, .step eff next, t₂ => interleave s (next w) t₂ (eff w)
    | false, t₁, .step eff next => interleave s t₁ (next w) (eff w)
    | _, t₁, t₂ => interleave s t₁ t₂ w

section Invariant

variable {α β : Type} {I : Thread α → Thread β → World → Prop}

theorem run_invariant_left
    (h₁ : ∀ eff next t₂ w, I (.step eff next) t₂ w → I (next w) t₂ (eff w)) :
    ∀ (t₁ : Thread α) (t₂ : Thread β) (w : World), I t₁ t₂ w →
      I (.done (t₁.run w).1) t₂ (t₁.run w).2
  | .done _, _, _, h => h
  | .step _ next, t₂, w, h => run_invariant_left h₁ (next w) t₂ _ (h₁ _ _ _ _ h)

theorem run_invariant_right
    (h₂ : ∀ t₁ eff next w, I t₁ (.step eff next) w → I t₁ (next w) (eff w)) :
    ∀ (t₁ : Thread α) (t₂ : Thread β) (w : World), I t₁ t₂ w →
      I t₁ (.done (t₂.run w).1) (t₂.run w).2
  | _, .done _, _, h => h
  | t₁, .step _ next, w, h => run_invariant_right h₂ t₁ (next w) _ (h₂ _ _ _ _ h)

/-- A relation of two threads and the world that every call of either keeps holds when both have
finished, under every schedule. -/
theorem interleave_invariant
    (h₁ : ∀ eff next t₂ w, I (.step eff next) t₂ w → I (next w) t₂ (eff w))
    (h₂ : ∀ t₁ eff next w, I t₁ (.step eff next) w → I t₁ (next w) (eff w)) :
    ∀ (s : List Bool) (t₁ : Thread α) (t₂ : Thread β) (w : World), I t₁ t₂ w →
      I (.done (interleave s t₁ t₂ w).1) (.done (interleave s t₁ t₂ w).2.1)
        (interleave s t₁ t₂ w).2.2
  | [], t₁, t₂, w, h =>
    run_invariant_right h₂ _ t₂ _ (run_invariant_left h₁ t₁ t₂ w h)
  | true :: s, .step _ next, t₂, w, h =>
    interleave_invariant h₁ h₂ s (next w) t₂ _ (h₁ _ _ _ _ h)
  | true :: s, .done _, .step _ _, _, h => interleave_invariant h₁ h₂ s _ _ _ h
  | true :: s, .done _, .done _, _, h => interleave_invariant h₁ h₂ s _ _ _ h
  | false :: s, t₁, .step _ next, w, h =>
    interleave_invariant h₁ h₂ s t₁ (next w) _ (h₂ _ _ _ _ h)
  | false :: s, .step _ _, .done _, _, h => interleave_invariant h₁ h₂ s _ _ _ h
  | false :: s, .done _, .done _, _, h => interleave_invariant h₁ h₂ s _ _ _ h

end Invariant

section Phases

variable {σ₁ σ₂ α β : Type}

/-- A thread described by phases: from phase `p`, a call changes the world as `advance p` does
and the rest of the thread is the thread of the phase `advance p` reaches. -/
def Refines {σ α : Type} (thread : σ → Thread α) (advance : σ → World → σ × World) : Prop :=
  ∀ p eff next w, thread p = .step eff next →
    eff w = (advance p w).2 ∧ next w = thread (advance p w).1

/-- A relation of two threads' phases and the world that every phase change of either keeps
holds, under every schedule, of the phases both threads end in. -/
theorem interleave_phases {thread₁ : σ₁ → Thread α} {thread₂ : σ₂ → Thread β}
    {advance₁ : σ₁ → World → σ₁ × World} {advance₂ : σ₂ → World → σ₂ × World}
    {J : σ₁ → σ₂ → World → Prop} (h₁ : Refines thread₁ advance₁) (h₂ : Refines thread₂ advance₂)
    (hJ₁ : ∀ p₁ p₂ w, J p₁ p₂ w → J (advance₁ p₁ w).1 p₂ (advance₁ p₁ w).2)
    (hJ₂ : ∀ p₁ p₂ w, J p₁ p₂ w → J p₁ (advance₂ p₂ w).1 (advance₂ p₂ w).2)
    (s : List Bool) {p₁ : σ₁} {p₂ : σ₂} {w : World} (h : J p₁ p₂ w) :
    ∃ q₁ q₂, thread₁ q₁ = .done (interleave s (thread₁ p₁) (thread₂ p₂) w).1 ∧
      thread₂ q₂ = .done (interleave s (thread₁ p₁) (thread₂ p₂) w).2.1 ∧
      J q₁ q₂ (interleave s (thread₁ p₁) (thread₂ p₂) w).2.2 := by
  obtain ⟨q₁, q₂, e₁, e₂, hJ⟩ := interleave_invariant
    (I := fun t₁ t₂ w => ∃ q₁ q₂, t₁ = thread₁ q₁ ∧ t₂ = thread₂ q₂ ∧ J q₁ q₂ w)
    (fun eff next _ w ⟨q₁, q₂, e₁, e₂, hJ⟩ => by
      obtain ⟨he, hn⟩ := h₁ q₁ eff next w e₁.symm
      exact ⟨_, q₂, hn, e₂, he ▸ hJ₁ q₁ q₂ w hJ⟩)
    (fun _ eff next w ⟨q₁, q₂, e₁, e₂, hJ⟩ => by
      obtain ⟨he, hn⟩ := h₂ q₂ eff next w e₂.symm
      exact ⟨q₁, _, e₁, hn, he ▸ hJ₂ q₁ q₂ w hJ⟩)
    s _ _ w ⟨p₁, p₂, rfl, rfl, h⟩
  exact ⟨q₁, q₂, e₁.symm, e₂.symm, hJ⟩

end Phases

end Kubedock
