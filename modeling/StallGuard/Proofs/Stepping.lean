/-
  StallGuard.Proofs.Stepping — running acts and plays a step at a time.

  Requests to a host, acts and plays are all functions from a state to a result and the
  next state. The rules here say what each way of putting them together does at a given
  state; with them a proof follows a do-block line by line. `Keeps` says of such a
  function that it never leaves a set of states; it is closed under every way of putting
  functions together, so what a long act keeps is read off its smallest parts.
-/

import StallGuard.Site.Basic

namespace StallGuard

variable {σ β γ : Type}

/-! ## Running -/

@[simp] theorem bind_at (x : StateM σ β) (f : β → StateM σ γ) (s : σ) : (x >>= f) s = f (x s).1 (x s).2 := rfl

@[simp] theorem pure_at (b : β) (s : σ) : (pure b : StateM σ β) s = (b, s) := rfl

@[simp] theorem get_at (s : σ) : (get : StateM σ σ) s = (s, s) := rfl

@[simp] theorem forM_cons_at (f : β → StateM σ PUnit) (b : β) (l : List β) (s : σ) :
    ((b :: l).forM f) s = (l.forM f) (f b s).2 := rfl

@[simp] theorem Act.own_at {μ : Type} (s : Scene μ σ) : (Act.own : Act μ σ μ) s = (s.own, s) := rfl

@[simp] theorem Act.change_at {μ : Type} (f : μ → μ) (s : Scene μ σ) :
    (Act.change f : Act μ σ Unit) s = ((), { s with own := f s.own }) := rfl

@[simp] theorem Act.ask_at {μ : Type} (q : StateM σ β) (s : Scene μ σ) :
    (Act.ask q : Act μ σ β) s = ((q s.host).1, { s with host := (q s.host).2 }) := rfl

@[simp] theorem Act.give_at {μ : Type} (n : Notice) (s : Scene μ σ) :
    (Act.give n : Act μ σ Unit) s = ((), { s with notices := s.notices ++ [n] }) := rfl

/-! ## Staying within a set of states -/

/-- The function leads from states in `I` to states in `I`. -/
def Keeps (I : σ → Prop) (x : StateM σ β) : Prop := ∀ s, I s → I (x s).2

namespace Keeps

variable {I : σ → Prop}

theorem pure (b : β) : Keeps I (pure b : StateM σ β) := fun _ h => h

theorem bind {x : StateM σ β} {f : β → StateM σ γ} (hx : Keeps I x) (hf : ∀ b, Keeps I (f b)) :
    Keeps I (x >>= f) := fun s h => hf _ _ (hx s h)

/-- What a first step brings about, and the rest keeps, holds in the end. -/
theorem after {x : StateM σ β} {f : β → StateM σ γ} {s : σ} (hx : I (x s).2) (hf : ∀ b, Keeps I (f b)) :
    I ((x >>= f) s).2 := hf _ _ hx

theorem map {x : StateM σ β} (f : β → γ) (hx : Keeps I x) : Keeps I (f <$> x) := hx

theorem ite {c : Prop} [Decidable c] {x y : StateM σ β} (hx : c → Keeps I x) (hy : ¬c → Keeps I y) :
    Keeps I (if c then x else y) := by
  by_cases h : c
  · rw [if_pos h]; exact hx h
  · rw [if_neg h]; exact hy h

theorem forM {f : β → StateM σ PUnit} {l : List β} (hf : ∀ b ∈ l, Keeps I (f b)) : Keeps I (l.forM f) := by
  induction l with
  | nil => exact fun _ h => h
  | cons b l ih =>
    intro s h
    exact ih (fun c hc => hf c (List.mem_cons_of_mem _ hc)) _ (hf b List.mem_cons_self s h)

end Keeps

end StallGuard
