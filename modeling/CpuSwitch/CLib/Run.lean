import Mathlib.Data.List.Induction
import Mathlib.Data.List.ReduceOption

/-! Runs of a deterministic machine over a list of inputs. -/
namespace CLib

variable {σ ι : Type*} {step : σ → ι → σ} {start : σ} {inputs : List ι}

/-- The state after all inputs. -/
def run (step : σ → ι → σ) (start : σ) (inputs : List ι) : σ := inputs.foldl step start

@[simp] theorem run_nil : run step start [] = start := rfl

@[simp] theorem run_cons {i : ι} : run step start (i :: inputs) = run step (step start i) inputs :=
  rfl

theorem run_concat {i : ι} : run step start (inputs ++ [i]) = step (run step start inputs) i := by
  simp [run]

/-- What every step preserves holds after every run. -/
theorem run_invariant {P : σ → Prop} (h0 : P start) (h : ∀ s i, P s → P (step s i)) :
    P (run step start inputs) := by
  induction inputs generalizing start with
  | nil => exact h0
  | cons i inputs ih => exact ih (h start i h0)

/-- Only the inputs that occur have to preserve it. -/
theorem run_invariant_of_mem {P : σ → Prop} (h0 : P start)
    (h : ∀ s, ∀ i ∈ inputs, P s → P (step s i)) : P (run step start inputs) := by
  induction inputs generalizing start with
  | nil => exact h0
  | cons i inputs ih =>
    exact ih (h start i List.mem_cons_self h0) fun s j hj => h s j (List.mem_cons_of_mem _ hj)

/-- Where one step keeps the property exactly under a condition, a run keeps it throughout
exactly when all of its steps meet the condition. -/
theorem run_always_iff {P : σ → Prop} {Q : σ → ι → Prop} (h0 : P start)
    (h : ∀ s i, P s → (P (step s i) ↔ Q s i)) :
    (∀ front, front <+: inputs → P (run step start front)) ↔
      ∀ front i, front ++ [i] <+: inputs → Q (run step start front) i := by
  constructor
  · intro hall front i hfront
    have hs := hall front ((List.prefix_append front [i]).trans hfront)
    have ht := hall (front ++ [i]) hfront
    rw [run_concat] at ht
    exact (h _ i hs).mp ht
  · intro hall front
    induction front using List.reverseRecOn with
    | nil => intro _; exact h0
    | append_singleton front i ih =>
      intro hfront
      have hs := ih ((List.prefix_append front [i]).trans hfront)
      rw [run_concat]
      exact (h _ i hs).mpr (hall front i hfront)

/-- A relation that one step of both machines keeps relates their states after every run. -/
theorem run_simulation {τ κ : Type*} {step' : τ → κ → τ} {start' : τ} {f : ι → κ}
    {R : σ → τ → Prop} (h0 : R start start') (h : ∀ s t i, R s t → R (step s i) (step' t (f i))) :
    R (run step start inputs) (run step' start' (inputs.map f)) := by
  induction inputs generalizing start start' with
  | nil => exact h0
  | cons i inputs ih => exact ih (h start start' i h0)

section Memo
variable {δ : Type*} {requests : List (Option δ)} {s : σ}

/-- Perform every requested action. -/
def actStep (act : δ → σ → σ) (s : σ) : Option δ → σ
  | none => s
  | some d => act d s

variable [DecidableEq δ]

/-- Perform a requested action unless it was the last one performed. -/
def memoStep (act : δ → σ → σ) (m : Option δ × σ) : Option δ → Option δ × σ
  | none => m
  | some d => if m.1 = some d then m else (some d, act d m.2)

/-- Skipping repeated idempotent actions is not observable, and the memory is the last request. -/
theorem run_memoStep (act : δ → σ → σ) (hact : ∀ d s, act d (act d s) = act d s) :
    run (memoStep act) (none, s) requests =
      (requests.reduceOption.getLast?, run (actStep act) s requests) := by
  suffices h : run (memoStep act) (none, s) requests =
      (requests.reduceOption.getLast?, run (actStep act) s requests) ∧
        ∀ d, requests.reduceOption.getLast? = some d →
          act d (run (actStep act) s requests) = run (actStep act) s requests from h.1
  induction requests using List.reverseRecOn with
  | nil => simp
  | append_singleton requests request ih =>
    obtain ⟨hrun, hlast⟩ := ih
    rw [run_concat, run_concat, hrun, List.reduceOption_append]
    cases request with
    | none => exact ⟨by simp [memoStep, actStep], by simpa [actStep] using hlast⟩
    | some d =>
      rw [List.reduceOption_singleton, Option.toList_some, List.getLast?_concat]
      refine ⟨?_, fun e he => ?_⟩
      · by_cases hd : requests.reduceOption.getLast? = some d
        · simp only [memoStep, hd, if_true, actStep, hlast d hd]
        · simp only [memoStep, hd, if_false, actStep]
      · cases he
        exact hact d _

end Memo

end CLib
