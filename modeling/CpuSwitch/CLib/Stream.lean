import CpuSwitch.CLib.Text

/-! Output streams of the C library whose writes may fail. -/
namespace CLib

/-- The text accepted so far and the number of calls made. -/
structure Stream where
  text : Text
  calls : ℕ

def Stream.empty : Stream := ⟨[], 0⟩

/-- `fputs`; the environment decides which call of the stream fails. -/
def fputs (accepts : ℕ → Bool) (stream : Stream) (text : Text) : Option Stream :=
  if accepts stream.calls then some ⟨stream.text ++ text, stream.calls + 1⟩ else none

variable {σ α : Type*} {accepts : ℕ → Bool} {stream stream' : Stream} {text : Text}

theorem fputs_text (h : fputs accepts stream text = some stream') :
    stream'.text = stream.text ++ text := by
  unfold fputs at h
  split_ifs at h
  cases h
  rfl

/-- A loop that adds a text in each round adds all of them in order. -/
theorem foldlM_text (written : σ → Text) {step : σ → α → Option σ} {emit : α → Text}
    {inputs : List α} {start finish : σ}
    (hstep : ∀ s a s', step s a = some s' → written s' = written s ++ emit a)
    (h : inputs.foldlM step start = some finish) :
    written finish = written start ++ inputs.flatMap emit := by
  induction inputs generalizing start with
  | nil =>
    cases h
    simp
  | cons a inputs ih =>
    rw [List.foldlM_cons] at h
    obtain ⟨next, hnext, hrest⟩ := Option.bind_eq_some_iff.mp h
    rw [ih hrest, hstep _ _ _ hnext, List.flatMap_cons, List.append_assoc]

end CLib
