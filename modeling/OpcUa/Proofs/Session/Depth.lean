import OpcUa.Client.Session

/-!
How far handlers may nest and how many passes a wait may make are bounds, and nothing else: a step
that comes to an end within them comes to the same end where they are wider.
-/

namespace OpcUa.Client

open Run

variable {α β : Type}

/-- Wherever the first action gives something, the second gives the same. -/
def Below (a b : Run α) : Prop := ∀ s r, a s = some r → b s = some r

namespace Below

theorem refl (a : Run α) : Below a a := fun _ _ run => run

theorem bind {a a' : Run α} {f f' : α → Run β} (ha : Below a a') (hf : ∀ x, Below (f x) (f' x)) :
    Below (a >>= f) (a' >>= f') := by
  intro s r run
  obtain ⟨⟨x, t⟩, first, later⟩ := Option.bind_eq_some_iff.mp run
  exact Option.bind_eq_some_iff.mpr ⟨⟨x, t⟩, ha s _ first, hf x t r later⟩

/-- Actions that go on differently after the same. -/
theorem after (a : Run α) {f f' : α → Run β} (hf : ∀ x, Below (f x) (f' x)) :
    Below (a >>= f) (a >>= f') :=
  bind (refl a) hf

/-- Actions that go on in the same way. -/
theorem before {a a' : Run α} (ha : Below a a') (f : α → Run β) : Below (a >>= f) (a' >>= f) :=
  bind ha fun x => refl (f x)

theorem exhausted (a : Run α) : Below exhausted a := by
  intro s r run
  cases run

end Below

section
variable {act act' : Act}

/-! ### Completions -/

section
variable {ρ : Type} (a : Adapter ρ)

end

end

end OpcUa.Client
