import Settlement.Engine.Operation

/-! Computations on an engine of which only a part is seen. A computation that is confined to what
is seen ends in the part as it ends in the whole, and writes the same. -/
namespace Settlement
namespace Engine
namespace Action

variable {α β : Type} {view : Engine → Engine} {e : Engine}

/-- Run on what is seen of the engine, the computation ends alike, and what is then seen is the same. -/
def Confined (view : Engine → Engine) (e : Engine) (x : Action α) : Prop :=
  x.on (view e) = (view (x.on e).1, (x.on e).2)

theorem confined_pure (a : α) : Confined view e (pure a) := rfl

theorem confined_lift (decision : Except Fault α) : Confined view e (liftM decision) := rfl

theorem confined_modify {f : Engine → Engine} (h : view (f e) = f (view e)) :
    Confined view e (modify f : Action Unit) := by
  rw [Confined, on_modify, on_modify, h]

theorem Confined.bind {x : Action α} {f : α → Action β} (hx : x.Confined view e)
    (hf : ∀ next a, x.on e = (next, .ok a) → (f a).Confined view next) : (x >>= f).Confined view e := by
  rw [Confined, on_bind, on_bind, hx]
  rcases h : x.on e with ⟨next, fault | a⟩
  · rfl
  · exact hf next a h

theorem Confined.map {x : Action α} (f : α → β) (hx : x.Confined view e) : (f <$> x).Confined view e := by
  rw [Confined, on_map, on_map, hx]

theorem confined_get_bind {f : Engine → Action β} (same : f (view e) = f e) (hf : (f e).Confined view e) :
    (get >>= f : Action β).Confined view e := by
  rw [Confined, on_get_bind, on_get_bind, same]
  exact hf

theorem confined_lift_bind {decision : Except Fault α} {f : α → Action β}
    (hf : ∀ a, decision = .ok a → (f a).Confined view e) : (liftM decision >>= f : Action β).Confined view e :=
  (confined_lift decision).bind fun next a h => by
    rw [on_lift] at h
    obtain ⟨rfl, hdecision⟩ := Prod.mk.inj h
    exact hf a hdecision

theorem confined_modify_bind {f : Engine → Engine} {g : Unit → Action β} (h : view (f e) = f (view e))
    (hg : (g ()).Confined view (f e)) : (modify f >>= g : Action β).Confined view e :=
  (confined_modify h).bind fun next a hnext => by
    rw [on_modify] at hnext
    cases hnext
    exact hg

theorem confined_refused {decision : Engine → Except Fault α} {fault : Fault} {f : α → Action β}
    (whole : decision e = .error fault) (part : decision (view e) = .error fault) :
    (get >>= fun e => liftM (decision e) >>= f : Action β).Confined view e := by
  refine confined_get_bind (by rw [whole, part]) (confined_lift_bind fun a ha => ?_)
  cases whole.symm.trans ha

theorem Confined.attempt {x : Action α} (hx : x.Confined view e) : x.attempt.Confined view e := by
  rw [Confined, on_attempt, on_attempt, hx]
  rcases x.on e with ⟨next, (error | _) | a⟩ <;> rfl

end Action

end Engine
end Settlement
