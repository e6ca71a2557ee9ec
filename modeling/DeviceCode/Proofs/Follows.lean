import DeviceCode.Proofs.LoaderAlike

/-!
# Loads that succeed when others do

`Follows S x y T`: when `x` succeeds from one of two states related by `S`, so does `y` from the
other, and the answers and the states they leave are related by `T`. Nothing is said of an `x` that
fails. Unlike `Alike`, the two need not make the same calls, and the relation may change on the way:
what one side has got, and the other has not, is part of it.

Worlds are `Abreast` when they agree on all but the log and the accelerator. The steps that any two
loads have in common, binding above all, follow each other over accelerators that pin alike and
define globals alike, each in its own executable.
-/

namespace DeviceCode

variable {ρ ρ' α α' β β' ε ε' : Type}

/-- When `x` succeeds, so does `y`, and what they lead to is related by `T`. -/
def Follows (S : ρ → ρ' → Prop) (x : ExceptT ε (StateM ρ) α) (y : ExceptT ε' (StateM ρ') α')
    (T : α → α' → ρ → ρ' → Prop) : Prop :=
  ∀ s t, S s t → ∀ a s', x s = (.ok a, s') → ∃ b t', y t = (.ok b, t') ∧ T a b s' t'

/-- A sequence of two steps succeeds when both do. -/
theorem run_bind_eq_ok {x : ExceptT ε (StateM ρ) α} {f : α → ExceptT ε (StateM ρ) β} {s s' : ρ}
    {b : β} : (x >>= f) s = (.ok b, s') ↔ ∃ a mid, x s = (.ok a, mid) ∧ f a mid = (.ok b, s') := by
  constructor
  · intro h
    rcases hx : x s with ⟨e | a, mid⟩
    · rw [run_bind_of_error hx] at h
      cases h
    · rw [run_bind_of_ok hx] at h
      exact ⟨a, mid, rfl, h⟩
  · rintro ⟨a, mid, hx, hf⟩
    rw [run_bind_of_ok hx]
    exact hf

namespace Follows

variable {S : ρ → ρ' → Prop} {T : α → α' → ρ → ρ' → Prop} {U : β → β' → ρ → ρ' → Prop}

theorem pure {a : α} {b : α'} (h : ∀ s t, S s t → T a b s t) :
    Follows S (Pure.pure a : ExceptT ε (StateM ρ) α)
      (Pure.pure b : ExceptT ε' (StateM ρ') α') T := by
  intro s t hs c s' hrun
  cases hrun
  exact ⟨b, t, rfl, h s t hs⟩

/-- Anything follows what fails. -/
theorem throw {e : ε} {y : ExceptT ε' (StateM ρ') α'} :
    Follows S (MonadExcept.throw e : ExceptT ε (StateM ρ) α) y T := by
  intro s t _ a s' hrun
  cases hrun

theorem imp {x : ExceptT ε (StateM ρ) α} {y : ExceptT ε' (StateM ρ') α'}
    {T' : α → α' → ρ → ρ' → Prop} (h : Follows S x y T) (ht : ∀ a b s t, T a b s t → T' a b s t) :
    Follows S x y T' := by
  intro s t hs a s' hrun
  obtain ⟨b, t', hy, hT⟩ := h s t hs a s' hrun
  exact ⟨b, t', hy, ht a b s' t' hT⟩

theorem bind {x : ExceptT ε (StateM ρ) α} {y : ExceptT ε' (StateM ρ') α'}
    {f : α → ExceptT ε (StateM ρ) β} {g : α' → ExceptT ε' (StateM ρ') β'}
    (hx : Follows S x y T) (hf : ∀ a b, Follows (T a b) (f a) (g b) U) :
    Follows S (x >>= f) (y >>= g) U := by
  intro s t hs c s' hrun
  obtain ⟨a, mid, hxs, hfa⟩ := run_bind_eq_ok.mp hrun
  obtain ⟨b, mid', hyt, hT⟩ := hx s t hs a mid hxs
  obtain ⟨d, t', hgb, hU⟩ := hf a b mid mid' hT c s' hfa
  exact ⟨d, t', run_bind_eq_ok.mpr ⟨b, mid', hyt, hgb⟩, hU⟩

/-- The common case: the first answers are equal. -/
theorem andThen {x : ExceptT ε (StateM ρ) α} {y : ExceptT ε' (StateM ρ') α}
    {f : α → ExceptT ε (StateM ρ) β} {g : α → ExceptT ε' (StateM ρ') β'} {M : α → ρ → ρ' → Prop}
    (hx : Follows S x y fun a b s t => a = b ∧ M a s t)
    (hf : ∀ a, Follows (M a) (f a) (g a) U) : Follows S (x >>= f) (y >>= g) U := by
  refine hx.bind fun a b => ?_
  rintro s t ⟨rfl, hs⟩
  exact hf a s t hs

/-- A step that only one side takes. -/
theorem bind_left {x : ExceptT ε (StateM ρ) α} {f : α → ExceptT ε (StateM ρ) β}
    {y : ExceptT ε' (StateM ρ') β'} {M : α → ρ → ρ' → Prop}
    (hx : ∀ s t, S s t → ∀ a s', x s = (.ok a, s') → M a s' t)
    (hf : ∀ a, Follows (M a) (f a) y U) : Follows S (x >>= f) y U := by
  intro s t hs c s' hrun
  obtain ⟨a, mid, hxs, hfa⟩ := run_bind_eq_ok.mp hrun
  exact hf a mid t (hx s t hs a mid hxs) c s' hfa

/-- A step that only the other side takes: it has to succeed. -/
theorem bind_right {x : ExceptT ε (StateM ρ) β} {y : ExceptT ε' (StateM ρ') α'}
    {g : α' → ExceptT ε' (StateM ρ') β'} {M : α' → ρ → ρ' → Prop}
    (hy : ∀ s t, S s t → ∃ b t', y t = (.ok b, t') ∧ M b s t')
    (hg : ∀ b, Follows (M b) x (g b) U) : Follows S x (y >>= g) U := by
  intro s t hs c s' hrun
  obtain ⟨b, mid, hyt, hS⟩ := hy s t hs
  obtain ⟨d, t', hgb, hU⟩ := hg b s mid hS c s' hrun
  exact ⟨d, t', run_bind_eq_ok.mpr ⟨b, mid, hyt, hgb⟩, hU⟩

theorem get_bind {f : ρ → ExceptT ε (StateM ρ) α} {g : ρ' → ExceptT ε' (StateM ρ') α'}
    (h : ∀ s t, S s t → Follows S (f s) (g t) T) : Follows S (get >>= f) (get >>= g) T :=
  fun s t hs => h s t hs s t hs

end Follows

/-! ## Worlds and loads abreast -/

variable {σ τ : Type} {R Q : σ → τ → Prop} {sys : Host.System}

/-- Worlds of one host that agree on all but the log, over accelerators whose states are related. -/
structure World.Abreast (sys : Host.System) (R : σ → τ → Prop) (v : World σ) (w : World τ) :
    Prop where
  accelerator : R v.accelerator w.accelerator
  host : v.host = sys
  host' : w.host = sys
  loader : v.loader = w.loader
  completions : v.completions = w.completions
  hookCalls : v.hookCalls = w.hookCalls

/-- Loads in progress whose worlds are abreast and whose holdings are related. -/
structure LoadProgress.Abreast (sys : Host.System) (H : Holdings → Holdings → Prop)
    (R : σ → τ → Prop) (p : LoadProgress σ) (q : LoadProgress τ) : Prop where
  held : H p.held q.held
  world : World.Abreast sys R p.world q.world

theorem World.Abreast.imp {v : World σ} {w : World τ} (h : World.Abreast sys R v w)
    (hR : R v.accelerator w.accelerator → Q v.accelerator w.accelerator) :
    World.Abreast sys Q v w :=
  { h with accelerator := hR h.accelerator }

namespace Attempt

theorem call_follows {T : α → β → σ → τ → Prop} (cause cause' : CallError → LoadError)
    {f : σ → Reply σ α} {g : τ → Reply τ β} (h : Follows R f g T) :
    Follows (World.Abreast sys R) (call cause f) (call cause' g)
      fun a b => World.Abreast sys (T a b) := by
  intro v w hvw a v' hrun
  rcases hf : f v.accelerator with ⟨e | c, s⟩
  · rw [run_call_error cause hf] at hrun
    cases hrun
  · rw [run_call_ok cause hf] at hrun
    cases hrun
    obtain ⟨b, t, hg, hT⟩ := h _ _ hvw.accelerator a s hf
    exact ⟨b, _, run_call_ok cause' hg, { hvw with accelerator := hT }⟩

/-- A call that gets the same answer on both sides. -/
theorem call_follows_eq {Q : σ → τ → Prop} (cause cause' : CallError → LoadError)
    {f : σ → Reply σ α} {g : τ → Reply τ α} (h : Follows R f g fun a b s t => a = b ∧ Q s t) :
    Follows (World.Abreast sys R) (call cause f) (call cause' g)
      fun a b v w => a = b ∧ World.Abreast sys Q v w :=
  (call_follows cause cause' h).imp fun _ _ _ _ hvw =>
    ⟨hvw.accelerator.1, hvw.imp fun hR => hR.2⟩

theorem report_follows (e e' : Trace.Event) :
    Follows (World.Abreast sys R) (report e) (report e') fun _ _ => World.Abreast sys R := by
  intro v w hvw a v' hrun
  cases hrun
  exact ⟨(), _, rfl, { hvw with }⟩

end Attempt

namespace LoadStep

variable {H J : Holdings → Holdings → Prop}

theorem attempt_follows {T : α → β → World σ → World τ → Prop} {x : Attempt σ α} {y : Attempt τ β}
    (h : Follows (World.Abreast sys R) x y T) :
    Follows (LoadProgress.Abreast sys H R) (attempt x) (attempt y)
      fun a b p q => H p.held q.held ∧ T a b p.world q.world := by
  intro p q hpq a p' hrun
  unfold attempt at hrun ⊢
  rcases hx : x p.world with ⟨e | c, v⟩
  · rw [hx] at hrun
    cases hrun
  · rw [hx] at hrun
    cases hrun
    obtain ⟨b, w, hy, hT⟩ := h _ _ hpq.world a v hx
    rw [hy]
    exact ⟨b, _, rfl, hpq.held, hT⟩

theorem attempt_follows_eq {x : Attempt σ α} {y : Attempt τ α}
    (h : Follows (World.Abreast sys R) x y fun a b v w => a = b ∧ World.Abreast sys Q v w) :
    Follows (LoadProgress.Abreast sys H R) (attempt x) (attempt y)
      fun a b p q => a = b ∧ LoadProgress.Abreast sys H Q p q :=
  (attempt_follows h).imp fun _ _ _ _ hT => ⟨hT.2.1, hT.1, hT.2.2⟩

theorem call_follows {T : α → β → σ → τ → Prop} (cause cause' : CallError → LoadError)
    {f : σ → Reply σ α} {g : τ → Reply τ β} (h : Follows R f g T) :
    Follows (LoadProgress.Abreast sys H R) (call cause f) (call cause' g)
      fun a b => LoadProgress.Abreast sys H (T a b) :=
  (attempt_follows (Attempt.call_follows cause cause' h)).imp fun _ _ _ _ hT => ⟨hT.1, hT.2⟩

theorem call_follows_eq (cause cause' : CallError → LoadError) {f : σ → Reply σ α}
    {g : τ → Reply τ α} (h : Follows R f g fun a b s t => a = b ∧ Q s t) :
    Follows (LoadProgress.Abreast sys H R) (call cause f) (call cause' g)
      fun a b p q => a = b ∧ LoadProgress.Abreast sys H Q p q :=
  attempt_follows_eq (Attempt.call_follows_eq cause cause' h)

theorem hold_follows {f g : Holdings → Holdings}
    (h : ∀ held held', H held held' → J (f held) (g held')) :
    Follows (LoadProgress.Abreast sys H R) (hold f) (hold g)
      fun _ _ => LoadProgress.Abreast sys J R := by
  intro p q hpq a p' hrun
  cases hrun
  exact ⟨(), _, rfl, h _ _ hpq.held, hpq.world⟩

end LoadStep

/-! ## Binding host globals -/

namespace Loader

variable {l : Loader σ} {k : Loader τ} {agent : AgentHandle} {e e' : ExecutableHandle}

section Binding

variable
  (hlock : ∀ x n, Follows R (l.accelerator.lockMemory agent x n)
    (k.accelerator.lockMemory agent x n) fun a b s t => a = b ∧ R s t)
include hlock

theorem pinGlobal_follows (host : Host.Image) (name : String) :
    Follows (World.Abreast sys R) (l.pinGlobal host agent name) (k.pinGlobal host agent name)
      fun a b v w => a = b ∧ World.Abreast sys R v w := by
  unfold pinGlobal
  cases host.lookup? name with
  | none => exact Follows.throw
  | some s =>
    exact (Attempt.call_follows_eq _ _ (hlock _ _)).andThen fun x =>
      Follows.pure fun _ _ hvw => ⟨rfl, hvw⟩

variable
  (hdefine : ∀ n x, Follows R (l.accelerator.defineGlobal e n x)
    (k.accelerator.defineGlobal e' n x) fun _ _ => R)
include hdefine

omit hlock in
theorem defineGlobal_follows (pin : PinnedGlobal) :
    Follows (World.Abreast sys R) (l.defineGlobal e pin) (k.defineGlobal e' pin)
      fun _ _ => World.Abreast sys R :=
  (Attempt.call_follows _ _ (hdefine _ _)).bind fun _ _ => Attempt.report_follows _ _

theorem bindUntilFailure_follows (host : Host.Image) (pins bound : List PinnedGlobal)
    (names : List String) {v v' : World σ} {w : World τ} (hvw : World.Abreast sys R v w)
    (hrun : l.bindUntilFailure host agent e pins names v = ((bound, none), v')) :
    ∃ w', k.bindUntilFailure host agent e' pins names w = ((bound, none), w') ∧
      World.Abreast sys R v' w' := by
  induction names generalizing pins v w with
  | nil =>
    cases hrun
    exact ⟨w, rfl, hvw⟩
  | cons name names ih =>
    unfold bindUntilFailure at hrun ⊢
    rcases hpin : l.pinGlobal host agent name v with ⟨err | pin, v₁⟩
    · rw [run_bind_of (x := (l.pinGlobal host agent name).run) hpin] at hrun
      cases hrun
    rw [run_bind_of (x := (l.pinGlobal host agent name).run) hpin] at hrun
    obtain ⟨_, w₁, hpin', rfl, hvw₁⟩ := pinGlobal_follows hlock host name v w hvw pin v₁ hpin
    rw [run_bind_of (x := (k.pinGlobal host agent name).run) hpin']
    dsimp only at hrun ⊢
    rcases hdef : l.defineGlobal e pin v₁ with ⟨err | ⟨⟩, v₂⟩
    · rw [run_bind_of (x := (l.defineGlobal e pin).run) hdef] at hrun
      cases hrun
    rw [run_bind_of (x := (l.defineGlobal e pin).run) hdef] at hrun
    obtain ⟨_, w₂, hdef', hvw₂⟩ := defineGlobal_follows hdefine pin v₁ w₁ hvw₁ () v₂ hdef
    rw [run_bind_of (x := (k.defineGlobal e' pin).run) hdef']
    exact ih (pins ++ [pin]) hvw₂ hrun

theorem bindGlobals_follows (host : Host.Image) (names : List String) :
    Follows (World.Abreast sys R) (l.bindGlobals host agent e names)
      (k.bindGlobals host agent e' names) fun a b v w => a = b ∧ World.Abreast sys R v w := by
  intro v w hvw pins v' hrun
  unfold bindGlobals at hrun ⊢
  rw [run_lift_bind] at hrun ⊢
  rcases hbind : l.bindUntilFailure host agent e [] names v with ⟨⟨bound, _ | err⟩, v₁⟩
  · rw [hbind] at hrun
    cases hrun
    obtain ⟨w₁, hbind', hvw₁⟩ := bindUntilFailure_follows hlock hdefine host [] _ names hvw hbind
    rw [hbind']
    exact ⟨_, _, rfl, rfl, { hvw₁ with }⟩
  · rw [hbind] at hrun
    cases hrun

omit hlock hdefine in
theorem hostImage_follows (hsettings : l.settings = k.settings) :
    Follows (World.Abreast sys R) l.hostImage k.hostImage
      fun a b v w => a = b ∧ World.Abreast sys R v w := by
  refine Follows.get_bind fun v w hvw => ?_
  rw [hvw.loader, hvw.host, hvw.host', hsettings]
  cases w.loader.hostImage with
  | some image => exact Follows.pure fun _ _ h => ⟨rfl, h⟩
  | none =>
    dsimp only
    cases Host.Image.load sys k.settings with
    | error err => exact Follows.throw
    | ok image =>
      intro v w hvw a v' hrun
      cases hrun
      exact ⟨image, _, rfl, rfl, { hvw with
        loader := by
          show { v.loader with hostImage := some image } = { w.loader with hostImage := some image }
          rw [hvw.loader] }⟩

/-- The same names are bound to the same pins in both executables. -/
theorem bindUndefined_follows {H : Holdings → Holdings → Prop}
    (hsettings : l.settings = k.settings)
    (hH : ∀ held held' pins, H held held' → H { held with pins } { held' with pins })
    (undefined : List String) :
    Follows (LoadProgress.Abreast sys H R) (l.bindUndefined agent e undefined)
      (k.bindUndefined agent e' undefined) fun _ _ => LoadProgress.Abreast sys H R := by
  unfold bindUndefined
  split
  · exact Follows.pure fun _ _ h => h
  · refine (LoadStep.attempt_follows_eq (hostImage_follows hsettings)).andThen fun host => ?_
    refine (LoadStep.attempt_follows_eq (bindGlobals_follows hlock hdefine host _)).andThen
      fun pins => ?_
    exact LoadStep.hold_follows fun held held' => hH held held' pins

end Binding

end Loader

end DeviceCode
