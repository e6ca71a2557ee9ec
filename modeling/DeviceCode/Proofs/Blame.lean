import DeviceCode.Proofs.Bindings
import DeviceCode.Proofs.HostIndex
import DeviceCode.Proofs.LoadDecided
import DeviceCode.Proofs.LoadOutcome

/-!
# Which image a failed load blames

Two failures put a load down to an object file: `malformedObject` to the one that is loaded, and
`hostImageUnavailable` to the one that undefined names are looked up in. No step of a load fails in
either of these ways but the reading of its own image and that of the host image, whatever the
accelerator answers (`Blameless`). So once the image of a load is known to be well formed, such a
failure comes from the host image, and it says what came of reading that
(`Loader.loadFrom_blames_iff`).

A host image whose symbol tables cannot be read makes the object malformed, and nothing tells this
failure from that of a malformed device image (`Loader.load_blames_host_iff`).
-/

namespace DeviceCode

variable {σ ρ α β : Type}

/-! ## Failures that blame an image -/

/-- The failure is put down to an object file. -/
def LoadError.BlamesImage : LoadError → Prop
  | .malformedObject _ | .hostImageUnavailable _ _ => True
  | _ => False

/-- Nothing that fails here is put down to an object file. -/
def Blameless (x : ExceptT LoadError (StateM ρ) α) : Prop :=
  ∀ s e, (x s).1 = .error e → ¬ e.BlamesImage

namespace Blameless

variable {x : ExceptT LoadError (StateM ρ) α} {f : α → ExceptT LoadError (StateM ρ) β}

theorem pure (a : α) : Blameless (Pure.pure a : ExceptT LoadError (StateM ρ) α) := by
  intro s e h
  cases h

theorem throw {cause : LoadError} (h : ¬ cause.BlamesImage) :
    Blameless (MonadExcept.throw cause : ExceptT LoadError (StateM ρ) α) := by
  intro s e hrun
  cases hrun
  exact h

/-- What comes first has no part in a failure that blames an image. -/
theorem bind_error_iff (hx : Blameless x) {s : ρ} {cause : LoadError} (h : cause.BlamesImage) :
    ((x >>= f) s).1 = .error cause ↔ ∃ a t, x s = (.ok a, t) ∧ (f a t).1 = .error cause := by
  rcases hrun : x s with ⟨e | a, t⟩
  · rw [run_bind_of_error hrun]
    constructor
    · intro herror
      cases herror
      exact absurd h (hx s _ (by rw [hrun]))
    · rintro ⟨a, t, hok, -⟩
      cases hok
  · rw [run_bind_of_ok hrun]
    constructor
    · intro herror
      exact ⟨a, t, rfl, herror⟩
    · rintro ⟨a', t', hok, herror⟩
      cases hok
      exact herror

/-- Nor has what comes last. -/
theorem error_bind_iff (hf : ∀ a, Blameless (f a)) {s : ρ} {cause : LoadError}
    (h : cause.BlamesImage) : ((x >>= f) s).1 = .error cause ↔ (x s).1 = .error cause := by
  rcases hrun : x s with ⟨e | a, t⟩
  · rw [run_bind_of_error hrun]
    constructor
    · intro herror
      cases herror
      rfl
    · intro herror
      cases herror
      rfl
  · rw [run_bind_of_ok hrun]
    constructor
    · intro herror
      exact absurd h (hf a t cause herror)
    · intro hok
      cases hok

theorem bind (hx : Blameless x) (hf : ∀ a, Blameless (f a)) : Blameless (x >>= f) := by
  intro s e herror hblames
  exact hx s e ((error_bind_iff hf hblames).mp herror) hblames

/-- An action cannot fail. -/
theorem perform (x : Action σ α) : Blameless (Attempt.perform x) := by
  intro s e h
  cases h

/-- A call that fails is put down to the accelerator. -/
theorem call {cause : CallError → LoadError} (h : ∀ c, ¬ (cause c).BlamesImage)
    (f : σ → Reply σ α) : Blameless (Attempt.call cause f) := by
  intro w e herror
  rcases hcall : f w.accelerator with ⟨c | a, s⟩
  · rw [Attempt.run_call_error cause hcall] at herror
    cases herror
    exact h c
  · rw [Attempt.run_call_ok cause hcall] at herror
    cases herror

theorem attempt {x : Attempt σ α} (h : Blameless x) : Blameless (LoadStep.attempt x) := by
  intro p e herror
  exact h p.world e herror

theorem step {cause : CallError → LoadError} (h : ∀ c, ¬ (cause c).BlamesImage)
    (f : σ → Reply σ α) : Blameless (LoadStep.call cause f) :=
  (call h f).attempt

theorem get_bind {f : ρ → ExceptT LoadError (StateM ρ) β} (h : ∀ s, Blameless (f s)) :
    Blameless (get >>= f) :=
  fun s e herror => h s s e herror

theorem hold (f : Holdings → Holdings) : Blameless (LoadStep.hold f : LoadStep σ Unit) := by
  intro p e h
  cases h

end Blameless

theorem not_blames_loadFailed (c : CallError) : ¬ (LoadError.loadFailed c).BlamesImage := id

theorem not_blames_memory (c : CallError) : ¬ (Loader.memoryError c).BlamesImage := id

namespace Loader

variable (l : Loader σ) (agent : AgentHandle)

/-! ## Steps that blame no image -/

theorem newExecutable_blameless : Blameless l.newExecutable :=
  (Blameless.step not_blames_loadFailed _).bind fun _ => (Blameless.hold _).bind fun _ => .pure _

theorem imageRegion_blameless : Blameless (l.imageRegion agent) := by
  refine (Blameless.step not_blames_memory _).bind fun found => ?_
  cases found with
  | none => exact .throw id
  | some region => exact .pure region

theorem copyImage_blameless (image : Bytes) : Blameless (l.copyImage agent image) :=
  (l.imageRegion_blameless agent).bind fun _ => (Blameless.step not_blames_memory _).bind fun _ =>
    (Blameless.hold _).bind fun _ => (Blameless.step not_blames_loadFailed _).bind fun _ =>
    (Blameless.step not_blames_loadFailed _).bind fun _ => (Blameless.hold _).bind fun _ => .pure _

theorem pinGlobal_blameless (host : Host.Image) (name : String) :
    Blameless (l.pinGlobal host agent name) := by
  unfold pinGlobal
  cases host.lookup? name with
  | none => exact .throw id
  | some s => exact (Blameless.call not_blames_loadFailed _).bind fun _ => .pure _

theorem defineGlobal_blameless (e : ExecutableHandle) (pin : PinnedGlobal) :
    Blameless (l.defineGlobal e pin) :=
  (Blameless.call not_blames_loadFailed _).bind fun _ => .perform _

/-- What stops binding is no image's fault. -/
theorem bindUntilFailure_blameless (host : Host.Image) (e : ExecutableHandle)
    (pins : List PinnedGlobal) (names : List String) (w : World σ) {cause : LoadError}
    (h : (l.bindUntilFailure host agent e pins names w).1.2 = some cause) :
    ¬ cause.BlamesImage := by
  -- along the names; pins and world are those of the names before
  induction names generalizing pins w with
  | nil => cases h
  | cons name names ih =>
    unfold bindUntilFailure at h
    rcases hpin : l.pinGlobal host agent name w with ⟨err | pin, w'⟩
    · have hrun : (l.pinGlobal host agent name).run w = (.error err, w') := hpin
      rw [run_bind_of hrun] at h
      cases h
      exact l.pinGlobal_blameless agent host name w _ (by rw [hpin])
    · have hrun : (l.pinGlobal host agent name).run w = (.ok pin, w') := hpin
      rw [run_bind_of hrun] at h
      rcases hdefine : l.defineGlobal e pin w' with ⟨err | u, w''⟩
      · have hrun : (l.defineGlobal e pin).run w' = (.error err, w'') := hdefine
        dsimp only at h
        rw [run_bind_of hrun] at h
        cases h
        exact l.defineGlobal_blameless e pin w' _ (by rw [hdefine])
      · have hrun : (l.defineGlobal e pin).run w' = (.ok u, w'') := hdefine
        dsimp only at h
        rw [run_bind_of hrun] at h
        exact ih _ w'' h

theorem bindGlobals_blameless (host : Host.Image) (e : ExecutableHandle) (names : List String) :
    Blameless (l.bindGlobals host agent e names) := by
  intro w cause herror
  unfold bindGlobals at herror
  rw [run_lift_bind] at herror
  rcases hrun : l.bindUntilFailure host agent e [] names w with ⟨⟨pins, stop⟩, w'⟩
  rw [hrun] at herror
  cases stop with
  | none => cases herror
  | some err =>
    cases herror
    exact l.bindUntilFailure_blameless agent host e [] names w (by rw [hrun])

/-! ## Looking at the host image -/

theorem hostImage_answer (w : World σ) : (l.hostImage w).1 = w.hostImage? l.settings := by
  unfold hostImage World.hostImage?
  have hget : (get : Attempt σ (World σ)) w = (.ok w, w) := rfl
  rw [run_bind_of_ok hget]
  cases w.loader.hostImage with
  | some host => rfl
  | none =>
    dsimp only
    cases Host.Image.load w.host l.settings with
    | error cause => rfl
    | ok host => rfl

/-- **Binding blames an image exactly when the host image cannot be indexed**, and says why. -/
theorem bindUndefined_blames_iff (e : ExecutableHandle) {names : List String} (hnames : names ≠ [])
    {p : LoadProgress σ} {cause : LoadError} (h : cause.BlamesImage) :
    (l.bindUndefined agent e names p).1 = .error cause ↔
      p.world.hostImage? l.settings = .error cause := by
  have hsome : ¬ names.isEmpty = true := fun hempty => hnames (List.isEmpty_iff.mp hempty)
  unfold bindUndefined
  rw [if_neg hsome, Blameless.error_bind_iff _ h, ← l.hostImage_answer]
  · rfl
  · intro host
    exact (l.bindGlobals_blameless agent host e names).attempt.bind fun _ => .hold _

/-! ## The calls before the host image is needed -/

/-- An image can be copied to device memory, and a code object be read from the copy. -/
def Copies (image : Bytes) (s t : σ) : Prop :=
  ∃ region address c s₁ s₂ s₃, l.accelerator.findRegion agent s = (.ok (some region), s₁) ∧
    l.accelerator.allocate region image.length s₁ = (.ok address, s₂) ∧
    l.accelerator.writeMemory address image s₂ = (.ok (), s₃) ∧
    l.accelerator.deserialize address image.length s₃ = (.ok c, t)

/-- An executable can be made. -/
def MakesExecutable (s : σ) : Prop := ∃ e t, l.accelerator.createExecutable s = (.ok e, t)

variable {l agent} {p q : LoadProgress σ}

theorem newExecutable_ok_iff {e : ExecutableHandle} : l.newExecutable p = (.ok e, q) ↔
    ∃ s, l.accelerator.createExecutable p.world.accelerator = (.ok e, s) ∧
      q = ⟨{ p.held with executable := some e }, { p.world with accelerator := s }⟩ := by
  unfold newExecutable
  rw [run_bind_eq_ok]
  constructor
  · rintro ⟨e', mid, hcall, hrest⟩
    obtain ⟨s, hs, rfl⟩ := LoadStep.call_ok_iff.mp hcall
    cases hrest
    exact ⟨s, hs, rfl⟩
  · rintro ⟨s, hs, rfl⟩
    exact ⟨e, _, LoadStep.call_ok_iff.mpr ⟨s, hs, rfl⟩, rfl⟩

theorem imageRegion_ok_iff {region : RegionHandle} : l.imageRegion agent p = (.ok region, q) ↔
    ∃ s, l.accelerator.findRegion agent p.world.accelerator = (.ok (some region), s) ∧
      q = { p with world := { p.world with accelerator := s } } := by
  unfold imageRegion
  rw [run_bind_eq_ok]
  constructor
  · rintro ⟨found, mid, hcall, hrest⟩
    obtain ⟨s, hs, rfl⟩ := LoadStep.call_ok_iff.mp hcall
    cases found with
    | none => cases hrest
    | some found =>
      cases hrest
      exact ⟨s, hs, rfl⟩
  · rintro ⟨s, hs, rfl⟩
    exact ⟨some region, _, LoadStep.call_ok_iff.mpr ⟨s, hs, rfl⟩, rfl⟩

/-- Copying an image succeeds when its calls do, and changes nothing but the accelerator. -/
theorem copyImage_ok_iff {image : Bytes} {w : World σ} :
    (∃ copied q, l.copyImage agent image p = (.ok copied, q) ∧ q.world = w) ↔
      ∃ t, l.Copies agent image p.world.accelerator t ∧ w = { p.world with accelerator := t } := by
  unfold copyImage
  constructor
  · rintro ⟨copied, q, h, rfl⟩
    obtain ⟨region, _, hregion, h⟩ := run_bind_eq_ok.mp h
    obtain ⟨s₁, hfind, rfl⟩ := imageRegion_ok_iff.mp hregion
    obtain ⟨address, _, hcall, h⟩ := run_bind_eq_ok.mp h
    obtain ⟨s₂, hallocate, rfl⟩ := LoadStep.call_ok_iff.mp hcall
    obtain ⟨_, _, hhold, h⟩ := run_bind_eq_ok.mp h
    cases hhold
    obtain ⟨_, _, hcall, h⟩ := run_bind_eq_ok.mp h
    obtain ⟨s₃, hwrite, rfl⟩ := LoadStep.call_ok_iff.mp hcall
    obtain ⟨c, _, hcall, h⟩ := run_bind_eq_ok.mp h
    obtain ⟨t, hread, rfl⟩ := LoadStep.call_ok_iff.mp hcall
    cases h
    exact ⟨t, ⟨region, address, c, s₁, s₂, s₃, hfind, hallocate, hwrite, hread⟩, rfl⟩
  · rintro ⟨t, ⟨region, address, c, s₁, s₂, s₃, hfind, hallocate, hwrite, hread⟩, rfl⟩
    refine ⟨(address, c), ⟨{ p.held with allocation := some address, codeObject := some c },
      { p.world with accelerator := t }⟩, ?_, rfl⟩
    refine run_bind_eq_ok.mpr ⟨region, _, imageRegion_ok_iff.mpr ⟨s₁, hfind, rfl⟩, ?_⟩
    refine run_bind_eq_ok.mpr ⟨address, _, LoadStep.call_ok_iff.mpr ⟨s₂, hallocate, rfl⟩, ?_⟩
    refine run_bind_eq_ok.mpr ⟨(), _, rfl, ?_⟩
    refine run_bind_eq_ok.mpr ⟨(), _, LoadStep.call_ok_iff.mpr ⟨s₃, hwrite, rfl⟩, ?_⟩
    exact run_bind_eq_ok.mpr ⟨c, _, LoadStep.call_ok_iff.mpr ⟨t, hread, rfl⟩, rfl⟩

/-! ## Whole loads -/

section

variable {names : List String} {cause : LoadError}

/-- From the new executable on, what is blamed is the host image. -/
theorem opened_blames_iff {rest : ExecutableHandle → LoadStep σ α} (hnames : names ≠ [])
    (hrest : ∀ e, Blameless (rest e)) (h : cause.BlamesImage) :
    ((do
        let e ← l.newExecutable
        l.bindUndefined agent e names
        rest e : LoadStep σ α) p).1 = .error cause ↔
      l.MakesExecutable p.world.accelerator ∧ p.world.hostImage? l.settings = .error cause := by
  rw [Blameless.bind_error_iff l.newExecutable_blameless h]
  constructor
  · rintro ⟨e, q, hopen, herror⟩
    obtain ⟨s, hs, rfl⟩ := newExecutable_ok_iff.mp hopen
    rw [Blameless.error_bind_iff (fun _ => hrest e) h, bindUndefined_blames_iff l agent e hnames h]
      at herror
    exact ⟨⟨e, s, hs⟩, herror⟩
  · rintro ⟨⟨e, s, hs⟩, herror⟩
    refine ⟨e, _, newExecutable_ok_iff.mpr ⟨s, hs, rfl⟩, ?_⟩
    rw [Blameless.error_bind_iff (fun _ => hrest e) h, bindUndefined_blames_iff l agent e hnames h]
    exact herror

theorem loadFileSteps_blames_iff (path : String) (hnames : names ≠ []) (h : cause.BlamesImage) :
    (l.loadFileSteps agent path names p).1 = .error cause ↔
      l.MakesExecutable p.world.accelerator ∧ p.world.hostImage? l.settings = .error cause := by
  unfold loadFileSteps
  refine opened_blames_iff hnames (fun e => ?_) h
  refine .get_bind fun q => ?_
  exact (Blameless.step not_blames_loadFailed _).bind fun _ => (Blameless.hold _).bind fun _ =>
    (Blameless.step not_blames_loadFailed _).bind fun _ =>
    (Blameless.step not_blames_loadFailed _).bind fun _ => .pure _

theorem loadImageSteps_blames_iff (image : Bytes) (hnames : names ≠ []) (h : cause.BlamesImage) :
    (l.loadImageSteps agent image names p).1 = .error cause ↔
      (∃ t, l.Copies agent image p.world.accelerator t ∧ l.MakesExecutable t) ∧
        p.world.hostImage? l.settings = .error cause := by
  have hfinish : ∀ copied q, (l.finishImage agent image names copied q).1 = .error cause ↔
      l.MakesExecutable q.world.accelerator ∧ q.world.hostImage? l.settings = .error cause := by
    intro copied q
    unfold finishImage
    refine opened_blames_iff hnames (fun e => ?_) h
    exact (Blameless.step not_blames_loadFailed _).bind fun _ =>
      (Blameless.step not_blames_loadFailed _).bind fun _ => .pure _
  rw [loadImageSteps_eq, Blameless.bind_error_iff (l.copyImage_blameless agent image) h]
  constructor
  · rintro ⟨copied, q, hcopy, herror⟩
    obtain ⟨t, hcopies, hworld⟩ := copyImage_ok_iff.mp ⟨copied, q, hcopy, rfl⟩
    rw [hfinish, hworld] at herror
    exact ⟨⟨t, hcopies, herror.1⟩, herror.2⟩
  · rintro ⟨⟨t, hcopies, hmakes⟩, herror⟩
    obtain ⟨copied, q, hcopy, hworld⟩ := copyImage_ok_iff.mpr ⟨t, hcopies, rfl⟩
    refine ⟨copied, q, hcopy, ?_⟩
    rw [hfinish, hworld]
    exact ⟨hmakes, herror⟩

theorem transaction_error_iff {steps : LoadStep σ α} {w : World σ} :
    (l.transaction steps w).1 = .error cause ↔ (steps { world := w }).1 = .error cause := by
  unfold transaction
  rcases steps { world := w } with ⟨err | a, p⟩
  · exact ⟨fun h => congrArg Except.error (Except.error.inj h),
      fun h => congrArg Except.error (Except.error.inj h)⟩
  · constructor
    · intro h
      cases h
    · intro h
      cases h

end

end Loader

/-- An image that can be loaded as far as it is itself concerned, with the names it leaves
undefined. -/
def Elf.WellFormed (bytes : Bytes) (names : List String) : Prop :=
  ∃ o, Object.parse bytes = .ok o ∧ 0 < o.extent ∧ o.extent ≤ bytes.length ∧
    o.undefinedGlobals = .ok names

instance (bytes : Bytes) (names : List String) : Decidable (Elf.WellFormed bytes names) :=
  match h : Elf.Object.parse bytes with
  | .ok o => decidable_of_iff
      (0 < o.extent ∧ o.extent ≤ bytes.length ∧ o.undefinedGlobals = .ok names) (by
        unfold Elf.WellFormed
        rw [h]
        constructor
        · exact fun hrest => ⟨o, rfl, hrest⟩
        · rintro ⟨_, heq, hrest⟩
          cases heq
          exact hrest)
  | .error _ => isFalse (by
      rintro ⟨_, heq, -⟩
      rw [h] at heq
      cases heq)

/-- The bytes that are loaded, if they can be read. -/
def LoadSource.image? (w : World σ) : LoadSource → Option Bytes
  | .file path => (w.host.files.read path).toOption
  | .memory bytes | .memoryWith bytes _ => some bytes

namespace Loader

/-- All calls that a load of these bytes makes before it looks at the host image succeed. From
memory these are the ones that copy the object. -/
def ReachesHost (l : Loader σ) (agent : AgentHandle) (bytes : Bytes) (s : σ) : LoadSource → Prop
  | .file _ => l.MakesExecutable s
  | .memory _ | .memoryWith _ _ => ∃ o t, Elf.Object.parse bytes = .ok o ∧
      l.Copies agent (bytes.take o.extent) s t ∧ l.MakesExecutable t

section

variable {l : Loader σ} {w : World σ} {bytes : Bytes} {names : List String} {cause : LoadError}

theorem load_blames_iff {path : String} (hread : w.host.files.read path = .ok bytes)
    (hwell : Elf.WellFormed bytes names) (hnames : names ≠ []) (h : cause.BlamesImage)
    (current : Option Device) : (l.load current path w).1 = .error cause ↔
      (∃ device, current = some device ∧ l.MakesExecutable w.accelerator) ∧
        w.hostImage? l.settings = .error cause := by
  obtain ⟨o, hparse, -, -, hundefined⟩ := hwell
  have hundefined : (Elf.Object.parse bytes >>= Elf.Object.undefinedGlobals) = .ok names := by
    rw [hparse]
    exact hundefined
  unfold load
  cases current with
  | none =>
    constructor
    · intro herror
      cases herror
      exact absurd h id
    · rintro ⟨⟨_, hdevice, -⟩, -⟩
      cases hdevice
  | some device =>
    rw [run_bind_of_ok (show Attempt.device (some device) w = (.ok device, w) from rfl),
      run_bind_of_ok (show Attempt.report _ w = (.ok (), _) from rfl),
      run_bind_of_ok (show (get : Attempt σ (World σ)) _ = (.ok _, _) from rfl)]
    dsimp only
    rw [hread]
    dsimp only
    rw [run_bind_of_ok (show (pure bytes : Attempt σ Bytes) _ = (.ok bytes, _) from rfl),
      run_bind_of_ok (Attempt.wellFormed_ok_iff.mpr ⟨hundefined, rfl⟩),
      Blameless.error_bind_iff _ h, transaction_error_iff, loadFileSteps_blames_iff path hnames h]
    · exact and_congr_left' ⟨fun hmakes => ⟨device, rfl, hmakes⟩, fun ⟨_, _, hmakes⟩ => hmakes⟩
    · rintro ⟨e, held⟩
      exact (Blameless.perform _).bind fun _ => (Blameless.perform _).bind fun _ => .pure _

theorem loadData_blames_iff (hwell : Elf.WellFormed bytes names) (hnames : names ≠ [])
    (h : cause.BlamesImage) (current : Option Device) :
    (l.loadData current bytes w).1 = .error cause ↔
      (∃ device, current = some device ∧ ∃ o t, Elf.Object.parse bytes = .ok o ∧
        l.Copies device.agent (bytes.take o.extent) w.accelerator t ∧ l.MakesExecutable t) ∧
          w.hostImage? l.settings = .error cause := by
  obtain ⟨o, hparse, hpos, hfits, hundefined⟩ := hwell
  have hbytes : o.bytes = bytes := by
    obtain ⟨_, _, -, -, -, -, rfl⟩ := Elf.Object.parse_ok_iff.mp hparse
    rfl
  have himage : objectBytes o = .ok (bytes.take o.extent) := by
    unfold objectBytes
    rw [hbytes, if_neg (by omega), if_neg (by omega)]
  unfold loadData
  cases current with
  | none =>
    constructor
    · intro herror
      cases herror
      exact absurd h id
    · rintro ⟨⟨_, hdevice, -⟩, -⟩
      cases hdevice
  | some device =>
    rw [run_bind_of_ok (show Attempt.device (some device) w = (.ok device, w) from rfl),
      run_bind_of_ok (show Attempt.report _ w = (.ok (), _) from rfl),
      run_bind_of_ok (Attempt.wellFormed_ok_iff.mpr ⟨hparse, rfl⟩),
      run_bind_of_ok (Attempt.ofExcept_ok_iff.mpr ⟨himage, rfl⟩),
      run_bind_of_ok (Attempt.wellFormed_ok_iff.mpr ⟨hundefined, rfl⟩),
      Blameless.error_bind_iff _ h, transaction_error_iff, loadImageSteps_blames_iff _ hnames h]
    · refine and_congr_left' ⟨fun ⟨t, ht⟩ => ⟨device, rfl, o, t, hparse, ht⟩, ?_⟩
      rintro ⟨_, hdevice, o', t, hparse', ht⟩
      cases hdevice
      cases hparse.symm.trans hparse'
      exact ⟨t, ht⟩
    · rintro ⟨⟨e, image⟩, held⟩
      exact (Blameless.perform _).bind fun _ => (Blameless.perform _).bind fun _ => .pure _

/-- **A load of a well-formed image blames an image exactly when it needs the host image and cannot
get it**, and then it fails as the reading of the host image does. -/
theorem loadFrom_blames_iff {source : LoadSource} (hbytes : source.image? w = some bytes)
    (hwell : Elf.WellFormed bytes names) (hnames : names ≠ []) (h : cause.BlamesImage)
    (current : Option Device) : (l.loadFrom current source w).1 = .error cause ↔
      (∃ device, current = some device ∧ l.ReachesHost device.agent bytes w.accelerator source) ∧
        w.hostImage? l.settings = .error cause := by
  cases source with
  | file path =>
    have hread : w.host.files.read path = .ok bytes := by
      have hbytes : (w.host.files.read path).toOption = some bytes := hbytes
      cases hread : w.host.files.read path with
      | error fault =>
        rw [hread] at hbytes
        cases hbytes
      | ok found =>
        rw [hread] at hbytes
        cases hbytes
        rfl
    exact load_blames_iff hread hwell hnames h current
  | memory image =>
    cases hbytes
    exact loadData_blames_iff hwell hnames h current
  | memoryWith image options =>
    cases hbytes
    show (l.loadDataWith current bytes options w).1 = .error cause ↔ _
    unfold loadDataWith
    split
    · exact loadData_blames_iff hwell hnames h current
    · rw [run_bind_of_ok (show Attempt.report _ w = (.ok (), _) from rfl)]
      exact loadData_blames_iff hwell hnames h current

end

end Loader

namespace Host.Image

/-- The host file is an object whose first static or first dynamic symbol table cannot be read. -/
def Undecodable (sys : System) (settings : LoaderSettings) (e : Elf.Error) : Prop :=
  ∃ file o, sys.files.read settings.hostImage = .ok file ∧ Elf.Object.parse file = .ok o ∧
    o.definitions = .error e

/-- The host file cannot be read at all, or is no object. -/
def Unreadable (sys : System) (settings : LoaderSettings) (reason : String) : Prop :=
  (∃ fault, sys.files.read settings.hostImage = .error fault ∧ reason = fault.message) ∨
    ∃ file e, sys.files.read settings.hostImage = .ok file ∧ Elf.Object.parse file = .error e ∧
      reason = e.message

/-- The three stages of reading the host image, and the failure that each of them is put down to. -/
theorem load_error_iff {sys : System} {settings : LoaderSettings} {cause : LoadError} :
    load sys settings = .error cause ↔
      (∃ e, cause = .malformedObject e ∧ Undecodable sys settings e) ∨
        ∃ reason, cause = .hostImageUnavailable settings.hostImage reason ∧
          Unreadable sys settings reason := by
  unfold load parse indexed Undecodable Unreadable
  dsimp only
  cases hread : sys.files.read settings.hostImage with
  | error fault =>
    constructor
    · intro h
      cases h
      exact .inr ⟨_, rfl, .inl ⟨fault, rfl, rfl⟩⟩
    · rintro (⟨_, -, _, _, hfile, -⟩ | ⟨_, rfl, ⟨_, hfile, rfl⟩ | ⟨_, _, hfile, -⟩⟩)
      · cases hfile
      · cases hfile
        rfl
      · cases hfile
  | ok file =>
    dsimp only
    cases hparse : Elf.Object.parse file with
    | error e =>
      constructor
      · intro h
        cases h
        exact .inr ⟨_, rfl, .inr ⟨file, e, rfl, hparse, rfl⟩⟩
      · rintro (⟨_, -, _, _, hfile, hobject, -⟩ |
          ⟨_, rfl, ⟨_, hfile, -⟩ | ⟨_, _, hfile, hobject, rfl⟩⟩)
        · cases hfile
          cases hparse.symm.trans hobject
        · cases hfile
        · cases hfile
          cases hparse.symm.trans hobject
          rfl
    | ok o =>
      simp only [bind, Except.bind, index_eq]
      constructor
      · intro h
        cases hds : o.definitions with
        | error e =>
          rw [hds] at h
          cases h
          exact .inl ⟨e, rfl, file, o, rfl, hparse, hds⟩
        | ok ds =>
          rw [hds] at h
          cases h
      · rintro (⟨e, rfl, _, _, hfile, hobject, hds⟩ |
          ⟨_, rfl, ⟨_, hfile, -⟩ | ⟨_, _, hfile, hobject, -⟩⟩)
        · cases hfile
          cases hparse.symm.trans hobject
          rw [hds]
          rfl
        · cases hfile
        · cases hfile
          cases hparse.symm.trans hobject

end Host.Image

namespace Loader

/-- The load needs the host image: it gets as far as that, and nothing was indexed before. -/
structure NeedsHost (l : Loader σ) (current : Option Device) (source : LoadSource) (bytes : Bytes)
    (w : World σ) : Prop where
  reached : ∃ device, current = some device ∧
    l.ReachesHost device.agent bytes w.accelerator source
  first : w.loader.hostImage = none

/-- **A host image that cannot be read is blamed under its own name, one that cannot be decoded
under that of the device image.** The image that is loaded is well formed and leaves names
undefined; then the load fails for an image only where it needs the host image. It says that the
host image is not available exactly when that file cannot be read or is no object, with its path and
the reason; and it says that the object is malformed exactly when a symbol table of the host image
cannot be decoded. -/
theorem load_blames_host_iff (l : Loader σ) {w : World σ} {source : LoadSource} {bytes : Bytes}
    {names : List String} (hbytes : source.image? w = some bytes)
    (hwell : Elf.WellFormed bytes names) (hnames : names ≠ []) (current : Option Device) :
    (∀ e, (l.loadFrom current source w).1 = .error (.malformedObject e) ↔
      l.NeedsHost current source bytes w ∧ Host.Image.Undecodable w.host l.settings e) ∧
    ∀ path reason, (l.loadFrom current source w).1 = .error (.hostImageUnavailable path reason) ↔
      l.NeedsHost current source bytes w ∧ path = l.settings.hostImage ∧
        Host.Image.Unreadable w.host l.settings reason := by
  have hload : ∀ cause, w.hostImage? l.settings = .error cause ↔
      w.loader.hostImage = none ∧ Host.Image.load w.host l.settings = .error cause := by
    intro cause
    unfold World.hostImage?
    cases w.loader.hostImage with
    | some host => exact ⟨nofun, fun h => nomatch h.1⟩
    | none => exact ⟨fun h => ⟨rfl, h⟩, fun h => h.2⟩
  refine ⟨fun e => ?_, fun path reason => ?_⟩
  · have hblames : (LoadError.malformedObject e).BlamesImage := trivial
    rw [loadFrom_blames_iff hbytes hwell hnames hblames, hload, Host.Image.load_error_iff]
    constructor
    · rintro ⟨hreached, hfirst, ⟨_, heq, hfile⟩ | ⟨_, heq, -⟩⟩
      · cases heq
        exact ⟨⟨hreached, hfirst⟩, hfile⟩
      · cases heq
    · rintro ⟨⟨hreached, hfirst⟩, hfile⟩
      exact ⟨hreached, hfirst, .inl ⟨e, rfl, hfile⟩⟩
  · have hblames : (LoadError.hostImageUnavailable path reason).BlamesImage := trivial
    rw [loadFrom_blames_iff hbytes hwell hnames hblames, hload, Host.Image.load_error_iff]
    constructor
    · rintro ⟨hreached, hfirst, ⟨_, heq, -⟩ | ⟨_, heq, hfile⟩⟩
      · cases heq
      · cases heq
        exact ⟨⟨hreached, hfirst⟩, rfl, hfile⟩
    · rintro ⟨⟨hreached, hfirst⟩, rfl, hfile⟩
      exact ⟨hreached, hfirst, .inr ⟨reason, rfl, hfile⟩⟩

/-- A kernel that needs a table of the host. -/
def needyDraft : Elf.Draft where
  text := [0x90]
  dynamic := [.undefined "table"]

/-- A host that defines the table, but with five bytes for an entry of its static symbols. -/
def strayHost : Bytes :=
  Bytes.overwrite
    (Elf.Draft.encode { text := [0x90], symbols := [.object "table" 0x1000 16] }) 352 [5]

/-- The two in files, and an empty simulator. -/
def strayWorld : World Simulator where
  accelerator := {}
  host := { files := {
    nodes := [(["k.o"], .file needyDraft.encode), (["host"], .file strayHost)]
    workingFolder := [] } }

theorem strayWorld_files : strayWorld.host.files.read "k.o" = .ok needyDraft.encode ∧
    strayWorld.host.files.read "host" = .ok strayHost ∧
    strayWorld.host.files.read "gone" = .error .notFound := by
  refine ⟨?_, ?_, ?_⟩
  · unfold Host.FileSystem.read Host.FileSystem.locate
    rw [show "k.o".contains '\x00' = false by simp, show "k.o".splitOn "/" = ["k.o"] by cbv]
    decide +kernel
  · unfold Host.FileSystem.read Host.FileSystem.locate
    rw [show "host".contains '\x00' = false by simp, show "host".splitOn "/" = ["host"] by cbv]
    decide +kernel
  · unfold Host.FileSystem.read Host.FileSystem.locate
    rw [show "gone".contains '\x00' = false by simp, show "gone".splitOn "/" = ["gone"] by cbv]
    decide +kernel

theorem needyDraft_wellFormed : Elf.WellFormed needyDraft.encode ["table"] := by decide +kernel

theorem strayWorld_image : (LoadSource.file "k.o").image? strayWorld = some needyDraft.encode := by
  show (strayWorld.host.files.read "k.o").toOption = _
  rw [strayWorld_files.1]
  rfl

/-- A host image that is not there is blamed itself. -/
theorem load_blames_host_gone :
    ((Simulator.loader { hostImage := "gone" } .default).loadFrom (some ⟨0, ⟨7⟩, ⟨8⟩⟩) (.file "k.o")
      strayWorld).1 =
      .error (.hostImageUnavailable "gone" "No such file or directory (os error 2)") := by
  exact ((load_blames_host_iff _ strayWorld_image needyDraft_wellFormed (by decide) _).2 _ _).mpr
    ⟨⟨⟨_, rfl, _, _, rfl⟩, rfl⟩, rfl, .inl ⟨.notFound, strayWorld_files.2.2, rfl⟩⟩

/-- A host image whose symbols cannot be decoded is not: the device image is. -/
theorem load_blames_device :
    ((Simulator.loader { hostImage := "host" } .default).loadFrom (some ⟨0, ⟨7⟩, ⟨8⟩⟩) (.file "k.o")
      strayWorld).1 = .error (.malformedObject (.badSymbolEntrySize 2 5 24)) ∧
    Elf.WellFormed needyDraft.encode ["table"] := by
  refine ⟨?_, needyDraft_wellFormed⟩
  have hstray : ((Elf.Object.parse strayHost).toOption.map (·.definitions)) =
      some (.error (.badSymbolEntrySize 2 5 24)) := by
    decide +kernel
  obtain ⟨o, hparse, hdefinitions⟩ := Option.map_eq_some_iff.mp hstray
  have hblames : (LoadError.malformedObject (.badSymbolEntrySize 2 5 24)).BlamesImage := trivial
  refine (loadFrom_blames_iff strayWorld_image needyDraft_wellFormed (by decide) hblames _).mpr
    ⟨⟨_, rfl, _, _, rfl⟩, Host.Image.load_error_iff.mpr (.inl ⟨_, rfl, strayHost, o, ?_, ?_, ?_⟩)⟩
  · exact strayWorld_files.2.1
  · cases hresult : Elf.Object.parse strayHost with
    | error e =>
      rw [hresult] at hparse
      cases hparse
    | ok o' =>
      rw [hresult] at hparse
      cases hparse
      rfl
  · exact hdefinitions

end Loader

end DeviceCode
