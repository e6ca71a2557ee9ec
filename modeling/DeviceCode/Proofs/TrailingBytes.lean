import DeviceCode.Proofs.Elf.Extent
import DeviceCode.Proofs.LoadSuccess

/-!
# Bytes after the object

A load from memory reads the whole image, but copies and loads only the part up to the extent. Bytes
after that part make no difference: the load succeeds with them exactly when it succeeds without
them, and then with the same module and the same world, up to the log.

Both loads run the same steps on the same copy, so one succeeds when the other does (`Follows`). A
success also shows that the copy itself can be read as an object and says which names it leaves
undefined (`Elf.Readable`); the whole image then says the same.
-/

namespace DeviceCode

/-- An image that can be read as an object, up to its undefined names. -/
def Elf.Readable (image : Bytes) : Prop :=
  ∃ o undefined, Object.parse image = .ok o ∧ o.undefinedGlobals = .ok undefined

theorem World.Abreast.eq_logged {σ : Type} {sys : Host.System} {v w : World σ}
    (h : World.Abreast sys Eq v w) :
    w = { v with log := w.log } := by
  obtain ⟨accelerator, host, loader, completions, log, hookCalls⟩ := w
  obtain ⟨rfl, rfl, rfl, rfl, rfl, rfl⟩ := h
  rfl

namespace Simulator

variable {settings : LoaderSettings} {hooks : LaunchHooks} {agent : AgentHandle} {image : Bytes}
  {c : CodeObjectHandle} {sys : Host.System} {α : Type}

/-- The same simulator twice, with an image in one of its code objects. -/
def Twin (c : CodeObjectHandle) (image : Bytes) (s t : Simulator) : Prop :=
  s = t ∧ s.codeObjects.get? c = some image

/-- A call does on one side what it does on the other. -/
theorem call_twice (f : Simulator → Reply Simulator α) :
    Follows Eq f f fun a b s t => a = b ∧ s = t := by
  rintro s _ rfl a s' h
  exact ⟨a, s', h, rfl, rfl⟩

/-- A call that leaves the code objects alone. -/
theorem call_twin {f : Simulator → Reply Simulator α}
    (hf : ∀ s a t, f s = (.ok a, t) → t.codeObjects = s.codeObjects) :
    Follows (Twin c image) f f fun a b s t => a = b ∧ Twin c image s t := by
  rintro s _ ⟨rfl, hc⟩ a s' h
  refine ⟨a, s', h, rfl, rfl, ?_⟩
  rw [hf s a s' h]
  exact hc

theorem copyImage_twice :
    Follows (LoadProgress.Abreast sys Eq Eq) ((loader settings hooks).copyImage agent image)
      ((loader settings hooks).copyImage agent image)
      fun a b p q => a = b ∧ LoadProgress.Abreast sys Eq (Twin a.2 image) p q := by
  have hsteps : Follows (LoadProgress.Abreast sys Eq Eq)
      ((loader settings hooks).copyImage agent image)
      ((loader settings hooks).copyImage agent image)
      fun a b p q => a = b ∧ LoadProgress.Abreast sys Eq Eq p q := by
    have hregion : Follows (LoadProgress.Abreast sys Eq Eq)
        ((loader settings hooks).imageRegion agent) ((loader settings hooks).imageRegion agent)
        fun a b p q => a = b ∧ LoadProgress.Abreast sys Eq Eq p q := by
      refine (LoadStep.call_follows_eq _ _ (call_twice _)).andThen fun found => ?_
      cases found with
      | none => exact Follows.throw
      | some region => exact Follows.pure fun _ _ h => ⟨rfl, h⟩
    refine hregion.andThen fun region => ?_
    refine (LoadStep.call_follows_eq _ _ (call_twice _)).andThen fun address => ?_
    refine (LoadStep.hold_follows fun _ _ h => congrArg _ h).bind fun _ _ => ?_
    refine (LoadStep.call_follows_eq _ _ (call_twice _)).andThen fun _ => ?_
    refine (LoadStep.call_follows_eq _ _ (call_twice _)).andThen fun c => ?_
    refine (LoadStep.hold_follows fun _ _ h => congrArg _ h).bind fun _ _ => ?_
    exact Follows.pure fun _ _ h => ⟨rfl, h⟩
  intro p q hpq a p' hrun
  obtain ⟨b, q', hrun', rfl, hheld, hworld⟩ := hsteps p q hpq a p' hrun
  exact ⟨a, q', hrun', rfl, hheld, hworld.imp fun h => ⟨h, (copyImage_ok hrun).2.1⟩⟩

/-- Loading a code object shows that its image can be read. -/
theorem loadCodeObject_twin (e : ExecutableHandle) (g : AgentHandle) :
    Follows (Twin c image) (fun s => s.loadCodeObject e g c) (fun s => s.loadCodeObject e g c)
      fun a b s t => a = b ∧ s = t ∧ Elf.Readable image := by
  rintro s _ ⟨rfl, hc⟩ a s' h
  obtain ⟨o, undefined, _, _, hparse, hundefined, -⟩ :=
    loadImage_ok_iff.mp (loadCodeObject_ok hc h)
  exact ⟨a, s', h, rfl, rfl, o, undefined, hparse, hundefined⟩

theorem finishImage_twice (undefined : List String) (address : Nat) :
    Follows (LoadProgress.Abreast sys Eq (Twin c image))
      ((loader settings hooks).finishImage agent image undefined (address, c))
      ((loader settings hooks).finishImage agent image undefined (address, c))
      fun a b p q => a = b ∧
        LoadProgress.Abreast sys Eq (fun s t => s = t ∧ Elf.Readable image) p q := by
  have hcreate : Follows (Twin c image) createExecutable createExecutable
      fun a b s t => a = b ∧ Twin c image s t :=
    call_twin fun s e t h => by
      obtain ⟨-, -, rfl⟩ := createExecutable_ok_iff.mp h
      rfl
  have hlock : ∀ x n, Follows (Twin c image) (fun s => s.lockMemory agent x n)
      (fun s => s.lockMemory agent x n) fun a b s t => a = b ∧ Twin c image s t :=
    fun x n => call_twin fun s y t h => by
      obtain ⟨-, -, -, rfl⟩ := lockMemory_ok_iff.mp h
      rfl
  have hdefine : ∀ e n x, Follows (Twin c image) (fun s => s.defineGlobal e n x)
      (fun s => s.defineGlobal e n x) fun a b s t => a = b ∧ Twin c image s t :=
    fun e n x => call_twin fun s a t h => by
      obtain ⟨-, exe, -, -, ht⟩ := defineGlobal_ok_iff.mp h
      cases ht
      rfl
  refine Follows.andThen (M := fun _ => LoadProgress.Abreast sys Eq (Twin c image)) ?_ fun e => ?_
  · refine (LoadStep.call_follows_eq _ _ hcreate).andThen fun e => ?_
    refine (LoadStep.hold_follows fun _ _ h => congrArg _ h).bind fun _ _ => ?_
    exact Follows.pure fun _ _ h => ⟨rfl, h⟩
  refine (Loader.bindUndefined_follows hlock (fun n x => (hdefine e n x).imp fun _ _ _ _ h => h.2)
    rfl (fun _ _ pins h => congrArg ({ · with pins }) h) undefined).bind fun _ _ => ?_
  refine (LoadStep.call_follows_eq _ _ (loadCodeObject_twin e agent)).andThen fun _ => ?_
  refine (LoadStep.call_follows_eq (Q := fun s t => s = t ∧ Elf.Readable image) _ _ ?_).andThen
    fun _ => ?_
  · rintro s _ ⟨rfl, hreadable⟩ a s' h
    exact ⟨a, s', h, rfl, rfl, hreadable⟩
  · exact Follows.pure fun _ _ h => ⟨rfl, h⟩

/-- The steps of a load from memory do not depend on the log, and show that the copy can be read. -/
theorem loadImageSteps_twice (undefined : List String) :
    Follows (LoadProgress.Abreast sys Eq Eq)
      ((loader settings hooks).loadImageSteps agent image undefined)
      ((loader settings hooks).loadImageSteps agent image undefined)
      fun a b p q => a = b ∧
        LoadProgress.Abreast sys Eq (fun s t => s = t ∧ Elf.Readable image) p q := by
  rw [Loader.loadImageSteps_eq]
  exact copyImage_twice.andThen fun copied => finishImage_twice undefined copied.1

/-- A load that succeeds loads an image that can be read. -/
theorem loadData_readable {current : Option Device} {bytes : Bytes} {o : Elf.Object}
    {w v : World Simulator} {m : LoadedModule} (hparse : Elf.Object.parse bytes = .ok o)
    (h : (loader settings hooks).loadData current bytes w = (.ok m, v)) :
    ∃ image undefined, Loader.objectBytes o = .ok image ∧ Elf.Readable image ∧
      o.undefinedGlobals = .ok undefined := by
  obtain ⟨device, _, image, undefined, e, d, held, v', -, ho, himage, hundefined, hsteps, -, -⟩ :=
    Loader.loadData_ok_iff.mp h
  rw [hparse] at ho
  cases ho
  obtain ⟨_, _, -, -, hq⟩ := loadImageSteps_twice undefined _ _
    ⟨rfl, rfl, rfl, rfl, rfl, rfl, rfl⟩ _ _ hsteps
  exact ⟨image, undefined, himage, hq.world.accelerator.2, hundefined⟩

/-- Images from which the same part is copied, with the same undefined names, load alike. -/
theorem loadData_same {current : Option Device} {bytes bytes' : Bytes} {o o' : Elf.Object}
    {w v : World Simulator} {m : LoadedModule}
    (hparse : Elf.Object.parse bytes = .ok o) (hparse' : Elf.Object.parse bytes' = .ok o')
    (himage : Loader.objectBytes o' = Loader.objectBytes o)
    (hundefined : o'.undefinedGlobals = o.undefinedGlobals)
    (h : (loader settings hooks).loadData current bytes w = (.ok m, v)) :
    ∃ log, (loader settings hooks).loadData current bytes' w = (.ok m, { v with log }) := by
  obtain ⟨device, _, image, undefined, e, d, held, v', hdevice, ho, hcopied, hnames, hsteps, rfl,
    rfl⟩ := Loader.loadData_ok_iff.mp h
  rw [hparse] at ho
  cases ho
  let start (bytes : Bytes) : LoadProgress Simulator :=
    { world := { w with log := w.log ++ [.loadStarted "memory" (some bytes.length)] } }
  obtain ⟨_, ⟨held', u⟩, hsteps', rfl, hheld, hworld⟩ :=
    loadImageSteps_twice undefined (start bytes) (start bytes')
      ⟨rfl, rfl, rfl, rfl, rfl, rfl, rfl⟩ _ _ hsteps
  cases (hheld : held = held')
  have hu : u = { v' with log := u.log } := (hworld.imp (Q := Eq) And.left).eq_logged
  rw [hu] at hsteps'
  have hrun := Loader.loadData_ok_iff.mpr ⟨device, o', image, undefined, e, d, held, _, hdevice,
    hparse', himage.trans hcopied, hundefined.trans hnames, hsteps', rfl, rfl⟩
  exact ⟨_, hrun⟩

/-- What is copied of the part up to the extent is what is copied of the whole. -/
theorem objectBytes_take {bytes : Bytes} {o o' : Elf.Object}
    (hparse : Elf.Object.parse bytes = .ok o)
    (hparse' : Elf.Object.parse (bytes.take o.extent) = .ok o')
    (hextent : o.extent ≤ bytes.length) :
    Loader.objectBytes o' = Loader.objectBytes o := by
  have hsame : o'.extent = o.extent := (Elf.Object.extends_of_take hparse' hparse).extent.symm
  have hlength : (bytes.take o.extent).length = o.extent := List.length_take_of_le hextent
  unfold Loader.objectBytes
  rw [hsame, Elf.Object.parse_bytes hparse', Elf.Object.parse_bytes hparse, hlength,
    if_neg (Nat.lt_irrefl _), if_neg (Nat.not_lt.mpr hextent), List.take_take, Nat.min_self]

/-- **Bytes after the object make no difference to a load from memory.** With them and without them
a load succeeds in the same worlds, for the same module, and leaves the same world up to the log. -/
theorem loadData_take_extent (settings : LoaderSettings) (hooks : LaunchHooks)
    (w : World Simulator) (current : Option Device) (bytes : Bytes) (o : Elf.Object)
    (hparse : Elf.Object.parse bytes = .ok o) (hextent : o.extent ≤ bytes.length) :
    let whole := (loader settings hooks).loadData current bytes w
    let part := (loader settings hooks).loadData current (bytes.take o.extent) w
    (∀ m, whole.1 = .ok m ↔ part.1 = .ok m) ∧
      ∀ m, whole.1 = .ok m → part.2 = { whole.2 with log := part.2.log } := by
  intro whole part
  -- whichever load succeeds, the part can be read and leaves undefined what the whole does
  have hwhole : ∀ m v, whole = (.ok m, v) → ∃ log, part = (.ok m, { v with log }) := by
    intro m v hrun
    obtain ⟨_, _, himage, ⟨o', undefined, hparse', hundefined⟩, -⟩ := loadData_readable hparse hrun
    obtain ⟨-, -, rfl⟩ := (o.objectBytes_ok_iff).mp himage
    rw [Elf.Object.parse_bytes hparse] at hparse'
    have hextends := Elf.Object.extends_of_take hparse' hparse
    exact loadData_same hparse hparse' (objectBytes_take hparse hparse' hextent)
      (hundefined.trans (hextends.undefinedGlobals hundefined).symm) hrun
  have hpart : ∀ m v, part = (.ok m, v) → ∃ log, whole = (.ok m, { v with log }) := by
    intro m v hrun
    obtain ⟨_, o', _, _, _, _, _, _, -, hparse', -⟩ := Loader.loadData_ok_iff.mp hrun
    obtain ⟨_, undefined, -, -, hundefined⟩ := loadData_readable hparse' hrun
    have hextends := Elf.Object.extends_of_take hparse' hparse
    exact loadData_same hparse' hparse (objectBytes_take hparse hparse' hextent).symm
      ((hextends.undefinedGlobals hundefined).trans hundefined.symm) hrun
  refine ⟨fun m => ⟨fun h => ?_, fun h => ?_⟩, fun m h => ?_⟩
  · obtain ⟨log, hrun⟩ := hwhole m whole.2 (Prod.ext h rfl)
    rw [hrun]
  · obtain ⟨log, hrun⟩ := hpart m part.2 (Prod.ext h rfl)
    rw [hrun]
  · obtain ⟨log, hrun⟩ := hwhole m whole.2 (Prod.ext h rfl)
    rw [hrun]

/-- A host that defines one global, and an empty simulator. -/
def countingWorld : World Simulator where
  accelerator := {}
  host := { files := { nodes := [], workingFolder := [] } }
  loader := { hostImage := some ⟨"/host", 0, ⟨[("counter", ⟨0x5000, 8⟩)]⟩⟩ }

/-- An object that binds a host global. -/
def countingDraft : Elf.Draft where
  text := [0x90]
  dynamic := [.undefined "counter"]

/-- The object with three bytes after it. -/
def countingBytes : Bytes := countingDraft.encode ++ [1, 2, 3]

/-- A load that binds a host global, with bytes after the object. -/
theorem loadData_take_extent_tail :
    ∃ o, Elf.Object.parse countingBytes = .ok o ∧ o.extent < countingBytes.length ∧
      let device : Option Device := some ⟨0, ⟨0xa600⟩, ⟨0x9000⟩⟩
      let whole := (loader {} .default).loadData device countingBytes countingWorld
      let part := (loader {} .default).loadData device (countingBytes.take o.extent) countingWorld
      whole.1.isOk = true ∧ (∀ m, whole.1 = .ok m ↔ part.1 = .ok m) ∧
        ∀ m, whole.1 = .ok m → part.2 = { whole.2 with log := part.2.log } := by
  have hparse : Elf.Object.parse countingBytes =
      .ok { countingDraft.object with bytes := countingBytes } := by decide +kernel
  have hextent : ({ countingDraft.object with bytes := countingBytes } : Elf.Object).extent <
      countingBytes.length := by decide +kernel
  refine ⟨_, hparse, hextent, ?_, ?_⟩
  · decide +kernel
  · exact loadData_take_extent {} .default countingWorld _ _ _ hparse (Nat.le_of_lt hextent)

end Simulator

end DeviceCode
