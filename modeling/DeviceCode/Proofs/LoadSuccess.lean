import DeviceCode.Proofs.Follows
import DeviceCode.Proofs.LoadProgress
import DeviceCode.Proofs.SimulatorSuccess

/-!
# What a load that succeeds has gone through
-/

namespace DeviceCode

variable {σ α β : Type}

theorem Bytes.length_zeros (n : Nat) : (zeros n).length = n := List.length_replicate

/-- A write as long as what it writes over leaves nothing of it. -/
theorem Bytes.overwrite_zeros (bs : Bytes) : overwrite (zeros bs.length) 0 bs = bs := by
  have hrest : (zeros bs.length).drop (0 + bs.length) = [] :=
    List.drop_eq_nil_of_le (by rw [length_zeros]; omega)
  unfold overwrite
  rw [hrest, List.take_zero, List.nil_append, List.append_nil]

namespace Attempt

variable {w v : World σ} {a : α}

theorem ofExcept_ok_iff {r : Except LoadError α} :
    ofExcept r w = (.ok a, v) ↔ r = .ok a ∧ v = w := by
  show (r, w) = (.ok a, v) ↔ _
  rw [Prod.mk.injEq, eq_comm (a := w)]

theorem wellFormed_ok_iff {r : Except Elf.Error α} :
    wellFormed r w = (.ok a, v) ↔ r = .ok a ∧ v = w := by
  unfold wellFormed
  rw [ofExcept_ok_iff]
  refine and_congr_left' ?_
  cases r with
  | ok b => exact ⟨fun h => congrArg _ (Except.ok.inj h), fun h => congrArg _ (Except.ok.inj h)⟩
  | error err =>
    have hne : (.error (.malformedObject err) : Except LoadError α) ≠ .ok a := by
      intro h
      cases h
    refine ⟨fun h => absurd h hne, fun h => ?_⟩
    cases h

theorem device_ok_iff {current : Option Device} {d : Device} :
    device current w = (.ok d, v) ↔ current = some d ∧ v = w := by
  unfold device
  rw [ofExcept_ok_iff]
  cases current with
  | some d' => simp
  | none => simp

theorem perform_ok_iff {x : Action σ α} :
    perform x w = (.ok a, v) ↔ x w = (a, v) := by
  show ((Except.ok (x w).1, (x w).2) : Except LoadError α × World σ) = _ ↔ _
  rw [Prod.ext_iff, Prod.ext_iff]
  exact and_congr_left' ⟨Except.ok.inj, congrArg Except.ok⟩

end Attempt

/-- The loader takes over what a complete load holds, for the module with the next number. -/
def LoaderState.adopt (s : LoaderState) (held : Holdings) : LoaderState :=
  { s with
    nextModule := s.nextModule + 1
    residency := s.residency.retain s.nextModule held.pins held.reader }

namespace Loader

variable {l : Loader σ} {w v w' : World σ}

theorem transaction_ok_iff {steps : LoadStep σ α} {a : α} {held : Holdings} :
    l.transaction steps w = (.ok (a, held), v) ↔ steps { world := w } = (.ok a, ⟨held, v⟩) := by
  unfold transaction
  rcases steps { world := w } with ⟨err | b, p⟩
  · refine ⟨fun h => ?_, nofun⟩
    cases h
  · obtain ⟨held', v'⟩ := p
    constructor
    · intro h
      cases h
      rfl
    · intro h
      cases h
      rfl

theorem loadData_ok_iff {current : Option Device} {bytes : Bytes} {m : LoadedModule} :
    l.loadData current bytes w = (.ok m, w') ↔
      ∃ device o image undefined executable deviceImage held v, current = some device ∧
        Elf.Object.parse bytes = .ok o ∧ objectBytes o = .ok image ∧
        o.undefinedGlobals = .ok undefined ∧
        l.loadImageSteps device.agent image undefined
          { world := { w with log := w.log ++ [.loadStarted "memory" (some bytes.length)] } } =
            (.ok (executable, deviceImage), ⟨held, v⟩) ∧
        m = { id := v.loader.nextModule, agent := device.agent, executable, source := .memory,
              image, deviceImage := some deviceImage } ∧
        w' = (announce m undefined.length { v with loader := v.loader.adopt held }).2 := by
  unfold loadData
  simp only [run_bind_eq_ok, Attempt.device_ok_iff, Attempt.wellFormed_ok_iff,
    Attempt.ofExcept_ok_iff, Attempt.perform_ok_iff, Attempt.report, Prod.exists,
    transaction_ok_iff]
  constructor
  · rintro ⟨device, _, ⟨hdevice, rfl⟩, _, _, hreport, o, _, ⟨hparse, rfl⟩, image, _, ⟨himage, rfl⟩,
      undefined, _, ⟨hundefined, rfl⟩, executable, deviceImage, held, v, hsteps, id, _, hcommit, _,
      _, hannounce, hreturn⟩
    cases hreport
    cases hcommit
    cases hannounce
    cases hreturn
    exact ⟨device, o, image, undefined, executable, deviceImage, held, v, hdevice, hparse, himage,
      hundefined, hsteps, rfl, rfl⟩
  · rintro ⟨device, o, image, undefined, executable, deviceImage, held, v, hdevice, hparse, himage,
      hundefined, hsteps, rfl, rfl⟩
    exact ⟨device, w, ⟨hdevice, rfl⟩, (), _, rfl, o, _, ⟨hparse, rfl⟩, image, _, ⟨himage, rfl⟩,
      undefined, _, ⟨hundefined, rfl⟩, executable, deviceImage, held, v, hsteps, _, _, rfl, (), _,
      rfl, rfl⟩

/-- What is enough for a file to load. -/
theorem load_ok_of {device : Device} {path : String} {image : Bytes} {undefined : List String}
    {executable : ExecutableHandle} {held : Holdings}
    (hfile : w.host.files.read path = .ok image)
    (hundefined : (Elf.Object.parse image >>= Elf.Object.undefinedGlobals) = .ok undefined)
    (hsteps : l.loadFileSteps device.agent path undefined
      { world := { w with log := w.log ++ [.loadStarted path none] } } =
        (.ok executable, ⟨held, v⟩)) :
    let m : LoadedModule :=
      { id := v.loader.nextModule, agent := device.agent, executable, source := .file path, image }
    l.load (some device) path w =
      (.ok m, (announce m undefined.length { v with loader := v.loader.adopt held }).2) := by
  intro m
  unfold load
  refine run_bind_eq_ok.mpr ⟨device, w, rfl, ?_⟩
  refine run_bind_eq_ok.mpr ⟨(), _, rfl, ?_⟩
  refine run_bind_eq_ok.mpr ⟨_, _, rfl, ?_⟩
  dsimp only
  rw [hfile]
  refine run_bind_eq_ok.mpr ⟨image, _, rfl, ?_⟩
  refine run_bind_eq_ok.mpr ⟨undefined, _, Attempt.wellFormed_ok_iff.mpr ⟨hundefined, rfl⟩, ?_⟩
  refine run_bind_eq_ok.mpr ⟨(executable, held), v, transaction_ok_iff.mpr hsteps, ?_⟩
  refine run_bind_eq_ok.mpr ⟨_, _, Attempt.perform_ok_iff.mpr rfl, ?_⟩
  exact run_bind_eq_ok.mpr ⟨(), _, Attempt.perform_ok_iff.mpr rfl, rfl⟩

section

variable (l) (agent : AgentHandle) (image : Bytes)

/-- The first half of a load from memory: copy an image to device memory and read a code object from
the copy. -/
def copyImage : LoadStep σ (Nat × CodeObjectHandle) := do
  let region ← l.imageRegion agent
  let address ← LoadStep.call memoryError (l.accelerator.allocate region image.length)
  LoadStep.hold ({ · with allocation := some address })
  LoadStep.call .loadFailed (l.accelerator.writeMemory address image)
  let codeObject ← LoadStep.call .loadFailed (l.accelerator.deserialize address image.length)
  LoadStep.hold ({ · with codeObject := some codeObject })
  return (address, codeObject)

/-- The second half: load the code object into a new executable. -/
def finishImage (undefined : List String) (copied : Nat × CodeObjectHandle) :
    LoadStep σ (ExecutableHandle × DeviceImage) := do
  let executable ← l.newExecutable
  l.bindUndefined agent executable undefined
  LoadStep.call .loadFailed (l.accelerator.loadCodeObject executable agent copied.2)
  LoadStep.call .loadFailed (l.accelerator.freeze executable)
  return (executable, { address := copied.1, size := image.length, codeObject := copied.2 })

theorem loadImageSteps_eq (undefined : List String) :
    l.loadImageSteps agent image undefined =
      l.copyImage agent image >>= l.finishImage agent image undefined := by
  unfold loadImageSteps copyImage finishImage
  simp only [bind_assoc, pure_bind]

end

end Loader

namespace LoadStep

variable {p q : LoadProgress σ} {a : α}

theorem call_ok_iff {cause : CallError → LoadError} {f : σ → Reply σ α} :
    call cause f p = (.ok a, q) ↔ ∃ s, f p.world.accelerator = (.ok a, s) ∧
      q = { p with world := { p.world with accelerator := s } } := by
  unfold call attempt
  rcases hf : f p.world.accelerator with ⟨err | b, s⟩
  · rw [Attempt.run_call_error cause hf]
    constructor
    · intro h
      cases h
    · rintro ⟨_, h, -⟩
      cases h
  · rw [Attempt.run_call_ok cause hf]
    constructor
    · intro h
      cases h
      exact ⟨s, rfl, rfl⟩
    · rintro ⟨_, h, rfl⟩
      cases h
      rfl

end LoadStep

namespace Simulator

variable {settings : LoaderSettings} {hooks : LaunchHooks} {agent : AgentHandle} {image : Bytes}
  {p q : LoadProgress Simulator}

theorem imageRegion_ok {region : RegionHandle}
    (h : (Simulator.loader settings hooks).imageRegion agent p = (.ok region, q)) : q = p := by
  obtain ⟨found, mid, hcall, hrest⟩ := run_bind_eq_ok.mp h
  obtain ⟨s, hfind, rfl⟩ := LoadStep.call_ok_iff.mp hcall
  have hs : s = p.world.accelerator := by
    have hstate := findRegion_state p.world.accelerator agent
    rw [show p.world.accelerator.findRegion agent = (.ok found, s) from hfind] at hstate
    exact hstate
  cases found with
  | none => cases hrest
  | some found =>
    cases hrest
    rw [hs]

/-- **A copied image is what the code object holds**, and what lies at the new address. Of all that
later steps look at, nothing has changed by then. -/
theorem copyImage_ok {address : Nat} {c : CodeObjectHandle}
    (h : (Simulator.loader settings hooks).copyImage agent image p = (.ok (address, c), q)) :
    (∃ o, Elf.Object.parse image = .ok o) ∧
      q.world.accelerator.codeObjects.get? c = some image ∧
      ∃ lastHandle pages codeObjects journal, q =
        { held := { p.held with allocation := some address, codeObject := some c }
          world := { p.world with
            accelerator := { p.world.accelerator with
              lastHandle, pages, codeObjects, journal
              allocations := p.world.accelerator.allocations.put address image } } } := by
  obtain ⟨region, _, hregion, h⟩ := run_bind_eq_ok.mp h
  cases imageRegion_ok hregion
  obtain ⟨x, _, hallocate, h⟩ := run_bind_eq_ok.mp h
  obtain ⟨s, hs, rfl⟩ := LoadStep.call_ok_iff.mp hallocate
  obtain ⟨pages, journal, rfl⟩ := allocate_ok hs
  obtain ⟨_, _, hhold, h⟩ := run_bind_eq_ok.mp h
  cases hhold
  obtain ⟨_, _, hwrite, h⟩ := run_bind_eq_ok.mp h
  obtain ⟨s', hs', rfl⟩ := LoadStep.call_ok_iff.mp hwrite
  -- the allocation is as long as the image, so the write replaces all of it
  obtain ⟨journal', rfl⟩ := writeMemory_ok (allocationAt?_put rfl (Bytes.length_zeros _)) hs'
  rw [Bytes.overwrite_zeros] at h
  obtain ⟨c', _, hdeserialize, h⟩ := run_bind_eq_ok.mp h
  obtain ⟨s'', hs'', rfl⟩ := LoadStep.call_ok_iff.mp hdeserialize
  have hslice : Bytes.slice image 0 image.length = image := List.take_length
  obtain ⟨hparse, lastHandle, journal'', rfl⟩ := deserialize_ok (allocationAt?_put rfl rfl) hs''
  rw [hslice] at hparse h
  cases h
  rw [← Assoc.put_put p.world.accelerator.allocations address (Bytes.zeros image.length) image]
  exact ⟨hparse, by rw [Assoc.get?_put, if_pos rfl], _, _, _, _, rfl⟩

end Simulator

end DeviceCode
