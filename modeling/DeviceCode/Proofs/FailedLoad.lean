import DeviceCode.Elf.Draft
import DeviceCode.Proofs.LoadOutcome

/-!
# Failed loads

A load that fails leaves no trace: the simulator keeps what it kept before, byte for byte, every
host range is pinned as often as before, and the loader remembers the same modules, pins, readers
and layouts. This holds for every reachable simulator, every image, every host and every set of
faults, as long as the two calls that give things back are not made to fail.

What may differ is what the definition leaves out: the journal and the log, the counters of handles
and addresses, the recorded size of a range that was pinned before, and the cached host image.
-/

namespace DeviceCode

/-- Nothing is kept that was not kept before, and nothing is gone. -/
structure Untouched (w w' : World Simulator) : Prop where
  executables : w'.accelerator.executables = w.accelerator.executables
  codeObjects : w'.accelerator.codeObjects = w.accelerator.codeObjects
  readers : w'.accelerator.readers = w.accelerator.readers
  allocations : w'.accelerator.allocations = w.accelerator.allocations
  dispatches : w'.accelerator.dispatches = w.accelerator.dispatches
  completions : w'.accelerator.completions = w.accelerator.completions
  /-- Every host range is pinned as often as before, or still not at all. -/
  pinned : ∀ x, (w'.accelerator.pinned.get? x).map (·.holders) =
    (w.accelerator.pinned.get? x).map (·.holders)
  /-- The faults and the sizes that were set stay. -/
  switches : w'.accelerator.faults = w.accelerator.faults ∧
    w'.accelerator.segmentSizes = w.accelerator.segmentSizes ∧
    w'.accelerator.argumentSizes = w.accelerator.argumentSizes ∧
    w'.accelerator.hasRegion = w.accelerator.hasRegion
  residency : w'.loader.residency = w.loader.residency
  layouts : w'.loader.layouts = w.loader.layouts
  nextModule : w'.loader.nextModule = w.loader.nextModule
  /-- The program's files, events and hooks are not involved. -/
  program : w'.host = w.host ∧ w'.completions = w.completions ∧ w'.hookCalls = w.hookCalls

namespace Simulator

/-- In a sound simulator a range that is pinned has a holder, so counting holders is enough. -/
theorem Sound.pinned_eq {s t : Simulator} (hs : s.Sound) (ht : t.Sound) {x : UInt64}
    (h : t.holders x = s.holders x) :
    (t.pinned.get? x).map (·.holders) = (s.pinned.get? x).map (·.holders) := by
  unfold holders at h
  cases hsx : s.pinned.get? x with
  | none =>
    cases htx : t.pinned.get? x with
    | none => rfl
    | some pin =>
      have hpos := ht.pins x pin htx
      rw [hsx, htx] at h
      have hzero : pin.holders = 0 := h
      omega
  | some pin =>
    have hpos := hs.pins x pin hsx
    cases htx : t.pinned.get? x with
    | none =>
      rw [hsx, htx] at h
      have hzero : 0 = pin.holders := h
      omega
    | some pin' =>
      rw [hsx, htx] at h
      exact congrArg some h

theorem not_faulty {s : Simulator} {point : FaultPoint} (h : point ∉ s.faults) :
    s.faulty point = false := by
  unfold faulty
  rw [List.contains_eq_mem]
  exact decide_eq_false h

end Simulator

/-- A roll back that gives everything back leaves the world untouched. -/
theorem RolledBack.untouched {w w' : World (Watched Simulator)} (h : RolledBack w w')
    (hs : w.accelerator.inner.Sound)
    (hd : w.accelerator.inner.faulty .destroyExecutable = false)
    (hf : w.accelerator.inner.faulty .free = false) : Untouched w.unwatched w'.unwatched := by
  obtain ⟨held, frozen, news, -, -, -, hu⟩ := h
  rw [Holdings.left_nil hd hf] at hu
  obtain ⟨hdispatches, hrest⟩ := Prod.mk.inj hu.acquired.bystanders
  obtain ⟨hcompletions, hrest⟩ := Prod.mk.inj hrest
  obtain ⟨hfaults, hrest⟩ := Prod.mk.inj hrest
  obtain ⟨hsegments, hrest⟩ := Prod.mk.inj hrest
  obtain ⟨harguments, hregion⟩ := Prod.mk.inj hrest
  exact
    { executables := hu.acquired.executables
      codeObjects := hu.acquired.codeObjects
      readers := hu.acquired.readers
      allocations := hu.acquired.allocations
      dispatches := hdispatches
      completions := hcompletions
      pinned := fun x => hs.pinned_eq hu.acquired.sound (hu.acquired.holders x)
      switches := ⟨hfaults, hsegments, harguments, hregion⟩
      residency := congrArg (·.residency) hu.loader
      layouts := congrArg (·.layouts) hu.loader
      nextModule := congrArg (·.nextModule) hu.loader
      program := ⟨hu.host, hu.completions, hu.hookCalls⟩ }

/-- **A load that fails leaves everything as it was**, at whatever step it fails. -/
theorem failedLoad_untouched (settings : LoaderSettings) (hooks : LaunchHooks) (w : World Simulator)
    (current : Option Device) (source : LoadSource) (e : LoadError)
    (hreachable : w.accelerator.Reachable)
    (hd : FaultPoint.destroyExecutable ∉ w.accelerator.faults)
    (hf : FaultPoint.free ∉ w.accelerator.faults)
    (hfailed : ((Simulator.loader settings hooks).loadFrom current source w).1 = .error e) :
    Untouched w ((Simulator.loader settings hooks).loadFrom current source w).2 := by
  have hrun := (Loader.loadFrom_alike (l := Simulator.watchedLoader settings hooks)
    (k := Simulator.loader settings hooks) Simulator.accelerator.watch_alike rfl current
    source).unwatched w.watched
  have hends := Loader.loadFrom_ends settings hooks (w := w.watched)
    hreachable.sound current source
  rcases hwatched : (Simulator.watchedLoader settings hooks).loadFrom current source w.watched with
    ⟨err | m, w'⟩
  · rw [hwatched] at hrun hends
    rw [show w = w.watched.unwatched from rfl, hrun]
    exact RolledBack.untouched hends hreachable.sound (Simulator.not_faulty hd)
      (Simulator.not_faulty hf)
  · rw [hwatched] at hrun
    rw [show w = w.watched.unwatched from rfl, hrun] at hfailed
    cases hfailed

instance decidableEqError {ε α : Type} [DecidableEq ε] (r : Except ε α) (e : ε) :
    Decidable (r = .error e) :=
  match r with
  | .error e' => decidable_of_iff (e' = e) ⟨congrArg Except.error, Except.error.inj⟩
  | .ok _ => isFalse nofun

/-- A load that has pinned a host global and loaded its code, and then cannot freeze it. -/
theorem failedLoad_untouched_frozenOut :
    let image := ({ text := [0x90], dynamic := [.undefined "counter"] } : Elf.Draft).encode
    let host : Host.Image := ⟨"/host", 0, ⟨[("counter", ⟨0x5000, 8⟩)]⟩⟩
    let w : World Simulator :=
      { accelerator := ({} : Simulator).inject .freeze
        host := { files := { nodes := [], workingFolder := [] } }
        loader := { hostImage := some host } }
    Untouched w ((Simulator.loader {} .default).loadFrom (some ⟨0, ⟨0xa600⟩, ⟨0x9000⟩⟩)
      (.memory image) w).2 := by
  intro image host w
  exact failedLoad_untouched {} .default w _ (.memory image)
    (.loadFailed ⟨"executable_freeze", 0x1000, "injected fault"⟩)
    (.inject (.fresh true) .freeze) (by decide) (by decide) (by decide +kernel)

end DeviceCode
