import DeviceCode.Proofs.SessionSteps

/-!
# Requests keep the books

Whatever a request does, what the simulator keeps and what somebody answers for change by the same
amounts, with one exception: a load that is rolled back while giving things back is made to fail
leaves something behind that nobody answers for. So books stay solvent in every run, and exact in
the runs without such a load.
-/

namespace DeviceCode

open Books

variable {s t : Session (Watched Simulator)}

/-! ## Requests that keep everything -/

namespace Session.Keeps

/-- What modules answer for does not depend on the functions that they remember. -/
theorem filterMap_eq {β : Type} (h : Session.Keeps s t) (f : LoadedModule → Option β)
    (hf : ∀ m : LoadedModule, f m.forgetful = f m) :
    t.modules.filterMap f = s.modules.filterMap f := by
  have hforget : ∀ ms : List LoadedModule,
      (ms.map (·.forgetful)).filterMap f = ms.filterMap f := by
    intro ms
    rw [List.filterMap_map]
    exact congrArg (fun g => ms.filterMap g) (funext hf)
  rw [← hforget t.modules, h.modules, hforget]

theorem balanced (h : Session.Keeps s t) : Balanced s.unwatched.books t.unwatched.books where
  executables e := by
    show (t.modules.filterMap (·.executable?)).count e + _ =
      _ + Assoc.tally t.world.accelerator.inner.executables e
    rw [h.filterMap_eq _ fun _ => rfl, h.world.accelerator.executables]
    rfl
  codeObjects c := by
    show (t.modules.filterMap (·.codeObject?)).count c + _ =
      _ + Assoc.tally t.world.accelerator.inner.codeObjects c
    rw [h.filterMap_eq _ fun _ => rfl, h.world.accelerator.codeObjects]
    rfl
  allocations x := by
    show (t.modules.filterMap (·.allocation?)).count x + _ =
      _ + Assoc.tally t.world.accelerator.inner.allocations x
    rw [h.filterMap_eq _ fun _ => rfl, h.world.accelerator.allocations]
    rfl
  readers r := by
    show (t.world.loader.residency.readers.map (·.2)).count r + _ =
      _ + Assoc.tally t.world.accelerator.inner.readers r
    rw [h.world.residency, h.world.accelerator.readers]
    rfl
  pins x := by
    have hholders : t.world.accelerator.inner.holders x = s.world.accelerator.inner.holders x := by
      unfold Simulator.holders
      rw [h.world.accelerator.pinned]
    show (t.world.loader.residency.pins.map (·.2.hostAddress)).count x + _ =
      _ + t.world.accelerator.inner.holders x
    rw [h.world.residency, hholders]
    rfl

end Session.Keeps

/-! ## Loads -/

section Load

variable {held : Holdings} {news : Ties} {m : LoadedModule} {w : World (Watched Simulator)}

theorem Loaded.executable?_eq (h : Loaded s.world held news m w) :
    m.executable? = held.executable := by
  unfold LoadedModule.executable?
  rw [h.released, h.ready.executable]
  rfl

theorem Loaded.codeObject?_eq (h : Loaded s.world held news m w) :
    m.codeObject? = held.codeObject := by
  unfold LoadedModule.codeObject?
  rw [h.released, h.ready.codeObject]
  rfl

theorem Loaded.allocation?_eq (h : Loaded s.world held news m w) :
    m.allocation? = held.allocation := by
  unfold LoadedModule.allocation?
  rw [h.released, h.ready.allocation]
  rfl

theorem Loaded.residency_eq (h : Loaded s.world held news m w) :
    w.loader.residency = s.world.loader.residency.retain m.id held.pins held.reader := by
  rw [h.loader]

/-- A module that was loaded answers for all that its load has acquired. -/
theorem Loaded.balanced (h : Loaded s.world held news m w) :
    Balanced s.unwatched.books
      (Session.unwatched { world := w, modules := s.modules ++ [m] }).books where
  executables e := by
    have hkept := h.acquired.executables.tally_eq e
    show ((s.modules ++ [m]).filterMap (·.executable?)).count e +
        s.world.accelerator.inner.executables.tally e =
      (s.modules.filterMap (·.executable?)).count e + w.accelerator.inner.executables.tally e
    rw [count_filterMap_concat, h.executable?_eq, hkept]
    omega
  codeObjects c := by
    have hkept := h.acquired.codeObjects.tally_eq c
    show ((s.modules ++ [m]).filterMap (·.codeObject?)).count c +
        s.world.accelerator.inner.codeObjects.tally c =
      (s.modules.filterMap (·.codeObject?)).count c + w.accelerator.inner.codeObjects.tally c
    rw [count_filterMap_concat, h.codeObject?_eq, hkept]
    omega
  allocations x := by
    have hkept := h.acquired.allocations.tally_eq x
    show ((s.modules ++ [m]).filterMap (·.allocation?)).count x +
        s.world.accelerator.inner.allocations.tally x =
      (s.modules.filterMap (·.allocation?)).count x + w.accelerator.inner.allocations.tally x
    rw [count_filterMap_concat, h.allocation?_eq, hkept]
    omega
  readers r := by
    have hkept := h.acquired.readers.tally_eq r
    show (w.loader.residency.readers.map (·.2)).count r +
        s.world.accelerator.inner.readers.tally r =
      (s.world.loader.residency.readers.map (·.2)).count r + w.accelerator.inner.readers.tally r
    rw [h.residency_eq, hkept]
    unfold Residency.retain
    rw [List.map_append, List.count_append, List.map_map]
    -- the registry's new entries are the reader that the load held, with the module's number
    show _ + (held.reader.toList.map fun r => r).count r + _ = _
    rw [List.map_id']
    omega
  pins x := by
    have hkept := h.acquired.holders x
    show (w.loader.residency.pins.map (·.2.hostAddress)).count x +
        s.world.accelerator.inner.holders x =
      (s.world.loader.residency.pins.map (·.2.hostAddress)).count x +
        w.accelerator.inner.holders x
    rw [h.residency_eq, hkept]
    unfold Residency.retain
    rw [List.map_append, List.count_append, List.map_map]
    show _ + held.pinsAt x + _ = _
    omega

end Load

/-- A roll back leaves no less than there was. -/
theorem RolledBack.solvent {w : World (Watched Simulator)} (h : RolledBack s.world w)
    (hs : s.unwatched.books.Solvent) :
    (Session.unwatched { s with world := w }).books.Solvent := by
  obtain ⟨held, frozen, news, -, -, -, hu⟩ := h
  have hresidency : w.loader.residency = s.world.loader.residency := by rw [hu.loader]
  -- whatever the faults kept the roll back from releasing only adds to the simulator's side
  exact
    { executables := fun e => by
        have hkept := hu.acquired.executables.tally_eq e
        refine Nat.le_trans (hs.executables e) ?_
        show s.world.accelerator.inner.executables.tally e ≤ w.accelerator.inner.executables.tally e
        omega
      codeObjects := fun c => by
        have hkept := hu.acquired.codeObjects.tally_eq c
        refine Nat.le_trans (hs.codeObjects c) ?_
        show s.world.accelerator.inner.codeObjects.tally c ≤ w.accelerator.inner.codeObjects.tally c
        omega
      allocations := fun x => by
        have hkept := hu.acquired.allocations.tally_eq x
        refine Nat.le_trans (hs.allocations x) ?_
        show s.world.accelerator.inner.allocations.tally x ≤ w.accelerator.inner.allocations.tally x
        omega
      readers := fun r => by
        have hkept := hu.acquired.readers.tally_eq r
        have howned := hs.readers r
        show (w.loader.residency.readers.map (·.2)).count r ≤ w.accelerator.inner.readers.tally r
        rw [hresidency, hkept]
        exact Nat.le_trans howned (Nat.le_add_right _ _)
      pins := fun x => by
        have hkept := hu.acquired.holders x
        have howned := hs.pins x
        show (w.loader.residency.pins.map (·.2.hostAddress)).count x ≤ w.accelerator.inner.holders x
        rw [hresidency, hkept]
        exact Nat.le_trans howned (Nat.le_add_right _ _) }

/-- A roll back that nothing keeps from giving back leaves exactly what there was. -/
theorem RolledBack.balanced {w : World (Watched Simulator)} (h : RolledBack s.world w)
    (hd : s.world.accelerator.inner.faulty .destroyExecutable = false)
    (hf : s.world.accelerator.inner.faulty .free = false) :
    Balanced s.unwatched.books (Session.unwatched { s with world := w }).books := by
  obtain ⟨held, frozen, news, -, -, -, hu⟩ := h
  rw [Holdings.left_nil hd hf] at hu
  have hresidency : w.loader.residency = s.world.loader.residency := by rw [hu.loader]
  exact
    { executables := fun e => by
        show _ + _ = _ + w.accelerator.inner.executables.tally e
        rw [hu.acquired.executables.tally_eq e]
        rfl
      codeObjects := fun c => by
        show _ + _ = _ + w.accelerator.inner.codeObjects.tally c
        rw [hu.acquired.codeObjects.tally_eq c]
        rfl
      allocations := fun x => by
        show _ + _ = _ + w.accelerator.inner.allocations.tally x
        rw [hu.acquired.allocations.tally_eq x]
        rfl
      readers := fun r => by
        show (w.loader.residency.readers.map (·.2)).count r + _ =
          _ + w.accelerator.inner.readers.tally r
        rw [hresidency, hu.acquired.readers.tally_eq r]
        rfl
      pins := fun x => by
        show (w.loader.residency.pins.map (·.2.hostAddress)).count x + _ =
          _ + w.accelerator.inner.holders x
        rw [hresidency, hu.acquired.holders x]
        rfl }

/-! ## Unloads -/

section Unload

variable {index : Nat} {m : LoadedModule} {p : UnloadProgress (Watched Simulator)}

/-- Whatever leaves the simulator, the module no longer answers for. -/
theorem Unloading.balanced (hm : s.modules[index]? = some m) (h : Unloading s.world m p)
    (log : List Trace.Event) :
    Balanced s.unwatched.books (Session.unwatched
      { world := { p.world with log }, modules := s.modules.set index p.module }).books where
  executables e := by
    have hkept := h.executables.tally_add e
    have howned := count_filterMap_set (·.executable?) s.modules hm p.module e
    show ((s.modules.set index p.module).filterMap (·.executable?)).count e +
        s.world.accelerator.inner.executables.tally e =
      (s.modules.filterMap (·.executable?)).count e + p.world.accelerator.inner.executables.tally e
    omega
  codeObjects c := by
    have hkept := h.codeObjects.tally_add c
    have howned := count_filterMap_set (·.codeObject?) s.modules hm p.module c
    show ((s.modules.set index p.module).filterMap (·.codeObject?)).count c +
        s.world.accelerator.inner.codeObjects.tally c =
      (s.modules.filterMap (·.codeObject?)).count c + p.world.accelerator.inner.codeObjects.tally c
    omega
  allocations x := by
    have hkept := h.allocations.tally_add x
    have howned := count_filterMap_set (·.allocation?) s.modules hm p.module x
    show ((s.modules.set index p.module).filterMap (·.allocation?)).count x +
        s.world.accelerator.inner.allocations.tally x =
      (s.modules.filterMap (·.allocation?)).count x + p.world.accelerator.inner.allocations.tally x
    omega
  readers r := by
    show (p.world.loader.residency.readers.map (·.2)).count r + _ =
      _ + p.world.accelerator.inner.readers.tally r
    rw [h.loader, h.readers]
    rfl
  pins x := by
    show (p.world.loader.residency.pins.map (·.2.hostAddress)).count x + _ =
      _ + p.world.accelerator.inner.holders x
    unfold Simulator.holders
    rw [h.loader, h.pinned]
    rfl

/-- A module for which nothing is left to answer may leave. -/
theorem Unloading.balanced_spent (hm : s.modules[index]? = some m) (h : Unloading s.world m p)
    (hspent : p.module.Spent) (log : List Trace.Event) :
    Balanced s.unwatched.books (Session.unwatched
      { world := { p.world with
          log
          loader := { s.world.loader with
            residency := s.world.loader.residency.release m.id } }
        modules := s.modules.eraseIdx index }).books where
  executables e := by
    have hkept := h.executables.tally_add e
    have howned := count_filterMap_eraseIdx (·.executable?) s.modules hm e
    rw [hspent.executable] at hkept
    show ((s.modules.eraseIdx index).filterMap (·.executable?)).count e +
        s.world.accelerator.inner.executables.tally e =
      (s.modules.filterMap (·.executable?)).count e + p.world.accelerator.inner.executables.tally e
    simp only [Option.toList_none, List.count_nil] at hkept
    omega
  codeObjects c := by
    have hkept := h.codeObjects.tally_add c
    have howned := count_filterMap_eraseIdx (·.codeObject?) s.modules hm c
    rw [hspent.codeObject] at hkept
    show ((s.modules.eraseIdx index).filterMap (·.codeObject?)).count c +
        s.world.accelerator.inner.codeObjects.tally c =
      (s.modules.filterMap (·.codeObject?)).count c + p.world.accelerator.inner.codeObjects.tally c
    simp only [Option.toList_none, List.count_nil] at hkept
    omega
  allocations x := by
    have hkept := h.allocations.tally_add x
    have howned := count_filterMap_eraseIdx (·.allocation?) s.modules hm x
    rw [hspent.allocation] at hkept
    show ((s.modules.eraseIdx index).filterMap (·.allocation?)).count x +
        s.world.accelerator.inner.allocations.tally x =
      (s.modules.filterMap (·.allocation?)).count x + p.world.accelerator.inner.allocations.tally x
    simp only [Option.toList_none, List.count_nil] at hkept
    omega
  readers r := by
    show (s.world.loader.residency.readers.map (·.2)).count r + _ =
      _ + p.world.accelerator.inner.readers.tally r
    rw [h.readers]
    rfl
  pins x := by
    show (s.world.loader.residency.pins.map (·.2.hostAddress)).count x + _ =
      _ + p.world.accelerator.inner.holders x
    unfold Simulator.holders
    rw [h.pinned]
    rfl

end Unload

/-! ## Teardowns -/

/-- Entries that stay and entries that go. -/
theorem count_filter_split {α β : Type} [BEq β] (f : α → β) (p : α → Bool) (l : List α) (y : β) :
    ((l.filter p).map f).count y + ((l.filter fun a => !p a).map f).count y =
      (l.map f).count y := by
  induction l with
  | nil => rfl
  | cons a l ih =>
    rw [List.map_cons, List.count_cons]
    cases hp : p a with
    | true =>
      rw [List.filter_cons_of_pos hp,
        List.filter_cons_of_neg (by rw [hp]; exact Bool.false_ne_true), List.map_cons,
        List.count_cons]
      omega
    | false =>
      rw [List.filter_cons_of_neg (by rw [hp]; exact Bool.false_ne_true),
        List.filter_cons_of_pos (by rw [hp]; rfl), List.map_cons, List.count_cons]
      omega

theorem Relinquished.balanced {a : Watched Simulator}
    (h : Relinquished s.world.accelerator a s.world.loader.residency.releasablePins
      s.world.loader.residency.releasableReaders) (tornDown : Bool) (log : List Trace.Event) :
    Balanced s.unwatched.books (Session.unwatched { s with
      world := { s.world with
        accelerator := a
        loader := { s.world.loader with
          residency := { s.world.loader.residency.keepLive with tornDown } }
        log } }).books where
  executables e := by
    show _ + _ = _ + a.inner.executables.tally e
    rw [h.executables]
    rfl
  codeObjects c := by
    show _ + _ = _ + a.inner.codeObjects.tally c
    rw [h.codeObjects]
    rfl
  allocations x := by
    show _ + _ = _ + a.inner.allocations.tally x
    rw [h.allocations]
    rfl
  readers r := by
    have hkept := h.readers r
    have howned := count_filter_split (·.2) (fun e => s.world.loader.residency.isLive e.1)
      s.world.loader.residency.readers r
    unfold Residency.releasableReaders at hkept
    show ((s.world.loader.residency.readers.filter fun e =>
        s.world.loader.residency.isLive e.1).map (·.2)).count r +
        s.world.accelerator.inner.readers.tally r =
      (s.world.loader.residency.readers.map (·.2)).count r + a.inner.readers.tally r
    omega
  pins x := by
    have hkept := h.holders x
    have howned := count_filter_split (·.2.hostAddress)
      (fun e => s.world.loader.residency.isLive e.1) s.world.loader.residency.pins x
    unfold Residency.releasablePins at hkept
    rw [List.map_map] at hkept
    show ((s.world.loader.residency.pins.filter fun e =>
        s.world.loader.residency.isLive e.1).map (·.2.hostAddress)).count x +
        s.world.accelerator.inner.holders x =
      (s.world.loader.residency.pins.map (·.2.hostAddress)).count x + a.inner.holders x
    have hcomp : ∀ l : List (ModuleId × PinnedGlobal),
        l.map ((·.hostAddress) ∘ (·.2)) = l.map (·.2.hostAddress) := fun _ => rfl
    rw [hcomp] at hkept
    omega

end DeviceCode
