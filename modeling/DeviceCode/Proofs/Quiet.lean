import DeviceCode.Proofs.Books

/-!
# Requests that keep everything

Most requests acquire nothing and give nothing back: lookups, launches, declarations, changes of the
host and of the injected faults. They are told apart from loads, unloads and teardowns by what they
call, so this is the frame rule of `Session.step`: after a quiet request the simulator keeps what it
kept, with the same ties, the loader has the same pins, readers and module numbers, and the modules
have changed in their known functions at most.
-/

namespace DeviceCode

variable {α : Type}

/-- Everything that the simulator keeps is where it was. -/
structure Watched.Keeps (s t : Watched Simulator) : Prop where
  executables : t.inner.executables = s.inner.executables
  codeObjects : t.inner.codeObjects = s.inner.codeObjects
  readers : t.inner.readers = s.inner.readers
  allocations : t.inner.allocations = s.inner.allocations
  pinned : t.inner.pinned = s.inner.pinned
  ties : t.ties = s.ties

namespace Watched.Keeps

variable {s t u : Watched Simulator}

theorem refl (s : Watched Simulator) : Keeps s s := ⟨rfl, rfl, rfl, rfl, rfl, rfl⟩

/-- A call without notes after which the simulator keeps what it kept. -/
theorem pass (h : Keeps s t) {call : Simulator → Reply Simulator α}
    (hcall : Keeps t ⟨(call t.inner).2, t.ties⟩) :
    Keeps s (Watched.pass call (fun _ => {}) t).2 := by
  have hsame : Keeps t (Watched.pass call (fun _ => {}) t).2 := by
    rcases hr : call t.inner with ⟨e | a, u⟩
    · rw [hr] at hcall
      rw [pass_error hr]
      exact hcall
    · rw [hr] at hcall
      rw [pass_ok hr, Ties.add_nil]
      exact hcall
  exact
    { executables := hsame.executables.trans h.executables
      codeObjects := hsame.codeObjects.trans h.codeObjects
      readers := hsame.readers.trans h.readers
      allocations := hsame.allocations.trans h.allocations
      pinned := hsame.pinned.trans h.pinned
      ties := hsame.ties.trans h.ties }

end Watched.Keeps

/-! ## The calls of lookups and launches -/

section Calls

open Simulator

variable (s : Watched Simulator)

theorem getSymbol_keeps (e : ExecutableHandle) (g : AgentHandle) (name : String) :
    CallsAlike (Only (Watched.Keeps s)) (accelerator.watch.getSymbol e g name)
      (accelerator.watch.getSymbol e g name) := by
  refine .only fun t ht => ht.pass ?_
  obtain ⟨journal, loads, heq⟩ := t.inner.getSymbol_state e g name
  show Watched.Keeps t ⟨(t.inner.getSymbol e g name).2, t.ties⟩
  rw [heq]
  exact ⟨rfl, rfl, rfl, rfl, rfl, rfl⟩

theorem dispatch_keeps (g : AgentHandle) (q : QueueHandle) (p : Packet) (arguments : Bytes)
    (wanted : Bool) :
    CallsAlike (Only (Watched.Keeps s)) (accelerator.watch.dispatch g q p arguments wanted)
      (accelerator.watch.dispatch g q p arguments wanted) := by
  refine .only fun t ht => ht.pass ?_
  show Watched.Keeps t ⟨(t.inner.dispatch g q p arguments wanted).2, t.ties⟩
  obtain ⟨journal, loads, dispatches, heq | heq⟩ := t.inner.dispatch_state g q p arguments wanted
  · rw [heq]
    exact ⟨rfl, rfl, rfl, rfl, rfl, rfl⟩
  · rw [heq]
    exact ⟨rfl, rfl, rfl, rfl, rfl, rfl⟩

theorem releaseCompletion_keeps (c : CompletionHandle) :
    CallsAlike (Only (Watched.Keeps s)) (accelerator.watch.releaseCompletion c)
      (accelerator.watch.releaseCompletion c) := by
  refine .only fun t ht => ht.pass ?_
  show Watched.Keeps t ⟨(t.inner.releaseCompletion c).2, t.ties⟩
  obtain ⟨journal, loads, heq | heq⟩ := t.inner.releaseCompletion_state c
  · rw [heq]
    exact ⟨rfl, rfl, rfl, rfl, rfl, rfl⟩
  · rw [heq]
    exact ⟨rfl, rfl, rfl, rfl, rfl, rfl⟩

end Calls

/-! ## Quiet requests -/

/-- A module but for the functions that it remembers. -/
def LoadedModule.forgetful (m : LoadedModule) : LoadedModule := { m with functions := [] }

/-- Worlds in which the same things are kept, for the same modules. -/
structure World.Keeps (v w : World (Watched Simulator)) : Prop where
  accelerator : Watched.Keeps v.accelerator w.accelerator
  residency : w.loader.residency = v.loader.residency
  nextModule : w.loader.nextModule = v.loader.nextModule

/-- Sessions in which the same things are kept, for the same modules. -/
structure Session.Keeps (s t : Session (Watched Simulator)) : Prop where
  world : World.Keeps s.world t.world
  modules : t.modules.map (·.forgetful) = s.modules.map (·.forgetful)

/-- What stays the same about a loader. -/
def LoaderState.Keeps (s t : LoaderState) : Prop :=
  t.residency = s.residency ∧ t.nextModule = s.nextModule

namespace World.Keeps

variable {w : World (Watched Simulator)}

theorem refl (w : World (Watched Simulator)) : Keeps w w := ⟨.refl _, rfl, rfl⟩

/-- An action that makes quiet calls only and keeps the registry. -/
theorem of_alike {x : Action (Watched Simulator) α}
    (h : Alike (MatchOn (LoaderState.Keeps w.loader) (Only (Watched.Keeps w.accelerator))) Eq x x) :
    Keeps w (x w).2 := by
  have hstart : MatchOn (LoaderState.Keeps w.loader) (Only (Watched.Keeps w.accelerator)) w w :=
    ⟨⟨rfl, .refl _⟩, rfl, rfl, ⟨rfl, rfl⟩, rfl, rfl, rfl⟩
  have hend := (h w w hstart).2
  exact ⟨hend.accelerator.2, hend.keeps.1, hend.keeps.2⟩

end World.Keeps

/-- Requests other than loads, unloads and teardowns. -/
def Request.Quiet : Request → Prop
  | .load _ _ | .unload _ | .shutdown => False
  | _ => True

namespace Session

variable {settings : LoaderSettings} {hooks : LaunchHooks} {s : Session (Watched Simulator)}

theorem keeps_inWorld {x : Action (Watched Simulator) α} (h : World.Keeps s.world (x s.world).2) :
    Session.Keeps s (s.inWorld x) := ⟨h, rfl⟩

/-- Whatever a change of one module leaves alone, is left alone in the list. -/
theorem map_set_of_eq {β : Type} (f : LoadedModule → β) {ms : List LoadedModule} {i : Nat}
    {m m' : LoadedModule} (hm : ms[i]? = some m) (h : f m' = f m) :
    (ms.set i m').map f = ms.map f := by
  induction ms generalizing i with
  | nil => cases hm
  | cons x xs ih =>
    cases i with
    | zero =>
      cases hm
      rw [List.set_cons_zero, List.map_cons, List.map_cons, h]
    | succ i => rw [List.set_cons_succ, List.map_cons, List.map_cons, ih hm]

/-- A module of the list either is the one at `i` or stands elsewhere. -/
theorem elsewhere_or_eq {ms : List LoadedModule} {i : Nat} {m m₀ : LoadedModule}
    (hm : ms[i]? = some m) (hmem : m₀ ∈ ms) : (∃ j, j ≠ i ∧ ms[j]? = some m₀) ∨ m₀ = m := by
  obtain ⟨j, hj⟩ := List.mem_iff_getElem?.mp hmem
  by_cases hij : j = i
  · rw [hij, hm] at hj
    exact .inr (Option.some.inj hj).symm
  · exact .inl ⟨j, hij, hj⟩

theorem mem_set_or_eq {ms : List LoadedModule} {i : Nat} {m m₀ : LoadedModule}
    (hm : ms[i]? = some m) (hmem : m₀ ∈ ms) (m' : LoadedModule) : m₀ ∈ ms.set i m' ∨ m₀ = m := by
  refine (elsewhere_or_eq hm hmem).imp_left fun ⟨j, hij, hj⟩ => ?_
  rw [← List.getElem?_set_ne (Ne.symm hij)] at hj
  exact List.mem_of_getElem? hj

theorem mem_eraseIdx_or_eq {ms : List LoadedModule} {i : Nat} {m m₀ : LoadedModule}
    (hm : ms[i]? = some m) (hmem : m₀ ∈ ms) : m₀ ∈ ms.eraseIdx i ∨ m₀ = m :=
  (elsewhere_or_eq hm hmem).imp_left List.mem_eraseIdx_iff_getElem?.mpr

/-- Whatever comes before the answer. -/
theorem leads_anywhere {σ : Type} {x : Attempt σ α} :
    Leads (fun _ => True) x (fun _ _ => True) fun _ => True := by
  intro w _
  rcases x w with ⟨e | a, w'⟩ <;> exact trivial

/-- A lookup answers with the module that it was given, and at most one function more. -/
theorem getFunction_forgetful {σ : Type} (l : Loader σ) (current : Option Device)
    (m : LoadedModule) (name : String) :
    Leads (fun _ => True) (l.getFunction current m name)
      (fun r _ => r.2.forgetful = m.forgetful) fun _ => True := by
  refine leads_anywhere.bind fun device => leads_anywhere.bind fun _ => ?_
  cases m.known? name with
  | some f => exact Leads.pure fun _ _ => rfl
  | none =>
    refine leads_anywhere.bind fun symbol => leads_anywhere.bind fun _ => ?_
    exact Leads.pure fun _ _ => rfl

theorem getFunction_keeps (current : Option Device) (index : Nat) (name : String) :
    Session.Keeps s
      (s.getFunction (Simulator.watchedLoader settings hooks) current index name) := by
  unfold getFunction
  cases hm : s.modules[index]? with
  | none => exact ⟨.refl _, rfl⟩
  | some m =>
    have hworld : World.Keeps s.world
        ((Simulator.watchedLoader settings hooks).getFunction current m name s.world).2 :=
      .of_alike (Loader.getFunction_alike (l := Simulator.watchedLoader settings hooks)
        (k := Simulator.watchedLoader settings hooks) (getSymbol_keeps s.world.accelerator) current
        m name).outcome
    -- the answer is put back in the module's place, so it must be that module
    have hanswer := getFunction_forgetful (Simulator.watchedLoader settings hooks) current m name
      s.world trivial
    dsimp only
    rcases hrun : (Simulator.watchedLoader settings hooks).getFunction current m name s.world with
      ⟨e | ⟨f, m'⟩, w⟩
    · rw [hrun] at hworld
      exact ⟨hworld, rfl⟩
    · rw [hrun] at hworld hanswer
      exact ⟨hworld, map_set_of_eq _ hm hanswer⟩

/-- **Quiet requests keep everything.** -/
theorem step_keeps {r : Request} (h : r.Quiet) :
    Session.Keeps s (s.step (Simulator.watchedRig settings hooks) r) := by
  cases r with
  | load current source => exact h.elim
  | unload index => exact h.elim
  | shutdown => exact h.elim
  | getFunction current index name => exact getFunction_keeps current index name
  | getGlobal current index name =>
    show Session.Keeps s (s.getGlobal _ current index name)
    unfold getGlobal
    cases s.modules[index]? with
    | none => exact ⟨.refl _, rfl⟩
    | some m =>
      exact keeps_inWorld (.of_alike (Loader.getGlobal_alike
        (getSymbol_keeps s.world.accelerator) current m name).outcome)
  | launch current f r args =>
    exact keeps_inWorld (.of_alike (Loader.launch_alike rfl (dispatch_keeps s.world.accelerator)
      (releaseCompletion_keeps s.world.accelerator) rfl (fun _ _ _ _ hs _ => hs) current f r
      args).outcome)
  | launchBlocks current f blocks block dynamicShared queue args =>
    exact keeps_inWorld (.of_alike (Loader.launchBlocks_alike rfl
      (dispatch_keeps s.world.accelerator) (releaseCompletion_keeps s.world.accelerator) rfl
      (fun _ _ _ _ hs _ => hs) current f blocks block dynamicShared queue args).outcome)
  | declareKernel kernel ps => exact ⟨⟨.refl _, rfl, rfl⟩, rfl⟩
  | registerLayout kernel layout => exact ⟨⟨.refl _, rfl, rfl⟩, rfl⟩
  | declareDocument text =>
    refine keeps_inWorld ?_
    unfold World.declareDocument
    cases Metadata.parse? text with
    | none => exact .refl _
    | some m => exact ⟨.refl _, rfl, rfl⟩
  | setHost host => exact ⟨⟨.refl _, rfl, rfl⟩, rfl⟩
  | inject point =>
    refine ⟨⟨?_, rfl, rfl⟩, rfl⟩
    -- a fault that is set already is not set again
    show Watched.Keeps s.world.accelerator
      { s.world.accelerator with inner := s.world.accelerator.inner.inject point }
    unfold Simulator.inject
    split
    · exact .refl _
    · exact ⟨rfl, rfl, rfl, rfl, rfl, rfl⟩
  | clearFaults => exact ⟨⟨⟨rfl, rfl, rfl, rfl, rfl, rfl⟩, rfl, rfl⟩, rfl⟩

end Session

end DeviceCode
