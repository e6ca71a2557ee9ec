import DeviceCode.Proofs.LoadCalls
import DeviceCode.Proofs.Orderly
import Mathlib.Data.List.Nodup

/-!
# The calls of a request

What each kind of request calls, next to loads and unloads: a teardown unpins host globals and then
destroys readers, a lookup asks for one symbol at most, a launch calls nothing that is about an
executable or gives anything back. `Session.Wrote` puts all of them together.
-/

namespace DeviceCode

variable {σ α : Type}

/-- Calls that are about no executable and give nothing back. -/
def Bystanders (more : List Call) : Prop :=
  ∀ c ∈ more, c.1.executable? = none ∧ c.1.gone? = none

/-- Later calls, with some property. -/
def Continues (P : List Call → Prop) (calls calls' : List Call) : Prop :=
  ∃ more, calls' = calls ++ more ∧ P more

namespace Loader

variable (l : Loader σ) {calls : List Call}

/-! ## Launches -/

/-- A state whose calls since `calls` are bystanders. -/
def Aside (calls : List Call) (s : Chronicled σ) : Prop := Continues Bystanders calls s.calls

theorem pass_aside {call : σ → Reply σ α} {entry : JournalEntry}
    (hexecutable : entry.executable? = none) (hgone : entry.gone? = none) :
    CallsAlike (Only (Aside calls)) (Chronicled.pass call (Chronicled.always entry))
      (Chronicled.pass call (Chronicled.always entry)) := by
  refine .only fun s ⟨more, hcalls, hmore⟩ => ?_
  refine ⟨more ++ [(entry, (call s.inner).1.isOk)], ?_, fun c hc => ?_⟩
  · rw [← List.append_assoc, ← hcalls]
    rfl
  · rcases List.mem_append.mp hc with hc | hc
    · exact hmore c hc
    · rw [List.mem_singleton.mp hc]
      exact ⟨hexecutable, hgone⟩

theorem aside_of_alike {x : Action (Chronicled σ) α} {w : World (Chronicled σ)}
    (h : Alike (World.Match (Only (Aside w.accelerator.calls))) Eq x x) :
    Aside w.accelerator.calls (x w).2.accelerator :=
  (h w w (.only ⟨[], (List.append_nil _).symm, nofun⟩)).2.accelerator.2

theorem launch_calls (current : Option Device) (f : KernelFunction) (r : LaunchRequest)
    (args : LaunchArgs) (w : World (Chronicled σ)) :
    Aside w.accelerator.calls (l.chronicle.launch current f r args w).2.accelerator :=
  aside_of_alike (launch_alike rfl (fun _ _ _ _ _ => pass_aside rfl rfl)
    (fun _ => pass_aside rfl rfl) rfl (fun _ _ _ _ _ _ => trivial) current f r args).outcome

theorem launchBlocks_calls (current : Option Device) (f : KernelFunction) (blocks block : Dim3)
    (dynamicShared : Nat) (queue : Option QueueHandle) (args : LaunchArgs)
    (w : World (Chronicled σ)) :
    Aside w.accelerator.calls
      (l.chronicle.launchBlocks current f blocks block dynamicShared queue args w).2.accelerator :=
  aside_of_alike (launchBlocks_alike rfl (fun _ _ _ _ _ => pass_aside rfl rfl)
    (fun _ => pass_aside rfl rfl) rfl (fun _ _ _ _ _ _ => trivial) current f blocks block
    dynamicShared queue args).outcome

/-! ## Lookups -/

/-- The one call of a lookup, if it gets that far. -/
def Asks (m : LoadedModule) (more : List Call) : Prop :=
  more = [] ∨ m.released.executable = false ∧
    ∃ name ok, more = [(.getSymbol m.executable name, ok)]

theorem findSymbol_calls (device : Device) (m : LoadedModule) (name : String)
    (fits : ExecutableSymbol → Bool) (hlive : m.released.executable = false) :
    Leads (fun w => w.accelerator.calls = calls) (l.chronicle.findSymbol device m name fits)
      (fun _ w => Continues (Asks m) calls w.accelerator.calls)
      (fun w => Continues (Asks m) calls w.accelerator.calls) := by
  refine Leads.bind (Q := fun _ w => Continues (Asks m) calls w.accelerator.calls)
    (fun w hw => Ends.call ?_) fun found => ?_
  · have hasks : ∀ ok, Continues (Asks m) calls
        (w.accelerator.calls ++ [(.getSymbol m.executable name, ok)]) := fun ok =>
      ⟨_, by rw [hw], .inr ⟨hlive, name, ok, rfl⟩⟩
    exact .always (fun _ t ht => by rw [ht]; exact hasks true) fun t ht => by
      rw [ht]
      exact hasks false
  · cases found.filter fits with
    | none => exact Leads.throw fun _ hw => hw
    | some s => exact Leads.pure fun _ hw => hw

theorem calls_check {β : Type} {r : Except LoadError α} {f : α → Attempt (Chronicled σ) β}
    {P : List Call → Prop} (hP : P [])
    (hf : ∀ a, r = .ok a → Leads (fun w => w.accelerator.calls = calls) (f a)
      (fun _ w => Continues P calls w.accelerator.calls)
      (fun w => Continues P calls w.accelerator.calls)) :
    Leads (fun w => w.accelerator.calls = calls) (Attempt.ofExcept r >>= f)
      (fun _ w => Continues P calls w.accelerator.calls)
      (fun w => Continues P calls w.accelerator.calls) := by
  cases r with
  | error e => exact fun w hw => ⟨[], by rw [List.append_nil]; exact hw, hP⟩
  | ok a => exact hf a rfl

theorem released_of_live {m : LoadedModule} {e : ExecutableHandle}
    (h : (if m.released.executable then .error (.executableGone m.id) else .ok m.executable :
      Except InvalidValue ExecutableHandle).mapError LoadError.invalidValue = .ok e) :
    m.released.executable = false := by
  cases hr : m.released.executable with
  | false => rfl
  | true =>
    rw [hr] at h
    cases h

theorem getFunction_calls (current : Option Device) (m : LoadedModule) (name : String) :
    Leads (fun w => w.accelerator.calls = calls) (l.chronicle.getFunction current m name)
      (fun _ w => Continues (Asks m) calls w.accelerator.calls)
      (fun w => Continues (Asks m) calls w.accelerator.calls) := by
  refine calls_check (.inl rfl) fun device _ => calls_check (.inl rfl) fun _ hlive => ?_
  cases m.known? name with
  | some f => exact Leads.pure fun w hw => ⟨[], by rw [List.append_nil]; exact hw, .inl rfl⟩
  | none =>
    refine (findSymbol_calls l device m name _ (released_of_live hlive)).bind fun s => ?_
    exact fun _ hw => hw

theorem getGlobal_calls (current : Option Device) (m : LoadedModule) (name : String) :
    Leads (fun w => w.accelerator.calls = calls) (l.chronicle.getGlobal current m name)
      (fun _ w => Continues (Asks m) calls w.accelerator.calls)
      (fun w => Continues (Asks m) calls w.accelerator.calls) := by
  refine calls_check (.inl rfl) fun device _ => calls_check (.inl rfl) fun _ hlive => ?_
  refine (findSymbol_calls l device m name _ (released_of_live hlive)).bind fun s => ?_
  intro w hw
  unfold Attempt.wellFormed
  cases (Elf.Object.parse m.image >>= (·.symbolSize name)).mapError LoadError.malformedObject with
  | error e => exact hw
  | ok declared => exact hw

/-! ## Teardowns -/

/-- A release whose failure is only logged. -/
theorem discard_calls (call : σ → Reply σ Unit) (entry : JournalEntry)
    (warning : CallError → Trace.Event) (w : World (Chronicled σ)) :
    ∃ failure w', World.discard (Chronicled.pass call (Chronicled.always entry)) warning w =
        (failure, w') ∧ w'.loader = w.loader ∧
      w'.accelerator.calls = w.accelerator.calls ++ [(entry, failure.isNone)] := by
  rcases hcall : call w.accelerator.inner with ⟨answer, s⟩
  have hpass : Chronicled.pass call (Chronicled.always entry) w.accelerator =
      (answer, ⟨s, w.accelerator.calls ++ [(entry, answer.isOk)]⟩) := by
    unfold Chronicled.pass
    rw [hcall]
    rfl
  unfold World.discard
  rw [run_bind_of (World.run_call hpass)]
  cases answer with
  | ok _ => exact ⟨none, _, rfl, rfl, rfl⟩
  | error e => exact ⟨some e, _, rfl, rfl, rfl⟩

/-- Several such releases: each of them is called for once, in order. -/
theorem discardAll_calls (call : α → σ → Reply σ Unit) (entry : α → JournalEntry)
    (warning : α → CallError → Trace.Event) (as : List α) (w : World (Chronicled σ)) :
    ∃ failures w', as.mapM (fun a => World.discard
          (Chronicled.pass (call a) (Chronicled.always (entry a))) (warning a)) w =
        (failures, w') ∧ failures.length = as.length ∧ w'.loader = w.loader ∧
      w'.accelerator.calls = w.accelerator.calls ++
        (as.map entry).zip (failures.map (·.isNone)) := by
  induction as generalizing w with
  | nil => exact ⟨[], w, rfl, rfl, rfl, (List.append_nil _).symm⟩
  | cons a as ih =>
    obtain ⟨failure, w₁, hrun, hloader, hcalls⟩ := discard_calls (call a) (entry a) (warning a) w
    obtain ⟨failures, w', hrest, hlength, hloader', hcalls'⟩ := ih w₁
    refine ⟨failure :: failures, w', ?_, congrArg (· + 1) hlength, hloader'.trans hloader, ?_⟩
    · rw [List.mapM_cons, run_bind_of hrun, run_bind_of hrest]
      rfl
    · rw [hcalls', hcalls, List.append_assoc]
      rfl

/-- Counting failures while going along is counting them in the end. -/
theorem counted_mapM {attempt : α → Action σ (Option CallError)}
    (report : Nat → List CallError → TeardownReport)
    (loop : Nat → List CallError → List α → Action σ TeardownReport)
    (hnil : ∀ n es, loop n es [] = pure (report n es))
    (hcons : ∀ n es a as, loop n es (a :: as) =
      attempt a >>= fun failure => failure.elim (loop (n + 1) es as) fun e => loop n (es ++ [e]) as)
    (n : Nat) (es : List CallError) (as : List α) :
    loop n es as = as.mapM attempt >>= fun failures =>
      pure (report (n + failures.countP (·.isNone)) (es ++ failures.filterMap id)) := by
  induction as generalizing n es with
  | nil =>
    rw [hnil, List.mapM_nil, pure_bind, List.filterMap_nil, List.append_nil]
    rfl
  | cons a as ih =>
    rw [hcons, List.mapM_cons, bind_assoc]
    refine congrArg _ (funext fun failure => ?_)
    rw [bind_assoc]
    cases failure with
    | none =>
      show loop (n + 1) es as = _
      rw [ih]
      refine congrArg _ (funext fun failures => ?_)
      rw [pure_bind, List.countP_cons_of_pos rfl, Nat.add_right_comm, Nat.add_assoc]
      rfl
    | some e =>
      show loop n (es ++ [e]) as = _
      rw [ih]
      refine congrArg _ (funext fun failures => ?_)
      rw [pure_bind, List.countP_cons_of_neg Bool.false_ne_true, List.append_assoc]
      rfl

theorem unpinReleased_eq (r : TeardownReport) (pins : List PinnedGlobal) :
    l.unpinReleased r pins =
      (pins.mapM fun pin => World.discard (l.accelerator.unlockMemory pin.hostAddress)
        (.releaseFailed "failed to unpin host global" "symbol" pin.name)) >>= fun failures =>
      pure { r with
        unpinned := r.unpinned + failures.countP (·.isNone)
        failures := r.failures ++ failures.filterMap id } := by
  refine counted_mapM (fun n es => { r with unpinned := n, failures := es })
    (fun n es => l.unpinReleased { r with unpinned := n, failures := es })
    (fun n es => rfl) (fun n es pin pins => congrArg _ (funext fun failure => ?_)) _ _ pins
  cases failure <;> rfl

theorem destroyReleased_eq (r : TeardownReport) (readers : List ReaderHandle) :
    l.destroyReleased r readers =
      (readers.mapM fun reader => World.discard (l.accelerator.destroyReader reader)
        (.releaseFailed "failed to destroy code object reader" "reader" reader.label)) >>=
        fun failures =>
      pure { r with
        readersDestroyed := r.readersDestroyed + failures.countP (·.isNone)
        failures := r.failures ++ failures.filterMap id } := by
  refine counted_mapM (fun n es => { r with readersDestroyed := n, failures := es })
    (fun n es => l.destroyReleased { r with readersDestroyed := n, failures := es })
    (fun n es => rfl) (fun n es reader readers => congrArg _ (funext fun failure => ?_)) _ _ readers
  cases failure <;> rfl

/-- The calls that unpin host globals, with their outcomes. -/
def unpinning (pins : List PinnedGlobal) (oks : List Bool) : List Call :=
  (pins.map fun pin => .unlockMemory pin.hostAddress).zip oks

theorem unpinning_bystanders (pins : List PinnedGlobal) (oks : List Bool) :
    Bystanders (unpinning pins oks) := by
  rintro ⟨entry, ok⟩ hc
  obtain ⟨pin, -, rfl⟩ := List.mem_map.mp (List.of_mem_zip hc).1
  exact ⟨rfl, rfl⟩

/-- The calls that destroy readers, with their outcomes. -/
def destroying (rs : List ReaderHandle) (oks : List Bool) : List Call :=
  ((rs.map Resource.reader).map (·.gone)).zip oks

theorem unpinReleased_calls (r : TeardownReport) (pins : List PinnedGlobal)
    (w : World (Chronicled σ)) :
    ∃ (failures : List (Option CallError)) (w' : World (Chronicled σ)),
      l.chronicle.unpinReleased r pins w = ({ r with
          unpinned := r.unpinned + failures.countP (·.isNone)
          failures := r.failures ++ failures.filterMap id }, w') ∧
      failures.length = pins.length ∧ w'.loader = w.loader ∧
      w'.accelerator.calls = w.accelerator.calls ++ unpinning pins (failures.map (·.isNone)) := by
  obtain ⟨failures, w', hrun, hdone⟩ := discardAll_calls
    (fun pin : PinnedGlobal => l.accelerator.unlockMemory pin.hostAddress)
    (fun pin => .unlockMemory pin.hostAddress)
    (fun pin => .releaseFailed "failed to unpin host global" "symbol" pin.name) pins w
  refine ⟨failures, w', ?_, hdone⟩
  rw [unpinReleased_eq]
  exact run_bind_of hrun _

theorem destroyReleased_calls (r : TeardownReport) (readers : List ReaderHandle)
    (w : World (Chronicled σ)) :
    ∃ (failures : List (Option CallError)) (w' : World (Chronicled σ)),
      l.chronicle.destroyReleased r readers w = ({ r with
          readersDestroyed := r.readersDestroyed + failures.countP (·.isNone)
          failures := r.failures ++ failures.filterMap id }, w') ∧
      failures.length = readers.length ∧ w'.loader = w.loader ∧
      w'.accelerator.calls = w.accelerator.calls ++
        destroying readers (failures.map (·.isNone)) := by
  obtain ⟨failures, w', hrun, hlength, hloader, hcalls⟩ := discardAll_calls
    (fun reader => l.accelerator.destroyReader reader) (fun reader => .destroyReader reader)
    (fun reader => .releaseFailed "failed to destroy code object reader" "reader" reader.label)
    readers w
  refine ⟨failures, w', ?_, hlength, hloader, ?_⟩
  · rw [destroyReleased_eq]
    exact run_bind_of hrun _
  · unfold destroying
    rw [hcalls, List.map_map]
    rfl

/-- How a teardown went. It has called for each pin and each reader that may go, pins first, and
each of these calls may have failed. What is kept for live modules is left. -/
structure Discharged (w w' : World (Chronicled σ)) (report : TeardownReport)
    (pins readers : List (Option CallError)) : Prop where
  pins_length : pins.length = w.loader.residency.releasablePins.length
  readers_length : readers.length = w.loader.residency.releasableReaders.length
  calls : w'.accelerator.calls = w.accelerator.calls ++
    unpinning w.loader.residency.releasablePins (pins.map (·.isNone)) ++
    destroying w.loader.residency.releasableReaders (readers.map (·.isNone))
  loader : w'.loader = { w.loader with residency :=
    { w.loader.residency.keepLive with tornDown := w.loader.residency.keepLive.size == 0 } }
  report : report =
    { unpinned := pins.countP (·.isNone)
      readersDestroyed := readers.countP (·.isNone)
      inUse := w.loader.residency.keepLive.size
      failures := pins.filterMap id ++ readers.filterMap id }

/-- **What a teardown does**, and what it reports. -/
theorem shutdown_discharged (w : World (Chronicled σ)) :
    ∃ pins readers, Discharged w (l.chronicle.shutdown w).2 (l.chronicle.shutdown w).1
      pins readers := by
  let kept := w.loader.residency.keepLive
  let w₁ : World (Chronicled σ) := { w with loader := { w.loader with residency := kept } }
  obtain ⟨pins, w₂, hrun₁, hlength₁, hloader₁, hcalls₁⟩ :=
    unpinReleased_calls l { inUse := kept.size } w.loader.residency.releasablePins w₁
  rw [Nat.zero_add, List.nil_append] at hrun₁
  obtain ⟨readers, w₃, hrun₂, hlength₂, hloader₂, hcalls₂⟩ :=
    destroyReleased_calls l
      { unpinned := pins.countP (·.isNone), inUse := kept.size, failures := pins.filterMap id }
      w.loader.residency.releasableReaders w₂
  rw [Nat.zero_add] at hrun₂
  have hget : (get : Action (Chronicled σ) _) w = (w, w) := rfl
  have hupdate : World.updateLoader (fun s => { s with residency := kept }) w = ((), w₁) := rfl
  have hcalls : w₃.accelerator.calls = w.accelerator.calls ++
      unpinning w.loader.residency.releasablePins (pins.map (·.isNone)) ++
      destroying w.loader.residency.releasableReaders (readers.map (·.isNone)) := by
    rw [hcalls₂, hcalls₁]
  have hloader : { w₃.loader with
      residency := { w₃.loader.residency with tornDown := kept.size == 0 } } =
        { w.loader with residency := { kept with tornDown := kept.size == 0 } } := by
    rw [hloader₂, hloader₁]
  refine ⟨pins, readers, ?_⟩
  unfold shutdown
  rw [run_bind_of hget]
  dsimp only
  rw [run_bind_of hupdate, run_bind_of hrun₁, run_bind_of hrun₂]
  -- the rest is logging, and a note of how the teardown ended
  by_cases hin : 0 < kept.size
  · rw [if_pos hin]
    exact ⟨hlength₁, hlength₂, hcalls, hloader, rfl⟩
  · rw [if_neg hin]
    exact ⟨hlength₁, hlength₂, hcalls, hloader, rfl⟩

/-- What a teardown has done: it has called for each pin and each reader that may go, pins first,
and only what is kept for live modules is left. -/
structure TornDown (w w' : World (Chronicled σ)) : Prop where
  calls : ∃ oks oks', oks.length = w.loader.residency.releasablePins.length ∧
    oks'.length = w.loader.residency.releasableReaders.length ∧
    w'.accelerator.calls = w.accelerator.calls ++
      unpinning w.loader.residency.releasablePins oks ++
      destroying w.loader.residency.releasableReaders oks'
  loader : ∃ tornDown, w'.loader = { w.loader with
    residency := { w.loader.residency.keepLive with tornDown } }

theorem shutdown_tornDown (w : World (Chronicled σ)) : TornDown w (l.chronicle.shutdown w).2 := by
  obtain ⟨pins, readers, h⟩ := shutdown_discharged l w
  exact ⟨⟨_, _, (List.length_map _).trans h.pins_length, (List.length_map _).trans h.readers_length,
    h.calls⟩, _, h.loader⟩

/-- A loader ends with a teardown, unless its registry is empty. -/
theorem close_cases (w : World (Chronicled σ)) :
    w.loader.residency.size = 0 ∧ (l.chronicle.close w).2 = w ∨
      TornDown w (l.chronicle.close w).2 := by
  have hget : (get : Action (Chronicled σ) _) w = (w, w) := rfl
  unfold close
  rw [run_bind_of hget]
  by_cases hsize : w.loader.residency.size = 0
  · rw [if_pos hsize]
    exact .inl ⟨hsize, rfl⟩
  · have htorn := shutdown_tornDown l w
    rw [if_neg hsize]
    rcases hrun : l.chronicle.shutdown w with ⟨report, w'⟩
    rw [hrun] at htorn
    rw [run_bind_of hrun]
    -- how it went is logged at most
    refine .inr ?_
    by_cases hclean : report.isClean = true
    · rw [if_pos hclean]
      exact htorn
    · rw [if_neg hclean]
      exact ⟨htorn.calls, htorn.loader⟩

end Loader

/-! ## What is given back is there -/

/-- Whatever a module still has, the simulator has. -/
theorem Books.Solvent.holds_kept {b : Books} (h : b.Solvent) {m : LoadedModule}
    (hm : m ∈ b.modules) {k : Resource} (hk : k ∈ m.kept) : b.simulator.Holds k := by
  rcases List.mem_append.mp hk with hk | hk
  · obtain ⟨e, he, rfl⟩ := List.mem_map.mp hk
    exact h.contains_executable hm (Option.mem_toList.mp he)
  · rcases List.mem_append.mp hk with hk | hk
    · obtain ⟨c, hc, rfl⟩ := List.mem_map.mp hk
      exact h.contains_codeObject hm (Option.mem_toList.mp hc)
    · obtain ⟨x, hx, rfl⟩ := List.mem_map.mp hk
      exact h.contains_allocation hm (Option.mem_toList.mp hx)

/-- A teardown asks for no reader twice. -/
theorem Books.Solvent.releasableReaders_nodup {b : Books} (h : b.Solvent) :
    b.residency.releasableReaders.Nodup := by
  refine List.nodup_iff_count_le_one.mpr fun r => ?_
  have hone : b.simulator.readers.tally r ≤ 1 := by
    unfold Assoc.tally
    split <;> decide
  exact Nat.le_trans (Session.count_filter_le _ _ _ _) (Nat.le_trans (h.readers r) hone)

theorem Books.Solvent.holds_releasable {b : Books} (h : b.Solvent) {r : ReaderHandle}
    (hr : r ∈ b.residency.releasableReaders) : b.simulator.Holds (.reader r) := by
  obtain ⟨⟨id, r'⟩, hmem, rfl⟩ := List.mem_map.mp hr
  exact h.contains_reader (List.mem_filter.mp hmem).1

/-! ## All requests -/

namespace Session

/-- What every run of a chronicled session keeps. -/
structure Proper (s : Session (Chronicled Simulator)) : Prop where
  sound : s.world.accelerator.inner.Sound
  tracked : s.world.accelerator.Tracked
  lawful : Lawful s.calls
  solvent : s.unchronicled.books.Solvent
  frozen : ∀ m ∈ s.modules, (.freeze m.executable, true) ∈ s.calls

/-- The calls that a request has added. -/
structure Adds (s : Session (Chronicled Simulator)) (more : List Call)
    (t : Session (Chronicled Simulator)) : Prop where
  calls : t.calls = s.calls ++ more
  lawful : Lawful t.calls
  /-- Apart from readers, nothing is given back that was there before, and no frozen executable. -/
  returned : ∀ k ok, (Resource.gone k, ok) ∈ more → (∃ r, k = .reader r) ∨
    (k.made, true) ∉ s.calls ∧ ∀ e, k = .executable e → (.freeze e, true) ∉ t.calls

/-- What a request can write down. -/
inductive Wrote (s : Session (Chronicled Simulator)) :
    Request → Session (Chronicled Simulator) → Prop
  /-- The modules are those there were. -/
  | kept {r : Request} {more : List Call} {t : Session (Chronicled Simulator)}
      (h : Adds s more t) (hmodules : t.modules.map (·.forgetful) = s.modules.map (·.forgetful)) :
      Wrote s r t
  /-- A module was loaded. -/
  | loaded {current : Option Device} {source : LoadSource} {more : List Call} {m : LoadedModule}
      {w : World (Chronicled Simulator)}
      (h : Adds s more { world := w, modules := s.modules ++ [m] })
      (hmade : Loader.Made s.calls m w.accelerator) :
      Wrote s (.load current source) { world := w, modules := s.modules ++ [m] }
  /-- A module was unloaded. -/
  | unloaded {index : Nat} {m : LoadedModule} {w : World (Chronicled Simulator)}
      (hm : s.modules[index]? = some m)
      (hcalls : w.accelerator.calls = m.unloadCalls s.calls m.kept) :
      Wrote s (.unload index) { world := w, modules := s.modules.eraseIdx index }
  /-- An unload has stopped. -/
  | halted {index : Nat} {m m' : LoadedModule} {w : World (Chronicled Simulator)}
      (hm : s.modules[index]? = some m) (h : Halted s.calls m m' w.accelerator.calls) :
      Wrote s (.unload index) { world := w, modules := s.modules.set index m' }

variable {s t : Session (Chronicled Simulator)} {settings : LoaderSettings} {hooks : LaunchHooks}

namespace Proper

theorem alive_kept (h : s.Proper) {m : LoadedModule} (hm : m ∈ s.modules) {k : Resource}
    (hk : k ∈ m.kept) : Alive s.calls k :=
  (h.tracked.holds k).mp (h.solvent.holds_kept hm hk)

/-- Bystanders may always be called. -/
theorem adds_bystanders (h : s.Proper) {more : List Call} (hcalls : t.calls = s.calls ++ more)
    (hmore : Bystanders more) : Adds s more t where
  calls := hcalls
  lawful := by
    rw [hcalls]
    exact h.lawful.append_bystanders hmore
  returned k ok hk := absurd rfl (Resource.gone_ne (hmore _ hk).2)

theorem adds_nothing (h : s.Proper) (hcalls : t.calls = s.calls) : Adds s [] t :=
  h.adds_bystanders (by rw [hcalls, List.append_nil]) nofun

/-- A module that is held may be asked for symbols. -/
theorem adds_asks (h : s.Proper) {m : LoadedModule} (hm : m ∈ s.modules) {more : List Call}
    (hcalls : t.calls = s.calls ++ more) (hmore : Loader.Asks m more) : Adds s more t := by
  rcases hmore with rfl | ⟨hlive, name, ok, rfl⟩
  · exact h.adds_nothing (by rw [hcalls, List.append_nil])
  · have hkept := LoadedModule.executable_mem_kept_iff.mpr hlive
    refine ⟨hcalls, ?_, fun k ok' hk => ?_⟩
    · rw [hcalls]
      exact h.lawful.concat ⟨h.alive_kept hm hkept, h.frozen m hm⟩
    · exact absurd (Prod.mk.inj (List.mem_singleton.mp hk)).1 (Resource.gone_ne rfl)

/-- The readers of modules that are not live may be destroyed. -/
theorem adds_destroying (h : s.Proper) {more : List Call} {oks : List Bool}
    (hby : Bystanders more)
    (hcalls : t.calls = s.calls ++ more ++
      Loader.destroying s.world.loader.residency.releasableReaders oks) :
    Adds s (more ++ Loader.destroying s.world.loader.residency.releasableReaders oks) t where
  calls := by rw [hcalls, List.append_assoc]
  lawful := by
    rw [hcalls]
    -- unpinning comes first, and leaves the readers there
    refine (h.lawful.append_bystanders hby).append_gone (fun k hk => ?_) ?_
    · obtain ⟨r, hr, rfl⟩ := List.mem_map.mp hk
      refine Alive.append ((h.tracked.holds _).mp (h.solvent.holds_releasable hr)) fun hgone => ?_
      cases (hby _ hgone).2
    · exact h.solvent.releasableReaders_nodup.map fun _ _ heq => Resource.reader.inj heq
  returned k ok hk := by
    rcases List.mem_append.mp hk with hk | hk
    · exact absurd rfl (Resource.gone_ne (hby _ hk).2)
    · obtain ⟨k', hk', heq⟩ := List.mem_map.mp (List.of_mem_zip hk).1
      obtain ⟨r, -, rfl⟩ := List.mem_map.mp hk'
      exact .inl ⟨r, (Resource.gone_inj heq).symm⟩

end Proper

/-- What a load has added. -/
theorem Adds.of_carrying {held : Holdings} (h : Carrying s.calls held t.world.accelerator) :
    ∃ more, Adds s more t := by
  obtain ⟨more, hcalls, hmore⟩ := h.grown
  exact ⟨more, hcalls, h.lawful, fun k ok hk => .inr (hmore k ok hk)⟩

theorem map_returned (ks : List Resource) :
    ks.map (·.returned) = (ks.map (·.gone)).zip (ks.map fun _ => true) := by
  induction ks with
  | nil => rfl
  | cons k ks ih =>
    rw [List.map_cons, ih]
    rfl

/-- What is left of a module may be given back, in its order, up to a first failure. -/
theorem Proper.lawful_unloading (h : s.Proper) {m : LoadedModule} (hm : m ∈ s.modules)
    {done rest : List Resource} (hkept : m.kept = done ++ rest) :
    Lawful (m.unloadCalls s.calls done) ∧
      ∀ k, rest.head? = some k → Lawful (m.unloadCalls s.calls done ++ [(k.gone, false)]) := by
  have hsync : Lawful (s.calls ++ [(.synchronize m.agent, true)]) := h.lawful.concat trivial
  have halive : ∀ k ∈ m.kept, Alive (s.calls ++ [(.synchronize m.agent, true)]) k := by
    intro k hk
    refine (h.alive_kept hm hk).append fun hgone => ?_
    exact Resource.gone_ne rfl (Prod.mk.inj (List.mem_singleton.mp hgone)).1
  have hdistinct := m.kept_nodup
  rw [hkept] at halive hdistinct
  have hlawful : Lawful (m.unloadCalls s.calls done) := by
    unfold LoadedModule.unloadCalls
    rw [List.append_cons, map_returned]
    exact hsync.append_gone (fun k hk => halive k (List.mem_append_left _ hk))
      (List.nodup_append.mp hdistinct).1
  refine ⟨hlawful, fun k hk => hlawful.concat (allowed_gone ?_)⟩
  have hmem : k ∈ rest := List.mem_of_mem_head? hk
  unfold LoadedModule.unloadCalls
  rw [List.append_cons]
  refine (halive k (List.mem_append_right _ hmem)).append fun hgone => ?_
  obtain ⟨k', hk', heq⟩ := List.mem_map.mp hgone
  cases Resource.gone_inj (Prod.mk.inj heq).1
  exact (List.nodup_append.mp hdistinct).2.2 k hk' k hmem rfl

theorem Wrote.lawful {r : Request} (hs : s.Proper) (h : Wrote s r t) : Lawful t.calls := by
  cases h with
  | kept h => exact h.lawful
  | loaded h => exact h.lawful
  | unloaded hm hcalls =>
    show Lawful _
    rw [Session.calls, hcalls]
    exact (hs.lawful_unloading (List.mem_of_getElem? hm) (List.append_nil _).symm).1
  | @halted index m m' w hm h =>
    show Lawful w.accelerator.calls
    generalize w.accelerator.calls = calls at h
    cases h with
    | waiting => exact hs.lawful.concat trivial
    | releasing hpristine hkept hleft =>
      refine (hs.lawful_unloading (List.mem_of_getElem? hm) hkept).2 _ ?_
      rw [hleft]
      rfl

theorem Proper.carrying (h : s.Proper) : Carrying s.calls {} s.world.accelerator where
  sound := h.sound
  tracked := h.tracked
  lawful := h.lawful
  grown := ⟨[], (List.append_nil _).symm, nofun⟩
  owned k hk := by cases k <;> cases hk

theorem load_wrote (hs : s.Proper) (current : Option Device) (source : LoadSource) :
    Wrote s (.load current source)
      (s.load (Simulator.chronicledLoader settings hooks) current source) := by
  have hends := Loader.loadFrom_calls settings hooks current source s.world hs.carrying
  unfold load
  rcases hrun : (Simulator.chronicledLoader settings hooks).loadFrom current source s.world with
    ⟨e | m, w⟩
  · rw [hrun] at hends
    obtain ⟨more, hadds⟩ := Adds.of_carrying (t := { s with world := w }) hends
    exact .kept hadds rfl
  · rw [hrun] at hends
    obtain ⟨held, hcarrying, -⟩ := hends.carrying
    obtain ⟨more, hadds⟩ :=
      Adds.of_carrying (t := { world := w, modules := s.modules ++ [m] }) hcarrying
    exact .loaded hadds hends

theorem unload_wrote (hs : s.Proper) (index : Nat) :
    Wrote s (.unload index) (s.unload (Simulator.chronicledLoader settings hooks) index) := by
  unfold unload
  cases hm : s.modules[index]? with
  | none => exact .kept (hs.adds_nothing rfl) rfl
  | some m =>
    dsimp only
    rcases Loader.unload_calls (Simulator.loader settings hooks) m s.world with
      ⟨w, hrun, hcalls, -⟩ | ⟨e, w, hrun, -, hhalted⟩
    · rw [hrun]
      exact .unloaded hm hcalls
    · rw [hrun]
      exact .halted hm hhalted

theorem getFunction_wrote (hs : s.Proper) (current : Option Device) (index : Nat)
    (name : String) :
    Wrote s (.getFunction current index name)
      (s.getFunction (Simulator.chronicledLoader settings hooks) current index name) := by
  unfold getFunction
  cases hm : s.modules[index]? with
  | none => exact .kept (hs.adds_nothing rfl) rfl
  | some m =>
    have hcalls := Loader.getFunction_calls (Simulator.loader settings hooks) current m name
      s.world rfl
    have hanswer := getFunction_forgetful (Simulator.chronicledLoader settings hooks) current m name
      s.world trivial
    dsimp only
    rcases hrun : (Simulator.chronicledLoader settings hooks).getFunction current m name s.world
      with ⟨e | ⟨f, m'⟩, w⟩
    · rw [hrun] at hcalls
      obtain ⟨more, hcalls, hasks⟩ := hcalls
      exact .kept (hs.adds_asks (List.mem_of_getElem? hm) hcalls hasks) rfl
    · rw [hrun] at hcalls hanswer
      obtain ⟨more, hcalls, hasks⟩ := hcalls
      exact .kept (hs.adds_asks (List.mem_of_getElem? hm) hcalls hasks)
        (map_set_of_eq _ hm hanswer)

theorem getGlobal_wrote (hs : s.Proper) (current : Option Device) (index : Nat)
    (name : String) :
    Wrote s (.getGlobal current index name)
      (s.getGlobal (Simulator.chronicledLoader settings hooks) current index name) := by
  unfold getGlobal
  cases hm : s.modules[index]? with
  | none => exact .kept (hs.adds_nothing rfl) rfl
  | some m =>
    have hcalls := Loader.getGlobal_calls (Simulator.loader settings hooks) current m name
      s.world rfl
    obtain ⟨more, hcalls, hasks⟩ := hcalls.state
    exact .kept (hs.adds_asks (List.mem_of_getElem? hm) hcalls hasks) rfl

/-- **What a request writes down.** -/
theorem step_wrote (settings : LoaderSettings) (hooks : LaunchHooks) (hs : s.Proper)
    (r : Request) :
    Wrote s r (s.step (Simulator.rig settings hooks).chronicle r) := by
  cases r with
  | load current source => exact load_wrote hs current source
  | unload index => exact unload_wrote hs index
  | getFunction current index name => exact getFunction_wrote hs current index name
  | getGlobal current index name => exact getGlobal_wrote hs current index name
  | launch current f r args =>
    obtain ⟨more, hcalls, hmore⟩ :=
      Loader.launch_calls (Simulator.loader settings hooks) current f r args s.world
    exact .kept (hs.adds_bystanders hcalls hmore) rfl
  | launchBlocks current f blocks block dynamicShared queue args =>
    obtain ⟨more, hcalls, hmore⟩ := Loader.launchBlocks_calls (Simulator.loader settings hooks)
      current f blocks block dynamicShared queue args s.world
    exact .kept (hs.adds_bystanders hcalls hmore) rfl
  | shutdown =>
    obtain ⟨oks, oks', -, -, hcalls⟩ :=
      (Loader.shutdown_tornDown (Simulator.loader settings hooks) s.world).calls
    exact .kept (hs.adds_destroying (Loader.unpinning_bystanders _ oks) hcalls) rfl
  | declareKernel kernel ps => exact .kept (hs.adds_nothing rfl) rfl
  | registerLayout kernel layout => exact .kept (hs.adds_nothing rfl) rfl
  | declareDocument text =>
    refine .kept (hs.adds_nothing ?_) rfl
    show ((World.declareDocument text).run s.world).2.accelerator.calls = _
    unfold World.declareDocument
    cases Metadata.parse? text <;> rfl
  | setHost host => exact .kept (hs.adds_nothing rfl) rfl
  | inject point => exact .kept (hs.adds_nothing rfl) rfl
  | clearFaults => exact .kept (hs.adds_nothing rfl) rfl

end Session

end DeviceCode
