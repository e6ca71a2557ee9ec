import DeviceCode.Proofs.Lawfulness
import DeviceCode.Proofs.LoadPaths

/-!
# What modules answer in the course of a run

A frozen executable stays as it is for as long as it is there, so a lookup gives the same answer at
any time. Functions are remembered by their module after the first lookup. That is no difference:
whatever a module remembers is what its executable would answer (`Session.Remembers`).

`Session.run_lookups` puts both together, for any two states of a run in which a module has its
executable.
-/

namespace DeviceCode

open Simulator

variable {σ α : Type}

/-! ## What modules learn -/

/-- A module that remembers only what it did as another one, or what its executable answers. -/
structure Learns (s : Simulator) (m m' : LoadedModule) : Prop where
  executable : m'.executable = m.executable
  released : m'.released.executable = false → m.released.executable = false
  functions : ∀ f ∈ m'.functions, f ∈ m.functions ∨
    ∃ exe, s.executables.get? m.executable = some exe ∧ Answers exe f

theorem Learns.refl (s : Simulator) (m : LoadedModule) : Learns s m m :=
  ⟨rfl, id, fun _ hf => .inl hf⟩

theorem Simulator.getSymbol_ok {s t : Simulator} {e : ExecutableHandle} {g : AgentHandle}
    {name : String} {found : Option ExecutableSymbol} (h : s.getSymbol e g name = (.ok found, t)) :
    ∃ exe, s.executables.get? e = some exe ∧ found = lookup exe name := by
  unfold getSymbol at h
  dsimp only at h
  split at h
  · cases h
  · split at h
    · cases h
    · next exe hexe =>
      cases h
      exact ⟨exe, hexe, rfl⟩

namespace Loader

variable (settings : LoaderSettings) (hooks : LaunchHooks)

theorem findSymbol_ends (device : Device) (m : LoadedModule) (name : String)
    (fits : ExecutableSymbol → Bool) (w : World Simulator) :
    Ends (fun s _ => ∃ exe, w.accelerator.executables.get? m.executable = some exe ∧
      fitting exe name fits = .ok s) (fun _ => True)
      ((Simulator.loader settings hooks).findSymbol device m name fits w) := by
  refine Ends.bind (Q := fun found _ => ∃ exe,
    w.accelerator.executables.get? m.executable = some exe ∧ found = lookup exe name)
    (Ends.call ?_) ?_
  · show Ends _ _ (w.accelerator.getSymbol m.executable device.agent name)
    rcases hcall : w.accelerator.getSymbol m.executable device.agent name with ⟨e | found, t⟩
    · exact trivial
    · exact getSymbol_ok hcall
  · rintro found v ⟨exe, hexe, rfl⟩
    cases hfound : (lookup exe name).filter fits with
    | none => exact trivial
    | some s => exact ⟨exe, hexe, by unfold fitting; rw [hfound]⟩

/-- A new function is one that the executable answers. -/
theorem getFunction_learns (current : Option Device) (m : LoadedModule) (name : String)
    (w : World Simulator) :
    Ends (fun r _ => Learns w.accelerator m r.2) (fun _ => True)
      ((Simulator.loader settings hooks).getFunction current m name w) := by
  unfold getFunction
  refine Ends.bind (Q := fun _ v => v = w) ?_ fun device v hv => ?_
  · cases current <;> first | exact trivial | exact rfl
  subst hv
  refine Ends.bind (Q := fun _ w' => w' = v) ?_ fun _ w' hw' => ?_
  · unfold liveExecutable
    cases m.released.executable <;> first | exact trivial | exact rfl
  subst hw'
  cases m.known? name with
  | some f => exact .refl _ _
  | none =>
    refine (findSymbol_ends settings hooks device m name _ w').bind ?_
    rintro s v ⟨exe, hexe, hfit⟩
    refine ⟨rfl, id, fun f hf => ?_⟩
    rcases List.mem_append.mp hf with hf | hf
    · exact .inl hf
    · rw [List.mem_singleton.mp hf]
      refine .inr ⟨exe, hexe, ?_⟩
      unfold Answers
      rw [show (s.toFunction name).name = name from rfl, hfit]
      rfl

/-- What holds of all new modules from files. -/
theorem load_leads {P : LoadedModule → Prop} (l : Loader σ) (current : Option Device)
    (path : String)
    (h : ∀ id agent executable image,
      P { id, agent, executable, source := .file path, image }) :
    Leads (fun _ => True) (l.load current path) (fun m _ => P m) fun _ => True := by
  refine Session.leads_anywhere.bind fun _ => Session.leads_anywhere.bind fun _ => ?_
  refine Leads.get_bind fun w hw => ?_
  cases w.host.files.read path with
  | error fault => exact trivial
  | ok bytes =>
    refine (Leads.bind Session.leads_anywhere fun _ => ?_ : Leads _ _ _ _) w hw
    refine Session.leads_anywhere.bind fun _ => Session.leads_anywhere.bind fun r => ?_
    refine Session.leads_anywhere.bind fun _ => Session.leads_anywhere.bind fun _ => ?_
    exact Leads.pure fun _ _ => h _ _ _ _

theorem load_functions (l : Loader σ) (current : Option Device) (path : String) :
    Leads (fun _ => True) (l.load current path) (fun m _ => m.functions = []) fun _ => True :=
  load_leads l current path fun _ _ _ _ => rfl

theorem loadData_functions (l : Loader σ) (current : Option Device) (bytes : Bytes) :
    Leads (fun _ => True) (l.loadData current bytes) (fun m _ => m.functions = [])
      fun _ => True := by
  refine Session.leads_anywhere.bind fun _ => Session.leads_anywhere.bind fun _ => ?_
  refine Session.leads_anywhere.bind fun _ => Session.leads_anywhere.bind fun _ => ?_
  refine Session.leads_anywhere.bind fun _ => Session.leads_anywhere.bind fun r => ?_
  refine Session.leads_anywhere.bind fun _ => Session.leads_anywhere.bind fun _ => ?_
  exact Leads.pure fun _ _ => rfl

/-- A new module remembers nothing. -/
theorem loadFrom_functions (l : Loader σ) (current : Option Device) (source : LoadSource) :
    Leads (fun _ => True) (l.loadFrom current source) (fun m _ => m.functions = [])
      fun _ => True := by
  cases source with
  | file path => exact load_functions l current path
  | memory bytes => exact loadData_functions l current bytes
  | memoryWith bytes options =>
    unfold loadFrom loadDataWith
    dsimp only
    split
    · exact loadData_functions l current bytes
    · exact Session.leads_anywhere.bind fun _ => loadData_functions l current bytes

/-- Two modules, each in its world, whose lookups give the same answers. -/
structure LooksUpAlike (l : Loader Simulator) (m m' : LoadedModule) (v w : World Simulator) :
    Prop where
  function : ∀ device device' name, (l.getFunction (some device') m' name w).1.map (·.1) =
    (l.getFunction (some device) m name v).1.map (·.1)
  global : ∀ device device' name,
    (l.getGlobal (some device') m' name w).1 = (l.getGlobal (some device) m name v).1

section Gone

variable (l : Loader σ) {m : LoadedModule} (hgone : m.released.executable = true)
include hgone

theorem liveExecutable_gone (w : World σ) :
    liveExecutable m w = (.error (.invalidValue (.executableGone m.id)), w) := by
  unfold liveExecutable
  rw [if_pos hgone]
  rfl

/-- Without its executable a module answers nothing, not even what it answered before. -/
theorem getFunction_gone (device : Device) (name : String) (w : World σ) :
    l.getFunction (some device) m name w = (.error (.invalidValue (.executableGone m.id)), w) := by
  unfold getFunction
  rw [run_bind_of_ok (Attempt.device_ok_iff.mpr ⟨rfl, rfl⟩),
    run_bind_of_error (liveExecutable_gone hgone w)]

theorem getGlobal_gone (device : Device) (name : String) (w : World σ) :
    l.getGlobal (some device) m name w = (.error (.invalidValue (.executableGone m.id)), w) := by
  unfold getGlobal
  rw [run_bind_of_ok (Attempt.device_ok_iff.mpr ⟨rfl, rfl⟩),
    run_bind_of_error (liveExecutable_gone hgone w)]

end Gone

/-! ## Unloads -/

/-- A call of an unload is none of the module's business. -/
theorem UnloadStep.call_module {P : LoadedModule → Prop} (f : σ → Reply σ α) :
    Leads (fun p => P p.module) (UnloadStep.call f) (fun _ p => P p.module)
      (fun p => P p.module) := by
  intro p hp
  unfold UnloadStep.call
  rcases World.call f p.world with ⟨e | a, w⟩ <;> exact hp

/-- Nor is it what is released, but for the note. -/
theorem release_module {P : LoadedModule → Prop} (note : Released → Released)
    (hnote : ∀ m, P m → P (m.noting note)) (released : UnloadProgress σ → Bool)
    (release : UnloadProgress σ → σ → Reply σ Unit) :
    Leads (fun p => P p.module)
      (do
        let p ← get
        if released p then return
        else do
          UnloadStep.call (release p)
          UnloadStep.note note)
      (fun _ p => P p.module) (fun p => P p.module) := by
  refine Leads.get_bind fun p hp => ?_
  by_cases hreleased : released p = true
  · rw [if_pos hreleased]
    exact hp
  · rw [if_neg hreleased]
    exact (UnloadStep.call_module (P := P) (release p) p hp).bind fun _ q hq => hnote q.module hq

/-- An unload that stops leaves no function more, and does not bring the executable back. -/
theorem unload_learns (l : Loader σ) (s : Simulator) (m : LoadedModule) (w : World σ)
    {e : UnloadError} {w' : World σ} (h : l.unload m w = (.error e, w')) : Learns s m e.module := by
  have hsteps : Leads (fun p : UnloadProgress σ => Learns s m p.module) l.releaseSteps
      (fun _ _ => True) (fun p => Learns s m p.module) := by
    -- what a release notes says only that something is gone, and the functions are forgotten
    refine Leads.get_bind fun p hp => ?_
    refine ((UnloadStep.call_module (P := Learns s m) _).bind fun _ => ?_) p hp
    have hexecutable := release_module (P := Learns s m) ({ · with executable := true })
      (fun m' h => ⟨h.executable, fun hlive => (nomatch hlive), h.functions⟩)
      (·.module.released.executable) fun p => l.accelerator.destroyExecutable p.module.executable
    refine Leads.bind hexecutable fun _ => ?_
    refine Leads.bind (Q := fun _ p => Learns s m p.module) ?_ fun functions => ?_
    · exact fun q hq => ⟨hq.executable, hq.released, nofun⟩
    cases p.module.deviceImage with
    | none => exact Leads.pure fun _ _ => trivial
    | some d =>
      have hcodeObject := release_module (P := Learns s m)
        ({ · with codeObject := true }) (fun m' h => ⟨h.1, h.2, h.3⟩)
        (·.module.released.codeObject) fun _ => l.accelerator.destroyCodeObject d.codeObject
      have hdeviceImage := release_module (P := Learns s m)
        ({ · with deviceImage := true }) (fun m' h => ⟨h.1, h.2, h.3⟩)
        (·.module.released.deviceImage) fun _ => l.accelerator.free d.address
      refine Leads.bind hcodeObject fun _ => Leads.bind hdeviceImage fun _ => ?_
      exact Leads.pure fun _ _ => trivial
  have hend := hsteps ⟨m, w⟩ (.refl s m)
  unfold unload at h
  rcases hrun : l.releaseSteps ⟨m, w⟩ with ⟨err | functions, p⟩
  · rw [hrun] at h hend
    cases h
    exact hend
  · rw [hrun] at h
    cases h

end Loader

/-! ## Sessions -/

namespace Session

section Requests

variable (l : Loader σ) {s : Session σ} {current : Option Device} {m : LoadedModule}

/-- The modules after a load are the old ones and the new one. -/
theorem mem_load {source : LoadSource} (hm : m ∈ (s.load l current source).modules) :
    m ∈ s.modules ∨ ∃ w, l.loadFrom current source s.world = (.ok m, w) := by
  unfold load at hm
  rcases hrun : l.loadFrom current source s.world with ⟨e | m', w⟩
  · rw [hrun] at hm
    exact .inl hm
  · rw [hrun] at hm
    rcases List.mem_append.mp hm with hm | hm
    · exact .inl hm
    · rw [List.mem_singleton.mp hm]
      exact .inr ⟨w, rfl⟩

/-- An unload leaves old modules, and the one that it hands back when it stops. -/
theorem mem_unload {index : Nat} (hm : m ∈ (s.unload l index).modules) :
    m ∈ s.modules ∨ ∃ m₀ ∈ s.modules, ∃ e w, l.unload m₀ s.world = (.error e, w) ∧
      e.module = m := by
  unfold unload at hm
  cases hindex : s.modules[index]? with
  | none =>
    rw [hindex] at hm
    exact .inl hm
  | some m₀ =>
    rw [hindex] at hm
    dsimp only at hm
    rcases hrun : l.unload m₀ s.world with ⟨e | u, w⟩
    · rw [hrun] at hm
      rcases List.mem_or_eq_of_mem_set hm with hm | rfl
      · exact .inl hm
      · exact .inr ⟨m₀, List.mem_of_getElem? hindex, e, w, hrun, rfl⟩
    · rw [hrun] at hm
      exact .inl (List.mem_of_mem_eraseIdx hm)

/-- A module that has answered for a function replaces the one that was asked. -/
theorem mem_getFunction {index : Nat} {name : String}
    (hm : m ∈ (s.getFunction l current index name).modules) :
    m ∈ s.modules ∨ ∃ m₀ ∈ s.modules, ∃ f w,
      l.getFunction current m₀ name s.world = (.ok (f, m), w) := by
  unfold getFunction at hm
  cases hindex : s.modules[index]? with
  | none =>
    rw [hindex] at hm
    exact .inl hm
  | some m₀ =>
    rw [hindex] at hm
    dsimp only at hm
    rcases hrun : l.getFunction current m₀ name s.world with ⟨e | ⟨f, m'⟩, w⟩
    · rw [hrun] at hm
      exact .inl hm
    · rw [hrun] at hm
      rcases List.mem_or_eq_of_mem_set hm with hm | rfl
      · exact .inl hm
      · exact .inr ⟨m₀, List.mem_of_getElem? hindex, f, w, hrun⟩

theorem mem_getGlobal {index : Nat} {name : String}
    (hm : m ∈ (s.getGlobal l current index name).modules) : m ∈ s.modules := by
  unfold getGlobal at hm
  cases hindex : s.modules[index]? <;> rw [hindex] at hm <;> exact hm

end Requests

variable (settings : LoaderSettings) (hooks : LaunchHooks)

/-- What the modules remember of their functions is what their executables would answer. -/
def Remembers (s : Session Simulator) : Prop :=
  ∀ m ∈ s.modules, m.released.executable = false → ∀ f ∈ m.functions,
    ∃ exe, s.world.accelerator.executables.get? m.executable = some exe ∧ Answers exe f

/-- Where modules have their functions from after a request. -/
theorem step_learns (s : Session Simulator) (r : Request) {m : LoadedModule}
    (hm : m ∈ (s.step (Simulator.rig settings hooks) r).modules) :
    m.functions = [] ∨ ∃ m₀ ∈ s.modules, Learns s.world.accelerator m₀ m := by
  have hold (hm : m ∈ s.modules) :
      m.functions = [] ∨ ∃ m₀ ∈ s.modules, Learns s.world.accelerator m₀ m :=
    .inr ⟨m, hm, .refl _ _⟩
  cases r with
  | load current source =>
    rcases mem_load (Simulator.loader settings hooks) hm with hm | ⟨w, hrun⟩
    · exact hold hm
    · have hnew := Loader.loadFrom_functions (Simulator.loader settings hooks) current source
        s.world trivial
      rw [hrun] at hnew
      exact .inl hnew
  | unload index =>
    rcases mem_unload (Simulator.loader settings hooks) hm with hm | ⟨m₀, hm₀, e, w, hrun, rfl⟩
    · exact hold hm
    · exact .inr ⟨m₀, hm₀, Loader.unload_learns _ _ _ _ hrun⟩
  | getFunction current index name =>
    rcases mem_getFunction (Simulator.loader settings hooks) hm with hm | ⟨m₀, hm₀, f, w, hrun⟩
    · exact hold hm
    · have hlearns := Loader.getFunction_learns settings hooks current m₀ name s.world
      rw [hrun] at hlearns
      exact .inr ⟨m₀, hm₀, hlearns⟩
  | getGlobal current index name => exact hold (mem_getGlobal (Simulator.loader settings hooks) hm)
  | _ => exact hold hm

/-- **A frozen executable stays as it is** for as long as it is there. -/
theorem run_executable {s : Session (Chronicled Simulator)}
    (hsound : s.world.accelerator.inner.Sound) {e : ExecutableHandle} {exe : Executable}
    (hpassed : s.world.accelerator.inner.Passed (.executable e))
    (hexe : s.world.accelerator.inner.executables.get? e = some exe) (hfrozen : exe.frozen = true)
    (rs : List Request)
    (hthere : (s.run (Simulator.rig settings hooks).chronicle rs).world.accelerator.inner.Holds
      (.executable e)) :
    (s.run (Simulator.rig settings hooks).chronicle rs).world.accelerator.inner.executables.get? e =
      some exe := by
  let P (c : Chronicled Simulator) : Prop := c.inner.Passed (.executable e) ∧
    (c.inner.Holds (.executable e) → c.inner.executables.get? e = some exe)
  refine (run_recorded (P := P) (fun c c? t _ hrec hc => ⟨hrec.passed _ hc.1, fun hthere => ?_⟩)
    settings hooks hsound ⟨hpassed, fun _ => hexe⟩ rs).2 hthere
  rcases ((hrec.holds _).mp hthere).1 with hold | hmade
  · exact hrec.kept e exe (hc.2 hold) hfrozen hthere
  · exact absurd hc.1 (hrec.made _ true hmade).2.1

variable {s : Session (Chronicled Simulator)} {m : LoadedModule}

/-- The executable of a module that has one. -/
theorem Proper.executable (h : s.Proper) (hm : m ∈ s.modules)
    (hlive : m.released.executable = false) :
    s.world.accelerator.inner.Passed (.executable m.executable) ∧
      ∃ exe : Executable, s.world.accelerator.inner.executables.get? m.executable = some exe ∧
        exe.frozen = true := by
  obtain ⟨hmade, hfrozen⟩ := h.tracked.frozen _ (h.frozen m hm)
  have hthere := h.solvent.holds_kept hm (LoadedModule.executable_mem_kept_iff.mpr hlive)
  exact ⟨h.tracked.passed (.executable m.executable) true hmade,
    Simulator.isFrozen_iff.mp (hfrozen hthere)⟩

/-- What a module's executable is at one time, it is whenever the module has it later. -/
theorem Proper.executable_run (h : s.Proper) (hm : m ∈ s.modules) {exe : Executable}
    (hlive : m.released.executable = false)
    (hexe : s.world.accelerator.inner.executables.get? m.executable = some exe) (rs : List Request)
    (ht : (s.run (Simulator.rig settings hooks).chronicle rs).Proper) {m' : LoadedModule}
    (hm' : m' ∈ (s.run (Simulator.rig settings hooks).chronicle rs).modules)
    (hlive' : m'.released.executable = false) (hsame : m'.executable = m.executable) :
    (s.run (Simulator.rig settings hooks).chronicle rs).world.accelerator.inner.executables.get?
      m'.executable = some exe := by
  obtain ⟨hpassed, exe', hexe', hfrozen⟩ := h.executable hm hlive
  cases hexe.symm.trans hexe'
  have hthere := ht.solvent.holds_kept hm' (LoadedModule.executable_mem_kept_iff.mpr hlive')
  rw [hsame] at hthere ⊢
  exact run_executable settings hooks h.sound hpassed hexe hfrozen rs hthere

variable (hasRegion : Bool) (host : Host.System)

/-- **Modules remember what their executables answer.** -/
theorem run_remembers (rs : List Request) :
    (recounted settings hooks hasRegion host rs).unchronicled.Remembers := by
  induction rs using List.reverseRecOn with
  | nil => exact nofun
  | append_singleton rs r ih =>
    intro m hm hlive f hf
    have hs := run_proper settings hooks hasRegion host rs
    have ht := run_proper settings hooks hasRegion host (rs ++ [r])
    rw [recounted_append] at hm ht ⊢
    have hlearns := step_learns settings hooks
      (recounted settings hooks hasRegion host rs).unchronicled r (m := m)
      (by rw [← step_unchronicled]; exact hm)
    rcases hlearns with hnone | ⟨m₀, hm₀, hlearns⟩
    · rw [hnone] at hf
      cases hf
    · -- the executable answered before the request, and answers the same after it
      have hlive₀ := hlearns.released hlive
      obtain ⟨exe, hexe, hanswers⟩ : ∃ exe,
          (recounted settings hooks hasRegion host rs).world.accelerator.inner.executables.get?
            m₀.executable = some exe ∧ Answers exe f :=
        (hlearns.functions f hf).elim (ih m₀ hm₀ hlive₀ f) id
      exact ⟨exe, hs.executable_run settings hooks hm₀ hlive₀ hexe [r] ht hm hlive
        hlearns.executable, hanswers⟩

theorem recounted_run (before after : List Request) :
    recounted settings hooks hasRegion host (before ++ after) =
      (recounted settings hooks hasRegion host before).run (Simulator.rig settings hooks).chronicle
        after :=
  List.foldl_append

/-- **A module answers the same at any two times** at which it has its executable. -/
theorem run_lookups (before after : List Request) {m m' : LoadedModule}
    (hm : m ∈ (recounted settings hooks hasRegion host before).modules)
    (hm' : m' ∈ (recounted settings hooks hasRegion host (before ++ after)).modules)
    (hsame : m'.pristine = m.pristine) (hlive : m.released.executable = false)
    (hlive' : m'.released.executable = false)
    (hask : (recounted settings hooks hasRegion host before).world.accelerator.inner.faulty
      .getSymbol = false)
    (hask' : (recounted settings hooks hasRegion host
      (before ++ after)).world.accelerator.inner.faulty .getSymbol = false) :
    (Simulator.loader settings hooks).LooksUpAlike m m'
      (recounted settings hooks hasRegion host before).unchronicled.world
      (recounted settings hooks hasRegion host (before ++ after)).unchronicled.world := by
  have hs := run_proper settings hooks hasRegion host before
  have ht := run_proper settings hooks hasRegion host (before ++ after)
  have hremembers := run_remembers settings hooks hasRegion host before m hm hlive
  have hremembers' := run_remembers settings hooks hasRegion host (before ++ after) m' hm' hlive'
  have hexecutable : m'.executable = m.executable :=
    (congrArg LoadedModule.executable hsame : m'.pristine.executable = m.pristine.executable)
  have himage : m'.image = m.image :=
    (congrArg LoadedModule.image hsame : m'.pristine.image = m.pristine.image)
  -- it is one executable both times, and both times the module remembers what that answers
  obtain ⟨-, exe, hexe, -⟩ := hs.executable hm hlive
  have hexe' : (recounted settings hooks hasRegion host
      (before ++ after)).world.accelerator.inner.executables.get? m'.executable = some exe := by
    rw [recounted_run] at hm' ht ⊢
    exact hs.executable_run settings hooks hm hlive hexe after ht hm' hlive' hexecutable
  have hknown : ∀ f ∈ m.functions, Answers exe f := fun f hf => by
    obtain ⟨_, hexe₁, hanswers⟩ := hremembers f hf
    cases hexe.symm.trans hexe₁
    exact hanswers
  have hknown' : ∀ f ∈ m'.functions, Answers exe f := fun f hf => by
    obtain ⟨_, hexe₁, hanswers⟩ := hremembers' f hf
    cases hexe'.symm.trans hexe₁
    exact hanswers
  refine ⟨fun device device' name => ?_, fun device device' name => ?_⟩
  · rw [getFunction_eq hask' hexe' hlive' hknown', getFunction_eq hask hexe hlive hknown]
  · rw [getGlobal_eq hask' hexe' hlive', getGlobal_eq hask hexe hlive, himage]

end Session

end DeviceCode
