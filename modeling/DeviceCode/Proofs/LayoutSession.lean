import DeviceCode.Proofs.Kernel.LayoutHistory
import DeviceCode.Proofs.Session

/-!
# Layouts in a session

The layouts of a loader change when a program declares or registers something, and when a launch
computes a layout that it needs. `LayoutSession.run` is a program that does all this in any order,
next to everything else that a session can do: `run_told` says that what it is answered next is
read off its declarations and registrations, as if nothing had ever been cached.

Loads, unloads and lookups keep every property of the known layouts, launches every property that
computing one keeps (`step_tells`).
-/

namespace DeviceCode

variable {σ : Type}

/-! ## Over one accelerator -/

theorem CallsAlike.refl {α : Type} (f : σ → Reply σ α) : CallsAlike Eq f f := by
  intro s t h
  subst h
  exact ⟨rfl, rfl⟩

theorem Accelerator.alike_refl (a : Accelerator σ) : a.Alike Eq a where
  createExecutable := .refl _
  loadReader _ _ _ := .refl _
  loadCodeObject _ _ _ := .refl _
  freeze _ := .refl _
  destroyExecutable _ := .refl _
  getSymbol _ _ _ := .refl _
  defineGlobal _ _ _ := .refl _
  createReader _ _ := .refl _
  destroyReader _ := .refl _
  deserialize _ _ := .refl _
  destroyCodeObject _ := .refl _
  lockMemory _ _ _ := .refl _
  unlockMemory _ := .refl _
  findRegion _ := .refl _
  allocate _ _ := .refl _
  free _ := .refl _
  writeMemory _ _ := .refl _
  dispatch _ _ _ _ _ := .refl _
  synchronize _ := .refl _
  releaseCompletion _ := .refl _

/-- What a computation keeps of the loader's state. -/
theorem Alike.keeps {α : Type} {L : LoaderState → Prop} {x : Action σ α} {w : World σ}
    (h : Alike (World.MatchOn L Eq) Eq x x) (hw : L w.loader) : L (x w).2.loader :=
  (h w w ⟨rfl, rfl, rfl, hw, rfl, rfl, rfl⟩).2.keeps

/-! ## Requests -/

/-- What a program can do with the layouts of its loader, and everything else that it can do. -/
inductive LayoutRequest where
  /-- Look a layout up without computing it. -/
  | get (kernel : String)
  /-- Look a layout up, or compute it. -/
  | getOrCompute (kernel : String)
  /-- Declare the kernels of a document that was read before. -/
  | declareAll (m : Metadata)
  | request (r : Request)

/-- What a request says about kernels. A document that cannot be read says nothing. -/
def Request.notes : Request → List LayoutNote
  | .declareKernel kernel ps => [.declared kernel ps]
  | .registerLayout kernel layout => [.registered kernel layout]
  | .declareDocument text => (Metadata.parse? text).elim [] Metadata.notes
  | _ => []

def LayoutRequest.notes : LayoutRequest → List LayoutNote
  | .declareAll m => m.notes
  | .request r => r.notes
  | _ => []

namespace LayoutSession

/-- One request. -/
def step (rig : Rig σ) (s : Session σ) : LayoutRequest → Session σ
  | .get _ => s
  | .getOrCompute kernel => s.inWorld (World.layoutOf kernel).run
  | .declareAll m =>
    s.inWorld (World.updateLoader fun l => { l with layouts := l.layouts.declareAll m })
  | .request r => s.step rig r

/-- Requests one after the other. -/
def run (rig : Rig σ) (s : Session σ) (requests : List LayoutRequest) : Session σ :=
  requests.foldl (step rig) s

/-- A program that has just started, on any accelerator. -/
def start (accelerator : σ) (host : Host.System) : Session σ where
  world := { accelerator, host }

end LayoutSession

/-! ## Where a request leaves the world -/

namespace Session

variable {P : World σ → Prop} {l : Loader σ} {s : Session σ}

theorem load_holds {current : Option Device} {source : LoadSource}
    (h : P (l.loadFrom current source s.world).2) : P (s.load l current source).world := by
  unfold load
  rcases hrun : l.loadFrom current source s.world with ⟨_ | _, w⟩
  · rw [hrun] at h
    exact h
  · rw [hrun] at h
    exact h

theorem unload_holds {index : Nat} (hs : P s.world) (h : ∀ m, P (l.unload m s.world).2) :
    P (s.unload l index).world := by
  unfold unload
  cases s.modules[index]? with
  | none => exact hs
  | some m =>
    dsimp only
    have hm := h m
    rcases hrun : l.unload m s.world with ⟨_ | _, w⟩
    · rw [hrun] at hm
      exact hm
    · rw [hrun] at hm
      exact hm

theorem getFunction_holds {current : Option Device} {index : Nat} {name : String}
    (hs : P s.world) (h : ∀ m, P (l.getFunction current m name s.world).2) :
    P (s.getFunction l current index name).world := by
  unfold getFunction
  cases s.modules[index]? with
  | none => exact hs
  | some m =>
    dsimp only
    have hm := h m
    rcases hrun : l.getFunction current m name s.world with ⟨_ | _, w⟩
    · rw [hrun] at hm
      exact hm
    · rw [hrun] at hm
      exact hm

theorem getGlobal_holds {current : Option Device} {index : Nat} {name : String}
    (hs : P s.world) (h : ∀ m, P (l.getGlobal current m name s.world).2) :
    P (s.getGlobal l current index name).world := by
  unfold getGlobal
  cases s.modules[index]? with
  | none => exact hs
  | some m => exact h m

end Session

namespace LayoutSession

/-! ## What a request does to the answers -/

variable {rig : Rig σ} {s : Session σ} {notes : List LayoutNote}

/-- The loader answers what the notes say. -/
def Tells (notes : List LayoutNote) (s : LoaderState) : Prop := s.layouts.Tells notes

theorem tells_of_layouts (s t : LoaderState) (h : s.layouts = t.layouts) (hs : Tells notes s) :
    Tells notes t := by
  unfold Tells at hs ⊢
  rwa [← h]

theorem tells_of_computed (s : LoaderState) (kernel : String) (layout : ArgLayout)
    (layouts : LayoutCache) (hs : Tells notes s)
    (h : s.layouts.getOrCompute kernel = .ok (layout, layouts)) :
    Tells notes { s with layouts } :=
  LayoutCache.Tells.getOrCompute hs h

/-- Documents act as their declarations, and not at all if they cannot be read. -/
theorem declareDocument_run (text : String) (w : World σ) :
    (World.declareDocument text w).2 = match Metadata.parse? text with
      | none => w
      | some m => { w with
          loader := { w.loader with layouts := w.loader.layouts.declareAll m }
          log := w.log ++ [.metadataRegistered m.kernels.length] } := by
  unfold World.declareDocument
  cases Metadata.parse? text <;> rfl

/-- **A request changes the answers by what it says**, and by nothing else that it does. -/
theorem request_tells (h : Tells notes s.world.loader) (r : Request) :
    Tells (notes ++ r.notes) (s.step rig r).world.loader := by
  -- most requests say nothing, and then the notes must go on telling the answers
  have hquiet : notes ++ [] = notes := List.append_nil notes
  have halike := rig.loader.accelerator.alike_refl
  cases r with
  | declareKernel kernel ps => exact LayoutCache.Tells.declare h kernel ps
  | registerLayout kernel layout => exact LayoutCache.Tells.register h kernel layout
  | declareDocument text =>
    show Tells (notes ++ (Metadata.parse? text).elim [] Metadata.notes)
      (World.declareDocument text s.world).2.loader
    rw [declareDocument_run]
    cases Metadata.parse? text with
    | none => exact hquiet.symm ▸ h
    | some m => exact LayoutCache.Tells.declareAll h m
  | load current source =>
    refine hquiet.symm ▸ Session.load_holds (P := fun w => Tells notes w.loader) ?_
    exact Alike.keeps (Loader.loadFrom_alikeOn halike tells_of_layouts rfl current source).outcome h
  | unload index =>
    refine hquiet.symm ▸ Session.unload_holds (P := fun w => Tells notes w.loader) h fun m => ?_
    exact Alike.keeps (Loader.unload_alikeOn halike tells_of_layouts m) h
  | getFunction current index name =>
    refine hquiet.symm ▸ Session.getFunction_holds (P := fun w => Tells notes w.loader) h ?_
    intro m
    exact Alike.keeps (Loader.getFunction_alike halike.getSymbol current m name).outcome h
  | getGlobal current index name =>
    refine hquiet.symm ▸ Session.getGlobal_holds (P := fun w => Tells notes w.loader) h fun m => ?_
    exact Alike.keeps (Loader.getGlobal_alike halike.getSymbol current m name).outcome h
  | launch current f r args =>
    exact hquiet.symm ▸ Alike.keeps (Loader.launch_alike rfl halike.dispatch
      halike.releaseCompletion rfl tells_of_computed current f r args).outcome h
  | launchBlocks current f blocks block dynamicShared queue args =>
    exact hquiet.symm ▸ Alike.keeps (Loader.launchBlocks_alike rfl halike.dispatch
      halike.releaseCompletion rfl tells_of_computed current f blocks block dynamicShared queue
      args).outcome h
  | shutdown =>
    exact hquiet.symm ▸ Alike.keeps (Loader.shutdown_alikeOn halike.unlockMemory
      halike.destroyReader tells_of_layouts) h
  | setHost host => exact hquiet.symm ▸ h
  | inject point => exact hquiet.symm ▸ h
  | clearFaults => exact hquiet.symm ▸ h

theorem step_tells (h : Tells notes s.world.loader) (r : LayoutRequest) :
    Tells (notes ++ r.notes) (step rig s r).world.loader := by
  have hquiet : notes ++ [] = notes := List.append_nil notes
  cases r with
  | get kernel => exact hquiet.symm ▸ h
  | getOrCompute kernel =>
    exact hquiet.symm ▸ Alike.keeps (Loader.layoutOf_alike tells_of_computed kernel).outcome h
  | declareAll m => exact LayoutCache.Tells.declareAll h m
  | request r => exact request_tells h r

theorem run_tells (h : Tells notes s.world.loader) (rs : List LayoutRequest) :
    Tells (notes ++ rs.flatMap LayoutRequest.notes) (run rig s rs).world.loader := by
  induction rs generalizing notes s with
  | nil => exact (List.append_nil notes).symm ▸ h
  | cons r rs ih =>
    have hstep : Tells (notes ++ r.notes) (step rig s r).world.loader := step_tells h r
    have hrest := ih hstep
    rwa [List.append_assoc] at hrest

/-- **The known layouts are transparent.** Whatever a program did, the next layout that it asks for
is read off what it said: by the last registration or declaration of this kernel, and there is none
if nothing was said about it. It does not matter whether it asks the cache or the loader, and a
layout that can be looked up is the one that would be computed. A layout that cannot be computed
leaves everything as it is, with nothing cached for this kernel; and so does a document that cannot
be read. -/
theorem run_told (rig : Rig σ) (accelerator : σ) (host : Host.System)
    (requests : List LayoutRequest) (kernel : String) :
    let s := run rig (start accelerator host) requests
    let answer := told (requests.flatMap LayoutRequest.notes) kernel
    s.world.loader.layouts.answer kernel = answer ∧
      (World.layoutOf kernel s.world).1 = answer ∧
      (∀ layout, s.world.loader.layouts.get? kernel = some layout → answer = .ok layout) ∧
      (∀ e, answer = .error e → s.world.loader.layouts.get? kernel = none ∧
        step rig s (.getOrCompute kernel) = s) ∧
      ∀ text, Metadata.parse? text = none → step rig s (.request (.declareDocument text)) = s := by
  intro s answer
  have hstart : Tells [] (start accelerator host).world.loader := LayoutCache.Tells.empty
  have htells : s.world.loader.layouts.answer kernel = answer :=
    run_tells hstart requests kernel
  have hasked := Loader.layoutOf_run kernel s.world
  refine ⟨htells, ?_, fun layout hget => ?_, fun e he => ?_, fun text htext => ?_⟩
  · rw [hasked, ← htells]
    unfold LayoutCache.answer
    cases s.world.loader.layouts.getOrCompute kernel with
    | error e => rfl
    | ok found =>
      dsimp only
      split <;> rfl
  · rw [← htells]
    exact LayoutCache.answer_of_get? hget
  · rw [← htells] at he
    refine ⟨LayoutCache.get?_of_answer he, ?_⟩
    show s.inWorld (World.layoutOf kernel).run = s
    unfold Session.inWorld
    rw [show (World.layoutOf kernel).run s.world = (.error e, s.world) by
      rw [ExceptT.run, hasked, LayoutCache.getOrCompute_of_answer he]]
  · show s.inWorld (World.declareDocument text).run = s
    unfold Session.inWorld
    rw [show ((World.declareDocument text).run s.world).2 = s.world by
      rw [ExceptT.run, declareDocument_run, htext]]

/-- One parameter of 64 bytes. -/
def wideLayout : ArgLayout where
  parameters := [{ size := 64, align := 16 }]
  offsets := [0]
  totalSize := 64

/-- A kernel whose layout was computed and which is then declared with parameters that have no
layout, and one whose layout is registered after a document has declared it twice. -/
def redeclaring : List LayoutRequest :=
  [.request (.declareKernel "scale" [{ size := 4, align := 4 }]),
   .getOrCompute "scale",
   .declareAll { kernels :=
    [{ name := "fill", parameters := [{ size := 8, align := 8 }] },
     { name := "scale", parameters := [{ size := 4, align := 3 }] },
     { name := "fill", parameters := [{ size := 2, align := 2 }] }] },
   .getOrCompute "fill",
   .request (.registerLayout "fill" wideLayout),
   .request (.declareDocument "[")]

theorem run_told_redeclaring :
    let rig := Simulator.rig {} .default
    let s := run rig (start {} ⟨⟨[], []⟩, ""⟩) redeclaring
    ArgLayout.ofParameters [{ size := 64, align := 16 }] = .ok wideLayout ∧
      s.world.loader.layouts.answer "scale" = .error (.invalidValue (.alignment 0 3)) ∧
      s.world.loader.layouts.get? "scale" = none ∧ step rig s (.getOrCompute "scale") = s ∧
      (World.layoutOf "fill" s.world).1 = .ok wideLayout ∧
      step rig s (.request (.declareDocument "[")) = s := by
  intro rig s
  obtain ⟨hscale, -, -, hfailed, hrejected⟩ :=
    run_told rig {} ⟨⟨[], []⟩, ""⟩ redeclaring "scale"
  obtain ⟨-, hfill, -⟩ := run_told rig {} ⟨⟨[], []⟩, ""⟩ redeclaring "fill"
  have hnone : told (redeclaring.flatMap LayoutRequest.notes) "scale" =
    .error (.invalidValue (.alignment 0 3)) := by rfl
  have hsome : told (redeclaring.flatMap LayoutRequest.notes) "fill" = .ok wideLayout := by rfl
  obtain ⟨hcached, hstays⟩ := hfailed _ hnone
  exact ⟨by rfl, hscale.trans hnone, hcached, hstays, hfill.trans hsome, hrejected "[" (by rfl)⟩

end LayoutSession

end DeviceCode
