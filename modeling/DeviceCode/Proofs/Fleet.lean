import DeviceCode.Proofs.EventSession
import DeviceCode.Proofs.Retention
import DeviceCode.Proofs.Turns
import Mathlib.Data.List.InsertIdx

/-!
# Programs with several loaders

A `Fleet` is a program that has any number of loaders on one accelerator. Each of them remembers
for itself what a loader remembers, its registry and its count of modules among it; everything else
they share, and the program can hand any module to any of them.

Next to all this a fleet records every load: which loader it went through, which number the module
got, and what was kept for it from then on. No operation reads the records. They tell modules apart
that have the same number.

`Fleet.Turned` is what a request does to the registries, and `Fleet.Counted` is what every run
keeps: each loader numbers its own modules from one.
-/

namespace DeviceCode

variable {σ : Type}

/-- A loader of a program that may have others. -/
structure Member where
  settings : LoaderSettings
  hooks : LaunchHooks
  state : LoaderState
  /-- Whether it was dropped. -/
  ended : Bool := false

/-- What a registry keeps. -/
inductive Kept where
  | pin (pin : PinnedGlobal)
  | reader (reader : ReaderHandle)
  deriving DecidableEq, Repr

/-- An entry of a registry, with the number of the module that it is kept for. -/
abbrev Entry := ModuleId × Kept

/-- The call that lets an entry go. -/
def Entry.release : Entry → JournalEntry
  | (_, .pin pin) => .unlockMemory pin.hostAddress
  | (_, .reader reader) => .destroyReader reader

namespace Residency

/-- All entries, pins first. -/
def entries (r : Residency) : List Entry :=
  r.pins.map (fun e => (e.1, .pin e.2)) ++ r.readers.map fun e => (e.1, .reader e.2)

def entriesFor (r : Residency) (id : ModuleId) : List Entry := r.entries.filter (·.1 == id)

end Residency

/-- A load that succeeded. -/
structure LoadRecord where
  /-- The loader that it went through. -/
  owner : Nat
  id : ModuleId
  /-- What this loader's registry kept for the module when it was loaded. -/
  kept : List Entry
  deriving DecidableEq, Repr

/-- A program with several loaders. -/
structure Fleet (σ : Type) where
  /-- What the loaders share, and the modules that the program holds. The loader's state in it is
  that of the loader which was used last. -/
  session : Session σ
  members : List Member := []
  /-- The loads of the modules that the program holds, in the order of the modules. -/
  held : List LoadRecord := []
  /-- All loads. -/
  loads : List LoadRecord := []

/-- What a program with several loaders can ask for. -/
inductive FleetRequest where
  /-- Make a loader; it may come with a host image that was indexed before. -/
  | create (settings : LoaderSettings) (hooks : LaunchHooks) (hostImage : Option Host.Image)
  /-- Ask a loader for something. Modules are meant by their place among all those held. -/
  | through (member : Nat) (r : Request)
  /-- Drop a loader. -/
  | drop (member : Nat)

/-- The rig as one of the loaders has it. -/
def Rig.serving (rig : Rig σ) (m : Member) : Rig σ :=
  { rig with loader := rig.via m.settings m.hooks }

namespace Fleet

/-- What a loader remembers: nothing before there is one. -/
def state (f : Fleet σ) (i : Nat) : LoaderState := (f.members[i]?.map (·.state)).getD {}

def residency (f : Fleet σ) (i : Nat) : Residency := (f.state i).residency

/-- Whether a loader has a number registered as live. -/
def isLive (f : Fleet σ) (i : Nat) (id : ModuleId) : Bool := (f.residency i).isLive id

/-- A loader that was not dropped. -/
def member? (f : Fleet σ) (i : Nat) : Option Member := f.members[i]?.filter fun m => !m.ended

/-- The session that a loader finds. -/
def entered (f : Fleet σ) (m : Member) : Session σ :=
  { f.session with world := { f.session.world with loader := m.state } }

/-- A fleet one of whose loaders has left this session behind. -/
def left (f : Fleet σ) (i : Nat) (m : Member) (t : Session σ) : Fleet σ :=
  { f with session := t, members := f.members.set i { m with state := t.world.loader } }

/-- The records of the modules that are new. -/
def arrivals (i : Nat) (s t : Session σ) : List LoadRecord :=
  (t.modules.drop s.modules.length).map fun m =>
    { owner := i, id := m.id, kept := t.world.loader.residency.entriesFor m.id }

/-- The records that are left: an unload that is complete takes its module's away. -/
def remaining (held : List LoadRecord) (s t : Session σ) : Request → List LoadRecord
  | .unload index => if t.modules.length < s.modules.length then held.eraseIdx index else held
  | _ => held

/-- A fleet after a request to one of its loaders, with the records of what it did. -/
def recorded (f : Fleet σ) (i : Nat) (m : Member) (r : Request) (t : Session σ) : Fleet σ :=
  { f.left i m t with
    held := remaining f.held f.session t r ++ arrivals i f.session t
    loads := f.loads ++ arrivals i f.session t }

/-- One request. A loader that is not there, or not any more, does nothing. -/
def step (rig : Rig σ) (f : Fleet σ) : FleetRequest → Fleet σ
  | .create settings hooks hostImage =>
    { f with
      session := f.session.inWorld (rig.via settings hooks).start
      members := f.members ++ [{ settings, hooks, state := { hostImage } }] }
  | .through i r => (f.member? i).elim f fun m =>
    f.recorded i m r ((f.entered m).step (rig.serving m) r)
  | .drop i => (f.member? i).elim f fun m =>
    f.left i { m with ended := true } ((f.entered m).inWorld (rig.via m.settings m.hooks).close)

/-- Requests one after the other. -/
def run (rig : Rig σ) (f : Fleet σ) (requests : List FleetRequest) : Fleet σ :=
  requests.foldl (step rig) f

/-- A program that has no loader yet. -/
def start (accelerator : σ) (host : Host.System) : Fleet σ where
  session := { world := { accelerator, host } }

theorem run_append (rig : Rig σ) (f : Fleet σ) (rs : List FleetRequest) (r : FleetRequest) :
    f.run rig (rs ++ [r]) = (f.run rig rs).step rig r := by
  unfold run
  rw [List.foldl_append]
  rfl

variable {f t : Fleet σ} {i k : Nat} {m : Member}

theorem step_through (rig : Rig σ) (h : f.member? i = some m) (r : Request) :
    f.step rig (.through i r) = f.recorded i m r ((f.entered m).step (rig.serving m) r) := by
  show (f.member? i).elim f _ = _
  rw [h]
  rfl

theorem step_drop (rig : Rig σ) (h : f.member? i = some m) :
    f.step rig (.drop i) = f.left i { m with ended := true }
      ((f.entered m).inWorld (rig.via m.settings m.hooks).close) := by
  show (f.member? i).elim f _ = _
  rw [h]
  rfl

/-! ## What the loaders remember -/

theorem getElem?_of_member? (h : f.member? i = some m) : f.members[i]? = some m :=
  (Option.filter_eq_some_iff.mp h).1

theorem state_eq (h : f.members[i]? = some m) : f.state i = m.state := by
  unfold state
  rw [h]
  rfl

theorem left_state (h : f.members[i]? = some m) (m' : Member) (s : Session σ) :
    (f.left i m' s).state i = s.world.loader := by
  have hlt : i < f.members.length := (List.getElem?_eq_some_iff.mp h).1
  unfold state left
  rw [List.getElem?_set_self hlt]
  rfl

theorem left_state_of_ne (h : k ≠ i) (m' : Member) (s : Session σ) :
    (f.left i m' s).state k = f.state k := by
  unfold state left
  rw [List.getElem?_set_ne (Ne.symm h)]

/-- What one loader did, and what is so of a loader that did nothing, is so of each. -/
theorem states_related {R : LoaderState → LoaderState → Prop} (hrefl : ∀ s, R s s)
    (h : R (f.state i) (t.state i)) (hother : ∀ k, k ≠ i → t.state k = f.state k) (k : Nat) :
    R (f.state k) (t.state k) := by
  by_cases hk : k = i
  · rw [hk]
    exact h
  · rw [hother k hk]
    exact hrefl _

/-- A new loader remembers no more than one that is not there. -/
theorem create_keeps (rig : Rig σ) (settings : LoaderSettings) (hooks : LaunchHooks)
    (hostImage : Option Host.Image) (i : Nat) :
    (f.state i).Keeps ((f.step rig (.create settings hooks hostImage)).state i) := by
  unfold state step
  dsimp only
  -- a loader from before, the new one, or one that is still not there
  rcases Nat.lt_trichotomy i f.members.length with hlt | rfl | hgt
  · rw [List.getElem?_append_left hlt]
    exact ⟨rfl, rfl⟩
  · rw [List.getElem?_concat_length, List.getElem?_eq_none (Nat.le_refl _)]
    exact ⟨rfl, rfl⟩
  · have hnone : ∀ ms : List Member, ms.length ≤ i → ms[i]? = none := fun _ h =>
      List.getElem?_eq_none h
    have hlonger : ∀ m : Member, (f.members ++ [m]).length ≤ i := fun m => by
      rw [List.length_append]
      exact hgt
    rw [hnone f.members (Nat.le_of_lt hgt), hnone _ (hlonger _)]
    exact ⟨rfl, rfl⟩

/-! ## What a request does -/

/-- The modules that the program holds have their records. -/
def Paired (f : Fleet σ) : Prop := f.held.map (·.id) = f.session.modules.map (·.id)

/-- What a request does to the registries and the records. -/
inductive Turned (f : Fleet (Chronicled σ)) : FleetRequest → Fleet (Chronicled σ) → Prop
  | still {r : FleetRequest} {t : Fleet (Chronicled σ)} (h : ∀ k, (f.state k).Keeps (t.state k))
      (hheld : t.held = f.held) (hloads : t.loads = f.loads) : Turned f r t
  /-- A loader has loaded a module. -/
  | loaded {i : Nat} {current : Option Device} {source : LoadSource} {m : LoadedModule}
      {x : LoadRecord} {t : Fleet (Chronicled σ)} (h : Loader.Registered (f.state i) m (t.state i))
      (hother : ∀ k, k ≠ i → t.state k = f.state k)
      (hx : x = { owner := i, id := m.id, kept := (t.residency i).entriesFor m.id })
      (hheld : t.held = f.held ++ [x]) (hloads : t.loads = f.loads ++ [x]) :
      Turned f (.through i (.load current source)) t
  /-- A loader has unloaded a module, whoever had loaded it. -/
  | unloaded {i index : Nat} {x : LoadRecord} {t : Fleet (Chronicled σ)}
      (hx : f.held[index]? = some x)
      (h : t.state i = { f.state i with residency := (f.residency i).release x.id })
      (hother : ∀ k, k ≠ i → t.state k = f.state k)
      (hheld : t.held = f.held.eraseIdx index) (hloads : t.loads = f.loads) :
      Turned f (.through i (.unload index)) t
  /-- A loader has torn down what its registry had for modules that are not live. -/
  | tornDown {r : FleetRequest} {i : Nat} {t : Fleet (Chronicled σ)}
      (h : ∃ tornDown, t.state i =
        { f.state i with residency := { (f.residency i).keepLive with tornDown } })
      (hother : ∀ k, k ≠ i → t.state k = f.state k)
      (hheld : t.held = f.held) (hloads : t.loads = f.loads) : Turned f r t

section Turns

variable {f : Fleet (Chronicled σ)} {r : Request} {t : Session (Chronicled σ)}

theorem remaining_of_ids (held : List LoadRecord) (r : Request) {s t : Session σ}
    (hids : t.modules.map (·.id) = s.modules.map (·.id)) : remaining held s t r = held := by
  have hlength : t.modules.length = s.modules.length := by simpa using congrArg List.length hids
  cases r with
  | unload index => exact if_neg (by omega)
  | _ => rfl

theorem arrivals_of_le (i : Nat) {s t : Session σ} (h : t.modules.length ≤ s.modules.length) :
    arrivals i s t = [] := by
  unfold arrivals
  rw [List.drop_eq_nil_of_le h, List.map_nil]

/-- After a request that leaves the program with the modules that it held, there is nothing to
record. -/
theorem recorded_of_ids (hf : f.Paired)
    (hids : t.modules.map (·.id) = f.session.modules.map (·.id)) :
    (f.recorded i m r t).held = f.held ∧ (f.recorded i m r t).loads = f.loads ∧
      (f.recorded i m r t).Paired := by
  have hlength : t.modules.length = f.session.modules.length := by
    simpa using congrArg List.length hids
  have hnone : arrivals i f.session t = [] := arrivals_of_le i (Nat.le_of_eq hlength)
  have hheld : (f.recorded i m r t).held = f.held := by
    show remaining f.held f.session t r ++ arrivals i f.session t = f.held
    rw [remaining_of_ids f.held r hids, hnone, List.append_nil]
  refine ⟨hheld, ?_, ?_⟩
  · show f.loads ++ arrivals i f.session t = f.loads
    rw [hnone, List.append_nil]
  · show (f.recorded i m r t).held.map (·.id) = t.modules.map (·.id)
    rw [hheld, hids]
    exact hf

theorem loaded_turned (hf : f.Paired) (hm : f.members[i]? = some m) (current : Option Device)
    (source : LoadSource) {x : LoadedModule} {w : World (Chronicled σ)}
    (h : Loader.Registered m.state x w.loader) :
    let t : Session (Chronicled σ) := { world := w, modules := f.session.modules ++ [x] }
    let g := f.recorded i m (.load current source) t
    Turned f (.through i (.load current source)) g ∧ g.Paired := by
  intro t g
  have hnew : arrivals i f.session t =
      [{ owner := i, id := x.id, kept := w.loader.residency.entriesFor x.id }] := by
    unfold arrivals
    rw [List.drop_left]
    rfl
  have hself : g.state i = w.loader := left_state hm _ _
  refine ⟨.loaded (m := x) ?_ (fun k hk => left_state_of_ne hk _ _) rfl ?_ ?_, ?_⟩
  · rw [hself, state_eq hm]
    exact h
  · rw [residency, hself]
    exact congrArg (f.held ++ ·) hnew
  · rw [residency, hself]
    exact congrArg (f.loads ++ ·) hnew
  · show (f.held ++ arrivals i f.session t).map (·.id) = (f.session.modules ++ [x]).map (·.id)
    rw [hnew, List.map_append, List.map_append, hf]
    rfl

theorem unloaded_turned (hf : f.Paired) (hm : f.members[i]? = some m) {index : Nat}
    {x : LoadedModule} (hx : f.session.modules[index]? = some x) {w : World (Chronicled σ)}
    (h : w.loader = { m.state with residency := m.state.residency.release x.id }) :
    let t : Session (Chronicled σ) := { world := w, modules := f.session.modules.eraseIdx index }
    let g := f.recorded i m (.unload index) t
    Turned f (.through i (.unload index)) g ∧ g.Paired := by
  intro t g
  have hlength : t.modules.length + 1 = f.session.modules.length :=
    List.length_eraseIdx_add_one (List.getElem?_eq_some_iff.mp hx).1
  have hnone : arrivals i f.session t = [] := arrivals_of_le i (by omega)
  have hleft : g.held = f.held.eraseIdx index := by
    show (if _ then _ else _) ++ arrivals i f.session t = _
    rw [hnone, List.append_nil, if_pos (by omega)]
  -- the record at this place is the module's, under the module's number
  have hid : (f.held.map (·.id))[index]? = some x.id := by
    rw [hf, List.getElem?_map, hx]
    rfl
  rw [List.getElem?_map, Option.map_eq_some_iff] at hid
  obtain ⟨y, hy, hyx⟩ := hid
  have hself : g.state i = w.loader := left_state hm _ _
  refine ⟨.unloaded hy ?_ (fun k hk => left_state_of_ne hk _ _) hleft ?_, ?_⟩
  · rw [hself, hyx, residency, state_eq hm]
    exact h
  · exact (congrArg (f.loads ++ ·) hnone).trans (List.append_nil _)
  · show g.held.map (·.id) = (f.session.modules.eraseIdx index).map (·.id)
    rw [hleft, ← List.eraseIdx_map, ← List.eraseIdx_map, hf]

/-- A request to a loader changes this loader only. -/
theorem recorded_turned (hf : f.Paired) (hm : f.members[i]? = some m)
    (h : (f.entered m).Turn r t) :
    Turned f (.through i r) (f.recorded i m r t) ∧ (f.recorded i m r t).Paired := by
  have hself : (f.recorded i m r t).state i = t.world.loader := left_state hm _ _
  have hother : ∀ k, k ≠ i → (f.recorded i m r t).state k = f.state k :=
    fun k hk => left_state_of_ne hk _ _
  cases h with
  | still hkeeps hids =>
    obtain ⟨hheld, hloads, hpaired⟩ := recorded_of_ids (i := i) (m := m) (r := r) hf hids
    refine ⟨.still (states_related (fun _ => ⟨rfl, rfl⟩) ?_ hother) hheld hloads, hpaired⟩
    rw [hself, state_eq hm]
    exact hkeeps
  | loaded hload => exact loaded_turned hf hm _ _ hload
  | unloaded hx hloader => exact unloaded_turned hf hm hx hloader
  | @tornDown w htorn =>
    obtain ⟨hheld, hloads, hpaired⟩ :=
      recorded_of_ids (i := i) (m := m) (r := .shutdown) (t := { f.session with world := w }) hf rfl
    obtain ⟨tornDown, hloader⟩ := htorn.loader
    refine ⟨.tornDown ⟨tornDown, ?_⟩ hother hheld hloads, hpaired⟩
    rw [hself, residency, state_eq hm]
    exact hloader

/-- A loader that is dropped tears down what its registry has, if it has anything. -/
theorem drop_turned (rig : Rig σ) (hf : f.Paired) (hm : f.members[i]? = some m) :
    let s := (f.entered m).inWorld (rig.chronicle.via m.settings m.hooks).close
    Turned f (.drop i) (f.left i { m with ended := true } s) ∧
      (f.left i { m with ended := true } s).Paired := by
  intro s
  refine ⟨?_, hf⟩
  have hself : (f.left i { m with ended := true } s).state i = s.world.loader := left_state hm _ _
  have hother : ∀ k, k ≠ i → (f.left i { m with ended := true } s).state k = f.state k :=
    fun k hk => left_state_of_ne hk _ _
  rcases (rig.via m.settings m.hooks).close_cases (f.entered m).world with ⟨-, hsame⟩ | htorn
  · refine .still (states_related (fun _ => ⟨rfl, rfl⟩) ?_ hother) rfl rfl
    rw [hself, state_eq hm]
    show m.state.Keeps ((rig.via m.settings m.hooks).chronicle.close _).2.loader
    rw [hsame]
    exact ⟨rfl, rfl⟩
  · obtain ⟨tornDown, hloader⟩ := htorn.loader
    refine .tornDown ⟨tornDown, ?_⟩ hother rfl rfl
    rw [hself, residency, state_eq hm]
    exact hloader

/-- **What a request does to the registries**, over any accelerator. -/
theorem step_turned (rig : Rig σ) (hf : f.Paired) (r : FleetRequest) :
    Turned f r (f.step rig.chronicle r) ∧ (f.step rig.chronicle r).Paired := by
  cases r with
  | create settings hooks hostImage =>
    exact ⟨.still (fun k => create_keeps _ settings hooks hostImage k) rfl rfl, hf⟩
  | through i r =>
    cases hm : f.member? i with
    | none =>
      show Turned f _ ((f.member? i).elim f _) ∧ Paired ((f.member? i).elim f _)
      rw [hm]
      exact ⟨.still (fun _ => ⟨rfl, rfl⟩) rfl rfl, hf⟩
    | some m =>
      rw [step_through _ hm]
      exact recorded_turned hf (getElem?_of_member? hm)
        (Session.step_turn (rig.serving m) (f.entered m) r)
  | drop i =>
    cases hm : f.member? i with
    | none =>
      show Turned f _ ((f.member? i).elim f _) ∧ Paired ((f.member? i).elim f _)
      rw [hm]
      exact ⟨.still (fun _ => ⟨rfl, rfl⟩) rfl rfl, hf⟩
    | some m =>
      rw [step_drop _ hm]
      exact drop_turned rig hf (getElem?_of_member? hm)

end Turns

/-! ## Numbers -/

/-- What every run keeps: what the program holds was loaded, and each loader has numbered its own
modules from one. -/
structure Counted (f : Fleet σ) : Prop where
  paired : f.Paired
  held : f.held.Sublist f.loads
  counted : ∀ i, ∃ n, (f.state i).nextModule = n + 1 ∧
    (f.loads.filter (·.owner == i)).map (·.id) = List.range' 1 n

namespace Counted

variable {f : Fleet σ} {x : LoadRecord}

/-- A number that a loader has given out. -/
theorem id_lt (h : f.Counted) (hx : x ∈ f.loads) : x.id < (f.state x.owner).nextModule := by
  obtain ⟨n, hnext, hids⟩ := h.counted x.owner
  have hmem : x.id ∈ (f.loads.filter (·.owner == x.owner)).map (·.id) :=
    List.mem_map_of_mem (List.mem_filter.mpr ⟨hx, beq_self_eq_true _⟩)
  rw [hids, List.mem_range'_1] at hmem
  rw [hnext]
  exact Nat.lt_of_lt_of_eq hmem.2 (Nat.add_comm 1 n)

/-- A loader that has loaded anything has loaded a first module. -/
theorem first (h : f.Counted) (hx : x ∈ f.loads) : ∃ y ∈ f.loads, y.owner = x.owner ∧ y.id = 1 := by
  obtain ⟨n, -, hids⟩ := h.counted x.owner
  have hmem : x.id ∈ (f.loads.filter (·.owner == x.owner)).map (·.id) :=
    List.mem_map_of_mem (List.mem_filter.mpr ⟨hx, beq_self_eq_true _⟩)
  have hfirst : 1 ∈ (f.loads.filter (·.owner == x.owner)).map (·.id) := by
    rw [hids, List.mem_range'_1] at hmem ⊢
    omega
  obtain ⟨y, hy, hid⟩ := List.mem_map.mp hfirst
  obtain ⟨hy, howner⟩ := List.mem_filter.mp hy
  exact ⟨y, hy, eq_of_beq howner, hid⟩

/-- A loader and a number together are given out once. -/
theorem distinct (h : f.Counted) : (f.loads.map fun x => (x.owner, x.id)).Nodup := by
  refine List.nodup_iff_count_le_one.mpr fun ⟨i, id⟩ => ?_
  obtain ⟨n, -, hids⟩ := h.counted i
  have hcount : (f.loads.map fun x => (x.owner, x.id)).count (i, id) =
      ((f.loads.filter (·.owner == i)).map (·.id)).count id := by
    rw [List.count, List.count, List.countP_map, List.countP_map, List.countP_filter]
    refine List.countP_congr fun x _ => ?_
    show ((x.owner, x.id) == (i, id)) = true ↔ (x.id == id && x.owner == i) = true
    rw [Bool.and_eq_true, beq_iff_eq, beq_iff_eq, beq_iff_eq, Prod.mk.injEq, and_comm]
  rw [hcount, hids]
  exact List.nodup_iff_count_le_one.mp List.nodup_range' id

theorem held_distinct (h : f.Counted) : (f.held.map fun x => (x.owner, x.id)).Nodup :=
  h.distinct.sublist (h.held.map _)

end Counted

section Runs

variable {f t : Fleet (Chronicled σ)} {r : FleetRequest}

theorem Turned.counted (h : Turned f r t) (hf : f.Counted) (hpaired : t.Paired) : t.Counted := by
  -- requests that load nothing leave the counts alone
  have hquiet : t.loads = f.loads → (∀ k, (f.state k).nextModule = (t.state k).nextModule) →
      t.held.Sublist f.held → t.Counted := by
    intro hloads hnext hheld
    refine ⟨hpaired, hloads ▸ hheld.trans hf.held, fun k => ?_⟩
    rw [hloads, ← hnext k]
    exact hf.counted k
  cases h with
  | still hkeeps hheld hloads =>
    exact hquiet hloads (fun k => (hkeeps k).2.symm) (hheld ▸ .refl _)
  | unloaded hx hstate hother hheld hloads =>
    refine hquiet hloads ?_ (hheld ▸ List.eraseIdx_sublist _ _)
    refine states_related (R := fun s s' => s.nextModule = s'.nextModule) (fun _ => rfl) ?_ hother
    rw [hstate]
  | tornDown hstate hother hheld hloads =>
    obtain ⟨tornDown, hstate⟩ := hstate
    refine hquiet hloads ?_ (hheld ▸ .refl _)
    refine states_related (R := fun s s' => s.nextModule = s'.nextModule) (fun _ => rfl) ?_ hother
    rw [hstate]
  | @loaded i current source m x _ hload hother hx hheld hloads =>
    refine ⟨hpaired, ?_, fun k => ?_⟩
    · rw [hheld, hloads]
      exact hf.held.append (.refl _)
    · obtain ⟨n, hnext, hids⟩ := hf.counted k
      rw [hloads, List.filter_append, List.map_append, hids]
      by_cases hk : k = i
      · -- the new module has the next number
        subst hk
        refine ⟨n + 1, by rw [hload.nextModule, hnext], ?_⟩
        have hid : x.id = n + 1 := by
          rw [hx]
          exact hload.id.trans hnext
        have hone : [x].filter (·.owner == k) = [x] := by
          rw [hx]
          exact List.filter_cons_of_pos (beq_self_eq_true k)
        rw [hone, List.range'_concat, Nat.one_mul, Nat.add_comm, ← hid]
        rfl
      · have hnone : [x].filter (·.owner == k) = [] := by
          rw [hx]
          exact List.filter_cons_of_neg fun h => hk (eq_of_beq h).symm
        refine ⟨n, by rw [hother k hk, hnext], ?_⟩
        rw [hnone]
        exact List.append_nil _

theorem start_counted (accelerator : σ) (host : Host.System) :
    (start accelerator host).Counted where
  paired := rfl
  held := .refl _
  counted _ := ⟨0, rfl, rfl⟩

/-- **Each loader numbers its own modules from one**, whatever a program does. -/
theorem run_counted (rig : Rig σ) (hf : f.Counted) (rs : List FleetRequest) :
    (f.run rig.chronicle rs).Counted := by
  induction rs generalizing f with
  | nil => exact hf
  | cons r rs ih =>
    obtain ⟨hturned, hpaired⟩ := step_turned rig hf.paired r
    exact ih (hturned.counted hf hpaired)

end Runs

end Fleet

end DeviceCode
