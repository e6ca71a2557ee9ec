import DeviceCode.Proofs.LoadSuccess

/-!
# Binding when no call is made to fail

Whether the names that an executable leaves undefined can be bound is then up to the host image
alone: a name can be bound when the host defines it at an address that is not null. Names are bound
in their order, so the first one that cannot be bound decides how binding fails; and when there is
none, each name is bound to its host address, and that is pinned once for each time it is named.
-/

namespace DeviceCode

namespace Host.Image

variable {host : Image} {name : String}

/-- The address that the host gives a name. -/
def address? (host : Image) (name : String) : Option UInt64 := (host.lookup? name).map (·.address)

/-- The host defines a name where it can be pinned. -/
def Binds (host : Image) (name : String) : Prop := ∃ s, host.lookup? name = some s ∧ s.address ≠ 0

/-- Why a name cannot be bound, if it cannot: it is not defined, or its address is null. -/
def refusal? (host : Image) (name : String) : Option LoadError :=
  match host.lookup? name with
  | none => some (.unresolvedSymbol name)
  | some s =>
    if s.address = 0 then
      some (.loadFailed
        ⟨"amd_memory_lock", Simulator.statusInvalidArgument, "null or empty host range"⟩)
    else none

theorem refusal?_eq_none_iff : host.refusal? name = none ↔ host.Binds name := by
  unfold refusal? Binds
  cases host.lookup? name with
  | none => exact ⟨nofun, fun ⟨_, h, _⟩ => nomatch h⟩
  | some s =>
    dsimp only
    constructor
    · intro h
      split at h
      · cases h
      · next hne => exact ⟨s, rfl, hne⟩
    · rintro ⟨_, h, hne⟩
      cases h
      rw [if_neg hne]

/-- A refusal says that the name is not defined, or that a null address cannot be pinned. -/
theorem refusal?_of_not_binds (h : ¬ host.Binds name) : host.refusal? name = some
    (if host.lookup? name = none then .unresolvedSymbol name
      else .loadFailed
        ⟨"amd_memory_lock", Simulator.statusInvalidArgument, "null or empty host range"⟩) := by
  unfold Binds at h
  unfold refusal?
  cases hlookup : host.lookup? name with
  | none => rfl
  | some s =>
    have hnull : s.address = 0 := Decidable.byContradiction fun hne => h ⟨s, hlookup, hne⟩
    dsimp only
    rw [if_pos hnull, if_neg (Option.some_ne_none s)]

/-- The first name that cannot be bound. -/
theorem findSome?_refusal {pre post : List String} (hpre : ∀ n ∈ pre, host.Binds n)
    (hname : ¬ host.Binds name) :
    (pre ++ name :: post).findSome? host.refusal? = host.refusal? name := by
  have hnone : pre.findSome? host.refusal? = none :=
    List.findSome?_eq_none_iff.mpr fun n hn => refusal?_eq_none_iff.mpr (hpre n hn)
  rw [List.findSome?_append, hnone, Option.none_or, List.findSome?_cons,
    refusal?_of_not_binds hname]

/-- Indexing the host is no step of a load on the accelerator. -/
theorem load_error {sys : System} {settings : LoaderSettings} {cause : LoadError}
    (h : load sys settings = .error cause) : ∀ c, cause ≠ .loadFailed c := by
  rintro c rfl
  unfold load at h
  dsimp only at h
  split at h
  · cases h
  · unfold parse indexed at h
    split at h
    · dsimp only [bind, Except.bind] at h
      split at h <;> cases h
    · cases h

end Host.Image

namespace Simulator

/-- What binding names to their addresses leads to, in an executable that is not frozen. -/
structure Bound (address? : String → Option UInt64) (e : ExecutableHandle) (names : List String)
    (exe : Executable) (s t : Simulator) : Prop where
  executable : ∃ exe', t.executables.get? e = some exe' ∧ exe'.frozen = false ∧
    ∀ name, exe'.globals.get? name = if name ∈ names then address? name else exe.globals.get? name
  holders : ∀ x, t.holders x = s.holders x + names.countP (address? · == some x)
  codeObjects : t.codeObjects = s.codeObjects
  faults : t.faults = s.faults

variable {settings : LoaderSettings} {hooks : LaunchHooks} {host : Host.Image}
  {agent : AgentHandle} {name : String} {w : World Simulator} {s t : Simulator}

theorem holders_put {x : UInt64} {pin : Pin} (h : t.pinned = s.pinned.put x pin)
    (hpin : pin.holders = s.holders x + 1) (y : UInt64) :
    t.holders y = s.holders y + if x = y then 1 else 0 := by
  have hy : t.holders y = (((s.pinned.put x pin).get? y).map (·.holders)).getD 0 := by
    rw [← h]
    rfl
  rw [hy, Assoc.get?_put]
  split
  · next hxy =>
    subst hxy
    exact hpin
  · rfl

theorem Bound.nil {address? : String → Option UInt64} {e : ExecutableHandle} {exe : Executable}
    (hexe : s.executables.get? e = some exe) (hopen : exe.frozen = false) :
    Bound address? e [] exe s s where
  executable := ⟨exe, hexe, hopen, fun _ => by rw [if_neg List.not_mem_nil]⟩
  holders _ := rfl
  codeObjects := rfl
  faults := rfl

/-- One name more is bound, in front of the others. -/
theorem Bound.cons {address? : String → Option UInt64} {e : ExecutableHandle} {names : List String}
    {exe : Executable} {x : UInt64} {pin : Pin} {journal : List JournalEntry}
    {executables : Assoc ExecutableHandle Executable}
    (h : Bound address? e names { exe with globals := exe.globals.put name x }
      { s with executables, journal, pinned := s.pinned.put x pin } t)
    (haddress : address? name = some x) (hpin : pin.holders = s.holders x + 1) :
    Bound address? e (name :: names) exe s t where
  executable := by
    obtain ⟨exe', hexe', hopen, hglobals⟩ := h.executable
    refine ⟨exe', hexe', hopen, fun n => ?_⟩
    rw [hglobals, Assoc.get?_put]
    by_cases hin : n ∈ names
    · rw [if_pos hin, if_pos (List.mem_cons_of_mem _ hin)]
    · by_cases hn : name = n
      · subst hn
        rw [if_neg hin, if_pos rfl, if_pos List.mem_cons_self, haddress]
      · have hout : n ∉ name :: names := fun hmem =>
          (List.mem_cons.mp hmem).elim (fun heq => hn heq.symm) hin
        rw [if_neg hin, if_neg hn, if_neg hout]
  holders := by
    intro y
    rw [h.holders, holders_put (s := s) rfl hpin, List.countP_cons, haddress]
    by_cases hy : x = y
    · simp [hy]
      omega
    · simp [hy]
  codeObjects := h.codeObjects
  faults := h.faults

/-- A name that cannot be bound is not pinned. -/
theorem pinGlobal_refused {cause : LoadError} (hfaults : w.accelerator.faults = [])
    (h : host.refusal? name = some cause) :
    ∃ s, (loader settings hooks).pinGlobal host agent name w =
      (.error cause, { w with accelerator := s }) := by
  unfold Host.Image.refusal? at h
  unfold Loader.pinGlobal
  cases hlookup : host.lookup? name with
  | none =>
    rw [hlookup] at h
    cases h
    exact ⟨w.accelerator, rfl⟩
  | some x =>
    rw [hlookup] at h
    dsimp only at h ⊢
    split at h
    · next hnull =>
      cases h
      have hlock : w.accelerator.lockMemory agent x.address (max x.size.toNat 1) =
          (.error ⟨"amd_memory_lock", statusInvalidArgument, "null or empty host range"⟩,
            w.accelerator.record (.lockMemory x.address)) := by
        unfold lockMemory
        dsimp only
        rw [if_neg (ne_true_of_eq_false (faulty_of_faults (s := w.accelerator.record _) hfaults _)),
          if_pos (.inl hnull)]
        rfl
      exact ⟨_, run_bind_of_error (Attempt.run_call_error _ hlock) _⟩
    · cases h

/-- A name that can be bound is pinned under its host address. -/
theorem pinGlobal_of {x : Host.Symbol} (hfaults : w.accelerator.faults = [])
    (hlookup : host.lookup? name = some x) (hx : x.address ≠ 0) :
    ∃ pin journal, (loader settings hooks).pinGlobal host agent name w =
        (.ok ⟨name, x.address, x.address, x.size⟩, { w with accelerator := { w.accelerator with
          pinned := w.accelerator.pinned.put x.address pin, journal } }) ∧
      pin.holders = w.accelerator.holders x.address + 1 := by
  have hrange : ¬ (x.address = 0 ∨ max x.size.toNat 1 = 0) := by
    rintro (h | h)
    · exact hx h
    · omega
  have hlock := (lockMemory_ok_iff (g := agent)).mpr
    ⟨faulty_of_faults hfaults .lockMemory, hrange, rfl, rfl⟩
  refine ⟨⟨max ((w.accelerator.pinned.get? x.address).getD ⟨0, 0⟩).size (max x.size.toNat 1),
    ((w.accelerator.pinned.get? x.address).getD ⟨0, 0⟩).holders + 1⟩,
    w.accelerator.journal ++ [JournalEntry.lockMemory x.address], ?_, ?_⟩
  · unfold Loader.pinGlobal
    rw [hlookup]
    exact run_bind_of_ok (Attempt.run_call_ok _ hlock) _
  · unfold holders
    cases w.accelerator.pinned.get? x.address <;> rfl

theorem defineGlobal_of {e : ExecutableHandle} {exe : Executable} (pin : PinnedGlobal)
    (hfaults : w.accelerator.faults = []) (hexe : w.accelerator.executables.get? e = some exe)
    (hopen : exe.frozen = false) :
    ∃ journal log, (loader settings hooks).defineGlobal e pin w =
      (.ok (), { w with
        log
        accelerator := { w.accelerator with
          journal
          executables := w.accelerator.executables.put e
            { exe with globals := exe.globals.put pin.name pin.deviceAddress } } }) := by
  have hdefine : w.accelerator.defineGlobal e pin.name pin.deviceAddress = _ :=
    defineGlobal_ok_iff.mpr ⟨faulty_of_faults hfaults .defineGlobal, exe, hexe, hopen, rfl⟩
  exact ⟨_, _, run_bind_of_ok (Attempt.run_call_ok _ hdefine) _⟩

/-- **Binding stops at the first name that cannot be bound**, and binds all names when there is
none. -/
theorem bindUntilFailure_of (settings : LoaderSettings) (hooks : LaunchHooks) (host : Host.Image)
    (agent : AgentHandle) {e : ExecutableHandle} {exe : Executable}
    (hfaults : w.accelerator.faults = []) (hexe : w.accelerator.executables.get? e = some exe)
    (hopen : exe.frozen = false) (pins : List PinnedGlobal) (names : List String) :
    ∃ pins' s log, (loader settings hooks).bindUntilFailure host agent e pins names w =
        ((pins', names.findSome? host.refusal?), { w with accelerator := s, log }) ∧
      (names.findSome? host.refusal? = none →
        Bound host.address? e names exe w.accelerator s) := by
  -- along the names; the executable and the world are those after the names before
  induction names generalizing pins exe w with
  | nil => exact ⟨pins, w.accelerator, w.log, rfl, fun _ => .nil hexe hopen⟩
  | cons name names ih =>
    rw [List.findSome?_cons]
    cases hrefusal : host.refusal? name with
    | some cause =>
      obtain ⟨s, hpin⟩ := pinGlobal_refused hfaults hrefusal
      exact ⟨pins, s, w.log, run_bind_of hpin _, nofun⟩
    | none =>
      obtain ⟨x, hlookup, hx⟩ := Host.Image.refusal?_eq_none_iff.mp hrefusal
      obtain ⟨pin, journal, hpin, hholders⟩ := pinGlobal_of hfaults hlookup hx
      let w₁ : World Simulator := { w with accelerator := { w.accelerator with
        pinned := w.accelerator.pinned.put x.address pin, journal } }
      obtain ⟨journal', log, hdefine⟩ := defineGlobal_of (w := w₁)
        ⟨name, x.address, x.address, x.size⟩ hfaults hexe hopen
      let exe₁ : Executable := { exe with globals := exe.globals.put name x.address }
      let s₂ : Simulator := { w₁.accelerator with
        journal := journal'
        executables := w.accelerator.executables.put e exe₁ }
      have hexe₁ : s₂.executables.get? e = some exe₁ := by rw [Assoc.get?_put, if_pos rfl]
      obtain ⟨pins', s, log', hloop, hbound⟩ := ih (w := { w₁ with log, accelerator := s₂ })
        hfaults hexe₁ hopen (pins ++ [⟨name, x.address, x.address, x.size⟩])
      have haddress : host.address? name = some x.address := congrArg (Option.map _) hlookup
      refine ⟨pins', s, log', ?_, fun hnone => (hbound hnone).cons haddress hholders⟩
      exact (run_bind_of hpin _).trans ((run_bind_of hdefine _).trans hloop)

end Simulator

/-! ## The names of an executable -/

theorem LoadStep.run_attempt {σ α : Type} {x : Attempt σ α} {p : LoadProgress σ}
    {r : Except LoadError α} {w : World σ} (h : x p.world = (r, w)) :
    LoadStep.attempt x p = (r, { p with world := w }) := by
  unfold LoadStep.attempt
  rw [h]

theorem LoadStep.run_call_ok {σ α : Type} {f : σ → Reply σ α} {p : LoadProgress σ} {s : σ} {a : α}
    (cause : CallError → LoadError) (h : f p.world.accelerator = (.ok a, s)) :
    LoadStep.call cause f p = (.ok a, { p with world := { p.world with accelerator := s } }) :=
  run_attempt (Attempt.run_call_ok cause h)

theorem LoadStep.run_call_error {σ α : Type} {f : σ → Reply σ α} {p : LoadProgress σ} {s : σ}
    {e : CallError} (cause : CallError → LoadError) (h : f p.world.accelerator = (.error e, s)) :
    LoadStep.call cause f p =
      (.error (cause e), { p with world := { p.world with accelerator := s } }) :=
  run_attempt (Attempt.run_call_error cause h)

namespace World

variable {σ : Type}

/-- The host image that a load in this world looks at. -/
def hostImage? (settings : LoaderSettings) (w : World σ) : Except LoadError Host.Image :=
  match w.loader.hostImage with
  | some host => .ok host
  | none => Host.Image.load w.host settings

/-- The address that the host gives a name, if there is a host image. -/
def hostAddress? (settings : LoaderSettings) (w : World σ) (name : String) : Option UInt64 :=
  w.hostImage? settings |>.toOption.bind (·.address? name)

/-- Why names cannot be bound, if they cannot. The host image is needed only when there are any. -/
def refusal? (settings : LoaderSettings) (w : World σ) (names : List String) : Option LoadError :=
  if names.isEmpty then none
  else
    match w.hostImage? settings with
    | .error cause => some cause
    | .ok host => names.findSome? host.refusal?

theorem refusal?_eq_none_iff {settings : LoaderSettings} {w : World σ} {names : List String} :
    w.refusal? settings names = none ↔ names ≠ [] → ∃ host, w.hostImage? settings = .ok host ∧
      ∀ name ∈ names, host.Binds name := by
  unfold refusal?
  cases names with
  | nil => exact ⟨fun _ h => absurd rfl h, fun _ => rfl⟩
  | cons name names =>
    cases w.hostImage? settings with
    | error cause => exact ⟨nofun, fun h => nomatch h (List.cons_ne_nil _ _)⟩
    | ok host =>
      refine List.findSome?_eq_none_iff.trans ?_
      constructor
      · exact fun h _ => ⟨host, rfl, fun n hn => Host.Image.refusal?_eq_none_iff.mp (h n hn)⟩
      · intro h n hn
        obtain ⟨_, heq, hbinds⟩ := h (List.cons_ne_nil _ _)
        cases heq
        exact Host.Image.refusal?_eq_none_iff.mpr (hbinds n hn)

/-- No refusal is about a variable that the accelerator finds undefined. -/
theorem refusal?_status {settings : LoaderSettings} {w : World σ} {names : List String}
    {c : CallError} (h : w.refusal? settings names = some (.loadFailed c)) :
    c.status ≠ Simulator.statusVariableUndefined := by
  unfold refusal? hostImage? at h
  split at h
  · cases h
  split at h
  · next cause hhost =>
    cases h
    split at hhost
    · cases hhost
    · exact absurd rfl (Host.Image.load_error hhost c)
  · next host hhost =>
    obtain ⟨name, -, hname⟩ := List.exists_of_findSome?_eq_some h
    have hbinds : ¬ host.Binds name := by
      rw [← Host.Image.refusal?_eq_none_iff, hname]
      exact Option.some_ne_none _
    rw [Host.Image.refusal?_of_not_binds hbinds] at hname
    split at hname
    · cases hname
    · cases hname
      decide

end World

namespace Simulator

variable {w : World Simulator}

theorem hostImage_run (settings : LoaderSettings) (hooks : LaunchHooks) (w : World Simulator) :
    ∃ log loader', (loader settings hooks).hostImage w =
      (w.hostImage? settings, { w with log, loader := loader' }) := by
  have hget : (get : Attempt Simulator (World Simulator)) w = (.ok w, w) := rfl
  unfold Loader.hostImage World.hostImage?
  rw [run_bind_of_ok hget]
  cases w.loader.hostImage with
  | some host => exact ⟨w.log, w.loader, rfl⟩
  | none =>
    cases hload : Host.Image.load w.host settings with
    | error cause =>
      refine ⟨w.log, w.loader, run_bind_of_error ?_ _⟩
      exact congrArg (·, w) hload
    | ok host =>
      have hload : (Attempt.ofExcept (Host.Image.load w.host settings) :
        Attempt Simulator Host.Image) w = (.ok host, w) := congrArg (·, w) hload
      exact ⟨_, _, run_bind_of_ok hload _⟩

section Names

variable (settings : LoaderSettings) (hooks : LaunchHooks) (agent : AgentHandle)
  {e : ExecutableHandle} {exe : Executable} (hfaults : w.accelerator.faults = [])
  (hexe : w.accelerator.executables.get? e = some exe) (hopen : exe.frozen = false)

include hfaults hexe hopen

theorem bindGlobals_refused {host : Host.Image} {names : List String} {cause : LoadError}
    (h : names.findSome? host.refusal? = some cause) :
    ∃ v, (loader settings hooks).bindGlobals host agent e names w = (.error cause, v) := by
  obtain ⟨pins, s, log, hrun, -⟩ :=
    bindUntilFailure_of settings hooks host agent hfaults hexe hopen [] names
  rw [h] at hrun
  unfold Loader.bindGlobals
  rw [run_lift_bind, hrun]
  exact ⟨_, rfl⟩

theorem bindGlobals_of {host : Host.Image} {names : List String}
    (h : names.findSome? host.refusal? = none) :
    ∃ pins s log, (loader settings hooks).bindGlobals host agent e names w =
        (.ok pins, { w with accelerator := s, log }) ∧
      Bound host.address? e names exe w.accelerator s := by
  obtain ⟨pins, s, log, hrun, hbound⟩ :=
    bindUntilFailure_of settings hooks host agent hfaults hexe hopen [] names
  rw [h] at hrun
  unfold Loader.bindGlobals
  rw [run_lift_bind, hrun]
  exact ⟨pins, s, _, rfl, hbound h⟩

end Names

section Undefined

variable (settings : LoaderSettings) (hooks : LaunchHooks) (agent : AgentHandle)
  {p : LoadProgress Simulator} {e : ExecutableHandle} {exe : Executable}
  {names : List String} (hfaults : p.world.accelerator.faults = [])
  (hexe : p.world.accelerator.executables.get? e = some exe) (hopen : exe.frozen = false)

include hfaults hexe hopen

/-- **Binding what an executable leaves undefined** fails as the world says. -/
theorem bindUndefined_refused {cause : LoadError}
    (h : p.world.refusal? settings names = some cause) :
    ∃ q, (loader settings hooks).bindUndefined agent e names p = (.error cause, q) := by
  obtain ⟨log, loader', himage⟩ := hostImage_run settings hooks p.world
  unfold World.refusal? at h
  unfold Loader.bindUndefined
  split at h
  · cases h
  next hsome =>
  rw [if_neg hsome]
  cases hhost : p.world.hostImage? settings with
  | error cause' =>
    rw [hhost] at h himage
    cases h
    exact ⟨_, run_bind_of_error (LoadStep.run_attempt himage) _⟩
  | ok host =>
    rw [hhost] at h himage
    let w : World Simulator := { p.world with log, loader := loader' }
    obtain ⟨v, hbind⟩ := bindGlobals_refused settings hooks agent (w := w) hfaults hexe hopen h
    rw [run_bind_of_ok (LoadStep.run_attempt himage)]
    exact ⟨_, run_bind_of_error (LoadStep.run_attempt hbind) _⟩

/-- And it succeeds when the world does not say that it fails. -/
theorem bindUndefined_of (h : p.world.refusal? settings names = none) :
    ∃ q, (loader settings hooks).bindUndefined agent e names p = (.ok (), q) ∧
      Bound (p.world.hostAddress? settings) e names exe p.world.accelerator
        q.world.accelerator := by
  obtain ⟨log, loader', himage⟩ := hostImage_run settings hooks p.world
  unfold World.refusal? at h
  unfold Loader.bindUndefined
  split at h
  · next hempty =>
    rw [if_pos hempty, List.isEmpty_iff.mp hempty]
    exact ⟨p, rfl, .nil hexe hopen⟩
  next hsome =>
  rw [if_neg hsome]
  cases hhost : p.world.hostImage? settings with
  | error cause =>
    rw [hhost] at h
    cases h
  | ok host =>
    rw [hhost] at h himage
    let w : World Simulator := { p.world with log, loader := loader' }
    obtain ⟨pins, s, log', hbind, hbound⟩ :=
      bindGlobals_of settings hooks agent (w := w) hfaults hexe hopen h
    have haddress : p.world.hostAddress? settings = host.address? := by
      unfold World.hostAddress?
      rw [hhost]
      rfl
    rw [haddress, run_bind_of_ok (LoadStep.run_attempt himage),
      run_bind_of_ok (LoadStep.run_attempt hbind)]
    exact ⟨_, rfl, hbound⟩

end Undefined

end Simulator

end DeviceCode
