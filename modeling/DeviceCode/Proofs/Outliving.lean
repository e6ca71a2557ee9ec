import DeviceCode.Elf.Draft
import DeviceCode.Proofs.Attributed

/-!
# What loaded code needs outlives it

Code that was loaded into an executable may refer to the object that it was loaded from, to the
device memory behind that, and to the host globals that were bound. `Backed` says that all of it is
there as long as the executable is. The simulator does not remember these ties, so they are read off
a watched run (`Session.tiesAfter`), which is the run itself with notes (`Session.run_unwatched`).

Unloads and teardowns never break the rule, under any faults. A load breaks it in one case, which
`Session.run_backed_iff` makes exact: its code was loaded, and neither freezing the executable nor
destroying it works. The roll back goes on after the destruction has failed, so the executable
stays, and what it needs goes (`Session.strandedLoad_unbacked`).
-/

namespace DeviceCode

/-- What code was loaded from is there: the reader, or the code object and its device memory. -/
def Backing.There (s : Simulator) (ties : Ties) : Backing → Prop
  | .codeObject c => s.codeObjects.contains c = true ∧
      ∀ x, (c, x) ∈ ties.readFrom → s.allocations.contains x = true
  | .reader r => s.readers.contains r = true

/-- Whether an executable is there and has code in it. -/
def Ties.inUse (ties : Ties) (s : Simulator) (e : ExecutableHandle) : Bool :=
  s.executables.contains e && ties.loaded.any fun x => x.1 == e

/-- How many pins of an address the executables with code in them need. -/
def Ties.pinsNeeded (ties : Ties) (s : Simulator) (x : UInt64) : Nat :=
  ties.bound.countP fun b => b.2 == x && ties.inUse s b.1

/-- Everything that loaded code needs is there. -/
structure Backed (s : Simulator) (ties : Ties) : Prop where
  code : ∀ e b, s.executables.contains e = true → (e, b) ∈ ties.loaded → b.There s ties
  pins : ∀ x, ties.pinsNeeded s x ≤ s.holders x

/-! ## Attribution suffices -/

/-- Counting either of two things counts no more than both. -/
theorem countP_or_le {α : Type} (p q r : α → Bool) (l : List α)
    (h : ∀ a, p a = true → q a = true ∨ r a = true) : l.countP p ≤ l.countP q + l.countP r := by
  induction l with
  | nil => exact Nat.le_refl _
  | cons a l ih =>
    rw [List.countP_cons, List.countP_cons, List.countP_cons]
    have ha := h a
    cases hp : p a <;> cases hq : q a <;> cases hr : r a <;> simp [hp, hq, hr] at ha ⊢ <;> omega

/-- Counting two things that exclude each other counts no more than either. -/
theorem countP_add_le {α : Type} (p q r : α → Bool) (l : List α)
    (hq : ∀ a, q a = true → p a = true) (hr : ∀ a, r a = true → p a = true)
    (hqr : ∀ a, q a = true → r a = false) : l.countP q + l.countP r ≤ l.countP p := by
  induction l with
  | nil => exact Nat.le_refl _
  | cons a l ih =>
    rw [List.countP_cons, List.countP_cons, List.countP_cons]
    have h1 := hq a
    have h2 := hr a
    have h3 := hqr a
    cases hp : p a <;> cases hq' : q a <;> cases hr' : r a <;>
      simp [hp, hq', hr'] at h1 h2 h3 ⊢ <;> omega

/-- The bindings of one module's executable are covered by its pins. -/
theorem countP_bound_one (bound : List (ExecutableHandle × UInt64))
    (pins : List (ModuleId × UInt64)) (x : UInt64) {m : LoadedModule}
    (h : ∀ e, m.executable? = some e → bound.count (e, x) ≤ pins.count (m.id, x)) :
    (bound.countP fun b => b.2 == x && m.executable? == some b.1) ≤ pins.count (m.id, x) := by
  cases he : m.executable? with
  | none =>
    have hnone : (bound.countP fun b => b.2 == x && none == some b.1) = 0 :=
      List.countP_eq_zero.mpr fun b _ => by simp
    rw [hnone]
    exact Nat.zero_le _
  | some e =>
    have hsame : (bound.countP fun b => b.2 == x && some e == some b.1) = bound.count (e, x) := by
      refine List.countP_congr fun b _ => ?_
      rw [Bool.and_eq_true, beq_iff_eq, beq_iff_eq, beq_iff_eq]
      constructor
      · rintro ⟨rfl, he'⟩
        cases he'
        rfl
      · rintro rfl
        exact ⟨rfl, rfl⟩
    rw [hsame]
    exact h e he

/-- The bindings of executables that modules have are covered by the pins of these modules. The
induction is on the modules: their numbers are distinct, so no pin is used twice. -/
theorem countP_bound_le (bound : List (ExecutableHandle × UInt64))
    (pins : List (ModuleId × UInt64)) (x : UInt64) {ms : List LoadedModule}
    (hdistinct : (ms.map (·.id)).Nodup)
    (h : ∀ m ∈ ms, ∀ e, m.executable? = some e → bound.count (e, x) ≤ pins.count (m.id, x)) :
    (bound.countP fun b => b.2 == x && ms.any fun m => m.executable? == some b.1) ≤
      pins.countP fun p => p.2 == x && (ms.map (·.id)).contains p.1 := by
  induction ms with
  | nil =>
    have hnone : (bound.countP fun b => b.2 == x &&
        ([] : List LoadedModule).any fun m => m.executable? == some b.1) = 0 :=
      List.countP_eq_zero.mpr fun b _ => by simp
    rw [hnone]
    exact Nat.zero_le _
  | cons m ms ih =>
    rw [List.map_cons, List.nodup_cons] at hdistinct
    have hrest := ih hdistinct.2 fun m' hm' => h m' (List.mem_cons_of_mem _ hm')
    have hhead := countP_bound_one bound pins x (h m List.mem_cons_self)
    -- a binding is of the first module's executable or of another's
    have hsplit := countP_or_le
      (fun b : ExecutableHandle × UInt64 =>
        b.2 == x && (m :: ms).any fun m => m.executable? == some b.1)
      (fun b => b.2 == x && m.executable? == some b.1)
      (fun b => b.2 == x && ms.any fun m => m.executable? == some b.1) bound
      (fun b hb => by
        simp only [Bool.and_eq_true, List.any_cons, Bool.or_eq_true] at hb ⊢
        exact hb.2.imp (fun h => ⟨hb.1, h⟩) fun h => ⟨hb.1, h⟩)
    -- and no pin is both for the first module and for another
    have hjoin := countP_add_le
      (fun p : ModuleId × UInt64 => p.2 == x && ((m :: ms).map (·.id)).contains p.1)
      (fun p => p == (m.id, x))
      (fun p => p.2 == x && (ms.map (·.id)).contains p.1) pins
      (fun p hp => by
        rw [eq_of_beq hp]
        simp)
      (fun p hp => by
        simp only [Bool.and_eq_true, List.map_cons, List.contains_cons, Bool.or_eq_true] at hp ⊢
        exact ⟨hp.1, .inr hp.2⟩)
      (fun p hp => by
        rw [eq_of_beq hp]
        have hnot : (ms.map (·.id)).contains m.id = false := by
          cases hc : (ms.map (·.id)).contains m.id with
          | false => rfl
          | true => exact absurd (List.contains_iff_mem.mp hc) hdistinct.1
        rw [hnot, Bool.and_false])
    rw [List.count] at hhead
    omega

namespace Session

variable {s t : Session (Watched Simulator)} {r : Request}

/-- **In an orderly session, code that belongs to modules has all that it needs.** -/
theorem Attributed.backed (ha : s.Attributed) (hs : s.Orderly) :
    Backed s.world.accelerator.inner s.world.accelerator.ties where
  code := by
    intro e b he hb
    obtain ⟨m, hm, hexe, hbacks⟩ := ha.code e b he hb
    have hwhole : m.codeObject? = m.deviceImage.map (·.codeObject) ∧
        m.allocation? = m.deviceImage.map (·.address) := by
      rcases ha.whole m hm with hnone | hwhole
      · rw [hexe] at hnone
        cases hnone
      · exact hwhole
    cases b with
    | codeObject c =>
      obtain ⟨d, hd, rfl, hread⟩ := hbacks
      rw [hd] at hwhole
      refine ⟨hs.solvent.contains_codeObject hm hwhole.1, fun x hx => ?_⟩
      rw [hread x hx]
      exact hs.solvent.contains_allocation hm hwhole.2
    | reader r => exact hs.solvent.contains_reader hbacks
  pins := by
    intro x
    -- needed by code ≤ bound by modules ≤ pinned for modules ≤ in the registry ≤ in the simulator
    have hcover := countP_bound_le s.world.accelerator.ties.bound
      s.world.loader.residency.addresses x hs.distinct fun m hm e he => ha.pins m hm e he x
    have hneed : s.world.accelerator.ties.pinsNeeded s.world.accelerator.inner x ≤
        s.world.accelerator.ties.bound.countP fun b =>
          b.2 == x && s.modules.any fun m => m.executable? == some b.1 := by
      refine List.countP_mono_left fun b _ hb => ?_
      rw [Bool.and_eq_true] at hb ⊢
      refine ⟨hb.1, ?_⟩
      have hinUse := hb.2
      unfold Ties.inUse at hinUse
      rw [Bool.and_eq_true, List.any_eq_true] at hinUse
      obtain ⟨hthere, ⟨e, back⟩, hmem, heq⟩ := hinUse
      have he : e = b.1 := eq_of_beq heq
      rw [he] at hmem
      obtain ⟨m, hm, hexe, -⟩ := ha.code b.1 back hthere hmem
      exact List.any_eq_true.mpr ⟨m, hm, beq_iff_eq.mpr hexe⟩
    have howned : (s.world.loader.residency.addresses.countP fun p =>
        p.2 == x && (s.modules.map (·.id)).contains p.1) ≤
        (s.world.loader.residency.pins.map (·.2.hostAddress)).count x := by
      unfold Residency.addresses
      rw [List.countP_map, List.count, List.countP_map]
      refine List.countP_mono_left fun e _ he => ?_
      exact (Bool.and_eq_true _ _ ▸ he : _ ∧ _).1
    have hheld := hs.solvent.pins x
    exact Nat.le_trans hneed (Nat.le_trans hcover (Nat.le_trans howned hheld))

/-! ## Stranding breaks it -/

/-- A roll back that leaves the executable gives back what its code was loaded from. -/
theorem not_backed_of_rolledBack {w₀ w : World (Watched Simulator)} (h : RolledBack w₀ w)
    (hs : w₀.accelerator.inner.Sound)
    (hdestroy : w₀.accelerator.inner.faulty .destroyExecutable = true)
    (hmore : w.accelerator.ties.loaded ≠ w₀.accelerator.ties.loaded) :
    ¬ Backed w.accelerator.inner w.accelerator.ties := by
  obtain ⟨held, frozen, news, hfresh, habout, -, hu⟩ := h
  intro hbacked
  have hloaded : news.loaded ≠ [] := by
    intro hnil
    refine hmore ?_
    rw [hu.ties]
    show _ ++ news.loaded = _
    rw [hnil, List.append_nil]
  obtain ⟨⟨e, b⟩, hb⟩ := List.exists_mem_of_ne_nil _ hloaded
  obtain ⟨hexe, hheld⟩ := habout.loaded _ hb
  -- the executable is still there, with the code in it
  have hthere : w.accelerator.inner.executables.contains e = true :=
    hu.acquired.contains_executable ((Holdings.left_executable_of_faulty hdestroy).trans hexe)
  have hmem : (e, b) ∈ w.accelerator.ties.loaded := by
    rw [hu.ties]
    exact List.mem_append_right _ hb
  have hback := hbacked.code e b hthere hmem
  -- but what it was loaded from was given back: what is there now was there before the load
  cases b with
  | codeObject c =>
    have hgone : w.accelerator.inner.codeObjects = w₀.accelerator.inner.codeObjects :=
      hu.acquired.codeObjects
    have hold : w.accelerator.inner.codeObjects.contains c = true := hback.1
    rw [hgone] at hold
    have hle := hs.codeObjects c hold
    have hlt := hfresh.codeObject c hheld
    exact absurd hlt (Nat.not_lt.mpr hle)
  | reader r =>
    have hgone : w.accelerator.inner.readers = w₀.accelerator.inner.readers :=
      hu.acquired.readers
    have hold : w.accelerator.inner.readers.contains r = true := hback
    rw [hgone] at hold
    have hle := hs.readers r hold
    have hlt := hfresh.reader r hheld
    exact absurd hlt (Nat.not_lt.mpr hle)

/-- Only a load that cannot be frozen ties code to an executable and keeps no module for it. -/
theorem Stepped.not_backed (h : Stepped s r t) (hs : s.world.accelerator.Sound)
    (hstrands : s.Strands t) : ¬ Backed t.world.accelerator.inner t.world.accelerator.ties := by
  obtain ⟨hfreeze, hdestroy, hmore⟩ := hstrands
  cases h with
  | quiet h => exact absurd (by rw [h.world.accelerator.ties]) hmore
  | loaded h =>
    have hunfaulty := h.ready.unfaulty
    rw [hfreeze] at hunfaulty
    cases hunfaulty
  | stopped hm h log => exact absurd (by dsimp only; rw [h.ties]) hmore
  | unloaded hm h hspent log => exact absurd (by dsimp only; rw [h.ties]) hmore
  | tornDown tornDown log h => exact absurd (by dsimp only; rw [h.ties]) hmore
  | rolledBack h => exact not_backed_of_rolledBack h hs.inner hdestroy hmore

/-! ## Whole runs -/

variable {settings : LoaderSettings} {hooks : LaunchHooks}

theorem fresh_attributed (hasRegion : Bool) (host : Host.System) :
    (fresh hasRegion host).watched.Attributed where
  whole _ hm := absurd hm List.not_mem_nil
  code _ _ _ hb := absurd hb List.not_mem_nil
  pins _ hm := absurd hm List.not_mem_nil

/-- As long as no load strands an executable, all code belongs to modules. -/
theorem run_attributed (hs : s.Orderly) (ha : s.Attributed) (rs : List Request)
    (hkept : ∀ pre r, pre ++ [r] <+: rs →
      ¬ Strands (s.run (Simulator.watchedRig settings hooks) pre)
        (s.run (Simulator.watchedRig settings hooks) (pre ++ [r]))) :
    (s.run (Simulator.watchedRig settings hooks) rs).Attributed := by
  induction rs generalizing s with
  | nil => exact ha
  | cons r rs ih =>
    have hstep := step_cases settings hooks hs.sound.inner hs.solvent r
    have hfirst : ¬ Strands s (s.step (Simulator.watchedRig settings hooks) r) :=
      hkept [] r (List.cons_prefix_cons.mpr ⟨rfl, List.nil_prefix⟩)
    have ha' := hstep.attributed hs ha hfirst
    refine ih (step_orderly settings hooks hs r) ha' fun pre r' hpre => ?_
    exact hkept (r :: pre) r' (List.cons_prefix_cons.mpr ⟨rfl, hpre⟩)

/-- What a run has tied to what: the notes of the same run when it is watched. -/
def tiesAfter (settings : LoaderSettings) (hooks : LaunchHooks) (s : Session Simulator)
    (requests : List Request) : Ties :=
  (s.watched.run (Simulator.watchedRig settings hooks) requests).world.accelerator.ties

/-- **When loaded code keeps what it needs.** In every state of a run all loaded code is backed,
exactly when no code is loaded while both freezing and destroying executables are made to fail. -/
theorem run_backed_iff (settings : LoaderSettings) (hooks : LaunchHooks) (hasRegion : Bool)
    (host : Host.System) (requests : List Request) :
    let start := fresh hasRegion host
    let rig := Simulator.rig settings hooks
    (∀ rs, rs <+: requests → Backed (start.run rig rs).world.accelerator
        (start.tiesAfter settings hooks rs)) ↔
      ∀ rs r, rs ++ [r] <+: requests →
        (start.run rig rs).world.accelerator.faulty .freeze = true →
        (start.run rig rs).world.accelerator.faulty .destroyExecutable = true →
        (start.tiesAfter settings hooks (rs ++ [r])).loaded =
          (start.tiesAfter settings hooks rs).loaded := by
  intro start rig
  have hplain : ∀ rs, start.run rig rs =
      (start.watched.run (Simulator.watchedRig settings hooks) rs).unwatched :=
    fun rs => (run_unwatched settings hooks start.watched rs).symm
  have hfresh : start.watched.Orderly := fresh_orderly hasRegion host
  constructor
  · -- were more code loaded by that step, the state after it would not be backed
    intro hbacked rs r hpre hfreeze hdestroy
    have hthen := hbacked (rs ++ [r]) hpre
    rw [hplain] at hfreeze hdestroy hthen
    have hs := run_orderly settings hooks hfresh rs
    have hstep := step_cases settings hooks hs.sound.inner hs.solvent r
    rw [← run_append] at hstep
    by_cases hsame : (start.tiesAfter settings hooks (rs ++ [r])).loaded =
        (start.tiesAfter settings hooks rs).loaded
    · exact hsame
    · exact absurd hthen (hstep.not_backed hs.sound ⟨hfreeze, hdestroy, hsame⟩)
  · intro hkept rs hrs
    have hs := run_orderly settings hooks hfresh rs
    have ha : (start.watched.run (Simulator.watchedRig settings hooks) rs).Attributed := by
      refine run_attributed hfresh (fresh_attributed hasRegion host) rs fun pre r hpre => ?_
      rintro ⟨hfreeze, hdestroy, hmore⟩
      have hnow := hkept pre r (hpre.trans hrs)
      rw [hplain] at hnow
      exact hmore (hnow hfreeze hdestroy)
    rw [hplain]
    exact ha.backed hs

/-- A load whose executable can neither be frozen nor destroyed: the roll back destroys the code
object and frees the device image under it. -/
theorem strandedLoad_unbacked :
    let start := fresh true { files := { nodes := [], workingFolder := [] } }
    let requests : List Request := [.inject .freeze, .inject .destroyExecutable,
      .load (some ⟨0, ⟨0xa600⟩, ⟨0x9000⟩⟩) (.memory ({ text := [0x90] } : Elf.Draft).encode)]
    ¬ Backed (start.run (Simulator.rig {} .default) requests).world.accelerator
      (start.tiesAfter {} .default requests) := by
  intro start requests hbacked
  have hthere :
      (start.run (Simulator.rig {} .default) requests).world.accelerator.executables.contains
        ⟨2⟩ = true := by decide +kernel
  have hloaded : ((⟨2⟩, .codeObject ⟨1⟩) : ExecutableHandle × Backing) ∈
      (start.tiesAfter {} .default requests).loaded := by decide +kernel
  have hgone :
      (start.run (Simulator.rig {} .default) requests).world.accelerator.codeObjects.contains
        ⟨1⟩ = false := by decide +kernel
  have hback := (hbacked.code _ _ hthere hloaded).1
  rw [hgone] at hback
  exact Bool.false_ne_true hback

end Session

end DeviceCode
